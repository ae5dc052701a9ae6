import FirstMatch.Proofs.Lexing.Displaced
import FirstMatch.Proofs.Lexing.Progress
import FirstMatch.Proofs.Lexing.Standard

/-! Lexing across whitespace.  A text that can be lexed is lexed the same before whitespace, and
what stands behind the whitespace is lexed as if nothing stood before it.  So the tokens of both are
put together, and what fails behind the whitespace fails in the same way, only further on. -/

namespace FirstMatch

open Text

/-! ### Positions before more text -/

section Positions

variable {text more : List Char} {j : Nat}

theorem breaksAt_append (more : List Char) (inside : j < text.length) :
    BreaksAt (text ++ more) j ↔ BreaksAt text j := by
  unfold BreaksAt
  rw [List.getElem?_append_left inside, List.getElem?_append_left (by omega)]

theorem not_breaksAt_append (goesOn : more.head?.any isNewline = false) :
    ¬BreaksAt (text ++ more) text.length := by
  rintro ⟨breaks, -⟩
  rw [List.getElem?_append_right le_rfl, Nat.sub_self, ← List.head?_eq_getElem?, goesOn] at breaks
  cases breaks

/-- More text changes no position before its end, nor that of the end unless a line begins there. -/
theorem Position.derived_append (bound : j ≤ text.length)
    (goesOn : j < text.length ∨ more.head?.any isNewline = false) :
    derived (text ++ more) j = derived text j := by
  have starts : lineStarts (text ++ more) j = lineStarts text j := by
    refine Finset.filter_congr ?_
    intro i member
    have upto := (Finset.mem_Icc.mp member).2
    rcases Nat.lt_or_eq_of_le (upto.trans bound) with inside | rfl
    · exact breaksAt_append more inside
    · have apart := goesOn.resolve_left (by omega)
      have none : ¬BreaksAt text text.length := by simp [BreaksAt]
      exact iff_of_false (not_breaksAt_append apart) none
  unfold derived
  rw [starts, List.take_append_of_le_length bound]

end Positions

/-- The same token, read before more text.  If it ends with the text at offset `bound`, its end may
have come to lie at the beginning of a line. -/
structure Token.Kept (bound : Nat) (token kept : Token) : Prop where
  kind : kept.kind = token.kind
  literal : kept.literal = token.literal
  start : kept.start = token.start
  stop : kept.stop.offset = token.stop.offset
  inside : token.stop.offset < bound → kept.stop = token.stop

theorem Token.kept_append {text : List Char} {i k : Nat} (more : List Char) (kind : Kind)
    (literal : String) (ordered : i < k) (fits : k ≤ text.length) :
    Kept (byteLength text) ⟨kind, .derived text i, .derived text k, literal⟩
      ⟨kind, .derived (text ++ more) i, .derived (text ++ more) k, literal⟩ where
  kind := rfl
  literal := rfl
  start := Position.derived_append (by omega) (.inl (by omega))
  stop := by
    rw [Position.offset_derived, Position.offset_derived, List.take_append_of_le_length fits]
  inside := by
    intro inside
    refine Position.derived_append fits (.inl ?_)
    by_contra outside
    rw [Position.offset_derived, List.take_of_length_le (by omega)] at inside
    exact Nat.lt_irrefl _ inside

namespace Lexing

variable {σ : Type} {keywords : List (String × Kind)}

namespace Split

variable {before text more : List Char} {split : Split} {j : Nat}

theorem Lawful.tokens_kept (h : split.Lawful keywords before) (more : List Char)
    (fits : j + split.text.length ≤ text.length) :
    List.Forall₂ (Token.Kept (byteLength text)) (split.tokens text j)
      (split.tokens (text ++ more) j) := by
  induction h generalizing j with
  | done => exact .nil
  | @part _ gap lexeme kind rest _ _ _ first _ _ _ ih =>
    have nonempty : 0 < lexeme.length := List.length_pos_iff.mpr (by rintro rfl; cases first)
    rw [Split.text, List.length_append, List.length_append] at fits
    exact .cons (Token.kept_append more kind _ (by omega) (by omega)) (ih (by omega))

theorem tokens_append (split : Split) (goesOn : more.head?.any isNewline = false)
    (fits : j + split.text.length ≤ text.length) :
    split.tokens (text ++ more) j = split.tokens text j := by
  induction split generalizing j with
  | done => rfl
  | part gap lexeme kind rest ih =>
    rw [Split.text, List.length_append, List.length_append] at fits
    rw [tokens, tokens, Position.derived_append (by omega) (.inr goesOn),
      Position.derived_append (by omega) (.inr goesOn), ih (by omega)]

end Split

/-! ### Calls -/

theorem Rule.IsBuiltin.goesForward {rule : Rule σ} (builtin : rule.IsBuiltin) :
    rule.GoesForward := by
  obtain ⟨b, name, accepts, rfl⟩ := builtin
  intro ch ctx _ _
  have direct : Direct ctx (b.run ch ctx) := b.run_direct ch ctx
  change Forward ctx (b.run ch ctx)
  generalize b.run ch ctx = outcome at direct
  cases direct with
  | fail n message => exact .fail n rfl
  | decline message => exact .decline 0 rfl
  | accept n kind => exact .token 0 n 0 rfl rfl rfl

section Behind

variable (legal : ∀ e ∈ keywords, e.2 ≠ .illegal) (memory : σ) {a w : String} {split : Split}
  (of : Split.Of keywords a.toList split) (blank : ∀ c ∈ w.toList, isWhitespace c = true)
  (nonempty : w ≠ "") (b : String)
include legal of blank nonempty

/-- Having taken the lexemes of `a`, a call is where a call on `b` begins, up to whitespace. -/
theorem leadsTo_poised :
    ∃ later k, (standardWith keywords).LeadsTo split.size
        { context := (standardWith keywords).context memory (a ++ w ++ b) {} } later ∧
      (standardWith keywords).Poised (a ++ w).toList b.toList 0 k
        ((standardWith keywords).context memory b {}) later.context ∧
      later.tokens.toList = split.tokens (a ++ w ++ b).toList 0 := by
  let text := (a ++ w ++ b).toList
  have pieces : split.text ++ (w.toList ++ b.toList) = text.drop 0 := by
    rw [of.text, ← List.append_assoc, ← String.toList_append, ← String.toList_append]
    rfl
  have whole : (a ++ w).toList ++ b.toList = text := String.toList_append.symm
  have spaced : ∀ c ∈ (w.toList ++ b.toList).head?, isWhitespace c = true := by
    rw [List.head?_append_of_ne_nil _ (mt String.toList_eq_nil_iff.mp nonempty)]
    exact fun c first => blank c (List.mem_of_head? first)
  let call : Call σ := { context := (standardWith keywords).context memory (a ++ w ++ b) {} }
  have start : call.context.cursor.At text 0 := .ofText (a ++ w ++ b)
  obtain ⟨later, k, leads, there, kept, ends, tokens⟩ :=
    leadsTo_of_split legal of.lawful start rfl spaced pieces
  have starts : w.toList <+: text.drop (0 + split.text.length) := by
    rw [← List.drop_drop, ← pieces, List.drop_left]
    exact List.prefix_append _ _
  have length : 0 + split.text.length + w.toList.length = (a ++ w).toList.length + 0 := by
    rw [of.text, String.toList_append, List.length_append]
    omega
  rw [gapEnd_blank blank starts, length, ← whole, gapEnd_append] at ends
  rw [← whole] at there
  exact ⟨later, k, leads, ⟨.ofText b, there, kept, ends⟩, tokens⟩

/-- Lexing `b` behind the lexemes of `a` and some whitespace, against lexing it alone. -/
theorem lex_behind_split :
    Behind (a ++ w).utf8ByteSize (split.tokens (a ++ w ++ b).toList 0)
      ((standardWith keywords).lex memory b).result
      ((standardWith keywords).lex memory (a ++ w ++ b)).result := by
  let cfg : Config σ := standardWith keywords
  have builtin : ∀ rule ∈ cfg.rules, rule.IsBuiltin := standard_isBuiltin
  let call : Call σ := { context := cfg.context memory b {} }
  have start : call.context.cursor.At b.toList 0 := .ofText b
  obtain ⟨offers, report, run, few, -⟩ :=
    exists_run (fun rule member => (builtin rule member).goesForward) start
  obtain ⟨later, k, leads, poised, tokens⟩ := leadsTo_poised legal memory of blank nonempty b
  obtain ⟨moved, reportToo, runLater, length, behind⟩ :=
    exists_run_displaced builtin run poised (tokens.trans (List.append_nil _).symm) .nil
  obtain ⟨all, runAll, total⟩ := leads _ _ runLater
  have size := of.lawful.size_le
  rw [of.text, String.length_toList] at size
  rw [String.length_toList] at few
  have enough : all.length ≤ (a ++ w ++ b).length := by
    rw [String.length_append, String.length_append]
    omega
  have lexed : cfg.lex memory b = report := run.proceed_eq (by omega)
  have lexedToo : cfg.lex memory (a ++ w ++ b) = reportToo := runAll.proceed_eq (by omega)
  rw [lexed, lexedToo, ← byteLength_toList]
  exact behind

end Behind

/-- Whitespace keeps texts apart.  Lexing `b` behind `a` and some whitespace gives the tokens of `a`
and after them those of `b`, shifted by the bytes before them, or the failure of `b`, shifted as
much.  The tokens of `a` are the same but for an end that comes to lie on a line break. -/
theorem lex_separated (keywords : List (String × Kind)) (legal : ∀ e ∈ keywords, e.2 ≠ .illegal)
    (memory : σ) {a w : String} {tokens : List Token}
    (ok : ((Config.standard.addKeywords keywords).lex memory a).result = .ok tokens)
    (blank : ∀ c ∈ w.toList, isWhitespace c = true) (nonempty : w ≠ "") (b : String) :
    ∃ front, List.Forall₂ (Token.Kept a.utf8ByteSize) tokens front ∧
      (w.toList.head?.any isNewline = false → front = tokens) ∧
      Behind (a ++ w).utf8ByteSize front
        ((Config.standard.addKeywords keywords).lex memory b).result
        ((Config.standard.addKeywords keywords).lex memory (a ++ w ++ b)).result := by
  obtain ⟨split, of, rfl⟩ := exists_split legal ok
  have whole : (a ++ w ++ b).toList = a.toList ++ (w ++ b).toList := by
    rw [String.append_assoc, String.toList_append]
  have fits : 0 + split.text.length ≤ a.toList.length := by
    rw [of.text]
    omega
  refine ⟨split.tokens (a ++ w ++ b).toList 0, ?_, ?_,
    lex_behind_split legal memory of blank nonempty b⟩
  · rw [whole, ← byteLength_toList]
    exact of.lawful.tokens_kept _ fits
  · intro goesOn
    rw [whole]
    refine split.tokens_append ?_ fits
    rw [String.toList_append,
      List.head?_append_of_ne_nil _ (mt String.toList_eq_nil_iff.mp nonempty)]
    exact goesOn

/-- The tokens of `if 1.`: a keyword, and a fraction that ends in its point. -/
def pointed : List Token :=
  [⟨⟨3001⟩, ⟨1, 1, 0⟩, ⟨1, 3, 2⟩, "if"⟩, ⟨.float, ⟨1, 4, 3⟩, ⟨1, 6, 5⟩, "1."⟩]

/-- On the next line, a point with a number behind it, or a string that nothing closes. -/
theorem lex_separated_pointed :
    (∀ e ∈ conditional, e.2 ≠ .illegal) ∧
    ((Config.standard.addKeywords conditional).lex () "if 1.").result = .ok pointed ∧
    (∀ c ∈ "\n ".toList, isWhitespace c = true) ∧
    (∃ front, List.Forall₂ (Token.Kept 5) pointed front ∧
      Behind 7 front
        (.ok [⟨⟨50⟩, ⟨1, 1, 0⟩, ⟨1, 2, 1⟩, "."⟩, ⟨.number, ⟨1, 2, 1⟩, ⟨1, 3, 2⟩, "5"⟩])
        ((Config.standard.addKeywords conditional).lex () "if 1.\n .5").result) ∧
    ∃ front, List.Forall₂ (Token.Kept 5) pointed front ∧
      Behind 7 front (.error (.refused "LexString" (.fail "unterminated string literal" ⟨1, 3, 2⟩)))
        ((Config.standard.addKeywords conditional).lex () "if 1.\n \"x").result := by
  have legal : ∀ e ∈ conditional, e.2 ≠ .illegal := by decide
  have ok : ((Config.standard.addKeywords conditional).lex () "if 1.").result = .ok pointed := by
    decide +kernel
  have blank : ∀ c ∈ "\n ".toList, isWhitespace c = true :=
    List.all_eq_true.mp (by decide +kernel)
  have point : "if 1.\n .5" = "if 1." ++ "\n " ++ ".5" := by decide
  have quote : "if 1.\n \"x" = "if 1." ++ "\n " ++ "\"x" := by decide
  have alone : ((Config.standard.addKeywords conditional).lex () ".5").result =
      .ok [⟨⟨50⟩, ⟨1, 1, 0⟩, ⟨1, 2, 1⟩, "."⟩, ⟨.number, ⟨1, 2, 1⟩, ⟨1, 3, 2⟩, "5"⟩] := by
    decide +kernel
  have unclosed : ((Config.standard.addKeywords conditional).lex () "\"x").result =
      .error (.refused "LexString" (.fail "unterminated string literal" ⟨1, 3, 2⟩)) := by
    decide +kernel
  refine ⟨legal, ok, blank, ?_, ?_⟩
  · obtain ⟨front, kept, -, behind⟩ := lex_separated conditional legal () ok blank (by decide) ".5"
    rw [alone, ← point] at behind
    exact ⟨front, kept, behind⟩
  · obtain ⟨front, kept, -, behind⟩ :=
      lex_separated conditional legal () ok blank (by decide) "\"x"
    rw [unclosed, ← quote] at behind
    exact ⟨front, kept, behind⟩

end Lexing

end FirstMatch
