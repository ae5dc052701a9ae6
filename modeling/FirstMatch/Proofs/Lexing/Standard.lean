import FirstMatch.Proofs.Lexing.Reading
import FirstMatch.Proofs.Lexing.Trace
import Mathlib.Data.List.TakeWhile

/-! The standard configuration lexes its grammar.  With keywords added to it, a call succeeds
exactly if the input has a lawful split, and then gives the lexemes of the split as tokens. -/

namespace FirstMatch.Lexing

open Text

variable {σ : Type}

/-- The standard configuration with keywords. -/
abbrev standardWith (keywords : List (String × Kind)) : Config σ :=
  Config.standard.addKeywords keywords

section Dispatches

variable {keywords : List (String × Kind)} {text : List Char} {j : Nat} {ch : Char}
  {b : Builtin} {ctx : Context σ}

/-- The rule of the form that a character selects is tried where the character stands.  The first
two rules are not for punctuation; and a letter that is a number too comes to the second after the
first has declined it and its step is undone. -/
theorem tries_selected (h : ctx.On text j ch) (selected : selects ch = some b) :
    ∃ name accepts started,
      Tries (Config.standard (σ := σ)).rules ch ctx (b.rule name accepts) ch started ∧
        started.On text j ch ∧ started.symbols = ctx.symbols := by
  have earlier (punctuation : isAsciiPunctuation ch = true) {rule : Rule σ}
      (later : Tries ((Config.standard (σ := σ)).rules.drop 2) ch ctx rule ch ctx) :
      Tries (Config.standard (σ := σ)).rules ch ctx rule ch ctx := by
    obtain ⟨notLetter, notNumeric, _⟩ := isAsciiPunctuation_apart punctuation
    exact .passed notLetter (.passed notNumeric later)
  cases selection_of_selects selected with
  | number numeric =>
    cases letter : isLetter ch with
    | false => exact ⟨_, _, ctx, .passed letter (.here numeric), h, rfl⟩
    | true =>
      obtain ⟨goesOn, back, rewound, there, kept⟩ := h.undo_next
      have declines : Builtin.identifierToken ch ctx =
          ctx.next.2.decline "first character of an identifier can't be a number" := by
        rw [Builtin.identifierToken, if_pos numeric]
      exact ⟨_, _, back, .declined letter declines goesOn rewound (.here numeric), there, kept⟩
  | word _ letter => exact ⟨_, _, ctx, .here letter, h, rfl⟩
  | char quote =>
    subst quote
    exact ⟨_, _, ctx, earlier rfl (.here rfl), h, rfl⟩
  | string quote =>
    subst quote
    exact ⟨_, _, ctx, earlier rfl (.passed rfl (.here rfl)), h, rfl⟩
  | rawString quote =>
    subst quote
    exact ⟨_, _, ctx, earlier rfl (.passed rfl (.passed rfl (.here rfl))), h, rfl⟩
  | operator punctuation notSingle notDouble notBack =>
    have accepts : isOperator ch = true := (isOperator_eq ch).trans punctuation
    exact ⟨_, _, ctx, earlier punctuation (.passed (beq_false_of_ne notSingle)
      (.passed (beq_false_of_ne notDouble) (.passed (beq_false_of_ne notBack) (.here accepts)))),
      h, rfl⟩

theorem refuses_unselected (none : selects ch = none) :
    ∀ rule ∈ (Config.standard (σ := σ)).rules, rule.accepts ch = false := by
  unfold selects at none
  split_ifs at none with numeric letter single double back punctuation
  intro rule member
  simp only [Config.standard, List.mem_cons, List.not_mem_nil, or_false] at member
  rcases member with rfl | rfl | rfl | rfl | rfl | rfl
  · exact eq_false_of_ne_true letter
  · exact eq_false_of_ne_true numeric
  · exact beq_false_of_ne single
  · exact beq_false_of_ne double
  · exact beq_false_of_ne back
  · exact (isOperator_eq ch).trans (eq_false_of_ne_true punctuation)

/-- A dispatch makes the lexeme `l` at index `j` into a token. -/
structure Takes (keywords : List (String × Kind)) (text : List Char) (j : Nat) (offer : Offer σ)
    (l : List Char) (kind : Kind) : Prop where
  lexeme : ∃ b, selects offer.ch = some b ∧ Lexeme keywords (text.drop j) l b kind
  nonempty : l ≠ []
  result : ((standardWith keywords).dispatch offer).result =
    .ok (.covering text j (j + l.length) kind)
  left : ((standardWith keywords).dispatch offer).context.cursor.At text (j + l.length)
  kept : ((standardWith keywords).dispatch offer).context.symbols = standardSymbols keywords

theorem Takes.head_eq {offer : Offer σ} {l : List Char} {kind : Kind}
    (takes : Takes keywords text j offer l kind) (h : offer.context.On text j offer.ch) :
    l.head? = some offer.ch := by
  obtain ⟨b, _, lexeme⟩ := takes.lexeme
  obtain ⟨c, tail, rfl⟩ := List.exists_cons_of_ne_nil takes.nonempty
  have starts := lexeme.starts
  rw [h.drop_eq, List.cons_prefix_cons] at starts
  rw [starts.1]
  rfl

variable {offer : Offer σ} (legal : ∀ e ∈ keywords, e.2 ≠ .illegal)
  (h : offer.context.On text j offer.ch) (known : offer.context.symbols = standardSymbols keywords)
include legal h known

/-- If the character selects a form, the dispatch takes a lexeme of this form, or there is none and
the dispatch fails. -/
theorem takes_or_fails (selected : selects offer.ch = some b) :
    (∃ l kind, Takes keywords text j offer l kind) ∨
      (∀ l kind, ¬Lexeme keywords (text.drop j) l b kind) ∧
        ∃ error, ((standardWith keywords).dispatch offer).result = .error error := by
  obtain ⟨name, accepts, started, tries, there, same⟩ := tries_selected h selected
  obtain ⟨accepted, rest, result, context⟩ :=
    tries.dispatch_eq (standardWith (σ := σ) keywords).watch
  have reads := run_reads there (same.trans known) selected
  generalize ran : b.run offer.ch started = outcome at reads
  cases reads with
  | @token l kind out lexeme nonempty left kept =>
    have goesOn := Context.look_at left
    have positive := List.length_pos_iff.mpr nonempty
    rw [dispatch_made accepted ran (by rw [goesOn])] at result context
    have after : ((standardWith keywords).dispatch offer).context = out :=
      context.trans (congrArg Prod.snd goesOn)
    refine .inl ⟨l, kind, ⟨b, selected, lexeme⟩, nonempty, ?_, ?_, ?_⟩
    · exact result.trans (checkToken_covering (by omega) left.bound (lexeme.legal legal))
    · rw [after]
      exact left
    · rw [after]
      exact kept
  | failure none left =>
    have goesOn := Context.look_at left
    rw [Context.fail] at ran
    rw [dispatch_failed accepted ran (by rw [goesOn])] at result
    exact .inr ⟨none, _, result⟩

theorem takes_of_ok {token : Token}
    (ok : ((standardWith keywords).dispatch offer).result = .ok token) :
    ∃ l kind, Takes keywords text j offer l kind := by
  cases selected : selects offer.ch with
  | none =>
    obtain ⟨_, _, _, _, tries, _⟩ := dispatch_ok ok
    obtain ⟨rule, member, accepts⟩ := tries.exists_accepts
    rw [refuses_unselected selected rule member] at accepts
    cases accepts
  | some b =>
    rcases takes_or_fails legal h known selected with takes | ⟨_, error, failed⟩
    · exact takes
    · rw [failed] at ok
      cases ok

theorem takes_of_lexeme {l : List Char} {kind : Kind} (selected : selects offer.ch = some b)
    (lexeme : Lexeme keywords (text.drop j) l b kind) : Takes keywords text j offer l kind := by
  rcases takes_or_fails legal h known selected with ⟨l', kind', takes⟩ | ⟨none, _⟩
  · obtain ⟨b', selected', lexeme'⟩ := takes.lexeme
    obtain rfl := Option.some.inj (selected.symm.trans selected')
    obtain ⟨rfl, rfl⟩ := lexeme.unique lexeme'
    exact takes
  · exact absurd lexeme (none l kind)

end Dispatches

section Calls

variable {keywords : List (String × Kind)} {text : List Char}

theorem gapEnd_standard (j : Nat) : (standardWith (σ := σ) keywords).gapEnd text j =
    j + ((text.drop j).takeWhile isWhitespace).length := rfl

/-- Skipping whitespace skips a maximal gap. -/
theorem maximalGap_takeWhile {before : List Char}
    (visible : before.getLast?.any isWhitespace = false) (rest : List Char) :
    MaximalGap before (rest.takeWhile isWhitespace)
      (rest.drop (rest.takeWhile isWhitespace).length) := by
  refine ⟨fun c member => List.mem_takeWhile_imp member, visible, ?_⟩
  rw [List.head?_drop]
  cases on : rest[(rest.takeWhile isWhitespace).length]? with
  | none => rfl
  | some ch => exact Cursor.takeWhile_stop on

theorem tokens_part {j : Nat} {gap lexeme : List Char} {kind : Kind} {rest : Split}
    (starts : lexeme <+: text.drop (j + gap.length)) :
    (Split.part gap lexeme kind rest).tokens text j =
      .covering text (j + gap.length) (j + gap.length + lexeme.length) kind ::
        rest.tokens text (j + gap.length + lexeme.length) := by
  rw [Split.tokens, Token.covering, slice_eq_of_prefix starts]

/-- Inside a gap it makes no difference where skipping begins. -/
theorem gapEnd_blank {gap : List Char} {j : Nat} (blank : ∀ c ∈ gap, isWhitespace c = true)
    (starts : gap <+: text.drop j) :
    (standardWith (σ := σ) keywords).gapEnd text j =
      (standardWith (σ := σ) keywords).gapEnd text (j + gap.length) := by
  obtain ⟨more, whole⟩ := starts
  rw [gapEnd_standard, gapEnd_standard, ← List.drop_drop, ← whole, List.drop_left,
    List.takeWhile_append_of_pos blank, List.length_append, Nat.add_assoc]

variable (legal : ∀ e ∈ keywords, e.2 ≠ .illegal)
include legal

/-- A call that succeeds has split the input.  From every place that it comes to behind a lexeme
`before`, the tokens still to come split what is left of the text. -/
theorem exists_split {memory : σ} {input : String} {tokens : List Token}
    (ok : ((standardWith keywords).lex memory input).result = .ok tokens) :
    ∃ split, Split.Of keywords input.toList split ∧ split.tokens input.toList 0 = tokens := by
  let text := input.toList
  let SplitsFrom : Context σ → List Token → Prop := fun ctx tokens =>
    ∀ j before, ctx.cursor.At text j → ctx.symbols = standardSymbols keywords →
      before.getLast?.any isWhitespace = false →
      ∃ split : Split, split.Lawful keywords before ∧ split.text = text.drop j ∧
        split.tokens text j = tokens
  suffices all : SplitsFrom ((standardWith keywords).context memory input {}) tokens by
    obtain ⟨split, lawful, whole, same⟩ := all 0 [] (.ofText input) rfl rfl
    exact ⟨split, ⟨lawful, whole⟩, same⟩
  refine Config.lexProbed_ok ?_ ?_ ok
  · intro ctx there turn j before h known visible
    have ended := Config.turn_at_finish h turn
    have maximal := maximalGap_takeWhile visible (text.drop j)
    have whole := append_drop_of_prefix (List.takeWhile_prefix (l := text.drop j) isWhitespace)
    rw [gapEnd_standard] at ended
    rw [List.drop_drop, ended, List.drop_length] at maximal
    rw [ended, List.drop_length, List.append_nil] at whole
    exact ⟨.done _, .done maximal, whole, rfl⟩
  · intro ctx offer token tokens turn made later j before h known visible
    obtain ⟨there, on⟩ := Config.turn_at_offer h turn
    have known' : offer.context.symbols = standardSymbols keywords := by
      rw [there, symbols_skipGap]
      exact known
    obtain ⟨l, kind, takes⟩ := takes_of_ok legal on known' made
    obtain ⟨b, selected, lexeme⟩ := takes.lexeme
    obtain ⟨rest, lawful, restText, restTokens⟩ :=
      later _ l takes.left takes.kept lexeme.visible
    have behind : l ++ rest.text =
        text.drop (j + ((text.drop j).takeWhile isWhitespace).length) := by
      rw [restText]
      exact append_drop_of_prefix lexeme.starts
    have maximal := maximalGap_takeWhile visible (text.drop j)
    rw [List.drop_drop, ← behind] at maximal
    refine ⟨.part _ l kind rest, .part maximal (takes.head_eq on) selected ?_ lawful, ?_, ?_⟩
    · rw [behind]
      exact lexeme
    · rw [Split.text, behind]
      exact append_drop_of_prefix (List.takeWhile_prefix _)
    · rw [tokens_part lexeme.starts, Except.ok.inj (made.symm.trans takes.result)]
      exact congrArg _ restTokens

/-- A call takes the lexemes of a split, if whitespace or nothing follows them.  It then has still
to skip what the split ends with. -/
theorem leadsTo_of_split {before more : List Char} {split : Split}
    (lawful : split.Lawful keywords before) {call : Call σ} {j : Nat}
    (h : call.context.cursor.At text j)
    (known : call.context.symbols = standardSymbols keywords)
    (blank : ∀ c ∈ more.head?, isWhitespace c = true) (whole : split.text ++ more = text.drop j) :
    ∃ later k, (standardWith keywords).LeadsTo split.size call later ∧
      later.context.cursor.At text k ∧
      later.context.symbols = standardSymbols keywords ∧
      (standardWith (σ := σ) keywords).gapEnd text k =
        (standardWith (σ := σ) keywords).gapEnd text (j + split.text.length) ∧
      later.tokens.toList = call.tokens.toList ++ split.tokens text j := by
  induction lawful generalizing call j with
  | done maximal =>
    refine ⟨call, j, .refl call, h, known, ?_, (List.append_nil _).symm⟩
    exact gapEnd_blank maximal.blank ⟨more, whole⟩
  | @part before gap lexeme kind rest c b maximal first selected reads later ih =>
    rw [Split.text, List.append_assoc] at whole
    have behind : lexeme ++ rest.text ++ more = text.drop (j + gap.length) := by
      rw [← List.drop_drop, ← whole, List.drop_left]
    have further : rest.text ++ more = text.drop (j + gap.length + lexeme.length) := by
      rw [← List.drop_drop, ← behind, List.append_assoc, List.drop_left]
    have onto : (lexeme ++ rest.text ++ more).head? = some c := by
      rw [List.append_assoc, List.head?_append, first]
      rfl
    have skipped : (text.drop j).takeWhile isWhitespace = gap := by
      have visible : (lexeme ++ rest.text ++ more).head?.any isWhitespace = false := by
        rw [onto]
        exact not_isWhitespace_of_selects selected
      rw [← whole]
      exact MaximalGap.takeWhile_eq ⟨maximal.blank, maximal.left, visible⟩
    have char : text[j + gap.length]? = some c := by
      rw [← List.head?_drop, ← behind]
      exact onto
    have reads := reads.append blank
    rw [behind] at reads
    have turn := (standardWith keywords).turn_at h
    have on : ((standardWith keywords).skipGap call.context).cursor.At text _ :=
      Config.skipGap_at h
    rw [gapEnd_standard, skipped] at on
    rw [gapEnd_standard, skipped, char] at turn
    let offer : Offer σ := ⟨c, (standardWith keywords).skipGap call.context⟩
    have takes : Takes keywords text (j + gap.length) offer lexeme kind :=
      takes_of_lexeme legal ⟨on, char⟩ ((symbols_skipGap _ _).trans known) selected reads
    let call' : Call σ := ⟨((standardWith keywords).dispatch offer).context,
      call.tokens.push (.covering text (j + gap.length) (j + gap.length + lexeme.length) kind),
      call.log ++ ((standardWith keywords).dispatch offer).log⟩
    have left : call'.context.cursor.At text (j + gap.length + lexeme.length) := takes.left
    obtain ⟨last, k, leads, there, kept, ends, tokens⟩ := ih left takes.kept further
    refine ⟨last, k, .next turn takes.result leads, there, kept, ?_, ?_⟩
    · rw [ends, Split.text, List.length_append, List.length_append, Nat.add_assoc, Nat.add_assoc]
    · rw [tokens, tokens_part reads.starts, Array.toList_push, List.append_assoc]
      rfl

/-- A split of the text from index `j` on is followed by a call from there. -/
theorem exists_run_of_split {before : List Char} {split : Split}
    (lawful : split.Lawful keywords before) {call : Call σ} {j : Nat}
    (h : call.context.cursor.At text j)
    (known : call.context.symbols = standardSymbols keywords) (whole : split.text = text.drop j) :
    ∃ offers report, (standardWith keywords).Run offers call report ∧
      offers.length = split.size ∧
      report.result = .ok (call.tokens.toList ++ split.tokens text j) := by
  have nothing : ∀ c ∈ ([] : List Char).head?, isWhitespace c = true := fun _ none => nomatch none
  obtain ⟨later, k, leads, there, -, ends, tokens⟩ :=
    leadsTo_of_split legal lawful h known nothing ((List.append_nil _).trans whole)
  have last : j + split.text.length = text.length := by
    have := h.bound
    rw [whole, List.length_drop]
    omega
  have ended : text[(standardWith (σ := σ) keywords).gapEnd text k]? = none := by
    rw [ends, last, List.getElem?_eq_none_iff]
    exact Config.le_gapEnd _ _ _
  have turn := (standardWith keywords).turn_at there
  rw [ended] at turn
  obtain ⟨offers, run, length⟩ := leads _ _ (.finish turn)
  exact ⟨offers, _, run, length, congrArg Except.ok tokens⟩

/-- A call on an input that has a split gives the lexemes of it. -/
theorem lex_of_split {memory : σ} {input : String} {split : Split}
    (of : Split.Of keywords input.toList split) :
    ((standardWith keywords).lex memory input).result = .ok (split.tokens input.toList 0) := by
  let call : Call σ := { context := (standardWith keywords).context memory input {} }
  have start : call.context.cursor.At input.toList 0 := .ofText input
  obtain ⟨offers, report, run, size, result⟩ :=
    exists_run_of_split legal of.lawful start rfl of.text
  have few : offers.length ≤ input.length := by
    rw [size, ← String.length_toList, ← of.text]
    exact of.lawful.size_le
  have lexed : (standardWith keywords).lex memory input = report := run.proceed_eq (by omega)
  rw [lexed]
  exact result

end Calls

/-- With keywords added, the standard configuration lexes exactly the inputs that have a lawful
split, into the lexemes of it; and no input has two such splits. -/
theorem lex_standard_iff_split (keywords : List (String × Kind))
    (legal : ∀ e ∈ keywords, e.2 ≠ .illegal) (memory : σ) (input : String) :
    (∀ tokens, ((Config.standard.addKeywords keywords).lex memory input).result = .ok tokens ↔
      ∃ split, Split.Of keywords input.toList split ∧ split.tokens input.toList 0 = tokens) ∧
    ∀ a b, Split.Of keywords input.toList a → Split.Of keywords input.toList b → a = b := by
  constructor
  · intro tokens
    constructor
    · intro ok
      exact exists_split legal ok
    · rintro ⟨split, of, rfl⟩
      exact lex_of_split legal of
  · intro a b ofA ofB
    exact ofA.lawful.unique ofB.lawful (ofA.text.trans ofB.text.symm)

/-- A keyword that is entered twice. -/
def conditional : List (String × Kind) := [("if", ⟨3000⟩), ("if", ⟨3001⟩)]

/-- The second entry counts, and `Ⅷ` begins a number although it is a letter as well. -/
theorem lex_standard_iff_split_conditional :
    (∀ e ∈ conditional, e.2 ≠ .illegal) ∧
    ∃ split, Split.Of conditional "if Ⅷ.5<<=".toList split ∧
      split.tokens "if Ⅷ.5<<=".toList 0 =
        [⟨⟨3001⟩, ⟨1, 1, 0⟩, ⟨1, 3, 2⟩, "if"⟩, ⟨.float, ⟨1, 4, 3⟩, ⟨1, 7, 8⟩, "Ⅷ.5"⟩,
          ⟨⟨28⟩, ⟨1, 7, 8⟩, ⟨1, 10, 11⟩, "<<="⟩] := by
  have legal : ∀ e ∈ conditional, e.2 ≠ .illegal := by decide
  refine ⟨legal, ((lex_standard_iff_split conditional legal () "if Ⅷ.5<<=").1 _).mp ?_⟩
  decide +kernel

end FirstMatch.Lexing
