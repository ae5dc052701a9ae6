import FirstMatch.Proofs.Lexing.Builtin
import Mathlib.Data.List.TakeWhile

/-! Lossless lexing.  With built-in rules, whatever characters they are for and in whatever order
they stand, the tokens of a call and the gaps between them put together are the input: nothing is
lost, doubled or moved. -/

namespace FirstMatch.Lexing

open Text

variable {σ : Type}

/-- A rule that makes its tokens in a built-in way, for any characters at all. -/
def Rule.IsBuiltin (rule : Rule σ) : Prop :=
  ∃ (b : Builtin) (name : String) (accepts : Char → Bool), rule = b.rule name accepts

theorem standard_isBuiltin : ∀ rule ∈ (Config.standard : Config σ).rules, rule.IsBuiltin := by
  intro rule member
  simp only [Config.standard, List.mem_cons, List.not_mem_nil, or_false] at member
  rcases member with rfl | rfl | rfl | rfl | rfl | rfl <;> exact ⟨_, _, _, rfl⟩

section Dispatches

variable {cfg : Config σ} (builtin : ∀ rule ∈ cfg.rules, rule.IsBuiltin) {text : List Char}
  {j : Nat} {offer : Offer σ}
include builtin

theorem run_direct {rule : Rule σ} (member : rule ∈ cfg.rules) (ch : Char) (ctx : Context σ) :
    Direct ctx (rule.run ch ctx) := by
  obtain ⟨b, name, accepts, rfl⟩ := builtin rule member
  exact b.run_direct ch ctx

/-- Every rule that a dispatch tries is started where the dispatch began, on the same character: the
one step that a rule makes before it declines is the one that is undone. -/
theorem tries_same (h : offer.context.On text j offer.ch) {rule : Rule σ} {on : Char}
    {started : Context σ} (tries : Tries cfg.rules offer.ch offer.context rule on started) :
    started.On text j on := by
  refine tries.invariant (P := fun ch ctx => ctx.On text j ch) ?_ h
  intro rule member ch ctx message position out found back on ran _ rewound
  have direct := run_direct builtin member ch ctx
  rw [ran] at direct
  cases direct with
  | decline =>
    obtain ⟨_, same, undone, there, _⟩ := on.undo_next
    obtain ⟨char, rfl⟩ := Prod.mk.inj (rewound.symm.trans undone)
    obtain rfl := Option.some.inj char
    exact there

/-- A dispatch gives the token that begins where it began, and leaves the cursor at its end. -/
theorem dispatch_builtin (h : offer.context.On text j offer.ch) {token : Token}
    (ok : (cfg.dispatch offer).result = .ok token) :
    ∃ k kind, j < k ∧ token = .covering text j k kind ∧
      (cfg.dispatch offer).context.cursor.At text k := by
  obtain ⟨rule, on, started, out, tries, ran, ended, checked⟩ := dispatch_ok ok
  have there := tries_same builtin h tries
  have direct := run_direct builtin tries.mem on started
  rw [ran] at direct
  cases direct with
  | accept n kind =>
    have left : (started.move (·.skip n)).cursor.At text (min (j + n) text.length) :=
      there.cursor.skip n
    have inside := there.inside
    have made := Context.endToken_startToken there.cursor.here left.here (by omega) kind
    rw [made] at checked ⊢
    have covers : j ≠ min (j + n) text.length := by
      intro same
      rw [← same] at checked
      exact absurd (checkToken_eq_ok.mp checked).2.2.1 (Nat.lt_irrefl _)
    refine ⟨_, _, by omega, rfl, ?_⟩
    rw [Config.dispatch, ended, Context.look_at left]
    exact left

end Dispatches

/-! ### Tokens and gaps -/

/-- What may stand between tokens: whitespace if it is skipped, and nothing if it is not. -/
def IsGap (skips : Bool) (gap : String) : Prop :=
  if skips then ∀ c ∈ gap.toList, isWhitespace c = true else gap = ""

/-- After `before`, the tokens with gaps around them spell `rest`.  The offsets of each token count
the bytes up to its literal and up to the end of it. -/
inductive Tiles (skips : Bool) : String → List Token → String → Prop
  | done {before gap} (blank : IsGap skips gap) : Tiles skips before [] gap
  | token {before gap rest} {token : Token} {tokens} (blank : IsGap skips gap)
      (nonempty : token.literal ≠ "")
      (start : token.start.offset = (before ++ gap).utf8ByteSize)
      (stop : token.stop.offset = (before ++ gap ++ token.literal).utf8ByteSize)
      (visible : skips = true → token.literal.toList.head?.any isWhitespace = false)
      (later : Tiles skips (before ++ gap ++ token.literal) tokens rest) :
      Tiles skips before (token :: tokens) (gap ++ token.literal ++ rest)

theorem isGap_gapEnd (cfg : Config σ) (text : List Char) (j : Nat) :
    IsGap cfg.skipsWhitespace (.ofList ((text.take (cfg.gapEnd text j)).drop j)) := by
  unfold IsGap Config.gapEnd
  cases cfg.skipsWhitespace with
  | false => simp
  | true =>
    intro c member
    rw [if_pos rfl, slice_eq_of_prefix (List.takeWhile_prefix _), String.toList_ofList] at member
    exact List.mem_takeWhile_imp member

/-- A gap and the token after it, put before what follows them. -/
theorem Tiles.prepend {skips : Bool} {text : List Char} {j g k : Nat} {kind : Kind}
    {tokens : List Token} (gapped : j ≤ g) (ordered : g < k) (bound : k ≤ text.length)
    (blank : IsGap skips (.ofList ((text.take g).drop j)))
    (visible : skips = true → text[g]?.any isWhitespace = false)
    (later : Tiles skips (.ofList (text.take k)) tokens (.ofList (text.drop k))) :
    Tiles skips (.ofList (text.take j)) (.covering text g k kind :: tokens)
      (.ofList (text.drop j)) := by
  have literal : (Token.covering text g k kind).literal = .ofList ((text.take k).drop g) := rfl
  have before : String.ofList (text.take j) ++ .ofList ((text.take g).drop j) =
      .ofList (text.take g) := by
    rw [← String.ofList_append, ← take_split text gapped]
  have upto : String.ofList (text.take g) ++ (Token.covering text g k kind).literal =
      .ofList (text.take k) := by
    rw [literal, ← String.ofList_append, ← take_split text ordered.le]
  have rest : String.ofList (text.drop j) = .ofList ((text.take g).drop j) ++
      (Token.covering text g k kind).literal ++ .ofList (text.drop k) := by
    rw [literal, ← String.ofList_append, ← String.ofList_append, List.append_assoc,
      drop_split text ordered.le, drop_split text gapped]
  have head : (Token.covering text g k kind).literal.toList.head? = text[g]? := by
    rw [literal, String.toList_ofList, List.head?_drop, List.getElem?_take_of_lt ordered]
  rw [rest]
  refine .token blank ?_ ?_ ?_ ?_ ?_
  · intro empty
    rw [empty, List.getElem?_eq_getElem (by omega)] at head
    simp at head
  · rw [before]
    rfl
  · rw [before, upto]
    rfl
  · rw [head]
    exact visible
  · rw [before, upto]
    exact later

/-- Built-in rules lose nothing: the tokens of a call, with the gaps around them, are the input.
From every place that the call comes to, the tokens still to come tile what is left of the text. -/
theorem lex_lossless {cfg : Config σ} (builtin : ∀ rule ∈ cfg.rules, rule.IsBuiltin) {memory : σ}
    {input : String} {tokens : List Token} (ok : (cfg.lex memory input).result = .ok tokens) :
    Tiles cfg.skipsWhitespace "" tokens input := by
  let text := input.toList
  let TilesFrom : Context σ → List Token → Prop := fun ctx tokens =>
    ∀ j, ctx.cursor.At text j →
      Tiles cfg.skipsWhitespace (.ofList (text.take j)) tokens (.ofList (text.drop j))
  suffices tiled : TilesFrom (cfg.context memory input {}) tokens by
    have whole := tiled 0 (.ofText input)
    rw [List.take_zero, List.drop_zero, String.ofList_nil, String.ofList_toList] at whole
    exact whole
  refine Config.lexProbed_ok ?_ ?_ ok
  · intro ctx there turn j h
    have blank := isGap_gapEnd cfg text j
    rw [Config.turn_at_finish h turn, List.take_length] at blank
    exact .done blank
  · intro ctx offer token tokens turn made later j h
    obtain ⟨-, on⟩ := Config.turn_at_offer h turn
    obtain ⟨k, kind, ordered, rfl, ends⟩ := dispatch_builtin builtin on made
    refine .prepend (cfg.le_gapEnd text j) ordered ends.bound (isGap_gapEnd cfg text j) ?_
      (later k ends)
    intro skips
    rw [on.char]
    exact Config.not_isWhitespace_gapEnd skips on.char

/-- Identifiers that only numbers may begin, and strings that begin with a letter. -/
def mismatched : Config Unit where
  skipsWhitespace := true
  rules :=
    [Builtin.identifier.rule "Identifier" isNumber, Builtin.number.rule "Number" isNumber,
      Builtin.string.rule "String" isLetter]

theorem mismatched_isBuiltin : ∀ rule ∈ mismatched.rules, rule.IsBuiltin := by
  intro rule member
  rcases List.mem_cons.mp member with rfl | member
  · exact ⟨_, _, _, rfl⟩
  · rcases List.mem_cons.mp member with rfl | member
    · exact ⟨_, _, _, rfl⟩
    · rw [List.mem_singleton.mp member]
      exact ⟨_, _, _, rfl⟩

theorem lex_lossless_mismatched :
    (∀ rule ∈ mismatched.rules, rule.IsBuiltin) ∧
    (mismatched.lex () " 42 é b\"\n").result =
      .ok [⟨.number, ⟨1, 2, 1⟩, ⟨1, 4, 3⟩, "42"⟩, ⟨.string, ⟨1, 5, 4⟩, ⟨2, 1, 9⟩, "é b\""⟩] ∧
    Tiles true ""
      [⟨.number, ⟨1, 2, 1⟩, ⟨1, 4, 3⟩, "42"⟩, ⟨.string, ⟨1, 5, 4⟩, ⟨2, 1, 9⟩, "é b\""⟩]
      " 42 é b\"\n" := by
  have ok : (mismatched.lex () " 42 é b\"\n").result =
      .ok [⟨.number, ⟨1, 2, 1⟩, ⟨1, 4, 3⟩, "42"⟩, ⟨.string, ⟨1, 5, 4⟩, ⟨2, 1, 9⟩, "é b\""⟩] := by
    decide +kernel
  exact ⟨mismatched_isBuiltin, ok, lex_lossless mismatched_isBuiltin ok⟩

end FirstMatch.Lexing
