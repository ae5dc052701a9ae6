import FirstMatch.Proofs.Lexing.Lossless
import FirstMatch.Proofs.Token.Symbols

/-! Keywords only relabel.  The symbol tables are asked twice: for the operators at the cursor, and
for the kind of a finished literal.  A keyword plays no part in the first, and in the second it is
found only by the literals that it spells.  So with built-in rules a new keyword changes the kind of
the identifiers and the whitespace that it spells, and nothing else. -/

namespace FirstMatch

open Text

theorem Symbols.lookup_eq_none_iff {s : Symbols} {text : String} :
    s.lookup text = none ↔ s.operator? text = none ∧ s.keyword? text = none :=
  Option.or_eq_none_iff

/-- A new keyword is found under its own text only. -/
theorem Symbols.lookup_addKeyword {s : Symbols} {word : String} (absent : s.lookup word = none)
    (kind : Kind) (sought : String) :
    (s.addKeyword word kind).lookup sought =
      if sought = word then some kind else s.lookup sought := by
  have operator : (s.addKeyword word kind).operator? sought = s.operator? sought := rfl
  have keyword : (s.addKeyword word kind).keyword? sought =
      if sought = word then some kind else s.keyword? sought := lookup_enter _ _ _ _
  rw [lookup, operator, keyword]
  split
  · rename_i same
    rw [same, (lookup_eq_none_iff.mp absent).1]
    rfl
  · rfl

/-- Keywords play no part in the search for an operator. -/
theorem Symbols.operatorWithin?_addKeyword (s : Symbols) (word : String) (kind : Kind)
    (chars : List Char) (n : Nat) :
    (s.addKeyword word kind).operatorWithin? chars n = s.operatorWithin? chars n := by
  induction n with
  | zero => rfl
  | succ n ih =>
    rw [operatorWithin?, operatorWithin?, ih]
    rfl

/-- An identifier or whitespace that reads `word` gets another kind; any other token stays the
same. -/
def Token.relabel (token : Token) (word : String) (kind : Kind) : Token :=
  if token.literal = word ∧ (token.kind = .ident ∨ token.kind = .whitespace) then
    { token with kind }
  else token

theorem Token.relabel_of_ne {word : String} {token : Token} (other : token.literal ≠ word)
    (kind : Kind) : token.relabel word kind = token := if_neg fun h => other h.1

/-- Whatever holds of every state that a scan passes through holds of the one it ends in. -/
theorem Cursor.scan_state {α : Type} {f : α → Char → Option α} {P : α → Prop}
    (kept : ∀ s ch s', P s → f s ch = some s' → P s') {s : α} (first : P s) (c : Cursor) :
    P (c.scan f s).state := by
  rw [scan]
  generalize c.here.ahead = along
  induction along generalizing s c with
  | nil => exact first
  | cons _ rest ih =>
    rw [scanAlong]
    split
    · exact first
    · split
      · exact first
      · rename_i goes
        exact ih (kept _ _ _ first goes) _

/-- Steps over a text that comes next leave it behind. -/
theorem Cursor.At.sliceFrom_skip {chars : List Char} {j : Nat} {c : Cursor} (h : c.At chars j)
    {text : String} (starts : text.toList <+: chars.drop j) :
    (c.skip text.length).sliceFrom c.position = text := by
  have slice := slice_eq_of_prefix starts
  have room := starts.length_le
  have bound := h.bound
  rw [String.length_toList] at slice
  rw [String.length_toList, List.length_drop] at room
  have stop : (c.skip text.length).At chars (j + text.length) := h.skip_of_le (by omega)
  rw [h.position, sliceFrom_nth stop.here (by omega), slice, String.ofList_toList]

namespace Lexing

variable {σ : Type} {word : String} {kind : Kind} {chars : List Char} {j : Nat} {ch : Char}
  {ctx : Context σ}

/-! ### Contexts -/

/-- The same context with one more keyword. -/
def Context.addKeyword (ctx : Context σ) (word : String) (kind : Kind) : Context σ :=
  { ctx with symbols := ctx.symbols.addKeyword word kind }

/-- A context on index `j` of the text whose tables do not hold `word`. -/
structure Context.Unaware (chars : List Char) (word : String) (j : Nat) (ctx : Context σ) :
    Prop where
  cursor : ctx.cursor.At chars j
  absent : ctx.symbols.lookup word = none

theorem Context.Unaware.skip (h : ctx.Unaware chars word j) (n : Nat) :
    (ctx.move (·.skip n)).Unaware chars word (min (j + n) chars.length) :=
  ⟨h.cursor.skip n, h.absent⟩

theorem Context.Unaware.look (h : ctx.Unaware chars word j) :
    ctx.look.1 = false ∧ ctx.look.2.Unaware chars word j := by
  rw [Context.look_at h.cursor]
  exact ⟨rfl, h⟩

theorem Context.Unaware.skipGap (h : ctx.Unaware chars word j) (cfg : Config σ) :
    (cfg.skipGap ctx).Unaware chars word (cfg.gapEnd chars j) := by
  refine ⟨Config.skipGap_at h.cursor, ?_⟩
  rw [symbols_skipGap]
  exact h.absent

/-- The tables may change this kind exactly if it is that of identifiers or of whitespace. -/
def IsPlain (kind : Kind) : Prop :=
  kind.isReclassifiable = true ↔ kind = .ident ∨ kind = .whitespace

instance : DecidablePred IsPlain := fun _ => inferInstanceAs (Decidable (_ ↔ _))

/-- Of the literals that are finished here, the keyword relabels those that it spells.  Without it
the lookup of these finds nothing, and their tokens end as what they were started as. -/
theorem endToken_addKeyword (absent : ctx.symbols.lookup word = none) {token : Token}
    (plain : ctx.cursor.sliceFrom token.start = word → IsPlain token.kind) :
    (ctx.addKeyword word kind).endToken token = (ctx.endToken token).relabel word kind := by
  have lookup := Symbols.lookup_addKeyword absent kind (ctx.cursor.sliceFrom token.start)
  by_cases spelled : ctx.cursor.sliceFrom token.start = word
  · have before : (ctx.endToken token).kind = token.kind := by
      simp [Context.endToken, spelled, absent]
    rw [if_pos spelled] at lookup
    by_cases changes : token.kind.isReclassifiable = true
    · rw [Token.relabel, before, if_pos ⟨spelled, (plain spelled).mp changes⟩]
      simp [Context.endToken, Context.addKeyword, Context.position, lookup, changes]
    · rw [Token.relabel, before, if_neg fun h => changes ((plain spelled).mpr h.2)]
      simp [Context.endToken, Context.addKeyword, Context.position, changes]
  · rw [if_neg spelled] at lookup
    rw [Token.relabel_of_ne spelled]
    simp [Context.endToken, Context.addKeyword, Context.position, lookup]

/-! ### Built-in rules -/

/-- What a rule leaves, with its token relabelled and one more keyword. -/
def Outcome.relabel (outcome : Outcome σ) (word : String) (kind : Kind) : Outcome σ :=
  (outcome.1.map (·.relabel word kind), outcome.2.addKeyword word kind)

theorem relabel_accept {token : Token} (absent : ctx.symbols.lookup word = none)
    (plain : ctx.cursor.sliceFrom token.start = word → IsPlain token.kind) :
    Outcome.relabel (ctx.accept token) word kind = (ctx.addKeyword word kind).accept token := by
  rw [Context.accept, Context.accept, endToken_addKeyword absent plain]
  rfl

namespace Builtin

section Scanned

variable (absent : ctx.symbols.lookup word = none)
include absent

theorem relabel_identifierToken :
    (identifierToken ch ctx).relabel word kind =
      identifierToken ch (ctx.addKeyword word kind) := by
  have plain : IsPlain .ident := by decide
  unfold identifierToken
  dsimp only
  split
  · rfl
  · split
    · exact relabel_accept absent fun _ => plain
    · exact relabel_accept absent fun _ => plain

theorem relabel_whitespaceToken :
    (whitespaceToken ch ctx).relabel word kind =
      whitespaceToken ch (ctx.addKeyword word kind) := by
  have plain : IsPlain .whitespace := by decide
  unfold whitespaceToken
  dsimp only
  split
  · exact relabel_accept absent fun _ => plain
  · exact relabel_accept absent fun _ => plain

theorem relabel_charToken :
    (charToken ctx).relabel word kind = charToken (ctx.addKeyword word kind) := by
  have plain : IsPlain .char := by decide
  have next (ctx : Context σ) : (ctx.addKeyword word kind).next =
      (ctx.next.1, ctx.next.2.addKeyword word kind) := rfl
  unfold charToken
  rw [next]
  rcases stepped : ctx.next with ⟨_ | first, moved⟩
  · rfl
  · dsimp only
    split
    · rfl
    · rw [next]
      rcases again : moved.next with ⟨_ | second, last⟩
      · rfl
      · dsimp only
        split
        · have one : moved.symbols = ctx.symbols := congrArg (·.2.symbols) stepped.symm
          have two : last.symbols = moved.symbols := congrArg (·.2.symbols) again.symm
          have unaware : last.symbols.lookup word = none := by rw [two, one, absent]
          exact relabel_accept unaware fun _ => plain
        · rfl

theorem relabel_stringToken :
    (stringToken ctx).relabel word kind = stringToken (ctx.addKeyword word kind) := by
  have plain : IsPlain .string := by decide
  unfold stringToken
  dsimp only [Context.addKeyword]
  split
  · rfl
  · split
    · rfl
    · exact relabel_accept absent fun _ => plain

theorem relabel_rawStringToken :
    (rawStringToken ctx).relabel word kind = rawStringToken (ctx.addKeyword word kind) := by
  have plain : IsPlain .string := by decide
  unfold rawStringToken
  dsimp only [Context.addKeyword]
  split
  · rfl
  · exact relabel_accept absent fun _ => plain

theorem relabel_numberToken :
    (numberToken ch ctx).relabel word kind = numberToken ch (ctx.addKeyword word kind) := by
  have state : IsPlain (ctx.cursor.scan numberStep .number).state := by
    refine Cursor.scan_state ?_ (by decide : IsPlain .number) ctx.cursor
    intro kind ch later plain goes
    unfold numberStep at goes
    split at goes
    · obtain rfl := Option.some.inj goes
      exact plain
    · split at goes
      · obtain rfl := Option.some.inj goes
        decide
      · cases goes
  unfold numberToken
  dsimp only
  split
  · exact relabel_accept absent fun _ => state
  · exact relabel_accept absent fun _ => (by decide : IsPlain .number)

end Scanned

/-- The literal of an operator is in the table of operators, and `word` is not. -/
theorem relabel_operatorToken (h : ctx.Unaware chars word j) :
    (operatorToken ch ctx).relabel word kind = operatorToken ch (ctx.addKeyword word kind) := by
  have search : (ctx.addKeyword word kind).symbols.operatorWithin?
      (ctx.addKeyword word kind).cursor.here.ahead (ctx.addKeyword word kind).symbols.longest =
        ctx.symbols.operatorWithin? ctx.cursor.here.ahead ctx.symbols.longest :=
    Symbols.operatorWithin?_addKeyword _ _ _ _ _
  rw [operatorToken, operatorToken, search]
  match found : ctx.symbols.operatorWithin? ctx.cursor.here.ahead ctx.symbols.longest with
  | none => rfl
  | some (text, base) =>
    obtain ⟨entered, starts, -⟩ := Symbols.operatorWithin?_some found
    rw [h.cursor.here, Place.ahead_nth] at starts
    have literal : (ctx.cursor.skip text.length).sliceFrom ctx.cursor.position = text :=
      h.cursor.sliceFrom_skip starts
    refine relabel_accept h.absent fun spelled => ?_
    have missing := (Symbols.lookup_eq_none_iff.mp h.absent).1
    have same : text = word := literal.symm.trans spelled
    rw [← same, entered] at missing
    cases missing

theorem relabel_run (b : Builtin) (h : ctx.Unaware chars word j) (ch : Char) (kind : Kind) :
    (b.run ch ctx).relabel word kind = b.run ch (ctx.addKeyword word kind) := by
  cases b with
  | identifier => exact relabel_identifierToken h.absent
  | charLiteral => exact relabel_charToken h.absent
  | string => exact relabel_stringToken h.absent
  | rawString => exact relabel_rawStringToken h.absent
  | number => exact relabel_numberToken h.absent
  | operator => exact relabel_operatorToken h
  | whitespace => exact relabel_whitespaceToken h.absent

end Builtin

/-! ### Dispatches -/

/-- The checks see no difference, since identifiers and whitespace pass for legal before and
after. -/
theorem checkToken_relabel (legal : kind ≠ .illegal) (rule : String) (started : Position)
    (token : Token) :
    checkToken rule started (token.relabel word kind) =
      (checkToken rule started token).map (·.relabel word kind) := by
  by_cases changes : token.literal = word ∧ (token.kind = .ident ∨ token.kind = .whitespace)
  · have known : token.kind.isIllegal = false := by
      rcases changes.2 with ident | whitespace
      · rw [ident]
        rfl
      · rw [whitespace]
        rfl
    have given : kind.isIllegal = false := beq_false_of_ne legal
    have changed : token.relabel word kind = { token with kind } := if_pos changes
    have valid : { token with kind }.isValid = token.isValid := rfl
    rw [changed, checkToken, checkToken, valid]
    dsimp only
    rw [known, given]
    split
    · rfl
    · split
      · rfl
      · exact congrArg Except.ok changed.symm
  · have same : token.relabel word kind = token := if_neg changes
    rw [same]
    cases checked : checkToken rule started token with
    | error => rfl
    | ok =>
      obtain ⟨rfl, -⟩ := checkToken_eq_ok.mp checked
      exact congrArg Except.ok same.symm

/-- The end of a dispatch, with its token relabelled and one more keyword. -/
def Dispatch.relabel (d : Dispatch σ) (word : String) (kind : Kind) : Dispatch σ :=
  ⟨d.result.map (·.relabel word kind), d.context.addKeyword word kind, d.log⟩

/-- A dispatch comes to the same rules, and leaves tables that do not hold `word` as they were.
After a decline both undo the one step they made and offer the same character to the rules
behind. -/
theorem relabel_dispatch (watch : Watch) (legal : kind ≠ .illegal) {rules : List (Rule σ)}
    (builtin : ∀ rule ∈ rules, rule.IsBuiltin) (h : ctx.Unaware chars word j)
    (on : chars[j]? = some ch) :
    (dispatch watch rules ch ctx).relabel word kind =
        dispatch watch rules ch (ctx.addKeyword word kind) ∧
      ∃ k, (dispatch watch rules ch ctx).context.Unaware chars word k := by
  induction rules generalizing ctx with
  | nil => exact ⟨rfl, j, h⟩
  | cons rule rest ih =>
    have later : ∀ rule ∈ rest, rule.IsBuiltin := fun rule member =>
      builtin rule (List.mem_cons_of_mem _ member)
    cases accepts : rule.accepts ch with
    | false =>
      rw [dispatch_passed accepts, dispatch_passed accepts, ← (ih later h).1]
      exact ⟨rfl, (ih later h).2⟩
    | true =>
      obtain ⟨b, name, characters, rfl⟩ := builtin rule List.mem_cons_self
      have ranToo := (b.relabel_run h ch kind).symm
      have direct := b.run_direct ch ctx
      generalize ran : b.run ch ctx = outcome at direct ranToo
      cases direct with
      | fail n message =>
        obtain ⟨goesOn, left⟩ := (h.skip n).look
        rw [dispatch_failed accepts ran goesOn, dispatch_failed accepts ranToo goesOn]
        exact ⟨rfl, _, left⟩
      | decline message =>
        obtain ⟨goesOn, back, rewound, there, kept⟩ := Context.On.undo_next ⟨h.cursor, on⟩
        have rewoundToo : (ctx.next.2.addKeyword word kind).look.2.undo =
            (some ch, back.addKeyword word kind) :=
          congrArg (fun undone => (undone.1, undone.2.addKeyword word kind)) rewound
        have again : back.Unaware chars word j := ⟨there.cursor, by rw [kept, h.absent]⟩
        rw [dispatch_declined accepts ran goesOn rewound,
          dispatch_declined accepts ranToo goesOn rewoundToo, ← (ih later again).1]
        exact ⟨rfl, (ih later again).2⟩
      | accept n base =>
        obtain ⟨goesOn, left⟩ := (h.skip n).look
        rw [dispatch_made accepts ran goesOn, dispatch_made accepts ranToo goesOn,
          checkToken_relabel legal]
        exact ⟨rfl, _, left⟩

/-! ### Calls -/

/-- A call under way, with its tokens relabelled and one more keyword. -/
def Call.relabel (call : Call σ) (word : String) (kind : Kind) : Call σ :=
  ⟨call.context.addKeyword word kind, call.tokens.map (·.relabel word kind), call.log⟩

theorem Call.context_relabel (call : Call σ) :
    (call.relabel word kind).context = call.context.addKeyword word kind := rfl

/-- The same answer, report and memory, but for the kinds of the tokens that `word` spells. -/
def Report.relabel (report : Report σ) (word : String) (kind : Kind) : Report σ :=
  { report with result := report.result.map (List.map (·.relabel word kind)) }

theorem Call.relabel_succeed (call : Call σ) :
    call.succeed.relabel word kind = (call.relabel word kind).succeed := by
  simp [succeed, relabel, Report.relabel, Except.map, Context.addKeyword]

namespace Config

/-- The main loop leaves the tables to the context. -/
theorem proceed_addKeywords (cfg : Config σ) (entries : List (String × Kind)) (budget : Nat)
    (call : Call σ) : (cfg.addKeywords entries).proceed budget call = cfg.proceed budget call := by
  induction budget generalizing call with
  | zero =>
    rw [proceed, proceed]
    rfl
  | succ budget ih =>
    rw [proceed, proceed]
    simp only [ih]
    rfl

/-- The gap is the same, and so is the turn after it. -/
theorem turn_addKeyword (cfg : Config σ) (h : ctx.Unaware chars word j) (kind : Kind) :
    (∃ there, cfg.turn ctx = .finish there ∧
      cfg.turn (ctx.addKeyword word kind) = .finish (there.addKeyword word kind)) ∨
    ∃ ch there k, cfg.turn ctx = .offer ch there ∧
      cfg.turn (ctx.addKeyword word kind) = .offer ch (there.addKeyword word kind) ∧
      there.Unaware chars word k ∧ chars[k]? = some ch := by
  have gap : cfg.skipGap (ctx.addKeyword word kind) = (cfg.skipGap ctx).addKeyword word kind := by
    unfold skipGap
    split
    · rfl
    · rfl
  have there : (ctx.addKeyword word kind).cursor.At chars j := h.cursor
  rw [cfg.turn_at h.cursor, cfg.turn_at there, gap]
  cases on : chars[cfg.gapEnd chars j]? with
  | none => exact .inl ⟨_, rfl, rfl⟩
  | some ch => exact .inr ⟨ch, _, _, rfl, rfl, h.skipGap cfg, on⟩

theorem relabel_proceed {cfg : Config σ} (legal : kind ≠ .illegal)
    (builtin : ∀ rule ∈ cfg.rules, rule.IsBuiltin) {budget : Nat} {call : Call σ}
    (h : call.context.Unaware chars word j) :
    (cfg.proceed budget call).relabel word kind =
      cfg.proceed budget (call.relabel word kind) := by
  induction budget generalizing call j with
  | zero =>
    rcases cfg.turn_addKeyword h kind with ⟨there, turn, turnToo⟩ | ⟨ch, there, k, turn, turnToo, -⟩
    · rw [cfg.proceed_done turn, cfg.proceed_done turnToo, Call.relabel_succeed]
      rfl
    · rw [proceed, proceed, turn, Call.context_relabel, turnToo]
      rfl
  | succ budget ih =>
    rcases cfg.turn_addKeyword h kind with
      ⟨there, turn, turnToo⟩ | ⟨ch, there, k, turn, turnToo, unaware, on⟩
    · rw [cfg.proceed_done turn, cfg.proceed_done turnToo, Call.relabel_succeed]
      rfl
    · let offer : Offer σ := ⟨ch, there⟩
      let offerToo : Offer σ := ⟨ch, there.addKeyword word kind⟩
      have offers : cfg.turn call.context = .offer offer.ch offer.context := turn
      have offersToo : cfg.turn (call.relabel word kind).context =
          .offer offerToo.ch offerToo.context := turnToo
      obtain ⟨same, e, left⟩ := relabel_dispatch cfg.watch legal builtin unaware on
      have dispatched : cfg.dispatch offerToo = (cfg.dispatch offer).relabel word kind := same.symm
      have resultToo : (cfg.dispatch offerToo).result =
          (cfg.dispatch offer).result.map (·.relabel word kind) := congrArg (·.result) dispatched
      cases result : (cfg.dispatch offer).result with
      | error error =>
        rw [result] at resultToo
        rw [proceed_failed result offers, proceed_failed resultToo offersToo, dispatched]
        rfl
      | ok token =>
        rw [result] at resultToo
        rw [proceed_made result offers, proceed_made resultToo offersToo, dispatched, ih left]
        rw [Call.relabel, Array.map_push]
        rfl

end Config

/-- With built-in rules for any characters at all, a text that is in neither table may be entered as
a keyword: the identifiers and the whitespace that it spells get its kind, and nothing else about
the call changes, be it other tokens, an error, what was reported or what the rules remember. -/
theorem lex_addKeyword {cfg : Config σ} (builtin : ∀ rule ∈ cfg.rules, rule.IsBuiltin)
    (absent : cfg.symbols.operator? word = none ∧ cfg.symbols.keyword? word = none)
    (legal : kind ≠ .illegal) (memory : σ) (input : String) :
    (cfg.addKeywords [(word, kind)]).lex memory input =
      (cfg.lex memory input).relabel word kind := by
  let call : Call σ := { context := cfg.context memory input {} }
  have unaware : call.context.Unaware input.toList word 0 :=
    ⟨.ofText input, Symbols.lookup_eq_none_iff.mpr absent⟩
  have start : ({ context := (cfg.addKeywords [(word, kind)]).context memory input {} } : Call σ) =
      call.relabel word kind := by
    rw [Call.relabel, Array.map_empty]
    rfl
  calc (cfg.addKeywords [(word, kind)]).lex memory input
      = cfg.proceed (input.length + cfg.watch.patience) (call.relabel word kind) := by
        rw [← start]
        exact cfg.proceed_addKeywords _ _ _
    _ = (cfg.lex memory input).relabel word kind :=
        (Config.relabel_proceed legal builtin unaware).symm

theorem lex_addKeyword_standard :
    let cfg : Config Unit := .standard
    (∀ rule ∈ cfg.rules, rule.IsBuiltin) ∧
    (cfg.symbols.operator? "for" = none ∧ cfg.symbols.keyword? "for" = none) ∧
    (⟨3000⟩ : Kind) ≠ .illegal ∧
    (cfg.lex () "for+\"for\"").result =
      .ok [⟨.ident, ⟨1, 1, 0⟩, ⟨1, 4, 3⟩, "for"⟩, ⟨⟨9⟩, ⟨1, 4, 3⟩, ⟨1, 5, 4⟩, "+"⟩,
        ⟨.string, ⟨1, 5, 4⟩, ⟨1, 10, 9⟩, "\"for\""⟩] ∧
    ((cfg.addKeywords [("for", ⟨3000⟩)]).lex () "for+\"for\"").result =
      .ok [⟨⟨3000⟩, ⟨1, 1, 0⟩, ⟨1, 4, 3⟩, "for"⟩, ⟨⟨9⟩, ⟨1, 4, 3⟩, ⟨1, 5, 4⟩, "+"⟩,
        ⟨.string, ⟨1, 5, 4⟩, ⟨1, 10, 9⟩, "\"for\""⟩] := by
  intro cfg
  have absent : cfg.symbols.operator? "for" = none ∧ cfg.symbols.keyword? "for" = none := by
    decide +kernel
  have legal : (⟨3000⟩ : Kind) ≠ .illegal := by decide
  refine ⟨standard_isBuiltin, absent, legal, by decide +kernel, ?_⟩
  rw [lex_addKeyword standard_isBuiltin absent legal]
  decide +kernel

end Lexing

end FirstMatch
