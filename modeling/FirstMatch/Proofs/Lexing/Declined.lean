import FirstMatch.Proofs.Lexing.Displaced
import FirstMatch.Proofs.Lexing.Peeking

/-! Numbers that identifiers decline.  A rule for identifiers that is offered a numeric character
steps over it and declines, and undoing the step finds the character again, at the same position.
What differs afterwards is only what the cursor remembers and what its probe shows, and no built-in
rule looks there.  So the rule might as well not have accepted the character at all. -/

namespace FirstMatch.Lexing

open Text

variable {σ : Type}

/-! ### Contexts at the same place -/

/-- Two contexts on index `j` of the same text, with the same symbols. -/
structure Context.Together (text : List Char) (j : Nat) (ctx other : Context σ) : Prop where
  here : ctx.cursor.At text j
  there : other.cursor.At text j
  symbols : other.symbols = ctx.symbols

namespace Context.Together

variable {text : List Char} {j k : Nat} {ctx other out outToo : Context σ}

theorem abreast (h : ctx.Together text j other) : ctx.Abreast other := by
  refine ⟨⟨?_, h.here.silent, h.there.silent⟩, h.symbols⟩
  rw [h.here.here, h.there.here]

theorem position_eq (h : ctx.Together text j other) : other.position = ctx.position := by
  rw [position, h.there.position, position, h.here.position]

theorem skip (h : ctx.Together text j other) (n : Nat) :
    (ctx.move (·.skip n)).Together text (min (j + n) text.length) (other.move (·.skip n)) :=
  ⟨h.here.skip n, h.there.skip n, h.symbols⟩

theorem skipGap (h : ctx.Together text j other) (cfg : Config σ) :
    (cfg.skipGap ctx).Together text (cfg.gapEnd text j) (cfg.skipGap other) := by
  refine ⟨Config.skipGap_at h.here, Config.skipGap_at h.there, ?_⟩
  rw [symbols_skipGap, h.symbols, symbols_skipGap]

theorem endToken_eq (h : ctx.Together text j other) (left : out.Together text k outToo)
    (ordered : j ≤ k) (kind : Kind) :
    outToo.endToken (other.startToken kind) = out.endToken (ctx.startToken kind) := by
  rw [Context.endToken_startToken h.here.here left.here.here ordered,
    Context.endToken_startToken h.there.here left.there.here ordered, classify, left.symbols]
  rfl

end Context.Together

/-! ### Dispatches -/

/-- Two dispatches with the same result; if it is a token, they leave off at the same place. -/
structure Dispatch.Together (text : List Char) (d other : Dispatch σ) : Prop where
  result : other.result = d.result
  left : ∀ token, d.result = .ok token → ∃ k, d.context.Together text k other.context

section Dispatches

variable {watch : Watch} {rule ruleToo : Rule σ} {rest restToo : List (Rule σ)} {text : List Char}
  {j : Nat} {ch : Char} {ctx other : Context σ}

theorem Dispatch.Together.after {d other : Dispatch σ} (h : d.Together text other)
    (events eventsToo : List Event) : (d.after events).Together text (other.after eventsToo) :=
  ⟨h.result, h.left⟩

theorem Dispatch.Together.of_outcome {d d' other : Dispatch σ} (h : d'.Together text other)
    (same : d.outcome = d'.outcome) : d.Together text other := by
  obtain ⟨result, context⟩ := Prod.mk.inj same
  refine ⟨h.result.trans result.symm, ?_⟩
  rw [result, context]
  exact h.left

/-- Rules that accept the same character and do alike with it may differ in what they accept
otherwise, if the rules behind them go on together. -/
theorem dispatch_alike (h : ctx.Together text j other) (on : text[j]? = some ch)
    (accepts : rule.accepts ch = true) (acceptsToo : ruleToo.accepts ch = true)
    (name : ruleToo.name = rule.name)
    (alike : Alike ctx other (rule.run ch ctx) (ruleToo.run ch other))
    (later : ∀ back backToo : Context σ, back.Together text j backToo →
      (dispatch watch rest ch back).Together text (dispatch watch restToo ch backToo)) :
    (dispatch watch (rule :: rest) ch ctx).Together text
      (dispatch watch (ruleToo :: restToo) ch other) := by
  generalize ran : rule.run ch ctx = outcome, ranToo : ruleToo.run ch other = outcomeToo at alike
  cases alike with
  | fail n message =>
    have left := h.skip n
    have quiet := Context.look_at left.here
    have quietToo := Context.look_at left.there
    rw [dispatch_failed accepts ran (by rw [quiet]),
      dispatch_failed acceptsToo ranToo (by rw [quietToo]), name, left.position_eq]
    refine ⟨rfl, ?_⟩
    intro token ok
    cases ok
  | decline message =>
    obtain ⟨goesOn, back, rewound, here, kept⟩ := Context.On.undo_next ⟨h.here, on⟩
    obtain ⟨goesOnToo, backToo, rewoundToo, there, keptToo⟩ := Context.On.undo_next ⟨h.there, on⟩
    rw [dispatch_declined accepts ran goesOn rewound,
      dispatch_declined acceptsToo ranToo goesOnToo rewoundToo]
    have again : back.Together text j backToo :=
      ⟨here.cursor, there.cursor, by rw [keptToo, h.symbols, kept]⟩
    exact ((later back backToo again).after _ _).after _ _
  | accept n kind =>
    have left := h.skip n
    have quiet := Context.look_at left.here
    have quietToo := Context.look_at left.there
    have inside : j < text.length := (List.getElem?_eq_some_iff.mp on).1
    rw [dispatch_made accepts ran (by rw [quiet]),
      dispatch_made acceptsToo ranToo (by rw [quietToo]), quiet, quietToo, name, h.position_eq,
      h.endToken_eq left (by omega) kind]
    exact ⟨rfl, fun _ _ => ⟨_, left⟩⟩

end Dispatches

/-! ### Calls -/

/-- Two configurations that skip the same gaps and whose dispatches go together. -/
structure Config.Together (text : List Char) (cfg other : Config σ) : Prop where
  gaps : other.skipsWhitespace = cfg.skipsWhitespace
  dispatches : ∀ {j ch} {ctx ctxToo : Context σ}, ctx.Together text j ctxToo →
    text[j]? = some ch → (cfg.dispatch ⟨ch, ctx⟩).Together text (other.dispatch ⟨ch, ctxToo⟩)

namespace Config.Together

variable {cfg other : Config σ} {text : List Char} {j : Nat}

theorem turn (h : cfg.Together text other) {ctx ctxToo : Context σ}
    (contexts : ctx.Together text j ctxToo) :
    (∃ done doneToo, cfg.turn ctx = .finish done ∧ other.turn ctxToo = .finish doneToo) ∨
      ∃ ch there thereToo k, cfg.turn ctx = .offer ch there ∧
        other.turn ctxToo = .offer ch thereToo ∧ there.Together text k thereToo ∧
        text[k]? = some ch := by
  have gap : other.gapEnd text j = cfg.gapEnd text j := by rw [gapEnd, h.gaps, gapEnd]
  have skipped : other.skipGap ctxToo = cfg.skipGap ctxToo := by rw [skipGap, h.gaps, skipGap]
  have turn := cfg.turn_at contexts.here
  have turnToo := other.turn_at contexts.there
  rw [gap, skipped] at turnToo
  cases on : text[cfg.gapEnd text j]? with
  | none =>
    rw [on] at turn turnToo
    exact .inl ⟨_, _, turn, turnToo⟩
  | some ch =>
    rw [on] at turn turnToo
    exact .inr ⟨ch, _, _, _, turn, turnToo, contexts.skipGap cfg, on⟩

/-- Calls at the same place with the same tokens so far give the same answer. -/
theorem proceed_eq (h : cfg.Together text other) {call callToo : Call σ} {budget : Nat}
    (tokens : callToo.tokens = call.tokens)
    (contexts : call.context.Together text j callToo.context) :
    (other.proceed budget callToo).result = (cfg.proceed budget call).result := by
  induction budget generalizing call callToo j with
  | zero =>
    rcases h.turn contexts with
      ⟨_, _, turn, turnToo⟩ | ⟨ch, there, thereToo, k, turn, turnToo, offered, -⟩
    · rw [cfg.proceed_done turn, other.proceed_done turnToo, tokens]
      rfl
    · rw [proceed, proceed, turn, turnToo]
      exact congrArg (Except.error ∘ Error.loop) offered.position_eq
  | succ budget ih =>
    rcases h.turn contexts with
      ⟨_, _, turn, turnToo⟩ | ⟨ch, there, thereToo, k, turn, turnToo, offered, on⟩
    · rw [cfg.proceed_done turn, other.proceed_done turnToo, tokens]
      rfl
    · let offer : Offer σ := ⟨ch, there⟩
      let offerToo : Offer σ := ⟨ch, thereToo⟩
      have offers : cfg.turn call.context = .offer offer.ch offer.context := turn
      have offersToo : other.turn callToo.context = .offer offerToo.ch offerToo.context := turnToo
      have together : (cfg.dispatch offer).Together text (other.dispatch offerToo) :=
        h.dispatches offered on
      cases made : (cfg.dispatch offer).result with
      | error error =>
        rw [proceed_failed made offers, proceed_failed (together.result.trans made) offersToo]
        rfl
      | ok token =>
        obtain ⟨k, left⟩ := together.left token made
        rw [proceed_made made offers, proceed_made (together.result.trans made) offersToo]
        exact ih (congrArg (·.push token) tokens) left

end Config.Together

/-! ### Identifiers -/

/-- What a rule that makes its tokens in a built-in way consists of. -/
structure BuiltinRule where
  builtin : Builtin
  name : String
  accepts : Char → Bool

namespace BuiltinRule

def rule (r : BuiltinRule) : Rule σ := r.builtin.rule r.name r.accepts

/-- The same rule, but if it is for identifiers, it accepts no numeric characters. -/
def withoutNumbers (r : BuiltinRule) : BuiltinRule :=
  if r.builtin = .identifier then { r with accepts := fun ch => r.accepts ch && !isNumber ch }
  else r

end BuiltinRule

section Declines

variable {text : List Char} {j : Nat} {ch : Char} {ctx other : Context σ} {r : BuiltinRule}

theorem BuiltinRule.refuses_number (identifier : r.builtin = .identifier)
    (number : isNumber ch = true) : (r.withoutNumbers.rule : Rule σ).accepts ch = false := by
  rw [withoutNumbers, if_pos identifier]
  simp [rule, Builtin.rule, number]

/-- On any other character, or for any other rule, nothing has changed. -/
theorem BuiltinRule.withoutNumbers_eq (other : ¬(r.builtin = .identifier ∧ isNumber ch = true)) :
    (r.withoutNumbers.rule : Rule σ).accepts ch = (r.rule : Rule σ).accepts ch ∧
      (r.withoutNumbers.rule : Rule σ).name = (r.rule : Rule σ).name ∧
      (r.withoutNumbers.rule : Rule σ).run = r.builtin.run := by
  by_cases identifier : r.builtin = .identifier
  · have notNumber : isNumber ch = false := by simpa [identifier] using other
    rw [withoutNumbers, if_pos identifier]
    simp [rule, Builtin.rule, notNumber]
  · rw [withoutNumbers, if_neg identifier]
    exact ⟨rfl, rfl, rfl⟩

/-- A rule for identifiers that accepts a numeric character hands it on. -/
theorem dispatch_identifier_number (watch : Watch) (rest : List (Rule σ))
    (identifier : r.builtin = .identifier) (number : isNumber ch = true)
    (accepts : r.accepts ch = true) (h : ctx.On text j ch) :
    ∃ back, back.On text j ch ∧ back.symbols = ctx.symbols ∧
      (dispatch watch (r.rule :: rest) ch ctx).outcome = (dispatch watch rest ch back).outcome := by
  obtain ⟨goesOn, back, rewound, there, kept⟩ := h.undo_next
  have ran : (r.rule : Rule σ).run ch ctx =
      ctx.next.2.decline "first character of an identifier can't be a number" := by
    rw [BuiltinRule.rule, Builtin.rule, identifier]
    exact if_pos number
  refine ⟨back, there, kept, ?_⟩
  rw [dispatch_declined accepts ran goesOn rewound, Dispatch.outcome_after, Dispatch.outcome_after]

/-- Rules that leave numbers to others end a dispatch as the rules they are made from do.  Where an
identifier rule declines a number, the cursor is back on it, and only what it remembers is new. -/
theorem dispatch_withoutNumbers (watch : Watch) (rules : List BuiltinRule)
    (h : ctx.Together text j other) (on : text[j]? = some ch) :
    (dispatch watch (rules.map BuiltinRule.rule) ch ctx).Together text
      (dispatch watch ((rules.map BuiltinRule.withoutNumbers).map BuiltinRule.rule) ch other) := by
  induction rules generalizing ctx other with
  | nil =>
    refine ⟨?_, fun token ok => nomatch ok⟩
    exact congrArg (Except.error ∘ Error.noMatch ch) h.position_eq
  | cons r rest ih =>
    rw [List.map_cons, List.map_cons, List.map_cons]
    by_cases declines : r.builtin = .identifier ∧ isNumber ch = true
    · have refuses : (r.withoutNumbers.rule : Rule σ).accepts ch = false :=
        BuiltinRule.refuses_number declines.1 declines.2
      rw [dispatch_passed refuses]
      cases accepts : (r.rule : Rule σ).accepts ch with
      | false =>
        rw [dispatch_passed accepts]
        exact (ih h).after _ _
      | true =>
        obtain ⟨back, there, kept, same⟩ := dispatch_identifier_number watch
          (rest.map BuiltinRule.rule) declines.1 declines.2 accepts ⟨h.here, on⟩
        have again : back.Together text j other :=
          ⟨there.cursor, h.there, h.symbols.trans kept.symm⟩
        exact ((ih again).of_outcome same).after [] _
    · obtain ⟨same, name, run⟩ := BuiltinRule.withoutNumbers_eq (σ := σ) declines
      cases accepts : (r.rule : Rule σ).accepts ch with
      | false =>
        rw [dispatch_passed accepts, dispatch_passed (same.trans accepts)]
        exact (ih h).after _ _
      | true =>
        refine dispatch_alike h on accepts (same.trans accepts) name ?_ fun _ _ back => ih back
        rw [run]
        exact r.builtin.run_alike ch h.abreast

end Declines

/-- The configuration with built-in rules for its own. -/
def Config.withBuiltins (cfg : Config σ) (rules : List BuiltinRule) : Config σ :=
  cfg.withRules (rules.map BuiltinRule.rule)

/-- Rules for identifiers that accept numeric characters, only to decline them, give the same answer
as rules that do not accept them: the same tokens at the same positions, or the same failure. -/
theorem lex_withoutNumbers (cfg : Config σ) (rules : List BuiltinRule) (memory : σ)
    (input : String) :
    ((cfg.withBuiltins (rules.map BuiltinRule.withoutNumbers)).lex memory input).result =
      ((cfg.withBuiltins rules).lex memory input).result := by
  have together : (cfg.withBuiltins rules).Together input.toList
      (cfg.withBuiltins (rules.map BuiltinRule.withoutNumbers)) :=
    ⟨rfl, fun contexts on => dispatch_withoutNumbers cfg.watch rules contexts on⟩
  exact together.proceed_eq rfl ⟨.ofText input, .ofText input, rfl⟩

end FirstMatch.Lexing
