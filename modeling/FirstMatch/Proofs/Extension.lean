import FirstMatch.Proofs.Lexing.Peeking
import FirstMatch.Proofs.Lexing.Progress
import FirstMatch.Proofs.Parsing.Partition

/-! Adding rules after those already there.  The first rule that settles a character or token wins,
so a rule further back is come to only where a dispatch would otherwise have found no match.
Whatever ends in another way ends in the same way under more rules, whether it is one dispatch or a
whole call. -/

namespace FirstMatch

section Results

variable {ε α β : Type} {bad : ε → Prop} {result : Except ε α}

/-- A result that is none of the errors in question: there is an answer, or another error. -/
def Avoids (bad : ε → Prop) (result : Except ε α) : Prop :=
  ∀ error, bad error → result ≠ .error error

theorem Avoids.of_ok {answer : α} (ok : result = .ok answer) : Avoids bad result := by
  intro error _ failed
  cases ok.symm.trans failed

/-- Only the error matters, not what the answer would have been. -/
theorem Avoids.of_error {error : ε} (failed : result = .error error)
    (avoids : Avoids bad (.error error : Except ε β)) : Avoids bad result := by
  intro other isBad failedSo
  obtain rfl := Except.error.inj (failed.symm.trans failedSo)
  exact avoids error isBad rfl

end Results

namespace Lexing

variable {σ : Type}

/-- There was no rule for a character. -/
def Error.IsNoMatch (error : Error) : Prop := ∃ ch position, error = .noMatch ch position

/-- A dispatch that finds a match does not come to the rules behind it.  After a decline it finds no
match if there is no character to go back to; and the character it does go back to, though it may be
another one, is offered with more rules as without. -/
theorem dispatch_append {watch : Watch} {rules : List (Rule σ)} (more : List (Rule σ)) {ch : Char}
    {ctx : Context σ} (matched : Avoids Error.IsNoMatch (dispatch watch rules ch ctx).result) :
    dispatch watch (rules ++ more) ch ctx = dispatch watch rules ch ctx := by
  induction rules generalizing ch ctx with
  | nil => exact absurd rfl (matched _ ⟨ch, ctx.position, rfl⟩)
  | cons rule rest ih =>
    rw [List.cons_append]
    cases accepts : rule.accepts ch with
    | false =>
      rw [dispatch_passed accepts] at matched
      rw [dispatch_passed accepts, dispatch_passed accepts, ih matched]
    | true =>
      obtain ⟨result, out, ran⟩ : ∃ result out, rule.run ch ctx = (result, out) := ⟨_, _, rfl⟩
      cases goesOn : out.look.1 with
      | true => rw [dispatch_cancelled accepts ran goesOn, dispatch_cancelled accepts ran goesOn]
      | false =>
        match result with
        | .ok token => rw [dispatch_made accepts ran goesOn, dispatch_made accepts ran goesOn]
        | .error (.fail message position) =>
          rw [dispatch_failed accepts ran goesOn, dispatch_failed accepts ran goesOn]
        | .error (.decline message position) =>
          match rewound : out.look.2.undo with
          | (none, back) =>
            rw [dispatch_declined_end accepts ran goesOn rewound] at matched
            exact absurd rfl (matched _ ⟨ch, back.position, rfl⟩)
          | (some found, back) =>
            rw [dispatch_declined accepts ran goesOn rewound] at matched
            rw [dispatch_declined accepts ran goesOn rewound,
              dispatch_declined accepts ran goesOn rewound, ih matched]

namespace Config

variable {cfg : Config σ} (more : List (Rule σ))

theorem turn_addRules (ctx : Context σ) : (cfg.addRules more).turn ctx = cfg.turn ctx := rfl

theorem dispatch_addRules {offer : Offer σ}
    (matched : Avoids Error.IsNoMatch (cfg.dispatch offer).result) :
    (cfg.addRules more).dispatch offer = cfg.dispatch offer :=
  dispatch_append more matched

/-- A call left to itself takes the same turns. -/
theorem Run.addRules {offers : List (Offer σ)} {call : Call σ} {report : Report σ}
    (run : cfg.Run offers call report) (matched : Avoids Error.IsNoMatch report.result) :
    (cfg.addRules more).Run offers call report := by
  induction run with
  | finish turn => exact .finish turn
  | giveUp turn => exact .giveUp turn
  | fail turn failed =>
    have same := dispatch_addRules more (.of_error failed matched)
    rw [← same] at failed ⊢
    exact .fail turn failed
  | next turn made _ ih =>
    have same := dispatch_addRules more (.of_ok made)
    have later := ih matched
    rw [← same] at made later
    exact .next turn made later

/-- Nor does it matter how many dispatches a call may make. -/
theorem proceed_addRules {budget : Nat} {call : Call σ}
    (matched : Avoids Error.IsNoMatch (cfg.proceed budget call).result) :
    (cfg.addRules more).proceed budget call = cfg.proceed budget call := by
  induction budget generalizing call with
  | zero =>
    rw [proceed, proceed, turn_addRules]
    cases cfg.turn call.context with
    | finish | giveUp | offer => rfl
  | succ budget ih =>
    cases turn : cfg.turn call.context with
    | finish => rw [cfg.proceed_done turn, (cfg.addRules more).proceed_done turn]
    | giveUp =>
      rw [proceed, proceed, turn_addRules, turn]
      rfl
    | offer ch context =>
      let offer : Offer σ := ⟨ch, context⟩
      have offered : cfg.turn call.context = .offer offer.ch offer.context := turn
      have offeredMore : (cfg.addRules more).turn call.context = .offer offer.ch offer.context :=
        turn
      cases result : (cfg.dispatch offer).result with
      | ok token =>
        have same := dispatch_addRules more (.of_ok result)
        have resultMore := result
        rw [← same] at resultMore
        rw [proceed_made result offered] at matched ⊢
        rw [proceed_made resultMore offeredMore, same, ih matched]
      | error error =>
        rw [proceed_failed result offered] at matched ⊢
        have same := dispatch_addRules more (.of_error result matched)
        have resultMore := result
        rw [← same] at resultMore
        rw [proceed_failed resultMore offeredMore, same]

end Config

end Lexing

namespace Parsing

variable {ν : Type}

/-- There was no rule for a token. -/
def Error.IsNoMatch (error : Error) : Prop := ∃ literal span, error = .noMatch literal span

theorem dispatch_append {rules : List (Rule ν)} (more : List (Rule ν)) {token : Token}
    {s : TokenStream} (matched : Avoids Error.IsNoMatch (dispatch token rules s).result) :
    dispatch token (rules ++ more) s = dispatch token rules s := by
  induction rules generalizing s with
  | nil => exact absurd rfl (matched _ ⟨token.literal, token.span, rfl⟩)
  | cons rule rest ih =>
    rw [List.cons_append]
    cases accepts : rule.accepts token with
    | false =>
      rw [dispatch_passed accepts] at matched
      rw [dispatch_passed accepts, dispatch_passed accepts, ih matched]
    | true =>
      match ran : rule.run token s with
      | (.ok node, moved) => rw [dispatch_made accepts ran, dispatch_made accepts ran]
      | (.error (.fail message position), moved) =>
        rw [dispatch_failed accepts ran, dispatch_failed accepts ran]
      | (.error (.decline message position), moved) =>
        rw [dispatch_declined accepts ran] at matched
        rw [dispatch_declined accepts ran, dispatch_declined accepts ran, ih matched]

section Calls

variable {rules : List (Rule ν)} (more : List (Rule ν))

theorem Run.append {starts : List TokenStream} {call : Call ν} {report : Report ν}
    (run : Run rules starts call report) (matched : Avoids Error.IsNoMatch report.result) :
    Run (rules ++ more) starts call report := by
  induction run with
  | finish ended => exact .finish ended
  | fail ahead failed =>
    have same := dispatch_append more (.of_error failed matched)
    rw [← same] at failed ⊢
    exact .fail ahead failed
  | next ahead made _ ih =>
    have same := dispatch_append more (.of_ok made)
    have later := ih matched
    rw [← same] at made later
    exact .next ahead made later

theorem proceed_append {budget : Nat} {call : Call ν}
    (matched : Avoids Error.IsNoMatch (proceed rules budget call).result) :
    proceed (rules ++ more) budget call = proceed rules budget call := by
  induction budget generalizing call with
  | zero => rw [proceed, proceed]
  | succ budget ih =>
    rw [proceed] at matched
    rw [proceed, proceed]
    split
    · rfl
    · rename_i ahead
      rw [if_neg ahead] at matched
      dsimp only at matched ⊢
      cases result : (dispatch call.stream.current rules call.stream).result with
      | ok node =>
        rw [result] at matched
        rw [dispatch_append more (.of_ok result), result]
        exact ih matched
      | error error =>
        rw [result] at matched
        rw [dispatch_append more (.of_error result matched), result]

end Calls

end Parsing

/-- Rules added after those already there change nothing but a lack of rules.  Under more rules, a
lex call that did not end for want of a rule gives the same report, and takes the same turns if it
is left to itself; and so does a parse call. -/
theorem appended_rules_conservative {σ ν : Type} :
    (∀ (cfg : Lexing.Config σ) (more : List (Lexing.Rule σ)),
      (∀ memory input, Avoids Lexing.Error.IsNoMatch (cfg.lex memory input).result →
        (cfg.addRules more).lex memory input = cfg.lex memory input) ∧
      ∀ offers call report, cfg.Run offers call report →
        Avoids Lexing.Error.IsNoMatch report.result → (cfg.addRules more).Run offers call report) ∧
    ∀ rules more : List (Parsing.Rule ν),
      (∀ tokens, Avoids Parsing.Error.IsNoMatch (Parsing.parseTokens rules tokens).result →
        Parsing.parseTokens (rules ++ more) tokens = Parsing.parseTokens rules tokens) ∧
      ∀ starts call report, Parsing.Run rules starts call report →
        Avoids Parsing.Error.IsNoMatch report.result →
          Parsing.Run (rules ++ more) starts call report := by
  refine ⟨fun cfg more => ⟨?_, ?_⟩, fun rules more => ⟨?_, ?_⟩⟩
  · intro memory input matched
    exact Lexing.Config.proceed_addRules more matched
  · intro offers call report run matched
    exact run.addRules more matched
  · intro tokens matched
    exact Parsing.proceed_append more matched
  · intro starts call report run matched
    exact run.append more matched

open Lexing Parsing in
/-- Two rules of which the first declines and is undone, before one that would take all letters in
one token; and two rules for tokens before one that would take them in pairs. -/
theorem appended_rules_conservative_hasty :
    (hasty.addRules (words Text.isLetter)).lex () "abcd" = hasty.lex () "abcd" ∧
    (hasty.lex () "abcd").result =
      .ok [⟨.ident, ⟨1, 3, 2⟩, ⟨1, 4, 3⟩, "c"⟩, ⟨.ident, ⟨1, 4, 3⟩, ⟨1, 5, 4⟩, "d"⟩] ∧
    parseTokens ([rambler, namer] ++ [coupler]) twoNames =
      parseTokens [rambler, namer] twoNames ∧
    (parseTokens [rambler, namer] twoNames).result = .ok ["a", "b"] := by
  have lexed : (hasty.lex () "abcd").result =
      .ok [⟨.ident, ⟨1, 3, 2⟩, ⟨1, 4, 3⟩, "c"⟩, ⟨.ident, ⟨1, 4, 3⟩, ⟨1, 5, 4⟩, "d"⟩] := by
    decide +kernel
  have parsed : (parseTokens [rambler, namer] twoNames).result = .ok ["a", "b"] := rfl
  obtain ⟨lexers, parsers⟩ := appended_rules_conservative (σ := Unit) (ν := String)
  exact ⟨(lexers hasty (words Text.isLetter)).1 () "abcd" (.of_ok lexed), lexed,
    (parsers [rambler, namer] [coupler]).1 twoNames (.of_ok parsed), parsed⟩

end FirstMatch
