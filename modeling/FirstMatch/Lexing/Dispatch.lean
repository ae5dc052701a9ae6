import FirstMatch.Lexing.Config
import FirstMatch.Lexing.Error
import FirstMatch.Lexing.Event

/-! One dispatch of the lexer: the character under the cursor is offered to the rules in order, and
the first that accepts it and gives a token wins. -/

namespace FirstMatch.Lexing

variable {σ : Type}

/-- The checks that a token from a rule started at `started` has to pass. -/
def checkToken (rule : String) (started : Position) (token : Token) : Except Error Token :=
  if !token.isValid then .error (.unbounded rule started)
  else if token.stop.offset ≤ token.start.offset then .error (.empty rule token.start)
  else if token.kind.isIllegal then .error (.illegal token.span token.literal)
  else .ok token

/-- The report of a watch that has given up on this context. -/
def Context.loopEvent (ctx : Context σ) (watch : Watch) : Event :=
  let offset := ctx.cursor.probe.cancelledAt
  .looping offset (watch.samplesAt offset)

/-- The end of a dispatch. -/
structure Dispatch (σ : Type) where
  result : Except Error Token
  context : Context σ
  log : List Event

/-- A dispatch with events reported before it. -/
def Dispatch.after (events : List Event) (d : Dispatch σ) : Dispatch σ :=
  { d with log := events ++ d.log }

@[simp] theorem Dispatch.result_after (events : List Event) (d : Dispatch σ) :
    (d.after events).result = d.result := rfl

@[simp] theorem Dispatch.context_after (events : List Event) (d : Dispatch σ) :
    (d.after events).context = d.context := rfl

/-- Offers a character to the rules.  After a rule declines, the cursor undoes its last step and the
rules that follow are offered the character found there. -/
def dispatch (watch : Watch) : List (Rule σ) → Char → Context σ → Dispatch σ
  | [], ch, ctx => ⟨.error (.noMatch ch ctx.position), ctx, []⟩
  | rule :: rest, ch, ctx =>
    if rule.accepts ch then
      let ran := rule.run ch ctx
      let looked := ran.2.look
      Dispatch.after [.attempting rule.name ch, .running rule.name] <|
        if looked.1 then ⟨.error (.loop looked.2.position), looked.2, [looked.2.loopEvent watch]⟩
        else
          match ran.1 with
          | .ok token => ⟨checkToken rule.name ctx.position token, looked.2, []⟩
          | .error (.fail message position) =>
            ⟨.error (.refused rule.name (.fail message position)), looked.2, []⟩
          | .error (.decline message _) =>
            Dispatch.after [.declined rule.name message] <|
              match looked.2.undo with
              | (some found, back) => dispatch watch rest found back
              | (none, back) => ⟨.error (.noMatch ch back.position), back, []⟩
    else (dispatch watch rest ch ctx).after [.attempting rule.name ch]

end FirstMatch.Lexing
