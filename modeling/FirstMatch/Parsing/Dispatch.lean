import FirstMatch.Parsing.Error
import FirstMatch.Parsing.Event
import FirstMatch.Parsing.TokenStream

/-! One dispatch of the parser: the token under the cursor is offered to the rules in order, and the
first that accepts it and gives a node wins. -/

namespace FirstMatch.Parsing

variable {ν : Type}

/-- The end of a dispatch. -/
structure Dispatch (ν : Type) where
  result : Except Error ν
  stream : TokenStream
  log : List Event

/-- A dispatch with events reported before it. -/
def Dispatch.after (events : List Event) (d : Dispatch ν) : Dispatch ν :=
  { d with log := events ++ d.log }

@[simp] theorem Dispatch.result_after (events : List Event) (d : Dispatch ν) :
    (d.after events).result = d.result := rfl

@[simp] theorem Dispatch.stream_after (events : List Event) (d : Dispatch ν) :
    (d.after events).stream = d.stream := rfl

/-- Offers a token to the rules.  After a rule declines, the cursor returns to where it was before
the rule ran. -/
def dispatch (token : Token) : List (Rule ν) → TokenStream → Dispatch ν
  | [], s => ⟨.error (.noMatch token.literal token.span), s, []⟩
  | rule :: rest, s =>
    if rule.accepts token then
      let saved := s.checkpoint
      Dispatch.after [.attempting rule.name token, .running rule.name] <|
        match rule.run token s with
        | (.ok node, moved) => ⟨.ok node, moved, []⟩
        | (.error (.fail message position), moved) =>
          ⟨.error (.refused rule.name (.fail message position)), moved, []⟩
        | (.error (.decline message _), moved) =>
          (dispatch token rest (moved.restore saved)).after
            [.declined rule.name message saved.position]
    else (dispatch token rest s).after [.attempting rule.name token]

end FirstMatch.Parsing
