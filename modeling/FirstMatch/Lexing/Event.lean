import FirstMatch.Log
import FirstMatch.Text.Quoted

/-! What a lex call reports while it runs. -/

namespace FirstMatch.Lexing

open Text

inductive Event where
  | attempting (rule : String) (ch : Char)
  | running (rule : String)
  | declined (rule : String) (reason : String)
  | looping (offset samples : Nat)
  | lexed (tokens : Nat)
  deriving DecidableEq

def Event.line : Event → Log.Line
  | attempting rule ch =>
    ⟨.trace, "parsekit::lexer", "attempting rule",
      [("rule", quoteString rule), ("ch", quoteChar ch)]⟩
  | running rule => ⟨.debug, "parsekit::lexer", "running action", [("rule", quoteString rule)]⟩
  | declined rule reason =>
    ⟨.debug, "parsekit::lexer", "moving to next rule",
      [("rule", quoteString rule), ("reason", reason)]⟩
  | looping offset samples =>
    ⟨.warn, "parsekit::watchdog", "detected a possible infinite loop",
      [("offset", toString offset), ("samples", toString samples)]⟩
  | lexed tokens => ⟨.debug, "parsekit::lexer", "lexed input", [("tokens", toString tokens)]⟩

end FirstMatch.Lexing
