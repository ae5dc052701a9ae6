import FirstMatch.Log
import FirstMatch.Token.Basic

/-! What a parse call reports while it runs. -/

namespace FirstMatch.Parsing

open Text

inductive Event where
  | attempting (rule : String) (token : Token)
  | running (rule : String)
  | declined (rule : String) (reason : String) (restored : Position)
  | parsed (nodes : Nat)
  deriving DecidableEq

def Event.line : Event → Log.Line
  | attempting rule token =>
    ⟨.trace, "parsekit::parser", "attempting rule",
      [("rule", quoteString rule), ("token", token.display)]⟩
  | running rule => ⟨.debug, "parsekit::parser", "running action", [("rule", quoteString rule)]⟩
  | declined rule reason restored =>
    ⟨.debug, "parsekit::parser", "moving to next rule",
      [("rule", quoteString rule), ("reason", reason), ("restore_to", restored.display)]⟩
  | parsed nodes => ⟨.debug, "parsekit::parser", "parsed input", [("nodes", toString nodes)]⟩

end FirstMatch.Parsing
