import FirstMatch.Lexing.Error

/-! Why a parse call fails. -/

namespace FirstMatch.Parsing

open Text

inductive Error where
  /-- The input could not be lexed. -/
  | lexing (cause : Lexing.Error)
  /-- A rule failed. -/
  | refused (rule : String) (cause : Refusal)
  | noMatch (literal : String) (span : Span)
  /-- The rules were led back to a token they had been offered before and would go on for ever. -/
  | endless (span : Span)
  deriving DecidableEq

def Error.message : Error → String
  | lexing cause => "parser error: " ++ cause.message
  | refused rule cause => "parser error: rule " ++ quoteString rule ++ " failed: " ++ cause.display
  | noMatch literal span =>
    "parser error: no rule to handle token " ++ quoteString literal ++ " at " ++ span.display
  | endless span => "parser error: rules keep returning to " ++ span.display

end FirstMatch.Parsing
