import FirstMatch.Rule
import FirstMatch.Text.Quoted
import FirstMatch.Token.Basic

/-! Why a lex call fails. -/

namespace FirstMatch.Lexing

open Text

inductive Error where
  /-- A rule failed. -/
  | refused (rule : String) (cause : Refusal)
  /-- A rule gave a token that it never started or ended. -/
  | unbounded (rule : String) (position : Position)
  /-- A rule gave a token that covers no input. -/
  | empty (rule : String) (position : Position)
  /-- A rule gave a token that it never classified. -/
  | illegal (span : Span) (literal : String)
  | noMatch (ch : Char) (position : Position)
  | loop (position : Position)
  deriving DecidableEq

namespace Error

def message : Error → String
  | refused rule cause => "lexer error: rule " ++ quoteString rule ++ " failed: " ++ cause.display
  | unbounded rule position =>
    "lexer error: rule " ++ quoteString rule ++ " at " ++ position.display ++
      " produced a token with an invalid start and/or end position" ++
      " (did you forget to start or end the rule?)"
  | empty rule position =>
    "lexer error: rule " ++ quoteString rule ++ " produced an empty token at " ++ position.display
  | illegal span literal =>
    "lexer error: illegal token at " ++ span.display ++ ": " ++ quoteString literal
  | noMatch ch position =>
    "lexer error: no rule to handle character " ++ quoteChar ch ++ " at " ++ position.display
  | loop position => "lexer error: detected a possible infinite loop at " ++ position.display

/-- Where the failure was noticed. -/
def position : Error → Position
  | refused _ cause => cause.position
  | illegal span _ => span.start
  | unbounded _ position | empty _ position | noMatch _ position | loop position => position

end Error

end FirstMatch.Lexing
