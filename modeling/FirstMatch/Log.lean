import FirstMatch.Text.Quoted

/-! Log lines: what a call reports about its progress. -/

namespace FirstMatch.Log

open Text

inductive Level where
  | trace
  | debug
  | warn
  | error
  deriving DecidableEq

def Level.name : Level → String
  | trace => "TRACE"
  | debug => "DEBUG"
  | warn => "WARN"
  | error => "ERROR"

structure Line where
  level : Level
  target : String
  message : String
  fields : List (String × String) := []
  deriving DecidableEq

/-- A character of a message: one that would ring, move or recolour a terminal is escaped. -/
def escapeControl (c : Char) : String :=
  match c with
  | '\x07' => "\\x07"
  | '\x08' => "\\x08"
  | '\x0c' => "\\x0c"
  | '\x1b' => "\\x1b"
  | '\x7f' => "\\x7f"
  | _ => if '\u0080' ≤ c ∧ c ≤ '\u009f' then escapeCodePoint c else c.toString

/-- The fields are written as they are. -/
def Line.render (line : Line) : String :=
  line.level.name ++ " " ++ line.target ++ ": " ++
    String.join (line.message.toList.map escapeControl) ++
    String.join (line.fields.map fun (key, value) => " " ++ key ++ "=" ++ value)

end FirstMatch.Log
