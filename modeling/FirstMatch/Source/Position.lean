import FirstMatch.Text.CharClass
import FirstMatch.Text.Outline

/-! Points and spans of a source text. -/

namespace FirstMatch

open Text

/-- A point of a text.  Lines and columns count from one and columns count characters; the offset
counts bytes of UTF-8. -/
structure Position where
  line : Nat
  column : Nat
  offset : Nat
  deriving DecidableEq

namespace Position

/-- The start of a text. -/
def origin : Position := ⟨1, 1, 0⟩

/-- No position at all. -/
def unknown : Position := ⟨0, 0, 0⟩

def isValid (p : Position) : Bool := 0 < p.line && 0 < p.column

/-- The position after stepping from the character `left` onto what follows it.  Stepping onto a
line break starts a new line, except from a backslash or a single quote. -/
def past (p : Position) (left : Char) (onto : Option Char) : Position :=
  let offset := p.offset + left.utf8Size
  if left ≠ '\\' ∧ left ≠ '\'' ∧ onto.any isNewline then ⟨p.line + 1, 1, offset⟩
  else ⟨p.line, p.column + 1, offset⟩

def display (p : Position) : String :=
  if p.isValid then toString p.line ++ ":" ++ toString p.column else "-"

def outline (p : Position) : Outline :=
  .record "Position"
    [("line", .nat p.line), ("column", .nat p.column), ("offset", .nat p.offset)]

end Position

/-- The stretch of a text between two positions. -/
structure Span where
  start : Position
  stop : Position
  deriving DecidableEq

namespace Span

def isValid (s : Span) : Bool := s.start.isValid && s.stop.isValid

/-- A span within one line names the line once. -/
def display (s : Span) : String :=
  if s.start.line = s.stop.line then
    toString s.start.line ++ ":" ++ toString s.start.column ++ ":" ++ toString s.stop.column
  else s.start.display ++ ":" ++ s.stop.display

end Span

end FirstMatch
