import FirstMatch.Source.Position
import FirstMatch.Watch.Probe

/-! A cursor over a text.  It sits on a character, steps forward one character at a time and can
undo its last step. -/

namespace FirstMatch

/-- A place in a text: what lies behind it, nearest first, what lies ahead, and its position. -/
structure Place where
  behind : List Char
  ahead : List Char
  position : Position
  deriving DecidableEq

namespace Place

def start (text : List Char) : Place := ⟨[], text, .origin⟩

def text (p : Place) : List Char := p.behind.reverse ++ p.ahead

def current (p : Place) : Option Char := p.ahead.head?

/-- One character further on; the end of the text stays where it is. -/
def step (p : Place) : Place :=
  match p.ahead with
  | [] => p
  | c :: rest => ⟨c :: p.behind, rest, p.position.past c rest.head?⟩

@[simp] theorem text_start (text : List Char) : (start text).text = text := rfl

theorem ahead_step (p : Place) : p.step.ahead = p.ahead.tail := by
  rw [step]
  split <;> simp_all

/-- Stepping moves the boundary between behind and ahead and leaves the text as it is. -/
@[simp] theorem text_step (p : Place) : p.step.text = p.text := by
  rw [step]
  split
  · rfl
  · rename_i h
    simp [text, h]

/-- The characters between byte offset `start` and a point at byte offset `here`, given those
before the point, nearest first, and those already collected.  An offset after the point or inside
a character gives none. -/
def between (start : Nat) : List Char → List Char → Nat → List Char
  | [], found, here => if here < start then [] else found
  | c :: behind, found, here =>
    if here < start then []
    else if here = start then found
    else between start behind (c :: found) (here - c.utf8Size)

/-- The text from a byte offset up to this place. -/
def since (p : Place) (start : Nat) : List Char := between start p.behind [] p.position.offset

end Place

/-- A cursor: its place, the place its last step left, and the probe it reports to. -/
structure Cursor where
  here : Place
  last : Option Place
  probe : Probe
  deriving DecidableEq

namespace Cursor

/-- A cursor at the start of a text. -/
def ofText (text : String) (probe : Probe) : Cursor :=
  ⟨.start text.toList, none, probe.record 0⟩

def input (c : Cursor) : String := String.ofList c.here.text

def position (c : Cursor) : Position := c.here.position

/-- The position that `undo` goes to. -/
def previous (c : Cursor) : Position :=
  match c.last with
  | some place => place.position
  | none => .unknown

def atEnd (c : Cursor) : Bool := c.here.ahead.isEmpty

def current (c : Cursor) : Option Char := c.here.current

/-- Steps to the next character and gives it.  At the end of the text, or once cancelled, the
cursor stays and gives nothing. -/
def next (c : Cursor) : Option Char × Cursor :=
  let looked := c.probe.look
  if looked.1 || c.atEnd then (none, { c with probe := looked.2 })
  else
    let there := c.here.step
    (there.current, ⟨there, some c.here, looked.2.record there.position.offset⟩)

/-- Goes back to where the last step began and gives the character there.  A cursor that has never
moved stays. -/
def undo (c : Cursor) : Option Char × Cursor :=
  match c.last with
  | some place =>
    (place.current, { c with here := place, probe := c.probe.record place.position.offset })
  | none => (c.current, c)

/-- Up to `n` characters from the cursor on. -/
def lookahead (c : Cursor) (n : Nat) : String := String.ofList (c.here.ahead.take n)

/-- The text between a position and the cursor, and nothing where that is no stretch of whole
characters. -/
def sliceFrom (c : Cursor) (start : Position) : String := String.ofList (c.here.since start.offset)

/-- Goes back to a saved cursor.  The probe is shared, so it keeps its state. -/
def reload (c saved : Cursor) : Cursor := { saved with probe := c.probe }

def look (c : Cursor) : Bool × Cursor :=
  let looked := c.probe.look
  (looked.1, { c with probe := looked.2 })

def cancel (c : Cursor) : Cursor := { c with probe := c.probe.cancel }

end Cursor

end FirstMatch
