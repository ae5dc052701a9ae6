import FirstMatch.Source.Cursor

/-! Scans: repeated steps of a cursor, each decided by the character stepped onto. -/

namespace FirstMatch

/-- The end of a scan: the state reached, the character that stopped it, and the cursor.  There is
no stopping character if the cursor could not step any further. -/
structure Scan (α : Type) where
  state : α
  stopper : Option Char
  cursor : Cursor

namespace Cursor

variable {α : Type}

/-- Steps until `f` refuses the character stepped onto.  The list measures how many steps remain:
it holds the characters ahead. -/
def scanAlong (f : α → Char → Option α) : List Char → α → Cursor → Scan α
  | [], s, c => ⟨s, none, c.next.2⟩
  | _ :: rest, s, c =>
    match c.next with
    | (none, c) => ⟨s, none, c⟩
    | (some ch, c) =>
      match f s ch with
      | none => ⟨s, some ch, c⟩
      | some s => scanAlong f rest s c

/-- Steps at least once, and on until `f` refuses the character stepped onto. -/
def scan (f : α → Char → Option α) (s : α) (c : Cursor) : Scan α :=
  scanAlong f c.here.ahead s c

/-- Steps at least once, and on as long as the character stepped onto satisfies `p`. -/
def stepWhile (p : Char → Bool) (c : Cursor) : Cursor :=
  (c.scan (fun _ ch => if p ch then some () else none) ()).cursor

/-- Steps past the run of characters satisfying `p` that begins here. -/
def skipWhile (p : Char → Bool) (c : Cursor) : Cursor :=
  if c.current.any p then c.stepWhile p else c

/-- Steps `n` times. -/
def skip : Nat → Cursor → Cursor
  | 0, c => c
  | n + 1, c => skip n c.next.2

end Cursor

end FirstMatch
