import FirstMatch.Proofs.Source.Index
import FirstMatch.Source.Scan

/-! Walks: a cursor moved about in a text, with clones saved and gone back to on the way.  However
it is moved, it stays within the text: it sits on one of the text's places and remembers none but
these. -/

namespace FirstMatch

/-- One thing to do with a cursor or its saved clones. -/
inductive Move where
  | next
  | undo
  | look
  | cancel
  | save
  /-- Goes back to clone number `i`, if there is one. -/
  | load (i : Nat)
  deriving DecidableEq

/-- A cursor and the clones saved of it, oldest first. -/
structure Walk where
  cursor : Cursor
  saved : List Cursor := []

namespace Walk

def step (w : Walk) : Move → Walk
  | .next => { w with cursor := w.cursor.next.2 }
  | .undo => { w with cursor := w.cursor.undo.2 }
  | .look => { w with cursor := w.cursor.look.2 }
  | .cancel => { w with cursor := w.cursor.cancel }
  | .save => { w with saved := w.saved ++ [w.cursor] }
  | .load i =>
    match w.saved[i]? with
    | some clone => { w with cursor := w.cursor.reload clone }
    | none => w

def run (w : Walk) (moves : List Move) : Walk := moves.foldl step w

end Walk

namespace Cursor

/-- Where a cursor gets to by some moves, with no clones to begin with. -/
def after (c : Cursor) (moves : List Move) : Cursor := (Walk.run ⟨c, []⟩ moves).cursor

theorem sliceFrom_nth {text : List Char} {i j : Nat} {c : Cursor} (here : c.here = .nth text j)
    (ordered : i ≤ j) :
    c.sliceFrom (.derived text i) = String.ofList ((text.take j).drop i) := by
  rw [sliceFrom, here, Position.offset_derived, Place.since_nth ordered]

/-- The cursor sits on a place of `text` and remembers none but places of `text`. -/
structure Within (text : List Char) (c : Cursor) : Prop where
  here : ∃ j ≤ text.length, c.here = .nth text j
  last : ∀ place, c.last = some place → ∃ i ≤ text.length, place = .nth text i

namespace Within

variable {text : List Char} {c : Cursor}

theorem ofText (input : String) (probe : Probe) : (ofText input probe).Within input.toList :=
  ⟨⟨0, Nat.zero_le _, Place.start_eq_nth _⟩, fun _ none => nomatch none⟩

theorem next (within : c.Within text) : c.next.2.Within text := by
  rw [Cursor.next]
  split
  · exact ⟨within.here, within.last⟩
  · rename_i moves
    obtain ⟨j, bound, here⟩ := within.here
    have inside : j < text.length := by
      by_contra outside
      simp [atEnd, here, Nat.not_lt.mp outside] at moves
    refine ⟨⟨j + 1, inside, ?_⟩, fun place left => ⟨j, bound, ?_⟩⟩
    · rw [here, Place.step_nth inside]
    · rw [← here]
      exact (Option.some.inj left).symm

theorem undo (within : c.Within text) : c.undo.2.Within text := by
  rw [Cursor.undo]
  split
  · rename_i place left
    exact ⟨within.last place left, within.last⟩
  · exact within

theorem look (within : c.Within text) : c.look.2.Within text := ⟨within.here, within.last⟩

theorem skip (within : c.Within text) (n : Nat) : (c.skip n).Within text := by
  induction n generalizing c with
  | zero => exact within
  | succ n ih => exact ih within.next

/-- The position of a cursor and the one it remembers, as derived from the text. -/
theorem position (within : c.Within text) :
    ∃ j ≤ text.length, c.position = .derived text j ∧ c.current = text[j]? := by
  obtain ⟨j, bound, here⟩ := within.here
  exact ⟨j, bound, by simp [Cursor.position, here], by simp [Cursor.current, here]⟩

theorem previous (within : c.Within text) :
    c.previous = .unknown ∨ ∃ i ≤ text.length, c.previous = .derived text i := by
  rw [Cursor.previous]
  split
  · rename_i place left
    obtain ⟨i, bound, place⟩ := within.last place left
    exact .inr ⟨i, bound, by rw [place, Place.position_nth]⟩
  · exact .inl rfl

end Within

/-- A property of cursors that stepping and undoing keep and that the probe has no part in. -/
structure Lasting (P : Cursor → Prop) : Prop where
  next : ∀ {c : Cursor}, P c → P c.next.2
  undo : ∀ {c : Cursor}, P c → P c.undo.2
  probe : ∀ {c : Cursor} (probe : Probe), P c → P { c with probe }

end Cursor

namespace Walk

/-- The cursor and all its clones satisfy `P`. -/
structure All (P : Cursor → Prop) (w : Walk) : Prop where
  cursor : P w.cursor
  saved : ∀ clone ∈ w.saved, P clone

variable {P : Cursor → Prop} {w : Walk}

theorem All.step (lasting : Cursor.Lasting P) (all : w.All P) (move : Move) :
    (w.step move).All P := by
  cases move with
  | next => exact ⟨lasting.next all.cursor, all.saved⟩
  | undo => exact ⟨lasting.undo all.cursor, all.saved⟩
  | look => exact ⟨lasting.probe _ all.cursor, all.saved⟩
  | cancel => exact ⟨lasting.probe _ all.cursor, all.saved⟩
  | save =>
    refine ⟨all.cursor, fun clone member => ?_⟩
    rcases List.mem_append.mp member with old | new
    · exact all.saved clone old
    · rw [List.mem_singleton.mp new]
      exact all.cursor
  | load i =>
    rw [Walk.step]
    split
    · rename_i clone found
      exact ⟨lasting.probe _ (all.saved clone (List.mem_of_getElem? found)), all.saved⟩
    · exact all

theorem All.run (lasting : Cursor.Lasting P) (all : w.All P) (moves : List Move) :
    (w.run moves).All P := by
  induction moves generalizing w with
  | nil => exact all
  | cons move rest ih => exact ih (all.step lasting move)

end Walk

namespace Cursor

variable {P : Cursor → Prop} {text : List Char} {c : Cursor}

/-- A lasting property holds wherever the cursor gets to. -/
theorem Lasting.after (lasting : Lasting P) (first : P c) (moves : List Move) :
    P (c.after moves) :=
  (Walk.All.run lasting ⟨first, by simp⟩ moves).cursor

theorem Within.lasting (text : List Char) : Lasting (Within text) :=
  ⟨Within.next, Within.undo, fun _ within => ⟨within.here, within.last⟩⟩

theorem Within.after (within : c.Within text) (moves : List Move) : (c.after moves).Within text :=
  (lasting text).after within moves

end Cursor

end FirstMatch
