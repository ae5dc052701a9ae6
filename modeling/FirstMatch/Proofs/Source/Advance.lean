import FirstMatch.Proofs.Source.Walk

/-! Cursors that nobody cancels, moving forward.  `Cursor.At text j` is a cursor on index `j` of
`text` under a silent probe; `skip n` takes it `n` indexes further, or to the end of the text, and
every scan is such a `skip`.  A cursor that has `Arrived` would undo the step that brought it to its
index; a `Settled` one has nothing to undo. -/

namespace FirstMatch

namespace Cursor

theorem skip_add (c : Cursor) (m n : Nat) : c.skip (m + n) = (c.skip m).skip n := by
  induction m generalizing c with
  | zero => rw [Nat.zero_add]; rfl
  | succ m ih =>
    rw [Nat.add_right_comm]
    exact ih c.next.2

theorem skip_succ (c : Cursor) (n : Nat) : c.skip (n + 1) = (c.skip n).next.2 := skip_add c n 1

/-- A cursor on index `j` of `text`, with a probe that is never cancelled. -/
structure At (text : List Char) (j : Nat) (c : Cursor) : Prop where
  here : c.here = .nth text j
  bound : j ≤ text.length
  silent : c.probe.alarm = .silent

namespace At

variable {text : List Char} {j : Nat} {c : Cursor}

theorem ofText (input : String) : (ofText input {}).At input.toList 0 :=
  ⟨Place.start_eq_nth _, Nat.zero_le _, rfl⟩

theorem position (h : c.At text j) : c.position = .derived text j := by
  simp [Cursor.position, h.here]

theorem current (h : c.At text j) : c.current = text[j]? := by simp [Cursor.current, h.here]

theorem atEnd (h : c.At text j) : c.atEnd = decide (j = text.length) := by
  have := h.bound
  by_cases last : j = text.length
  · simp [Cursor.atEnd, h.here, last]
  · simp [Cursor.atEnd, h.here, last]
    omega

theorem look (h : c.At text j) : c.look = (false, c) := by
  have quiet : c.probe.look = (false, c.probe) := by simp [Probe.look, h.silent]
  simp [Cursor.look, quiet]

theorem next_end (h : c.At text text.length) : c.next = (none, c) := by
  have quiet : c.probe.look = (false, c.probe) := by simp [Probe.look, h.silent]
  simp [Cursor.next, quiet, h.atEnd]

theorem next_eq (h : c.At text j) (inside : j < text.length) :
    c.next = (text[j + 1]?, ⟨.nth text (j + 1), some (.nth text j),
      c.probe.record (byteLength (text.take (j + 1)))⟩) := by
  have quiet : c.probe.look = (false, c.probe) := by simp [Probe.look, h.silent]
  have more : c.atEnd = false := by simp [h.atEnd, Nat.ne_of_lt inside]
  simp [Cursor.next, quiet, more, h.here, Place.step_nth inside]

theorem next (h : c.At text j) (inside : j < text.length) : c.next.2.At text (j + 1) := by
  rw [h.next_eq inside]
  exact ⟨rfl, inside, h.silent⟩

theorem skip (h : c.At text j) (n : Nat) : (c.skip n).At text (min (j + n) text.length) := by
  induction n generalizing c j with
  | zero => rw [Nat.add_zero, Nat.min_eq_left h.bound]; exact h
  | succ n ih =>
    by_cases inside : j < text.length
    · have rest := ih (h.next inside)
      rw [Nat.add_assoc, Nat.add_comm 1] at rest
      exact rest
    · have last : j = text.length := Nat.le_antisymm h.bound (Nat.not_lt.mp inside)
      subst last
      have stays : c.skip (n + 1) = c.skip n := by rw [Cursor.skip, h.next_end]
      rw [stays, Nat.min_eq_right (by omega)]
      have rest := ih h
      rw [Nat.min_eq_right (by omega)] at rest
      exact rest

/-- `skip` inside the text. -/
theorem skip_of_le (h : c.At text j) {n : Nat} (inside : j + n ≤ text.length) :
    (c.skip n).At text (j + n) := by
  have moved := h.skip n
  rw [Nat.min_eq_left inside] at moved
  exact moved

/-- Undoing a step that moved goes back to where it began. -/
theorem undo_next (h : c.At text j) (inside : j < text.length) :
    c.next.2.undo.1 = text[j]? ∧ c.next.2.undo.2.At text j := by
  rw [h.next_eq inside]
  exact ⟨Place.current_nth text j, ⟨rfl, h.bound, h.silent⟩⟩

/-- After one or more steps from a character, undoing one finds a character not before it. -/
theorem undo_skip (h : c.At text j) (inside : j < text.length) (n : Nat) :
    ∃ k, j ≤ k ∧ k < text.length ∧ (c.skip (n + 1)).undo.1 = text[k]? ∧
      (c.skip (n + 1)).undo.2.At text k := by
  induction n with
  | zero => exact ⟨j, le_rfl, inside, h.undo_next inside⟩
  | succ n ih =>
    have moved := h.skip (n + 1)
    by_cases more : j + (n + 1) < text.length
    · rw [Nat.min_eq_left (by omega)] at moved
      rw [skip_succ]
      exact ⟨j + (n + 1), by omega, more, moved.undo_next more⟩
    · rw [Nat.min_eq_right (by omega)] at moved
      rw [skip_succ, moved.next_end]
      exact ih

end At

theorem At.index_eq {text : List Char} {i j : Nat} {c : Cursor} (h : c.At text i)
    (other : c.At text j) : i = j := by
  have same := congrArg (fun place => place.ahead.length) (h.here.symm.trans other.here)
  simp only [Place.ahead_nth, List.length_drop] at same
  have := h.bound
  have := other.bound
  omega

/-- The place before index `j`, if there is one. -/
def placeBefore (text : List Char) : Nat → Option Place
  | 0 => none
  | i + 1 => some (.nth text i)

/-- A cursor that its last step has brought to index `j`.  On the first character, it has made no
step. -/
structure Arrived (text : List Char) (j : Nat) (c : Cursor) : Prop where
  cursor : c.At text j
  last : c.last = placeBefore text j

/-- A cursor that undoing leaves where it is. -/
def Settled (c : Cursor) : Prop := c.undo = (c.current, c)

section Arrivals

variable {text : List Char} {j : Nat} {c : Cursor}

theorem Arrived.ofText (input : String) : (ofText input {}).Arrived input.toList 0 :=
  ⟨.ofText input, rfl⟩

theorem Arrived.settled (h : c.Arrived text 0) : c.Settled := by
  rw [Settled, undo, h.last, placeBefore]

theorem At.arrived_next (h : c.At text j) (inside : j < text.length) :
    c.next.2.Arrived text (j + 1) := by
  refine ⟨h.next inside, ?_⟩
  rw [h.next_eq inside, placeBefore]

theorem At.settled_undo_next (h : c.At text j) (inside : j < text.length) :
    c.next.2.undo.2.Settled := by
  rw [h.next_eq inside]
  rfl

theorem Arrived.next (h : c.Arrived text j) : ∃ k, c.next.2.Arrived text k := by
  rcases Nat.lt_or_eq_of_le h.cursor.bound with inside | rfl
  · exact ⟨_, h.cursor.arrived_next inside⟩
  · rw [h.cursor.next_end]
    exact ⟨_, h⟩

/-- A cursor that has arrived somewhere has also arrived wherever it steps from there. -/
theorem Arrived.skip {n k : Nat} (h : c.Arrived text j) (there : (c.skip n).At text k) :
    (c.skip n).Arrived text k := by
  induction n generalizing c j with
  | zero =>
    rw [← h.cursor.index_eq there]
    exact h
  | succ n ih =>
    obtain ⟨_, stepped⟩ := h.next
    exact ih stepped there

/-- However it came to index `j`, a cursor that steps on from there arrives. -/
theorem At.arrived_skip {n k : Nat} (h : c.At text j) (there : (c.skip n).At text k)
    (further : j < k) : (c.skip n).Arrived text k := by
  have inside : j < text.length := further.trans_le there.bound
  cases n with
  | zero => exact absurd (h.index_eq there) (Nat.ne_of_lt further)
  | succ n => exact (h.arrived_next inside).skip there

end Arrivals

/-- Every scan is a number of steps. -/
theorem scanAlong_cursor {α : Type} (f : α → Char → Option α) (along : List Char) (s : α)
    (c : Cursor) : ∃ n, (scanAlong f along s c).cursor = c.skip n := by
  induction along generalizing s c with
  | nil => exact ⟨1, rfl⟩
  | cons _ rest ih =>
    rw [scanAlong]
    split
    · rename_i moved stuck
      exact ⟨1, by rw [Cursor.skip, stuck]; rfl⟩
    · rename_i ch moved stepped
      split
      · exact ⟨1, by rw [Cursor.skip, stepped]; rfl⟩
      · rename_i s' _
        obtain ⟨n, steps⟩ := ih s' moved
        exact ⟨n + 1, by rw [steps, Cursor.skip, stepped]⟩

theorem scan_cursor {α : Type} (f : α → Char → Option α) (s : α) (c : Cursor) :
    ∃ n, (c.scan f s).cursor = c.skip n := scanAlong_cursor f _ s c

theorem stepWhile_cursor (p : Char → Bool) (c : Cursor) : ∃ n, c.stepWhile p = c.skip n :=
  scan_cursor _ _ c

theorem skipWhile_cursor (p : Char → Bool) (c : Cursor) : ∃ n, c.skipWhile p = c.skip n := by
  rw [skipWhile]
  split
  · exact stepWhile_cursor p c
  · exact ⟨0, rfl⟩

end Cursor

end FirstMatch
