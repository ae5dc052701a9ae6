import FirstMatch.Proofs.Source.Advance

/-! Cursors under a cancellation.  A cursor whose probe is going to be cancelled shadows one that
nobody cancels: they move alike up to the look at which the alarm goes off, and from then on the
shadow stays where it is. -/

namespace FirstMatch

namespace Cursor

variable {text : List Char} {c other : Cursor} {α : Type}

/-- A cursor whose probe has been cancelled. -/
def Stopped (c : Cursor) : Prop := c.probe.isCancelled = true

namespace Stopped

theorem look (stopped : c.Stopped) : c.look = (true, c) := by
  rw [Stopped, Probe.isCancelled] at stopped
  split at stopped
  · rename_i raised
    simp [Cursor.look, Probe.look, raised]
  · cases stopped

theorem next (stopped : c.Stopped) : c.next = (none, c) := by
  have looked : c.probe.look = (true, c.probe) := by
    have := stopped.look
    simp only [Cursor.look, Prod.mk.injEq] at this
    exact Prod.ext this.1 (congrArg Cursor.probe this.2)
  simp [Cursor.next, looked]

theorem skip (stopped : c.Stopped) (n : Nat) : c.skip n = c := by
  induction n with
  | zero => rfl
  | succ n ih => rw [Cursor.skip, stopped.next, ih]

end Stopped

/-- `other` sits and remembers as `c` does.  Nobody cancels `c`; `other` has not been cancelled so
far. -/
structure Shadows (text : List Char) (c other : Cursor) : Prop where
  here : other.here = c.here
  last : other.last = c.last
  silent : c.probe.alarm = .silent
  pending : ∃ looks, other.probe.alarm = .after looks
  within : other.Within text

namespace Shadows

theorem ofText (input : String) (looks : Nat) :
    Shadows input.toList (ofText input {}) (ofText input { alarm := .after looks }) :=
  ⟨rfl, rfl, rfl, ⟨looks, rfl⟩, .ofText input _⟩

theorem atEnd (h : c.Shadows text other) : other.atEnd = c.atEnd := by
  rw [Cursor.atEnd, h.here, Cursor.atEnd]

theorem current (h : c.Shadows text other) : other.current = c.current := by
  rw [Cursor.current, h.here, Cursor.current]

theorem position (h : c.Shadows text other) : other.position = c.position := by
  rw [Cursor.position, h.here, Cursor.position]

/-- Looking is where the alarm may go off. -/
theorem look (h : c.Shadows text other) :
    other.look.1 = true ∧ other.look.2.Stopped ∨
      other.look.1 = false ∧ c.look = (false, c) ∧ c.Shadows text other.look.2 := by
  obtain ⟨looks, alarm⟩ := h.pending
  cases looks with
  | zero =>
    refine .inl ⟨?_, ?_⟩
    · simp [Cursor.look, Probe.look, alarm]
    · simp [Stopped, Cursor.look, Probe.look, Probe.cancel, Probe.isCancelled, alarm]
  | succ looks =>
    have quiet : c.look = (false, c) := by simp [Cursor.look, Probe.look, h.silent]
    have passed : other.look = (false, { other with probe := { other.probe with
        alarm := .after looks } }) := by
      simp [Cursor.look, Probe.look, alarm]
    have within := h.within.look
    rw [passed] at within ⊢
    exact .inr ⟨rfl, quiet, h.here, h.last, h.silent, ⟨looks, rfl⟩, within⟩

/-- A step looks before it moves. -/
theorem next (h : c.Shadows text other) :
    other.next.1 = none ∧ other.next.2.here = other.here ∧ other.next.2.Stopped ∨
      other.next.1 = c.next.1 ∧ c.next.2.Shadows text other.next.2 := by
  have within := h.within.next
  rcases h.look with ⟨looked, stopped⟩ | ⟨looked, quiet, shadows⟩
  · have off : other.probe.look.1 = true := looked
    refine .inl ?_
    rw [Cursor.next, off]
    exact ⟨rfl, rfl, stopped⟩
  · have on : other.probe.look.1 = false := looked
    have never : c.probe.look = (false, c.probe) := by simp [Probe.look, h.silent]
    obtain ⟨looks, alarm⟩ := shadows.pending
    refine .inr ?_
    rw [Cursor.next, on] at within ⊢
    rw [Cursor.next, never, Bool.false_or, Bool.false_or, h.atEnd, h.here]
    rw [Bool.false_or, h.atEnd, h.here] at within
    cases ended : c.atEnd with
    | true =>
      rw [ended] at within
      exact ⟨rfl, rfl, h.last, h.silent, ⟨looks, alarm⟩, within⟩
    | false =>
      rw [ended] at within
      exact ⟨rfl, rfl, rfl, h.silent, ⟨looks, alarm⟩, within⟩

theorem skip (h : c.Shadows text other) (n : Nat) :
    (other.skip n).Stopped ∨ (c.skip n).Shadows text (other.skip n) := by
  induction n generalizing c other with
  | zero => exact .inr h
  | succ n ih =>
    rcases h.next with ⟨-, -, stopped⟩ | ⟨-, shadows⟩
    · left
      rw [Cursor.skip, stopped.skip]
      exact stopped
    · exact ih shadows

theorem undo (h : c.Shadows text other) :
    other.undo.1 = c.undo.1 ∧ c.undo.2.Shadows text other.undo.2 := by
  have within := h.within.undo
  rw [Cursor.undo, h.last] at within ⊢
  rw [Cursor.undo]
  cases remembered : c.last with
  | none => exact ⟨h.current, h⟩
  | some place =>
    rw [remembered] at within
    exact ⟨rfl, rfl, rfl, h.silent, h.pending, within⟩

end Shadows

/-- How the scan of a shadow ends: cut off where it began or on a character that let it go on, or as
the scan that it shadows ends. -/
inductive ScanShadows (text : List Char) (f : α → Char → Option α) (start : Place)
    (scan other : Scan α) : Prop
  | cut (stopped : other.cursor.Stopped) (stopper : other.stopper = none)
      (place : other.cursor.here = start ∨
        ∃ s ch s', other.cursor.current = some ch ∧ f s ch = some s')
  | through (state : other.state = scan.state) (stopper : other.stopper = scan.stopper)
      (cursor : scan.cursor.Shadows text other.cursor)

theorem current_next {ch : Char} (stepped : c.next.1 = some ch) : c.next.2.current = some ch := by
  rw [Cursor.next] at stepped ⊢
  split at stepped
  · cases stepped
  · rename_i moves
    rw [if_neg moves]
    exact stepped

namespace Shadows

theorem scanAlong (f : α → Char → Option α) (along : List Char) (s : α)
    (h : c.Shadows text other) :
    ScanShadows text f other.here (scanAlong f along s c) (scanAlong f along s other) := by
  induction along generalizing s c other with
  | nil =>
    rcases h.next with ⟨-, stays, stopped⟩ | ⟨-, shadows⟩
    · exact .cut stopped rfl (.inl stays)
    · exact .through rfl rfl shadows
  | cons _ rest ih =>
    have stepped := h.next
    have onto := @current_next other
    obtain ⟨found, moved, next⟩ : ∃ found moved, other.next = (found, moved) := ⟨_, _, rfl⟩
    obtain ⟨_, plain, step⟩ : ∃ found plain, c.next = (found, plain) := ⟨_, _, rfl⟩
    rw [next, step] at stepped
    rw [next] at onto
    rw [Cursor.scanAlong, Cursor.scanAlong, next, step]
    rcases stepped with ⟨nothing, stays, stopped⟩ | ⟨same, shadows⟩
    · obtain rfl : found = none := nothing
      exact .cut stopped rfl (.inl stays)
    · obtain rfl : found = _ := same
      cases found with
      | none => exact .through rfl rfl shadows
      | some ch =>
        cases goes : f s ch with
        | none =>
          simp only [goes]
          exact .through rfl rfl shadows
        | some s' =>
          simp only [goes]
          cases ih s' shadows with
          | cut stopped stopper place =>
            refine .cut stopped stopper (.inr ?_)
            rcases place with stays | allowed
            · refine ⟨s, ch, s', ?_, goes⟩
              rw [Cursor.current, stays]
              exact onto rfl
            · exact allowed
          | through state stopper cursor => exact .through state stopper cursor

theorem scan (f : α → Char → Option α) (s : α) (h : c.Shadows text other) :
    ScanShadows text f other.here (c.scan f s) (other.scan f s) := by
  rw [Cursor.scan, Cursor.scan, ← h.here]
  exact h.scanAlong f _ s

theorem stepWhile (p : Char → Bool) (h : c.Shadows text other) :
    (other.stepWhile p).Stopped ∨ (c.stepWhile p).Shadows text (other.stepWhile p) := by
  cases h.scan (fun _ ch => if p ch then some () else none) () with
  | cut stopped => exact .inl stopped
  | through _ _ cursor => exact .inr cursor

/-- A run that is cut off stops on one of the characters that it was to step past. -/
theorem skipWhile (p : Char → Bool) (h : c.Shadows text other) :
    (other.skipWhile p).Stopped ∧ (other.skipWhile p).current.any p = true ∨
      (c.skipWhile p).Shadows text (other.skipWhile p) := by
  rw [Cursor.skipWhile, Cursor.skipWhile, h.current]
  split
  · rename_i begins
    cases h.scan (fun _ ch => if p ch then some () else none) () with
    | through _ _ cursor => exact .inr cursor
    | cut stopped _ place =>
      refine .inl ⟨stopped, ?_⟩
      rcases place with stays | ⟨_, ch, _, on, allowed⟩
      · have current : (other.stepWhile p).current = c.current := by
          rw [← h.current]
          exact congrArg Place.current stays
        rw [current]
        exact begins
      · have current : (other.stepWhile p).current = some ch := on
        rw [current, Option.any_some]
        by_contra refused
        simp [refused] at allowed
  · exact .inr h

end Shadows

end Cursor

end FirstMatch
