import FirstMatch.Proofs.Source.Advance

/-! What scans take of a text.  A scan from a character reads on for as long as its step function
allows; `Cursor.At.scan` says so with `List.foldlM` over the characters read. -/

namespace FirstMatch

namespace Cursor

variable {α : Type} {text : List Char} {j : Nat} {c : Cursor}

/-- A scan takes characters from the next one on, and stops on one that is refused or at the end of
the text. -/
theorem At.scanAlong (f : α → Char → Option α) (along : List Char) (s : α) (h : c.At text j)
    (inside : j < text.length) (measure : along = text.drop j) :
    ∃ taken, taken <+: text.drop (j + 1) ∧
      taken.foldlM f s = some (scanAlong f along s c).state ∧
      (scanAlong f along s c).cursor.At text (j + 1 + taken.length) ∧
      (scanAlong f along s c).stopper = text[j + 1 + taken.length]? ∧
      ∀ ch, (scanAlong f along s c).stopper = some ch →
        f (scanAlong f along s c).state ch = none := by
  induction along generalizing j s c with
  | nil =>
    have := congrArg List.length measure
    simp at this
    omega
  | cons on rest ih =>
    have there := h.next inside
    have onto : c.next.1 = text[j + 1]? := by rw [h.next_eq inside]
    have ahead : rest = text.drop (j + 1) := by
      rw [List.drop_eq_getElem_cons inside] at measure
      exact (List.cons.inj measure).2
    obtain ⟨found, moved, next⟩ : ∃ found moved, c.next = (found, moved) := ⟨_, _, rfl⟩
    rw [next] at there onto
    cases found with
    | none =>
      rw [Cursor.scanAlong, next]
      refine ⟨[], List.nil_prefix, rfl, there, onto, ?_⟩
      intro ch more
      cases more
    | some ch =>
      cases step : f s ch with
      | none =>
        rw [Cursor.scanAlong, next]
        simp only [step]
        refine ⟨[], List.nil_prefix, rfl, there, onto, ?_⟩
        intro stopper same
        rw [← Option.some.inj same]
        exact step
      | some s' =>
        rw [Cursor.scanAlong, next]
        simp only [step]
        have further : j + 1 < text.length := (List.getElem?_eq_some_iff.mp onto.symm).1
        obtain ⟨taken, before, fold, stops, stopper, refuses⟩ := ih s' there further ahead
        have longer : j + 1 + (ch :: taken).length = j + 1 + 1 + taken.length := by
          simp
          omega
        refine ⟨ch :: taken, ?_, ?_, ?_, ?_, refuses⟩
        · rw [List.drop_eq_getElem_cons further]
          have same : text[j + 1] = ch := (List.getElem?_eq_some_iff.mp onto.symm).2
          rw [same]
          exact (List.prefix_cons_inj ch).mpr before
        · rw [List.foldlM_cons, step]
          exact fold
        · rw [longer]
          exact stops
        · rw [longer]
          exact stopper

/-- A scan takes characters that its step function allows, one after the other, and stops on the
first that it does not, or at the end of the text. -/
theorem At.scan (f : α → Char → Option α) (s : α) (h : c.At text j) (inside : j < text.length) :
    ∃ taken, taken <+: text.drop (j + 1) ∧ taken.foldlM f s = some (c.scan f s).state ∧
      (c.scan f s).cursor.At text (j + 1 + taken.length) ∧
      (c.scan f s).stopper = text[j + 1 + taken.length]? ∧
      ∀ ch, (c.scan f s).stopper = some ch → f (c.scan f s).state ch = none :=
  h.scanAlong f c.here.ahead s inside (by rw [h.here, Place.ahead_nth])

/-- What stops a scan is what the cursor has come to. -/
theorem At.scan_stopper (f : α → Char → Option α) (s : α) (h : c.At text j)
    (inside : j < text.length) : (c.scan f s).stopper = (c.scan f s).cursor.current := by
  obtain ⟨_, _, _, stops, stopper, _⟩ := h.scan f s inside
  rw [stops.current, stopper]

/-- Folding a test over characters succeeds if they all pass. -/
theorem foldlM_test {p : Char → Bool} {taken : List Char} :
    taken.foldlM (fun _ ch => if p ch then some () else none) () = some () ↔
      ∀ ch ∈ taken, p ch = true := by
  induction taken with
  | nil => simp [pure]
  | cons ch rest ih =>
    cases passes : p ch with
    | true => simpa [List.foldlM_cons, passes] using ih
    | false => simp [List.foldlM_cons, passes]

/-- Characters that pass, up to one that does not or to the end, are what `takeWhile` takes. -/
theorem takeWhile_eq {p : Char → Bool} {taken rest : List Char} (before : taken <+: rest)
    (passes : ∀ ch ∈ taken, p ch = true)
    (stops : ∀ ch, rest[taken.length]? = some ch → p ch = false) : rest.takeWhile p = taken := by
  obtain ⟨after, rfl⟩ := before
  rw [List.takeWhile_append_of_pos passes]
  cases after with
  | nil => simp
  | cons ch after => simp [stops ch (by simp)]

/-- The character that `takeWhile` stops on does not pass. -/
theorem takeWhile_stop {p : Char → Bool} {rest : List Char} {ch : Char}
    (on : rest[(rest.takeWhile p).length]? = some ch) : p ch = false := by
  induction rest with
  | nil => simp at on
  | cons first rest ih =>
    cases passes : p first with
    | true =>
      rw [List.takeWhile_cons_of_pos passes] at on
      exact ih (by simpa using on)
    | false =>
      rw [List.takeWhile_cons_of_neg (by simp [passes])] at on
      obtain rfl := Option.some.inj on
      exact passes

theorem At.stepWhile (p : Char → Bool) (h : c.At text j) (inside : j < text.length) :
    (c.stepWhile p).At text (j + 1 + ((text.drop (j + 1)).takeWhile p).length) := by
  obtain ⟨taken, before, fold, stops, stopper, refuses⟩ :=
    h.scan (fun _ ch => if p ch then some () else none) () inside
  have same : (text.drop (j + 1)).takeWhile p = taken := by
    refine takeWhile_eq before (foldlM_test.mp fold) ?_
    intro ch on
    rw [List.getElem?_drop, ← stopper] at on
    simpa using refuses ch on
  rw [same]
  exact stops

theorem At.skipWhile (p : Char → Bool) (h : c.At text j) :
    (c.skipWhile p).At text (j + ((text.drop j).takeWhile p).length) := by
  rw [Cursor.skipWhile, h.current]
  by_cases inside : j < text.length
  · rw [List.getElem?_eq_getElem inside, List.drop_eq_getElem_cons inside, List.takeWhile_cons]
    by_cases passes : p text[j] = true
    · rw [if_pos passes, if_pos (by simpa using passes)]
      have there := h.stepWhile p inside
      rw [Nat.add_assoc, Nat.add_comm 1] at there
      exact there
    · rw [if_neg passes, if_neg (by simpa using passes)]
      exact h
  · have last : text.drop j = [] := List.drop_eq_nil_of_le (Nat.not_lt.mp inside)
    rw [List.getElem?_eq_none (Nat.not_lt.mp inside), last]
    exact h

end Cursor

end FirstMatch
