import FirstMatch.Proofs.Source.Advance

/-! One step of history.  Wherever a cursor gets to, the place it remembers is the one it is on or
the one before; only a cursor that has never moved remembers none.  So undoing a step restores
exactly what the step left, undoing twice is undoing once, stepping again redoes what was undone,
and a cursor that has been cancelled never gets any further. -/

namespace FirstMatch

theorem Probe.look_stays {p : Probe} (cancelled : p.look.1 = true) : p.look.2.look.1 = true := by
  match alarm : p.alarm with
  | .silent => simp [look, alarm] at cancelled
  | .after 0 => simp [look, alarm, cancel]
  | .after (looks + 1) => simp [look, alarm] at cancelled
  | .raised offset => simp [look, alarm]

theorem Probe.look_cancel (p : Probe) : p.cancel.look.1 = true := by
  match alarm : p.alarm with
  | .silent | .after _ | .raised _ => simp [cancel, look, alarm]

theorem Probe.look_record (p : Probe) (offset : Nat) : (p.record offset).look.1 = p.look.1 := by
  match alarm : p.alarm with
  | .silent | .after 0 | .after (_ + 1) | .raised _ => simp [record, look, alarm]

namespace Cursor

variable {text : List Char} {c : Cursor}

/-! ### Single moves -/

/-- At the end, or once cancelled, there is no next step. -/
theorem next_refused (refused : c.look.1 = true ∨ c.atEnd = true) : c.next.2 = c.look.2 := by
  have stays : (c.probe.look.1 || c.atEnd) = true := by
    rw [Bool.or_eq_true]
    exact refused
  rw [next, if_pos stays]
  rfl

theorem next_moved (quiet : c.look.1 = false) (more : c.atEnd = false) :
    c.next.2 = ⟨c.here.step, some c.here, c.probe.look.2.record c.here.step.position.offset⟩ := by
  have goes : ¬(c.probe.look.1 || c.atEnd) = true := by
    rw [more, show c.probe.look.1 = false from quiet]
    simp
  rw [next, if_neg goes]

/-- A step that leads anywhere else has been made. -/
theorem next_of_position_ne (moved : c.next.2.position ≠ c.position) :
    c.look.1 = false ∧ c.atEnd = false := by
  constructor
  · rw [← Bool.not_eq_true]
    intro cancelled
    rw [next_refused (.inl cancelled)] at moved
    exact moved rfl
  · rw [← Bool.not_eq_true]
    intro ended
    rw [next_refused (.inr ended)] at moved
    exact moved rfl

theorem undo_some {place : Place} (last : c.last = some place) :
    c.undo = (place.current,
      { c with here := place, probe := c.probe.record place.position.offset }) := by
  rw [undo, last]

/-- Undoing neither cancels nor waits for a cancellation. -/
theorem look_undo (c : Cursor) : c.undo.2.look.1 = c.look.1 := by
  rw [undo]
  split
  · exact Probe.look_record _ _
  · rfl

theorem undo_none (last : c.last = none) : c.undo = (c.current, c) := by rw [undo, last]

/-- Undoing a step that was made restores the place it left. -/
theorem here_undo_next (quiet : c.look.1 = false) (more : c.atEnd = false) :
    c.next.2.undo.2.here = c.here := by
  rw [next_moved quiet more]
  rfl

/-- Undoing twice is undoing once. -/
theorem undo_undo (c : Cursor) : c.undo.2.undo = c.undo := by
  cases last : c.last with
  | none => rw [undo_none last, undo_none last]
  | some place =>
    rw [undo_some last]
    exact undo_some last

/-! ### History -/

/-- What the cursor remembers of how it got to its place: nothing, on the first character; the same
place, to which it has gone back; or the place before, from which it has stepped. -/
inductive History (text : List Char) (c : Cursor) : Prop
  | unmoved (here : c.here = .nth text 0) (last : c.last = none)
  | undone (i : Nat) (inside : i < text.length) (here : c.here = .nth text i)
      (last : c.last = some (.nth text i))
  | stepped (i : Nat) (inside : i < text.length) (here : c.here = .nth text (i + 1))
      (last : c.last = some (.nth text i))

namespace History

theorem ofText (input : String) (probe : Probe) : (ofText input probe).History input.toList :=
  .unmoved (Place.start_eq_nth _) rfl

theorem exists_index (history : c.History text) : ∃ j ≤ text.length, c.here = .nth text j := by
  cases history with
  | unmoved here => exact ⟨0, Nat.zero_le _, here⟩
  | undone i inside here => exact ⟨i, inside.le, here⟩
  | stepped i inside here => exact ⟨i + 1, inside, here⟩

theorem probe (probe : Probe) (history : c.History text) :
    History text { c with probe } := by
  cases history with
  | unmoved here last => exact .unmoved here last
  | undone i inside here last => exact .undone i inside here last
  | stepped i inside here last => exact .stepped i inside here last

/-- A step that is made goes from one place of the text to the next. -/
theorem next_stepped (history : c.History text) (quiet : c.look.1 = false)
    (more : c.atEnd = false) : ∃ i < text.length, c.here = .nth text i ∧
      c.next.2.here = .nth text (i + 1) ∧ c.next.2.last = some (.nth text i) := by
  obtain ⟨i, bound, here⟩ := history.exists_index
  have inside : i < text.length := by
    by_contra outside
    rw [atEnd, here, Place.ahead_nth, List.drop_eq_nil_of_le (by omega)] at more
    cases more
  rw [next_moved quiet more]
  refine ⟨i, inside, here, ?_, ?_⟩
  · rw [here, Place.step_nth inside]
  · rw [here]

theorem next (history : c.History text) : c.next.2.History text := by
  by_cases goes : c.look.1 = false ∧ c.atEnd = false
  · obtain ⟨i, inside, -, here, last⟩ := history.next_stepped goes.1 goes.2
    exact .stepped i inside here last
  · have refused : c.look.1 = true ∨ c.atEnd = true := by
      rw [← Bool.not_eq_false, ← Bool.not_eq_false]
      tauto
    rw [next_refused refused]
    exact history.probe _

theorem undo (history : c.History text) : c.undo.2.History text := by
  cases history with
  | unmoved here last =>
    rw [undo_none last]
    exact .unmoved here last
  | undone i inside _ last | stepped i inside _ last =>
    rw [undo_some last]
    exact .undone i inside rfl last

theorem lasting (text : List Char) : Lasting (History text) := ⟨next, undo, probe⟩

/-- Undoing a step and stepping again gets back to the same place with the same history. -/
theorem redo {i : Nat} (inside : i < text.length) (here : c.here = .nth text (i + 1))
    (last : c.last = some (.nth text i)) (quiet : c.look.1 = false) :
    c.undo.2.next.2.here = c.here ∧ c.undo.2.next.2.last = c.last := by
  have back : c.undo.2.here = .nth text i := by rw [undo_some last]
  have quietToo : c.undo.2.look.1 = false := c.look_undo.trans quiet
  have more : c.undo.2.atEnd = false := by
    rw [atEnd, back, Place.ahead_nth, List.drop_eq_getElem_cons inside]
    rfl
  rw [next_moved quietToo more, back, Place.step_nth inside, here, last]
  exact ⟨rfl, rfl⟩

/-- If the last thing that a cursor did was to step, undoing this and stepping again changes
nothing.  At the end, where nothing is stepped over, that rests on how the cursor had got there. -/
theorem redo_next (history : c.History text) (quiet : c.next.2.look.1 = false) :
    c.next.2.undo.2.next.2.here = c.next.2.here ∧
      c.next.2.undo.2.next.2.last = c.next.2.last := by
  have uncancelled : c.look.1 = false := by
    rw [← Bool.not_eq_true]
    intro cancelled
    rw [next_refused (.inl cancelled)] at quiet
    rw [show c.look.2.look.1 = true from Probe.look_stays cancelled] at quiet
    cases quiet
  cases more : c.atEnd with
  | false =>
    obtain ⟨i, inside, -, here, last⟩ := history.next_stepped uncancelled more
    exact redo inside here last quiet
  | true =>
    have stays := next_refused (.inr more)
    rw [stays] at quiet ⊢
    cases history with
    | unmoved here last =>
      have ended : c.look.2.atEnd = true := more
      rw [undo_none (show c.look.2.last = none from last), next_refused (.inr ended)]
      exact ⟨rfl, rfl⟩
    | undone i inside here =>
      rw [atEnd, here, Place.ahead_nth, List.drop_eq_getElem_cons inside] at more
      cases more
    | stepped i inside here last => exact redo inside here last quiet

theorem offset_last_le (history : c.History text) {place : Place} (last : c.last = some place) :
    place.position.offset ≤ c.position.offset := by
  cases history with
  | unmoved _ none =>
    rw [none] at last
    cases last
  | undone i inside here remembered =>
    obtain rfl := Option.some.inj (remembered.symm.trans last)
    rw [position, here]
  | stepped i inside here remembered =>
    obtain rfl := Option.some.inj (remembered.symm.trans last)
    rw [position, here]
    exact byteLength_take_mono (Nat.le_succ i) inside

end History

/-! ### Cancellation -/

/-- A cancelled cursor that neither is nor remembers a place beyond byte offset `bound`. -/
structure Held (bound : Nat) (c : Cursor) : Prop where
  cancelled : c.look.1 = true
  here : c.position.offset ≤ bound
  last : ∀ place, c.last = some place → place.position.offset ≤ bound

theorem History.held (history : c.History text) (cancelled : c.look.1 = true) :
    c.Held c.position.offset :=
  ⟨cancelled, le_rfl, fun _ last => history.offset_last_le last⟩

variable {bound : Nat}

theorem Held.look (held : c.Held bound) : c.look.2.Held bound :=
  ⟨Probe.look_stays held.cancelled, held.here, held.last⟩

theorem Held.undo (held : c.Held bound) : c.undo.2.Held bound := by
  have cancelled : c.undo.2.look.1 = true := c.look_undo.trans held.cancelled
  cases last : c.last with
  | none =>
    rw [undo_none last]
    exact held
  | some place =>
    rw [undo_some last] at cancelled ⊢
    exact ⟨cancelled, held.last place last, held.last⟩

end Cursor

/-- Whatever a walk does short of going back to a clone, a cancelled cursor stays within its
bound. -/
theorem Walk.held_run {bound : Nat} {w : Walk} (held : w.cursor.Held bound) {moves : List Move}
    (noLoad : ∀ i, .load i ∉ moves) : (w.run moves).cursor.Held bound := by
  induction moves generalizing w with
  | nil => exact held
  | cons move rest ih =>
    refine ih ?_ fun i later => noLoad i (List.mem_cons_of_mem _ later)
    cases move with
    | next =>
      show w.cursor.next.2.Held bound
      rw [Cursor.next_refused (.inl held.cancelled)]
      exact held.look
    | undo => exact held.undo
    | look => exact held.look
    | cancel => exact ⟨Probe.look_cancel _, held.here, held.last⟩
    | save => exact held
    | load i => exact absurd List.mem_cons_self (noLoad i)

/-! ### Undoing -/

theorem Cursor.after_replicate_next (c : Cursor) (n : Nat) :
    c.after (List.replicate n .next) = c.skip n := by
  induction n generalizing c with
  | zero => rfl
  | succ n ih => exact ih c.next.2

/-- One step of a cursor over `input` that is not cancelled leads from `p` to `q`. -/
def Position.StepsTo (input : String) (p q : Position) : Prop :=
  ∃ moves, ((Cursor.ofText input {}).after moves).position = p ∧
    ((Cursor.ofText input {}).after moves).look.1 = false ∧
    ((Cursor.ofText input {}).after moves).next.2.position = q ∧ p.offset < q.offset

theorem Position.stepsTo_derived {input : String} {i : Nat} (inside : i < input.toList.length) :
    StepsTo input (.derived input.toList i) (.derived input.toList (i + 1)) := by
  have there := (Cursor.At.ofText input).skip_of_le (by omega : 0 + i ≤ input.toList.length)
  rw [Nat.zero_add] at there
  refine ⟨List.replicate i .next, ?_⟩
  rw [Cursor.after_replicate_next, there.look, (there.next inside).position]
  exact ⟨there.position, rfl, rfl, byteLength_take_lt (Nat.lt_succ_self i) inside⟩

/-- A cursor can undo exactly one step.  After any moves it has never left the start, or is where it
would go back to, or is one step further; so undoing a step restores the position it left, undoing
again changes nothing, and after a step, undoing and stepping again end up as before.  Once it is
cancelled, no moves but going back to a clone lead further on. -/
theorem undo_exactly_one_step (input : String) (probe : Probe) (moves : List Move) :
    let c := (Cursor.ofText input probe).after moves
    (c.previous.isValid = false ∧ c.position = .origin ∨ c.position = c.previous ∨
      Position.StepsTo input c.previous c.position) ∧
    (c.next.2.position ≠ c.position → c.next.2.undo.2.position = c.position) ∧
    c.undo.2.undo = c.undo ∧
    (c.next.2.look.1 = false →
      c.next.2.undo.2.next.2.position = c.next.2.position ∧
      c.next.2.undo.2.next.2.previous = c.next.2.previous) ∧
    (c.look.1 = true → ∀ later, (∀ i, Move.load i ∉ later) →
      (c.after later).position.offset ≤ c.position.offset) := by
  intro c
  have history : c.History input.toList :=
    (Cursor.History.lasting input.toList).after (.ofText input probe) moves
  refine ⟨?_, ?_, c.undo_undo, ?_, ?_⟩
  · cases history with
    | unmoved here last =>
      refine .inl ⟨?_, ?_⟩
      · rw [Cursor.previous, last]
        rfl
      · rw [Cursor.position, here, Place.position_nth, Position.derived_zero]
    | undone i inside here last =>
      refine .inr (.inl ?_)
      rw [Cursor.position, here, Cursor.previous, last]
    | stepped i inside here last =>
      refine .inr (.inr ?_)
      rw [Cursor.position, here, Cursor.previous, last]
      exact Position.stepsTo_derived inside
  · intro moved
    obtain ⟨quiet, more⟩ := Cursor.next_of_position_ne moved
    exact congrArg Place.position (Cursor.here_undo_next quiet more)
  · intro quiet
    obtain ⟨here, last⟩ := history.redo_next quiet
    refine ⟨congrArg Place.position here, ?_⟩
    rw [Cursor.previous, last, Cursor.previous]
  · intro cancelled later noLoad
    have start : (⟨c, []⟩ : Walk).cursor.Held c.position.offset := history.held cancelled
    exact (Walk.held_run start noLoad).here

/-- Over three characters, the second of them a line break.  The cursor has stepped, gone back to a
clone, and stepped onto the line break; then it is cancelled on the last character. -/
theorem undo_exactly_one_step_broken :
    let c := (Cursor.ofText "a\né" {}).after [.save, .next, .load 0]
    let d := (Cursor.ofText "a\né" {}).after [.next, .next, .cancel]
    c.position = ⟨1, 1, 0⟩ ∧ c.next.2.position = ⟨2, 1, 1⟩ ∧ c.next.2.look.1 = false ∧
    c.next.2.undo.2.position = c.position ∧
    c.next.2.undo.2.next.2.position = c.next.2.position ∧
    d.position = ⟨2, 2, 2⟩ ∧ d.look.1 = true ∧
    (d.after [.next, .undo, .next, .save]).position.offset ≤ d.position.offset := by
  intro c d
  have first : c.position = ⟨1, 1, 0⟩ := by decide +kernel
  have there : c.next.2.position = ⟨2, 1, 1⟩ := by decide +kernel
  have moved : c.next.2.position ≠ c.position := by decide +kernel
  have quiet : c.next.2.look.1 = false := by decide +kernel
  have cancelled : d.look.1 = true := by decide +kernel
  have here : d.position = ⟨2, 2, 2⟩ := by decide +kernel
  obtain ⟨-, restores, -, redoes, -⟩ :=
    undo_exactly_one_step "a\né" {} [.save, .next, .load 0]
  obtain ⟨-, -, -, -, held⟩ := undo_exactly_one_step "a\né" {} [.next, .next, .cancel]
  exact ⟨first, there, quiet, restores moved, (redoes quiet).1, here, cancelled,
    held cancelled _ (by simp)⟩

end FirstMatch
