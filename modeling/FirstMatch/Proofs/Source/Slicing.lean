import FirstMatch.Proofs.Source.Walk

/-! Reading a text by byte offsets.  A text can be cut between characters only, so `cut?` gives
nothing for an offset inside one.  `lookaheadAt?` and `sliceAt` read ahead of an offset and behind
it by such cuts, from the text and the offset alone.  Wherever a cursor gets to, its offset lies
between characters: no cut fails there, and what is cut out is what the cursor sees. -/

namespace FirstMatch

open String.Pos.Raw (IsValid)

/-- The text between two byte offsets, where both lie between characters, the second not before the
first. -/
def cut? (text : String) (start stop : Nat) : Option String :=
  if bounds : IsValid text ⟨start⟩ ∧ IsValid text ⟨stop⟩ ∧ start ≤ stop then
    some (text.slice ⟨⟨start⟩, bounds.1⟩ ⟨⟨stop⟩, bounds.2.1⟩ bounds.2.2).copy
  else none

/-- The byte offsets at which characters begin, the first of them at `first`. -/
def charOffsets (first : Nat) : List Char → List Nat
  | [] => []
  | c :: rest => first :: charOffsets (first + c.utf8Size) rest

/-- Up to `n` characters from a byte offset on: what is left of the text there, cut off where its
character number `n` begins. -/
def lookaheadAt? (text : String) (offset n : Nat) : Option String := do
  let rest ← cut? text (min offset text.utf8ByteSize) text.utf8ByteSize
  cut? rest 0 ((charOffsets 0 rest.toList)[n]?.getD rest.utf8ByteSize)

/-- The text from byte offset `start` up to byte offset `offset`, and nothing where it cannot be cut
out. -/
def sliceAt (text : String) (offset start : Nat) : String :=
  let stop := min offset text.utf8ByteSize
  (cut? text (min start stop) stop).getD ""

/-! ### Cuts -/

/-- What is cut out stands in the text, behind as many bytes as the first offset says. -/
theorem cut?_eq_some_iff {text part : String} {start stop : Nat} :
    cut? text start stop = some part ↔
      ∃ before after, text = before ++ (part ++ after) ∧ before.utf8ByteSize = start ∧
        (before ++ part).utf8ByteSize = stop := by
  rw [cut?]
  constructor
  · intro found
    split at found
    · rename_i bounds
      have copied := Option.some.inj found
      obtain ⟨before, after, first, last⟩ := String.copy_slice_eq_iff_splits.mp ⟨_, copied⟩
      refine ⟨before, after, first.eq_append, ?_, ?_⟩
      · exact (congrArg String.Pos.Raw.byteIdx first.offset_eq_rawEndPos).symm
      · exact (congrArg String.Pos.Raw.byteIdx last.offset_eq_rawEndPos).symm
    · cases found
  · rintro ⟨before, after, rfl, rfl, rfl⟩
    have first : IsValid (before ++ (part ++ after)) ⟨before.utf8ByteSize⟩ :=
      String.Pos.Raw.isValid_iff_exists_append.mpr ⟨before, part ++ after, rfl, rfl⟩
    have last : IsValid (before ++ (part ++ after)) ⟨(before ++ part).utf8ByteSize⟩ :=
      String.Pos.Raw.isValid_iff_exists_append.mpr
        ⟨before ++ part, after, String.append_assoc.symm, rfl⟩
    have ordered : before.utf8ByteSize ≤ (before ++ part).utf8ByteSize := by simp
    obtain ⟨_, copied⟩ : ∃ ordered, ((before ++ (part ++ after)).slice ⟨_, first⟩ ⟨_, last⟩
        ordered).copy = part :=
      String.copy_slice_eq_iff_splits.mpr
        ⟨before, after, ⟨rfl, rfl⟩, ⟨String.append_assoc.symm, rfl⟩⟩
    rw [dif_pos ⟨first, last, ordered⟩, copied]

theorem cut?_eq_none {text : String} {start stop : Nat} (misplaced : ¬IsValid text ⟨start⟩) :
    cut? text start stop = none :=
  dif_neg fun bounds => misplaced bounds.1

/-- Cutting at the offsets of two indexes. -/
theorem cut?_take (text : String) {i j : Nat} (ordered : i ≤ j) :
    cut? text (byteLength (text.toList.take i)) (byteLength (text.toList.take j)) =
      some (.ofList ((text.toList.take j).drop i)) := by
  refine cut?_eq_some_iff.mpr
    ⟨.ofList (text.toList.take i), .ofList (text.toList.drop j), ?_, rfl, ?_⟩
  · rw [← String.ofList_append, ← String.ofList_append, drop_split text.toList ordered,
      List.take_append_drop, String.ofList_toList]
  · rw [← String.ofList_append, ← take_split text.toList ordered]
    rfl

/-- Character number `n` begins behind the first `n` characters; with no such character, these are
all. -/
theorem getD_charOffsets (first n : Nat) (chars : List Char) :
    (charOffsets first chars)[n]?.getD (first + byteLength chars) =
      first + byteLength (chars.take n) := by
  induction chars generalizing first n with
  | nil => simp [charOffsets]
  | cons c rest ih =>
    cases n with
    | zero => simp [charOffsets]
    | succ n =>
      have later := ih (first + c.utf8Size) n
      rw [charOffsets, List.getElem?_cons_succ, List.take_succ_cons, byteLength_cons,
        byteLength_cons, ← Nat.add_assoc, ← Nat.add_assoc]
      exact later

/-- A cut before character number `n` never fails, whatever the text and however large `n`. -/
theorem cut?_charOffsets (text : String) (n : Nat) :
    cut? text 0 ((charOffsets 0 text.toList)[n]?.getD text.utf8ByteSize) =
      some (.ofList (text.toList.take n)) := by
  have begins := getD_charOffsets 0 n text.toList
  rw [Nat.zero_add, Nat.zero_add, byteLength_toList] at begins
  have first := cut?_take text (Nat.zero_le n)
  rw [List.take_zero, byteLength_nil, List.drop_zero] at first
  rw [begins, first]

/-! ### At the cursor -/

namespace Cursor

namespace Within

variable {input : String} {c : Cursor}

theorem exists_offset (within : c.Within input.toList) :
    ∃ j ≤ input.length, c.here = .nth input.toList j ∧
      c.position.offset = byteLength (input.toList.take j) := by
  obtain ⟨j, bound, here⟩ := within.here
  refine ⟨j, bound, here, ?_⟩
  rw [Cursor.position, here, Place.position_nth, Position.offset_derived]

theorem offset_le_size (within : c.Within input.toList) :
    c.position.offset ≤ input.utf8ByteSize := by
  obtain ⟨j, -, -, offset⟩ := within.exists_offset
  rw [offset, ← byteLength_toList]
  exact byteLength_take_le _ _

/-- What lies ahead of a cursor can be cut out. -/
theorem cut?_ahead (within : c.Within input.toList) :
    cut? input c.position.offset input.utf8ByteSize = some (.ofList c.here.ahead) := by
  obtain ⟨j, bound, here, offset⟩ := within.exists_offset
  have ahead := cut?_take input bound
  rw [← String.length_toList, List.take_length, byteLength_toList] at ahead
  rw [offset, here]
  exact ahead

theorem lookaheadAt?_eq (within : c.Within input.toList) (n : Nat) :
    lookaheadAt? input c.position.offset n = some (c.lookahead n) := by
  rw [lookaheadAt?, Nat.min_eq_left within.offset_le_size, within.cut?_ahead, Option.bind_eq_bind,
    Option.bind_some, cut?_charOffsets, String.toList_ofList]
  rfl

/-- From an offset between characters up to the cursor. -/
theorem cut?_sliceFrom (within : c.Within input.toList) {p : Position}
    (boundary : IsValid input ⟨p.offset⟩) (ordered : p.offset ≤ c.position.offset) :
    cut? input p.offset c.position.offset = some (c.sliceFrom p) := by
  obtain ⟨i, inside, start⟩ := isValid_iff_exists_take.mp boundary
  obtain ⟨j, bound, here, stop⟩ := within.exists_offset
  have indexes : i ≤ j := by
    by_contra later
    have := byteLength_take_lt (Nat.not_le.mp later) inside
    omega
  rw [stop, start, cut?_take input indexes, sliceFrom, here, start, Place.since_nth indexes]

/-- From anywhere else there is nothing. -/
theorem sliceFrom_eq_empty (within : c.Within input.toList) {p : Position}
    (outside : ¬(IsValid input ⟨p.offset⟩ ∧ p.offset ≤ c.position.offset)) :
    c.sliceFrom p = "" := by
  obtain ⟨j, bound, here, stop⟩ := within.exists_offset
  have nothing : c.here.since p.offset = [] := by
    rw [here]
    refine Place.since_nth_eq_nil fun i ordered start => outside ⟨?_, ?_⟩
    · exact isValid_iff_exists_take.mpr ⟨i, ordered.trans bound, start⟩
    · rw [start, stop]
      exact byteLength_take_mono ordered bound
  rw [sliceFrom, nothing, String.ofList_nil]

theorem cut?_here (within : c.Within input.toList) :
    cut? input c.position.offset c.position.offset = some "" := by
  obtain ⟨j, -, -, offset⟩ := within.exists_offset
  rw [offset, cut?_take input (Nat.le_refl j), List.drop_eq_nil_of_le (List.length_take_le _ _),
    String.ofList_nil]

/-- The slice up to the cursor by offsets is the cursor's own.  An offset ahead of the cursor is
taken for the cursor's. -/
theorem sliceAt_eq (within : c.Within input.toList) (p : Position) :
    sliceAt input c.position.offset p.offset = c.sliceFrom p := by
  simp only [sliceAt, Nat.min_eq_left within.offset_le_size]
  by_cases ordered : p.offset ≤ c.position.offset
  · rw [Nat.min_eq_left ordered]
    by_cases boundary : IsValid input ⟨p.offset⟩
    · rw [within.cut?_sliceFrom boundary ordered, Option.getD_some]
    · rw [cut?_eq_none boundary, Option.getD_none,
        within.sliceFrom_eq_empty fun bounds => boundary bounds.1]
  · rw [Nat.min_eq_right (by omega), within.cut?_here, Option.getD_some,
      within.sliceFrom_eq_empty fun bounds => ordered bounds.2]

/-- What lies behind the cursor and what lies ahead of it are the whole text. -/
theorem sliceFrom_append_lookahead (within : c.Within input.toList) :
    c.sliceFrom .origin ++ c.lookahead c.here.ahead.length = input := by
  obtain ⟨j, -, here, -⟩ := within.exists_offset
  have behind := sliceFrom_nth here (Nat.zero_le j)
  rw [Position.derived_zero, List.drop_zero] at behind
  rw [behind, lookahead, List.take_length, here, Place.ahead_nth, ← String.ofList_append,
    List.take_append_drop, String.ofList_toList]

end Within

/-- Wherever a cursor gets to, the rest of the text can be cut out there.  Looking `n` characters
ahead makes no cut inside a character and gives the first `n` of the rest, or all of it if there are
fewer.  The slice from a position whose offset lies between characters and not ahead of the cursor
is the text from there to the cursor, whatever else is in the position; any other slice is empty.
And what lies behind the cursor and what lies ahead of it make up the text. -/
theorem slicing_exact (input : String) (probe : Probe) (moves : List Move) :
    let c := (ofText input probe).after moves
    let here := c.position.offset
    ∃ rest, cut? input here input.utf8ByteSize = some rest ∧
      (∀ n, lookaheadAt? input here n = some (c.lookahead n) ∧
        (c.lookahead n).toList = rest.toList.take (min n rest.length)) ∧
      (∀ p : Position, sliceAt input here p.offset = c.sliceFrom p ∧
        (IsValid input ⟨p.offset⟩ ∧ p.offset ≤ here →
          cut? input p.offset here = some (c.sliceFrom p)) ∧
        (¬(IsValid input ⟨p.offset⟩ ∧ p.offset ≤ here) → c.sliceFrom p = "")) ∧
      c.sliceFrom .origin ++ c.lookahead rest.length = input := by
  intro c here
  have within : c.Within input.toList := (Within.ofText input probe).after moves
  refine ⟨.ofList c.here.ahead, within.cut?_ahead, fun n => ⟨within.lookaheadAt?_eq n, ?_⟩,
    fun p => ⟨within.sliceAt_eq p, ?_, within.sliceFrom_eq_empty⟩, ?_⟩
  · rw [lookahead, String.toList_ofList, String.toList_ofList, String.length_ofList,
      ← List.take_eq_take_min]
  · rintro ⟨boundary, ordered⟩
    exact within.cut?_sliceFrom boundary ordered
  · rw [String.length_ofList]
    exact within.sliceFrom_append_lookahead

/-- Characters of one, two, three and four bytes, and a cursor that is cancelled on the last of
them, which it has reached through a clone.  An offset inside the second character, from which
nothing can be read, gives no slice, and neither does the end of the text, which is ahead of the
cursor. -/
theorem slicing_exact_widths :
    let c := (ofText "aé→😀" {}).after
      [.next, .next, .save, .next, .next, .undo, .load 0, .next, .cancel, .next]
    c.position.offset = 6 ∧ c.lookahead 3 = "😀" ∧
    IsValid "aé→😀" ⟨1⟩ ∧ cut? "aé→😀" 1 6 = some (c.sliceFrom ⟨0, 0, 1⟩) ∧
    c.sliceFrom ⟨0, 0, 1⟩ = "é→" ∧
    ¬IsValid "aé→😀" ⟨2⟩ ∧ lookaheadAt? "aé→😀" 2 1 = none ∧ c.sliceFrom ⟨1, 3, 2⟩ = "" ∧
    IsValid "aé→😀" ⟨10⟩ ∧ c.sliceFrom ⟨1, 5, 10⟩ = "" := by
  intro c
  have offset : c.position.offset = 6 := by decide
  have first : IsValid "aé→😀" ⟨1⟩ := by decide
  have split : ¬IsValid "aé→😀" ⟨2⟩ := by decide
  have last : IsValid "aé→😀" ⟨10⟩ := by decide
  obtain ⟨rest, -, -, slices, -⟩ := slicing_exact "aé→😀" {}
    [.next, .next, .save, .next, .next, .undo, .load 0, .next, .cancel, .next]
  refine ⟨offset, by decide, first, ?_, by decide, split, by decide, ?_, last, ?_⟩
  · rw [← offset]
    refine (slices ⟨0, 0, 1⟩).2.1 ⟨first, ?_⟩
    show 1 ≤ c.position.offset
    omega
  · exact (slices ⟨1, 3, 2⟩).2.2 fun bounds => split bounds.1
  · refine (slices ⟨1, 5, 10⟩).2.2 fun bounds => ?_
    have ordered : 10 ≤ c.position.offset := bounds.2
    omega

end Cursor

end FirstMatch
