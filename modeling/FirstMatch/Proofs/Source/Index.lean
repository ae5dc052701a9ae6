import FirstMatch.Source.Cursor
import Mathlib.Algebra.Order.Interval.Finset.SuccPred
import Mathlib.Data.Finset.Lattice.Fold
import Mathlib.Data.Nat.SuccPred
import Mathlib.Order.Interval.Finset.Nat
import Mathlib.Order.Lattice.Nat

/-! The places of a text, one for each index from zero to its length.  `Position.derived` works a
position out from the text and an index alone, without the steps that lead there, and `Place.nth` is
the place it belongs to.  Stepping goes from one place of the text to the next. -/

namespace FirstMatch

open Text

theorem take_split (text : List Char) {i j : Nat} (ordered : i ≤ j) :
    text.take j = text.take i ++ (text.take j).drop i := by
  conv_lhs => rw [← List.take_append_drop i (text.take j)]
  rw [List.take_take, Nat.min_eq_left ordered]

theorem drop_split (text : List Char) {i j : Nat} (ordered : i ≤ j) :
    (text.take j).drop i ++ text.drop j = text.drop i := by
  have whole := List.take_append_drop j text
  rw [take_split text ordered, List.append_assoc] at whole
  have same := List.take_append_drop i text
  exact List.append_cancel_left (whole.trans same.symm)

theorem slice_append {text : List Char} {i j k : Nat} (first : i ≤ j) (second : j ≤ k) :
    (text.take j).drop i ++ (text.take k).drop j = (text.take k).drop i := by
  have split := drop_split (text.take k) first
  rwa [List.take_take, Nat.min_eq_left second] at split

theorem slice_eq_of_prefix {text l : List Char} {j : Nat} (starts : l <+: text.drop j) :
    (text.take (j + l.length)).drop j = l := by
  rw [List.drop_take, Nat.add_sub_cancel_left]
  exact (List.prefix_iff_eq_take.mp starts).symm

theorem append_drop_of_prefix {text l : List Char} {j : Nat} (starts : l <+: text.drop j) :
    l ++ text.drop (j + l.length) = text.drop j := by
  rw [← List.drop_drop]
  exact List.prefix_iff_eq_append.mp starts

/-- The number of bytes that characters take in UTF-8. -/
def byteLength (text : List Char) : Nat := (String.ofList text).utf8ByteSize

@[simp] theorem byteLength_nil : byteLength [] = 0 := by simp [byteLength]

@[simp] theorem byteLength_append (a b : List Char) :
    byteLength (a ++ b) = byteLength a + byteLength b := by
  simp [byteLength, String.ofList_append]

@[simp] theorem byteLength_cons (c : Char) (text : List Char) :
    byteLength (c :: text) = c.utf8Size + byteLength text := by
  rw [← List.singleton_append, byteLength_append, byteLength, ← String.singleton_eq_ofList,
    String.utf8ByteSize_singleton]

theorem byteLength_toList (text : String) : byteLength text.toList = text.utf8ByteSize := by
  simp [byteLength]

theorem byteLength_take_le (text : List Char) (j : Nat) :
    byteLength (text.take j) ≤ byteLength text := by
  have split := byteLength_append (text.take j) (text.drop j)
  rw [List.take_append_drop] at split
  omega

theorem byteLength_take_lt {text : List Char} {i j : Nat} (ordered : i < j)
    (bound : j ≤ text.length) : byteLength (text.take i) < byteLength (text.take j) := by
  obtain ⟨k, rfl⟩ : ∃ k, j = i + (k + 1) := ⟨j - i - 1, by omega⟩
  rw [List.take_add, byteLength_append]
  have inside : i < text.length := by omega
  rw [List.drop_eq_getElem_cons inside, List.take_succ_cons, byteLength_cons]
  have := text[i].utf8Size_pos
  omega

theorem byteLength_take_mono {text : List Char} {i j : Nat} (ordered : i ≤ j)
    (bound : j ≤ text.length) : byteLength (text.take i) ≤ byteLength (text.take j) := by
  rcases Nat.lt_or_eq_of_le ordered with less | rfl
  · exact (byteLength_take_lt less bound).le
  · exact le_rfl

/-- No two indexes of a text have the same offset. -/
theorem byteLength_take_inj {text : List Char} {i j : Nat} (hi : i ≤ text.length)
    (hj : j ≤ text.length) (same : byteLength (text.take i) = byteLength (text.take j)) :
    i = j := by
  rcases Nat.lt_trichotomy i j with less | equal | more
  · have := byteLength_take_lt less hj
    omega
  · exact equal
  · have := byteLength_take_lt more hi
    omega

/-- An offset lies between characters exactly if it is the offset of an index. -/
theorem isValid_iff_exists_take {text : String} {offset : Nat} :
    String.Pos.Raw.IsValid text ⟨offset⟩ ↔
      ∃ i ≤ text.length, offset = byteLength (text.toList.take i) := by
  rw [String.Pos.Raw.isValid_iff_exists_append]
  constructor
  · rintro ⟨before, after, rfl, here⟩
    refine ⟨before.length, by simp, ?_⟩
    rw [String.toList_append, ← String.length_toList, List.take_left, byteLength_toList]
    exact congrArg String.Pos.Raw.byteIdx here
  · rintro ⟨i, -, rfl⟩
    refine ⟨.ofList (text.toList.take i), .ofList (text.toList.drop i), ?_, rfl⟩
    rw [← String.ofList_append, List.take_append_drop, String.ofList_toList]

/-- A line begins at index `i`: there is a line break, and before it neither a backslash nor a
single quote. -/
def BreaksAt (text : List Char) (i : Nat) : Prop :=
  text[i]?.any isNewline ∧ text[i - 1]? ≠ some '\\' ∧ text[i - 1]? ≠ some '\''

instance (text : List Char) : DecidablePred (BreaksAt text) :=
  fun _ => inferInstanceAs (Decidable (_ ∧ _))

/-- The indexes from one to `j` at which a line begins. -/
def lineStarts (text : List Char) (j : Nat) : Finset Nat :=
  (Finset.Icc 1 j).filter (BreaksAt text)

theorem lineStarts_succ (text : List Char) (j : Nat) :
    lineStarts text (j + 1) =
      if BreaksAt text (j + 1) then insert (j + 1) (lineStarts text j) else lineStarts text j := by
  rw [lineStarts, ← Finset.insert_Icc_right_eq_Icc_add_one (by omega), Finset.filter_insert]
  rfl

theorem le_of_mem_lineStarts {text : List Char} {i j : Nat} (member : i ∈ lineStarts text j) :
    i ≤ j := by
  simp only [lineStarts, Finset.mem_filter, Finset.mem_Icc] at member
  exact member.1.2

theorem sup_lineStarts_le (text : List Char) (j : Nat) : (lineStarts text j).sup id ≤ j :=
  Finset.sup_le fun _ member => le_of_mem_lineStarts member

namespace Position

/-- The position of index `j`.  Its line counts the line starts up to `j`, its column the
characters since the last of them. -/
def derived (text : List Char) (j : Nat) : Position where
  line := 1 + (lineStarts text j).card
  column := 1 + j - (lineStarts text j).sup id
  offset := byteLength (text.take j)

@[simp] theorem offset_derived (text : List Char) (j : Nat) :
    (derived text j).offset = byteLength (text.take j) := rfl

theorem derived_zero (text : List Char) : derived text 0 = origin := by
  simp [derived, lineStarts, origin]

theorem isValid_derived (text : List Char) (j : Nat) : (derived text j).isValid = true := by
  have bound := sup_lineStarts_le text j
  have line : 0 < (derived text j).line := by
    simp only [derived]
    omega
  have column : 0 < (derived text j).column := by
    simp only [derived]
    omega
  simp [isValid, line, column]

/-- Stepping from index `j` to the next follows the derived positions. -/
theorem past_derived {text : List Char} {j : Nat} (inside : j < text.length) :
    (derived text j).past text[j] text[j + 1]? = derived text (j + 1) := by
  have offsets : byteLength (text.take (j + 1)) = byteLength (text.take j) + text[j].utf8Size := by
    rw [List.take_succ_eq_append_getElem inside, byteLength_append]
    simp
  have bound := sup_lineStarts_le text j
  have breaks : BreaksAt text (j + 1) ↔
      text[j] ≠ '\\' ∧ text[j] ≠ '\'' ∧ text[j + 1]?.any isNewline := by
    simp only [BreaksAt, Nat.add_sub_cancel, List.getElem?_eq_getElem inside, Ne,
      Option.some.injEq]
    tauto
  by_cases broken : BreaksAt text (j + 1)
  · have fresh : j + 1 ∉ lineStarts text j := fun member => by
      have := le_of_mem_lineStarts member
      omega
    rw [past, if_pos (breaks.mp broken)]
    simp only [derived, lineStarts_succ, if_pos broken, Finset.card_insert_of_notMem fresh,
      Finset.sup_insert, id, offsets, Position.mk.injEq]
    rw [sup_eq_left.mpr (by omega)]
    refine ⟨by omega, by omega, trivial⟩
  · rw [past, if_neg fun h => broken (breaks.mpr h)]
    simp only [derived, lineStarts_succ, if_neg broken, offsets, Position.mk.injEq]
    refine ⟨trivial, by omega, trivial⟩

/-- The position after more characters of the same line. -/
def along (p : Position) (l : List Char) : Position :=
  ⟨p.line, p.column + l.length, p.offset + byteLength l⟩

theorem along_cons (p : Position) (c : Char) (l : List Char) :
    p.along (c :: l) = (p.along [c]).along l := by
  simp only [along, List.length_cons, List.length_nil, byteLength_cons, byteLength_nil, mk.injEq]
  refine ⟨trivial, by omega, by omega⟩

/-- Stepping from a character stays on the line exactly if no line break comes next.  A backslash
or a single quote would hide one. -/
theorem derived_succ_eq_along_iff {text : List Char} {j : Nat} (inside : j < text.length)
    (plain : text[j] ≠ '\\' ∧ text[j] ≠ '\'') :
    derived text (j + 1) = (derived text j).along [text[j]] ↔
      text[j + 1]?.any isNewline = false := by
  rw [← past_derived inside, past]
  split
  · rename_i broken
    simp [along, broken.2.2]
  · rename_i unbroken
    have next : text[j + 1]?.any isNewline = false := by
      rw [← Bool.not_eq_true]
      exact fun broken => unbroken ⟨plain.1, plain.2, broken⟩
    simp [along, next]

theorem offset_derived_add {text l : List Char} {j : Nat} (starts : l <+: text.drop j) :
    (derived text (j + l.length)).offset = ((derived text j).along l).offset := by
  have between := slice_eq_of_prefix starts
  rw [offset_derived, take_split text (Nat.le_add_right j l.length), between, byteLength_append]
  rfl

/-- Behind characters that are no line breaks the line goes on, unless a line break follows.  Every
step but the last leads to one of these characters. -/
theorem derived_add_eq_along_iff {text l : List Char} {j : Nat} (starts : l <+: text.drop j)
    (nonempty : l ≠ []) (plain : ∀ c ∈ l, isNewline c = false ∧ c ≠ '\\' ∧ c ≠ '\'') :
    derived text (j + l.length) = (derived text j).along l ↔
      text[j + l.length]?.any isNewline = false := by
  induction l generalizing j with
  | nil => exact absurd rfl nonempty
  | cons c l ih =>
    obtain ⟨rest, whole⟩ := starts
    have inside : j < text.length := by
      by_contra outside
      rw [List.drop_eq_nil_of_le (by omega)] at whole
      cases whole
    rw [List.drop_eq_getElem_cons inside, List.cons_append] at whole
    obtain ⟨rfl, later⟩ := List.cons.inj whole
    have step := derived_succ_eq_along_iff inside (plain _ List.mem_cons_self).2
    cases l with
    | nil => exact step
    | cons d l =>
      have next : text[j + 1]? = some d := by
        rw [← List.head?_drop, ← later]
        rfl
      have stays := step.mpr (by rw [next]; exact (plain d (by simp)).1)
      have further := ih (j := j + 1) ⟨rest, later⟩ (by simp)
        fun c member => plain c (List.mem_cons_of_mem _ member)
      rw [along_cons, ← stays]
      rw [Nat.add_right_comm] at further
      exact further

end Position

namespace Place

/-- The place on the character with index `j`. -/
def nth (text : List Char) (j : Nat) : Place :=
  ⟨(text.take j).reverse, text.drop j, .derived text j⟩

theorem start_eq_nth (text : List Char) : start text = nth text 0 := by
  simp [start, nth, Position.derived_zero]

@[simp] theorem position_nth (text : List Char) (j : Nat) :
    (nth text j).position = .derived text j := rfl

@[simp] theorem ahead_nth (text : List Char) (j : Nat) : (nth text j).ahead = text.drop j := rfl

@[simp] theorem current_nth (text : List Char) (j : Nat) : (nth text j).current = text[j]? := by
  simp [current]

theorem step_nth {text : List Char} {j : Nat} (inside : j < text.length) :
    (nth text j).step = nth text (j + 1) := by
  rw [step]
  simp only [nth, List.drop_eq_getElem_cons inside, List.head?_drop,
    Position.past_derived inside, List.take_succ_eq_append_getElem inside, List.reverse_append,
    List.reverse_singleton, List.singleton_append]

/-- Reading back from the end of `found` to the offset where `found` begins finds `found`. -/
theorem between_append (before found later : List Char) :
    between (byteLength before) (found.reverse ++ before.reverse) later
      (byteLength (before ++ found)) = found ++ later := by
  induction found using List.reverseRecOn generalizing later with
  | nil => cases before.reverse <;> simp [between]
  | append_singleton found c ih =>
    have := c.utf8Size_pos
    rw [List.reverse_append, List.reverse_singleton, List.singleton_append, List.cons_append,
      between, if_neg (by simp), if_neg (by simp; omega)]
    have back : byteLength (before ++ (found ++ [c])) - c.utf8Size =
        byteLength (before ++ found) := by
      simp
      omega
    rw [back, ih]
    simp

/-- The text from index `i` up to index `j`. -/
theorem since_nth {text : List Char} {i j : Nat} (ordered : i ≤ j) :
    (nth text j).since (byteLength (text.take i)) = (text.take j).drop i := by
  have read := between_append (text.take i) ((text.take j).drop i) []
  rw [← List.reverse_append, ← take_split text ordered, List.append_nil] at read
  exact read

/-- Reading back to an offset at which no character begins finds nothing. -/
theorem between_eq_nil {start : Nat} {text : List Char}
    (misplaced : ∀ i ≤ text.length, start ≠ byteLength (text.take i)) (later : List Char) :
    between start text.reverse later (byteLength text) = [] := by
  induction text using List.reverseRecOn generalizing later with
  | nil =>
    have positive : 0 < start := Nat.pos_of_ne_zero (misplaced 0 (Nat.le_refl _))
    simp [between, positive]
  | append_singleton text c ih =>
    have whole := misplaced (text ++ [c]).length (Nat.le_refl _)
    rw [List.take_length] at whole
    rw [List.reverse_concat, between]
    split
    · rfl
    · rw [if_neg (Ne.symm whole), byteLength_append, byteLength_cons, byteLength_nil,
        Nat.add_zero, Nat.add_sub_cancel]
      refine ih (fun i bound => ?_) (c :: later)
      have before := misplaced i (by simp; omega)
      rwa [List.take_append_of_le_length bound] at before

theorem since_nth_eq_nil {text : List Char} {start j : Nat}
    (misplaced : ∀ i ≤ j, start ≠ byteLength (text.take i)) : (nth text j).since start = [] := by
  refine between_eq_nil (fun i bound => ?_) []
  rw [List.length_take] at bound
  rw [List.take_take, Nat.min_eq_left (by omega)]
  exact misplaced i (by omega)

end Place

end FirstMatch
