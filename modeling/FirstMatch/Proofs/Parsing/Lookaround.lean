import FirstMatch.Proofs.Parsing.Fallthrough

/-! Looking around among the tokens.  However a cursor is moved, its index stays between zero and
the number of tokens, so looking ahead and behind cut the tokens exactly at the cursor: they give
the tokens asked for if there are so many, and nothing if there are not. -/

namespace FirstMatch.Parsing

namespace TokenStream

variable {s : TokenStream} {n : Nat} {window : List Token}

/-! ### The index -/

theorem index_step_le (bound : s.index ≤ s.size) (move : Move) :
    (s.step move).index ≤ (s.step move).size := by
  cases move with
  | next => exact s.index_next_le
  | backup =>
    show s.backup.2.index ≤ s.backup.2.size
    rw [backup]
    split
    · exact bound
    · rename_i index here
      show index ≤ s.size
      omega
  | lookahead | lookbehind | checkpoint => exact bound
  | restore saved => exact s.index_restore_le saved

theorem index_after_le (bound : s.index ≤ s.size) (moves : List Move) :
    (s.after moves).index ≤ (s.after moves).size := by
  induction moves generalizing s with
  | nil => exact bound
  | cons move rest ih => exact ih (index_step_le bound move)

/-! ### Windows -/

/-- From index `start` on, `tokens` go on with `window`. -/
def WindowAt (tokens : List Token) (start : Nat) (window : List Token) : Prop :=
  ∃ before after, tokens = before ++ window ++ after ∧ before.length = start

theorem windowAt_iff {tokens : List Token} {start : Nat} :
    WindowAt tokens start window ↔
      start + window.length ≤ tokens.length ∧ (tokens.drop start).take window.length = window := by
  constructor
  · rintro ⟨before, after, rfl, rfl⟩
    refine ⟨by simp, ?_⟩
    rw [List.append_assoc, List.drop_left, List.take_left]
  · rintro ⟨fits, taken⟩
    refine ⟨tokens.take start, tokens.drop (start + window.length), ?_, ?_⟩
    · have rest := List.take_append_drop window.length (tokens.drop start)
      rw [taken, List.drop_drop] at rest
      rw [List.append_assoc, rest, List.take_append_drop]
    · rw [List.length_take]
      omega

theorem length_toList_tokens (s : TokenStream) : s.tokens.toList.length = s.size :=
  Array.length_toList

theorem lookahead_eq_some_iff :
    s.lookahead n = some window ↔
      window.length = n ∧ WindowAt s.tokens.toList s.index window := by
  rw [windowAt_iff, length_toList_tokens, lookahead]
  constructor
  · intro found
    split at found
    · rename_i fits
      obtain rfl := Option.some.inj found
      have length : ((s.tokens.toList.drop s.index).take n).length = n := by
        rw [List.length_take, List.length_drop, length_toList_tokens]
        omega
      rw [length]
      exact ⟨rfl, fits, rfl⟩
    · cases found
  · rintro ⟨rfl, fits, taken⟩
    rw [if_pos fits, taken]

theorem lookahead_eq_none_iff (bound : s.index ≤ s.size) :
    s.lookahead n = none ↔ s.size - s.index < n := by
  rw [lookahead]
  split
  · simp
    omega
  · simp
    omega

/-- Looking `n` tokens behind is looking `n` tokens ahead from where they begin. -/
theorem lookbehind_eq_lookahead (bound : s.index ≤ s.size) (fits : n ≤ s.index) :
    s.lookbehind n = { s with index := s.index - n }.lookahead n := by
  have room : s.index - n + n ≤ s.size := by omega
  rw [lookbehind, if_pos ⟨fits, bound⟩, lookahead, List.drop_take, Nat.sub_sub_self fits]
  exact (if_pos room).symm

theorem lookbehind_eq_none_iff (bound : s.index ≤ s.size) :
    s.lookbehind n = none ↔ s.index < n := by
  rw [lookbehind]
  split
  · simp
    omega
  · simp
    omega

theorem lookbehind_eq_some_iff (bound : s.index ≤ s.size) :
    s.lookbehind n = some window ↔
      window.length = n ∧ ∃ start, start + n = s.index ∧ WindowAt s.tokens.toList start window := by
  by_cases fits : n ≤ s.index
  · rw [lookbehind_eq_lookahead bound fits, lookahead_eq_some_iff]
    refine and_congr_right fun _ => ⟨fun found => ⟨_, Nat.sub_add_cancel fits, found⟩, ?_⟩
    rintro ⟨start, here, found⟩
    obtain rfl : start = s.index - n := by omega
    exact found
  · have nothing := (lookbehind_eq_none_iff bound).mpr (Nat.not_le.mp fits)
    constructor
    · intro found
      rw [nothing] at found
      cases found
    · rintro ⟨-, start, here, -⟩
      omega

/-- The tokens behind the cursor and those ahead of it are all the tokens. -/
theorem lookbehind_append_lookahead (bound : s.index ≤ s.size) :
    ∃ behind ahead, s.lookbehind s.index = some behind ∧
      s.lookahead (s.size - s.index) = some ahead ∧ behind ++ ahead = s.tokens.toList := by
  refine ⟨s.tokens.toList.take s.index, s.tokens.toList.drop s.index, ?_, ?_,
    List.take_append_drop _ _⟩
  · rw [lookbehind, if_pos ⟨Nat.le_refl _, bound⟩, Nat.sub_self, List.drop_zero]
  · have left : (s.tokens.toList.drop s.index).length = s.size - s.index := by
      rw [List.length_drop, length_toList_tokens]
    rw [lookahead, if_pos (by omega), List.take_of_length_le (Nat.le_of_eq left)]

end TokenStream

open TokenStream in
/-- After any moves the cursor is among the tokens or just behind them.  Looking `n` tokens ahead or
behind gives exactly these tokens if there are so many, and nothing if there are not, also where the
end of the window would be beyond all 64-bit numbers; both ways together show all the tokens.  And
from wherever the cursor gets to later, a checkpoint taken here leads back here. -/
theorem lookaround_exact (tokens : List Token) (moves : List Move) :
    let s := (TokenStream.ofList tokens).after moves
    s.index ≤ tokens.length ∧
    (∀ n window, s.lookahead n = some window ↔
      window.length = n ∧ WindowAt tokens s.index window) ∧
    (∀ n, s.lookahead n = none ↔ tokens.length - s.index < n) ∧
    (∀ n : UInt64, tokens.length < UInt64.size → UInt64.size ≤ s.index + n.toNat →
      s.lookahead n.toNat = none) ∧
    (∀ n window, s.lookbehind n = some window ↔
      window.length = n ∧ ∃ start, start + n = s.index ∧ WindowAt tokens start window) ∧
    (∀ n, s.lookbehind n = none ↔ s.index < n) ∧
    (∃ behind ahead, s.lookbehind s.index = some behind ∧
      s.lookahead (tokens.length - s.index) = some ahead ∧ behind ++ ahead = tokens) ∧
    ∀ later, (s.after later).restore s.checkpoint = s := by
  intro s
  have same : s.tokens.toList = tokens := by
    rw [tokens_after]
    rfl
  have bound : s.index ≤ s.size := index_after_le (Nat.zero_le _) moves
  rw [← same, length_toList_tokens]
  refine ⟨bound, fun n window => lookahead_eq_some_iff, fun n => lookahead_eq_none_iff bound, ?_,
    fun n window => lookbehind_eq_some_iff bound, fun n => lookbehind_eq_none_iff bound,
    lookbehind_append_lookahead bound, ?_⟩
  · intro n fits overflows
    rw [lookahead_eq_none_iff bound]
    omega
  · intro later
    exact restore_checkpoint (s.tokens_after later) bound

open TokenStream in
/-- Two tokens, the cursor on the second after it was sent beyond the last and backed up; and a
window that would end at 2 ^ 64. -/
theorem lookaround_exact_overflowing :
    let s := (TokenStream.ofList twoNames).after [.restore ⟨7, .unknown⟩, .backup]
    let n : UInt64 := 18446744073709551615
    s.index = 1 ∧ twoNames.length < UInt64.size ∧ UInt64.size ≤ s.index + n.toNat ∧
      s.lookahead n.toNat = none := by
  intro s n
  have here : s.index = 1 := rfl
  have fits : twoNames.length < UInt64.size := by decide
  have overflows : UInt64.size ≤ s.index + n.toNat := by rw [here]; decide
  obtain ⟨-, -, -, beyond, -⟩ :=
    lookaround_exact twoNames [.restore ⟨7, .unknown⟩, .backup]
  exact ⟨here, fits, overflows, beyond n fits overflows⟩

end FirstMatch.Parsing
