import FirstMatch.Text.CharClass

/-! How the classes of characters lie to each other.  Letters and numbers keep clear of whitespace
and of ASCII punctuation, and operators begin with ASCII punctuation. -/

namespace FirstMatch.Text

theorem exists_range_of_covers {ranges : List (Nat × Nat)} {n : Nat} (h : covers ranges n = true) :
    ∃ r ∈ ranges, r.1 ≤ n ∧ n ≤ r.2 := by
  induction ranges with
  | nil => cases h
  | cons range rest ih =>
    obtain ⟨low, high⟩ := range
    rw [covers] at h
    split at h
    · cases h
    · rename_i above
      rcases Bool.or_eq_true_iff.mp h with inside | later
      · exact ⟨_, List.mem_cons_self, Nat.not_lt.mp above, of_decide_eq_true inside⟩
      · obtain ⟨r, member, bounds⟩ := ih later
        exact ⟨r, List.mem_cons_of_mem _ member, bounds⟩

/-- Sets whose ranges lie apart have no character in common. -/
theorem covers_disjoint {a b : List (Nat × Nat)} (apart : ∀ r ∈ a, ∀ s ∈ b, r.2 < s.1 ∨ s.2 < r.1)
    {n : Nat} (h : covers a n = true) : covers b n = false := by
  cases both : covers b n with
  | false => rfl
  | true =>
    obtain ⟨r, inA, lowA, highA⟩ := exists_range_of_covers h
    obtain ⟨s, inB, lowB, highB⟩ := exists_range_of_covers both
    have := apart r inA s inB
    omega

theorem not_isLetter_of_isWhitespace {c : Char} (h : isWhitespace c = true) : isLetter c = false :=
  covers_disjoint (by decide +kernel) h

theorem not_isNumber_of_isWhitespace {c : Char} (h : isWhitespace c = true) : isNumber c = false :=
  covers_disjoint (by decide +kernel) h

/-- The ASCII characters from `!` to `~` that are neither letters nor digits. -/
def isAsciiPunctuation (c : Char) : Bool := 0x21 ≤ c.toNat && c.toNat ≤ 0x7e && !c.isAlphanum

theorem isOperator_eq (c : Char) : isOperator c = isAsciiPunctuation c := by
  have low : '!' ≤ c ↔ 0x21 ≤ c.toNat := Iff.rfl
  have high : c ≤ '~' ↔ c.toNat ≤ 0x7e := Iff.rfl
  by_cases symbol : isSymbol c = true
  · have listed :
        ['$', '+', '<', '=', '>', '^', '\x60', '|', '~'].all isAsciiPunctuation = true := by
      decide
    have member := List.contains_iff_mem.mp symbol
    rw [isOperator, symbol, Bool.true_or, List.all_eq_true.mp listed c member]
  · rw [Bool.not_eq_true] at symbol
    simp [isOperator, isPunctuation, isAsciiPunctuation, symbol, low, high]

theorem isAsciiPunctuation_apart {c : Char} (h : isAsciiPunctuation c = true) :
    isLetter c = false ∧ isNumber c = false ∧ isWhitespace c = false := by
  have ascii : ∀ n < 127, isAsciiPunctuation (Char.ofNat n) = true →
      isLetter (Char.ofNat n) = false ∧ isNumber (Char.ofNat n) = false ∧
        isWhitespace (Char.ofNat n) = false := by
    decide +kernel
  have bound : c.toNat < 127 := by
    simp only [isAsciiPunctuation, Bool.and_eq_true, decide_eq_true_eq] at h
    omega
  have at_code := ascii c.toNat bound
  rw [Char.ofNat_toNat] at at_code
  exact at_code h

end FirstMatch.Text
