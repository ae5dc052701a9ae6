import FirstMatch.Token.Symbols

/-! What symbol tables hold.  Of several entries for one text the last one counts, and the search
for an operator finds the longest that the text begins with. -/

namespace FirstMatch.Symbols

/-- What is entered is found under its text, and under any other text what was found before. -/
theorem lookup_enter (table : List (String × Kind)) (text : String) (kind : Kind)
    (sought : String) :
    (enter table text kind).lookup sought =
      if sought = text then some kind else table.lookup sought := by
  rw [enter, List.lookup_cons]
  by_cases same : sought = text
  · simp [same]
  · rw [if_neg same, beq_false_of_ne same]
    induction table with
    | nil => rfl
    | cons entry rest ih =>
      by_cases dropped : entry.1 = text
      · have notSought : (sought == entry.1) = false := beq_false_of_ne (dropped ▸ same)
        rw [List.filter_cons_of_neg (by simp [dropped]), List.lookup_cons, notSought]
        exact ih
      · rw [List.filter_cons_of_pos (by simp [dropped]), List.lookup_cons, List.lookup_cons]
        cases sought == entry.1 with
        | true => rfl
        | false => exact ih

/-- Of several entries for a text the last one counts. -/
theorem lookup_enter_all (table entries : List (String × Kind)) (sought : String) :
    (entries.foldl (fun table e => enter table e.1 e.2) table).lookup sought =
      (entries.reverse.lookup sought).or (table.lookup sought) := by
  induction entries generalizing table with
  | nil => rfl
  | cons entry rest ih =>
    have first : (enter table entry.1 entry.2).lookup sought =
        ([entry].lookup sought).or (table.lookup sought) := by
      rw [lookup_enter, List.lookup_cons]
      by_cases same : sought = entry.1
      · simp [same]
      · rw [if_neg same, beq_false_of_ne same]
        rfl
    rw [List.reverse_cons, List.lookup_append, Option.or_assoc, ← first]
    exact ih (enter table entry.1 entry.2)

variable (s : Symbols) (entries : List (String × Kind)) (text : String)

theorem operator?_addOperators :
    (s.addOperators entries).operator? text =
      (entries.reverse.lookup text).or (s.operator? text) := by
  have table : (s.addOperators entries).operators =
      entries.foldl (fun table e => enter table e.1 e.2) s.operators := by
    induction entries generalizing s with
    | nil => rfl
    | cons entry rest ih => exact ih (s.addOperator entry.1 entry.2)
  rw [operator?, table]
  exact lookup_enter_all _ _ _

theorem keyword?_addKeywords :
    (s.addKeywords entries).keyword? text =
      (entries.reverse.lookup text).or (s.keyword? text) := by
  have table : (s.addKeywords entries).keywords =
      entries.foldl (fun table e => enter table e.1 e.2) s.keywords := by
    induction entries generalizing s with
    | nil => rfl
    | cons entry rest ih => exact ih (s.addKeyword entry.1 entry.2)
  rw [keyword?, table]
  exact lookup_enter_all _ _ _

theorem addKeywords_frame :
    (s.addKeywords entries).operators = s.operators ∧
      (s.addKeywords entries).longest = s.longest := by
  induction entries generalizing s with
  | nil => exact ⟨rfl, rfl⟩
  | cons entry rest ih => exact ih (s.addKeyword entry.1 entry.2)

theorem keywords_addOperators : (s.addOperators entries).keywords = s.keywords := by
  induction entries generalizing s with
  | nil => rfl
  | cons entry rest ih => exact ih (s.addOperator entry.1 entry.2)

/-! ### The search for an operator -/

variable {s} {chars : List Char} {n : Nat}

theorem operatorWithin?_some {found : String} {kind : Kind}
    (search : s.operatorWithin? chars n = some (found, kind)) :
    s.operator? found = some kind ∧ found.toList <+: chars ∧
      ∀ m ≤ n, (s.operator? (.ofList (chars.take m))).isSome →
        (chars.take m).length ≤ found.length := by
  induction n with
  | zero => cases search
  | succ n ih =>
    rw [operatorWithin?] at search
    split at search
    · rename_i entered
      obtain ⟨rfl, rfl⟩ := Prod.mk.inj (Option.some.inj search)
      refine ⟨entered, ?_, ?_⟩
      · rw [String.toList_ofList]
        exact List.take_prefix _ _
      · intro m bound _
        rw [String.length_ofList, List.length_take, List.length_take]
        omega
    · rename_i absent
      obtain ⟨entered, starts, longest⟩ := ih search
      refine ⟨entered, starts, ?_⟩
      intro m bound there
      rcases Nat.lt_or_eq_of_le bound with less | rfl
      · exact longest m (Nat.le_of_lt_succ less) there
      · rw [absent] at there
        cases there

theorem operatorWithin?_none (search : s.operatorWithin? chars n = none) {m : Nat}
    (positive : 0 < m) (bound : m ≤ n) : s.operator? (.ofList (chars.take m)) = none := by
  induction n with
  | zero => omega
  | succ n ih =>
    rw [operatorWithin?] at search
    split at search
    · cases search
    · rename_i absent
      rcases Nat.lt_or_eq_of_le bound with less | rfl
      · exact ih search (Nat.le_of_lt_succ less)
      · exact absent

end FirstMatch.Symbols
