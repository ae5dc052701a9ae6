import FirstMatch.Proofs.Lexing.Grammar
import FirstMatch.Proofs.Source.Scan

/-! The forms of lexemes as what scans take.  A scan takes the longest beginning that its step
function allows; folding the step functions of numbers and strings over characters succeeds for
numerals without their first character, and for the inside of strings up to the quote that closes
them. -/

namespace FirstMatch

open Text

/-! ### Scans -/

section Folds

variable {α : Type} {f : α → Char → Option α} {s state : α} {rest taken other : List Char}

/-- What is taken until a step is refused is the longest that can be taken. -/
theorem fold_greatest (before : taken <+: rest) (fold : taken.foldlM f s = some state)
    (refuses : ∀ ch, rest[taken.length]? = some ch → f state ch = none) (starts : other <+: rest)
    (goes : (other.foldlM f s).isSome) : other.length ≤ taken.length := by
  by_contra longer
  obtain ⟨more, rfl⟩ := List.prefix_of_prefix_length_le before starts (by omega)
  cases more with
  | nil => simp at longer
  | cons ch more =>
    obtain ⟨tail, rfl⟩ := starts
    have refused := refuses ch (by simp)
    rw [List.foldlM_append, fold] at goes
    simp [List.foldlM_cons, refused] at goes

/-- A scan takes the longest beginning that its step function allows. -/
theorem Cursor.At.scan_longest {text : List Char} {j : Nat} {c : Cursor} (f : α → Char → Option α)
    (s : α) (h : c.At text j) (inside : j < text.length) :
    ∃ taken, Lexing.Longest (fun l => (l.foldlM f s).isSome) (text.drop (j + 1)) taken ∧
      taken.foldlM f s = some (c.scan f s).state ∧
      (c.scan f s).cursor.At text (j + (taken.length + 1)) := by
  obtain ⟨taken, before, fold, stops, stopper, refuses⟩ := h.scan f s inside
  rw [Nat.add_assoc, Nat.add_comm 1] at stops
  refine ⟨taken, ⟨before, by rw [fold]; rfl, ?_⟩, fold, stops⟩
  intro other starts goes
  refine fold_greatest before fold ?_ starts goes
  intro ch on
  rw [List.getElem?_drop, ← stopper] at on
  exact refuses ch on

end Folds

namespace Lexing

variable {σ : Type}

theorem Longest.cons {P Q : List Char → Prop} {c : Char} {rest l : List Char}
    (same : ∀ l, P (c :: l) ↔ Q l) (h : Longest Q rest l) : Longest P (c :: rest) (c :: l) := by
  refine ⟨(List.prefix_cons_inj c).mpr h.starts, (same l).mpr h.fits, ?_⟩
  intro other starts fits
  cases other with
  | nil => exact Nat.zero_le _
  | cons first other =>
    obtain ⟨rfl, tail⟩ := List.cons_prefix_cons.mp starts
    exact Nat.succ_le_succ (h.greatest other tail ((same other).mp fits))

/-! ### Numerals -/

section Numerals

open Builtin

theorem foldlM_numeric (kind : Kind) {digits : List Char}
    (numeric : ∀ c ∈ digits, isNumber c = true) : digits.foldlM numberStep kind = some kind := by
  induction digits with
  | nil => rfl
  | cons c rest ih =>
    have step : numberStep kind c = some kind := by
      rw [numberStep, if_pos (numeric c List.mem_cons_self)]
    rw [List.foldlM_cons, step]
    exact ih fun c member => numeric c (List.mem_cons_of_mem _ member)

/-- After the point only numeric characters are taken. -/
theorem numeric_of_foldlM_float {l : List Char} {kind : Kind}
    (fold : l.foldlM numberStep .float = some kind) :
    kind = .float ∧ ∀ c ∈ l, isNumber c = true := by
  induction l with
  | nil => exact ⟨(Option.some.inj fold).symm, by simp⟩
  | cons c rest ih =>
    by_cases numeric : isNumber c = true
    · have step : numberStep .float c = some .float := by rw [numberStep, if_pos numeric]
      rw [List.foldlM_cons, step] at fold
      obtain ⟨same, all⟩ := ih fold
      exact ⟨same, List.forall_mem_cons.mpr ⟨numeric, all⟩⟩
    · have step : numberStep .float c = none := by
        rw [numberStep, if_neg numeric, if_neg (by rintro ⟨_, same⟩; cases same)]
      rw [List.foldlM_cons, step] at fold
      cases fold

theorem foldlM_number {l : List Char} {kind : Kind}
    (fold : l.foldlM numberStep .number = some kind) :
    (kind = .number ∧ ∀ c ∈ l, isNumber c = true) ∨
      kind = .float ∧ ∃ digits more, l = digits ++ '.' :: more ∧
        (∀ c ∈ digits, isNumber c = true) ∧ ∀ c ∈ more, isNumber c = true := by
  induction l with
  | nil => exact .inl ⟨(Option.some.inj fold).symm, by simp⟩
  | cons c rest ih =>
    by_cases numeric : isNumber c = true
    · have step : numberStep .number c = some .number := by rw [numberStep, if_pos numeric]
      rw [List.foldlM_cons, step] at fold
      rcases ih fold with ⟨same, all⟩ | ⟨same, digits, more, rfl, whole, fraction⟩
      · exact .inl ⟨same, List.forall_mem_cons.mpr ⟨numeric, all⟩⟩
      · have longer : ∀ d ∈ c :: digits, isNumber d = true :=
          List.forall_mem_cons.mpr ⟨numeric, whole⟩
        exact .inr ⟨same, c :: digits, more, rfl, longer, fraction⟩
    · by_cases point : c = '.'
      · subst point
        have step : numberStep .number '.' = some .float := by
          rw [numberStep, if_neg numeric, if_pos ⟨rfl, rfl⟩]
        rw [List.foldlM_cons, step] at fold
        obtain ⟨same, all⟩ := numeric_of_foldlM_float fold
        exact .inr ⟨same, [], rest, rfl, by simp, all⟩
      · have step : numberStep .number c = none := by
          rw [numberStep, if_neg numeric, if_neg (by rintro ⟨same, _⟩; exact point same)]
        rw [List.foldlM_cons, step] at fold
        cases fold

/-- A numeral is a numeric character and what a scan takes after it. -/
theorem isNumeral_cons {c : Char} (numeric : isNumber c = true) (l : List Char) :
    IsNumeral (c :: l) ↔ (l.foldlM numberStep .number).isSome := by
  constructor
  · intro numeral
    generalize whole : c :: l = all at numeral
    cases numeral with
    | whole _ digits =>
      subst whole
      rw [foldlM_numeric _ fun c member => digits c (List.mem_cons_of_mem _ member)]
      rfl
    | @fraction digits more nonempty numeric more =>
      cases digits with
      | nil => exact absurd rfl nonempty
      | cons first digits =>
        rw [List.cons_append] at whole
        obtain ⟨_, rfl⟩ := List.cons.inj whole
        have before := foldlM_numeric .number (List.forall_mem_cons.mp numeric).2
        have point : numberStep .number '.' = some .float := by decide +kernel
        rw [List.foldlM_append, before]
        simp [List.foldlM_cons, point, foldlM_numeric .float more]
  · intro goes
    obtain ⟨kind, fold⟩ := Option.isSome_iff_exists.mp goes
    rcases foldlM_number fold with ⟨_, all⟩ | ⟨_, digits, more, rfl, whole, fraction⟩
    · exact .whole (by simp) (List.forall_mem_cons.mpr ⟨numeric, all⟩)
    · exact .fraction (by simp) (List.forall_mem_cons.mpr ⟨numeric, whole⟩) fraction

/-- The kind that a scan ends with tells whether there was a point. -/
theorem kind_of_foldlM_number {c : Char} (numeric : isNumber c = true) {l : List Char} {kind : Kind}
    (fold : l.foldlM numberStep .number = some kind) :
    kind = if '.' ∈ c :: l then .float else .number := by
  rcases foldlM_number fold with ⟨rfl, all⟩ | ⟨rfl, digits, more, rfl, _, _⟩
  · have digits : ∀ d ∈ c :: l, isNumber d = true := List.forall_mem_cons.mpr ⟨numeric, all⟩
    rw [if_neg]
    intro point
    exact absurd (digits '.' point) (by decide +kernel)
  · rw [if_pos (by simp)]

end Numerals

/-! ### Strings -/

section Strings

open Builtin

theorem escapes_concat (before : List Char) (c : Char) :
    escapes (before ++ [c]) = (!escapes before && c == '\\') := by
  rw [escapes, escapes, List.reverse_concat, List.takeWhile_cons]
  by_cases backslash : c = '\\'
  · rw [if_pos (by simp [backslash]), List.length_cons, backslash]
    generalize (before.reverse.takeWhile (· == '\\')).length = run
    rcases Nat.mod_two_eq_zero_or_one run with even | odd
    · simp [even, Nat.add_mod]
    · simp [odd, Nat.add_mod]
  · simp [backslash]

theorem stringStep_some {escaped after : Bool} {c : Char} (h : stringStep escaped c = some after) :
    isNewline c = false ∧ (c = '"' → escaped = true) ∧ after = (!escaped && c == '\\') := by
  rw [stringStep] at h
  split at h
  · cases h
  · rename_i newline
    split at h
    · cases h
    · rename_i opened
      refine ⟨by simpa using newline, ?_, (Option.some.inj h).symm⟩
      intro quote
      simpa [quote] using opened

theorem stringStep_none {escaped : Bool} {c : Char} (h : stringStep escaped c = none)
    (sameLine : ¬isNewline c = true) : c = '"' ∧ escaped = false := by
  rw [stringStep, if_neg sameLine] at h
  split at h
  · rename_i closes
    exact ⟨closes.1, by simpa using closes.2⟩
  · cases h

/-- The inside of a string is on one line, and the quotes in it are escaped. -/
theorem foldlM_string {taken : List Char} {escaped : Bool}
    (fold : taken.foldlM stringStep false = some escaped) :
    escaped = escapes taken ∧ (∀ c ∈ taken, isNewline c = false) ∧
      ∀ body, body ++ ['"'] <+: taken → escapes body = true := by
  induction taken using List.reverseRecOn generalizing escaped with
  | nil =>
    obtain rfl := Option.some.inj fold
    exact ⟨rfl, by simp, by simp⟩
  | append_singleton taken c ih =>
    rw [List.foldlM_append, Option.bind_eq_bind, Option.bind_eq_some_iff] at fold
    obtain ⟨state, fold, last⟩ := fold
    obtain ⟨rfl, line, inner⟩ := ih fold
    obtain ⟨sameLine, quote, rfl⟩ := stringStep_some (by simpa using last)
    refine ⟨(escapes_concat taken c).symm, ?_, ?_⟩
    · intro ch member
      rcases List.mem_append.mp member with earlier | here
      · exact line ch earlier
      · rw [List.mem_singleton.mp here]
        exact sameLine
    · intro body starts
      rcases List.prefix_concat_iff.mp starts with whole | earlier
      · obtain ⟨rfl, same⟩ := List.append_inj' whole rfl
        exact quote (List.singleton_inj.mp same).symm
      · exact inner body earlier

end Strings

/-! ### Closing quotes -/

section Quotes

variable {q : Char} {rest taken body : List Char}

theorem prefix_concat {c : Char} (before : taken <+: rest) (on : rest[taken.length]? = some c) :
    taken ++ [c] <+: rest := by
  obtain ⟨after, rfl⟩ := before
  cases after with
  | nil => simp at on
  | cons first after =>
    have same : first = c := by simpa using on
    exact ⟨after, by simp [same]⟩

/-- A closing quote that is not among the characters taken stands behind them. -/
theorem closing_beyond (before : taken <+: rest) (closes : body ++ [q] <+: rest)
    (beyond : ¬body ++ [q] <+: taken) :
    taken.length ≤ body.length ∧ ∃ ch ∈ body ++ [q], rest[taken.length]? = some ch := by
  have shorter : taken.length < (body ++ [q]).length := by
    by_contra longer
    exact beyond (List.prefix_of_prefix_length_le closes before (by omega))
  refine ⟨Nat.le_of_lt_succ (by simpa using shorter), _, List.getElem_mem shorter, ?_⟩
  obtain ⟨tail, rfl⟩ := closes
  rw [List.getElem?_append_left shorter, List.getElem?_eq_getElem shorter]

variable {l : List Char}

/-- No string ends before the place where a scan of its inside stops, nor on a line break there. -/
theorem isStringLiteral_beyond {escaped : Bool} (before : taken <+: rest)
    (fold : taken.foldlM Builtin.stringStep false = some escaped) (starts : l <+: '"' :: rest)
    (fits : IsStringLiteral l) :
    taken.length + 2 ≤ l.length ∧ ∃ ch, rest[taken.length]? = some ch ∧ isNewline ch = false := by
  obtain ⟨_, _, inner⟩ := foldlM_string fold
  cases fits with
  | @quoted body line closed =>
    rw [List.cons_append, List.prefix_cons_inj] at starts
    have beyond : ¬body ++ ['"'] <+: taken := fun within => by simp [inner body within] at closed
    obtain ⟨longer, ch, member, on⟩ := closing_beyond before starts beyond
    refine ⟨by simpa using longer, ch, on, ?_⟩
    rcases List.mem_append.mp member with inside | last
    · exact line ch inside
    · rw [List.mem_singleton.mp last]
      rfl

theorem not_isBackQuote_of_foldlM {state : Unit}
    (fold : taken.foldlM (fun _ ch => if isBackQuote ch then none else some ()) () = some state) :
    ∀ c ∈ taken, isBackQuote c = false := by
  induction taken with
  | nil => simp
  | cons c more ih =>
    cases quote : isBackQuote c with
    | true => simp [List.foldlM_cons, quote] at fold
    | false =>
      have rest := ih (by simpa [List.foldlM_cons, quote] using fold)
      exact List.forall_mem_cons.mpr ⟨quote, rest⟩

theorem isRawString_beyond (before : taken <+: rest) (inner : ∀ c ∈ taken, isBackQuote c = false)
    (starts : l <+: '\x60' :: rest) (fits : IsRawString l) :
    taken.length + 2 ≤ l.length ∧ ∃ ch, rest[taken.length]? = some ch := by
  cases fits with
  | quoted body =>
    rw [List.cons_append, List.prefix_cons_inj] at starts
    have beyond : ¬body ++ ['\x60'] <+: taken := fun within =>
      absurd (inner '\x60' (within.mem (by simp))) (by decide)
    obtain ⟨longer, ch, _, on⟩ := closing_beyond before starts beyond
    exact ⟨by simpa using longer, ch, on⟩

end Quotes

end Lexing

end FirstMatch
