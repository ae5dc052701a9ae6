import FirstMatch.Proofs.Lexing.Reading
import Mathlib.Order.Bounds.Basic

/-! Where quoted literals close.  The inside of a string is scanned with one bit of memory, whether
the next character is escaped; said without that bit, a string closes on the first double quote with
an even number of backslashes right before it, unless a line break comes first.  A raw string closes
on the first back quote. -/

namespace FirstMatch.Lexing

open Text

variable {σ : Type}

/-! ### Indexes inside a literal -/

/-- The character with index `i` is a line break. -/
def BreaksLine (rest : List Char) (i : Nat) : Prop := rest[i]?.any isNewline = true

/-- The character with index `i` is a double quote, and not escaped. -/
def ClosesString (rest : List Char) (i : Nat) : Prop :=
  rest[i]? = some '"' ∧ escapes (rest.take i) = false

/-- The character with index `i` is a back quote. -/
def ClosesRawString (rest : List Char) (i : Nat) : Prop := rest[i]? = some '\x60'

instance (rest : List Char) : DecidablePred (BreaksLine rest) :=
  fun i => inferInstanceAs (Decidable (rest[i]?.any isNewline = true))

instance (rest : List Char) : DecidablePred (ClosesString rest) :=
  fun i => inferInstanceAs (Decidable (rest[i]? = some '"' ∧ escapes (rest.take i) = false))

instance (rest : List Char) : DecidablePred (ClosesRawString rest) :=
  fun i => inferInstanceAs (Decidable (rest[i]? = some '\x60'))

theorem BreaksLine.inside {rest : List Char} {i : Nat} (breaks : BreaksLine rest i) :
    i < rest.length := by
  obtain ⟨ch, on, -⟩ := (Option.any_eq_true _ _).mp breaks
  exact (List.getElem?_eq_some_iff.mp on).1

theorem ClosesString.inside {rest : List Char} {i : Nat} (closes : ClosesString rest i) :
    i < rest.length := (List.getElem?_eq_some_iff.mp closes.1).1

theorem ClosesRawString.inside {rest : List Char} {i : Nat} (closes : ClosesRawString rest i) :
    i < rest.length := (List.getElem?_eq_some_iff.mp closes).1

/-- `m` is the first of the indexes below `size` that `P` holds for, or `size` if there is none. -/
structure StopsAt (P : Nat → Prop) (size m : Nat) : Prop where
  bound : m ≤ size
  before : ∀ i < m, ¬P i
  stops : m < size → P m

namespace StopsAt

variable {P : Nat → Prop} {size m k : Nat}

theorem eq_of_isLeast (h : StopsAt P size m) (least : IsLeast {i | P i} k) (inside : k < size) :
    m = k := by
  rcases Nat.lt_trichotomy m k with early | same | late
  · have := least.2 (h.stops (early.trans inside))
    omega
  · exact same
  · exact absurd least.1 (h.before k late)

theorem eq_size (h : StopsAt P size m) (never : ∀ i, ¬P i) : m = size := by
  rcases Nat.lt_or_eq_of_le h.bound with early | same
  · exact absurd (h.stops early) (never m)
  · exact same

end StopsAt

/-! ### What the scans stop on -/

section Stops

variable {rest taken : List Char}

/-- The scan of a string stops on a line break or a closing quote, whichever comes first. -/
theorem stopsAt_string {escaped : Bool} (before : taken <+: rest)
    (fold : taken.foldlM Builtin.stringStep false = some escaped)
    (refuses : ∀ ch, rest[taken.length]? = some ch → Builtin.stringStep escaped ch = none) :
    StopsAt (fun i => BreaksLine rest i ∨ ClosesString rest i) rest.length taken.length := by
  obtain ⟨rfl, line, inner⟩ := foldlM_string fold
  obtain ⟨after, rfl⟩ := before
  refine ⟨by simp, ?_, ?_⟩
  · intro i early
    have char : (taken ++ after)[i]? = some taken[i] := by
      rw [List.getElem?_append_left early, List.getElem?_eq_getElem early]
    rintro (breaks | ⟨quote, closes⟩)
    · rw [BreaksLine, char, Option.any_some, line _ (List.getElem_mem early)] at breaks
      cases breaks
    · have same : taken[i] = '"' := Option.some.inj (char.symm.trans quote)
      have within : taken.take i ++ ['"'] <+: taken := by
        rw [← same, ← List.take_succ_eq_append_getElem early]
        exact List.take_prefix _ _
      rw [List.take_append_of_le_length early.le, inner _ within] at closes
      cases closes
  · intro inside
    have on := List.getElem?_eq_getElem inside
    by_cases newline : isNewline (taken ++ after)[taken.length] = true
    · left
      rw [BreaksLine, on, Option.any_some, newline]
    · right
      obtain ⟨quote, closed⟩ := stringStep_none (refuses _ on) newline
      rw [quote] at on
      rw [ClosesString, List.take_left]
      exact ⟨on, closed⟩

theorem stopsAt_rawString (before : taken <+: rest)
    (inner : ∀ c ∈ taken, isBackQuote c = false)
    (refuses : ∀ ch, rest[taken.length]? = some ch → isBackQuote ch = true) :
    StopsAt (ClosesRawString rest) rest.length taken.length := by
  obtain ⟨after, rfl⟩ := before
  refine ⟨by simp, ?_, ?_⟩
  · intro i early closes
    rw [ClosesRawString, List.getElem?_append_left early] at closes
    exact absurd (inner _ (List.mem_of_getElem? closes)) (by decide)
  · intro inside
    have on := List.getElem?_eq_getElem inside
    have quote : (taken ++ after)[taken.length] = '\x60' := by
      simpa [isBackQuote] using refuses _ on
    rw [ClosesRawString, on, quote]

end Stops

/-! ### Tokens -/

/-- The outcome is a token over the characters `l` at index `j`, and the cursor is behind them. -/
def Makes (text : List Char) (j : Nat) (l : List Char) (kind : Kind) (outcome : Outcome σ) : Prop :=
  ∃ out : Context σ,
    outcome = (.ok ⟨kind, .derived text j, .derived text (j + l.length), .ofList l⟩, out) ∧
      out.cursor.At text (j + l.length)

/-- The outcome is a failure on index `k`, and the cursor is there. -/
def FailsAt (text : List Char) (k : Nat) (message : String) (outcome : Outcome σ) : Prop :=
  ∃ out : Context σ, outcome = (.error (.fail message (.derived text k)), out) ∧
    out.cursor.At text k

section Outcomes

variable {text rest : List Char} {j m : Nat} {on : Char} {ctx out : Context σ}

theorem Context.failsAt (left : out.cursor.At text m) (message : String) :
    FailsAt text m message (out.fail message) := by
  refine ⟨out, ?_, left⟩
  rw [← left.position]
  rfl

/-- A literal that closes on the character that a scan has stopped on.  No symbol changes its
kind. -/
theorem Context.On.makes_closed (h : ctx.On text j on) (left : out.cursor.At text (j + 1 + m))
    (inside : m < (text.drop (j + 1)).length) :
    Makes text j (on :: (text.drop (j + 1)).take (m + 1)) .string
      (out.next.2.accept (ctx.startToken .string)) := by
  have starts : on :: (text.drop (j + 1)).take (m + 1) <+: text.drop j := by
    rw [h.drop_eq, List.prefix_cons_inj]
    exact List.take_prefix _ _
  have length : j + (on :: (text.drop (j + 1)).take (m + 1)).length = j + 1 + m + 1 := by
    rw [List.length_cons, List.length_take]
    omega
  have further : out.next.2.cursor.At text (j + 1 + m + 1) := by
    rw [List.length_drop] at inside
    exact left.next (by omega)
  rw [← length] at further
  refine ⟨out.next.2, ?_, further⟩
  rw [← Token.covering_of_prefix starts]
  exact congrArg (fun token => (Except.ok token, out.next.2))
    (Context.endToken_startToken h.cursor.here further.here (Nat.le_add_right _ _) .string)

theorem stringToken_stops (h : ctx.On text j on) :
    ∃ m, StopsAt (fun i => BreaksLine (text.drop (j + 1)) i ∨ ClosesString (text.drop (j + 1)) i)
        (text.drop (j + 1)).length m ∧
      (BreaksLine (text.drop (j + 1)) m →
        FailsAt text (j + 1 + m) "literal newlines aren't valid in a string"
          (Builtin.stringToken ctx)) ∧
      (ClosesString (text.drop (j + 1)) m →
        Makes text j (on :: (text.drop (j + 1)).take (m + 1)) .string
          (Builtin.stringToken ctx)) ∧
      (m = (text.drop (j + 1)).length →
        FailsAt text (j + 1 + m) "unterminated string literal" (Builtin.stringToken ctx)) := by
  obtain ⟨taken, before, fold, left, stopper, refuses⟩ :=
    h.cursor.scan Builtin.stringStep false h.inside
  rw [← List.getElem?_drop] at stopper
  rw [stopper] at refuses
  let out : Context σ := { ctx with cursor := (ctx.cursor.scan Builtin.stringStep false).cursor }
  have stopped : out.cursor.At text (j + 1 + taken.length) := left
  refine ⟨taken.length, stopsAt_string before fold refuses, ?_, ?_, ?_⟩
  · intro breaks
    obtain ⟨ch, on, newline⟩ := Option.any_eq_true _ _ |>.mp breaks
    rw [Builtin.stringToken, stopper, on]
    dsimp only
    rw [if_pos newline]
    exact Context.failsAt stopped _
  · intro closes
    rw [Builtin.stringToken, stopper, closes.1]
    dsimp only
    rw [if_neg (by decide)]
    exact h.makes_closed stopped (List.getElem?_eq_some_iff.mp closes.1).1
  · intro ended
    rw [Builtin.stringToken, stopper, ended, List.getElem?_length, ← ended]
    exact Context.failsAt stopped _

theorem rawStringToken_stops (h : ctx.On text j on) :
    ∃ m, StopsAt (ClosesRawString (text.drop (j + 1))) (text.drop (j + 1)).length m ∧
      (ClosesRawString (text.drop (j + 1)) m →
        Makes text j (on :: (text.drop (j + 1)).take (m + 1)) .string
          (Builtin.rawStringToken ctx)) ∧
      (m = (text.drop (j + 1)).length →
        FailsAt text (j + 1 + m) "unterminated raw string literal"
          (Builtin.rawStringToken ctx)) := by
  obtain ⟨taken, before, fold, left, stopper, refuses⟩ :=
    h.cursor.scan (fun _ ch => if isBackQuote ch then none else some ()) () h.inside
  rw [← List.getElem?_drop] at stopper
  rw [stopper] at refuses
  let out : Context σ := { ctx with cursor :=
    (ctx.cursor.scan (fun _ ch => if isBackQuote ch then none else some ()) ()).cursor }
  have stopped : out.cursor.At text (j + 1 + taken.length) := left
  have stops := stopsAt_rawString before (not_isBackQuote_of_foldlM fold)
    fun ch on => by simpa using refuses ch on
  refine ⟨taken.length, stops, ?_, ?_⟩
  · intro closes
    rw [Builtin.rawStringToken, stopper, closes]
    exact h.makes_closed stopped (List.getElem?_eq_some_iff.mp closes).1
  · intro ended
    rw [Builtin.rawStringToken, stopper, ended, List.getElem?_length, ← ended]
    exact Context.failsAt stopped _

/-- Where quoted literals close, with `rest` for the text behind the character that they begin with.
A string closes on its first double quote that is not escaped, if no line break stands before that
quote.  If one does, the string is broken off there; and if there is neither, it runs to the end of
the text.  A raw string closes on its first back quote, or runs to the end.  The symbols have no say
in this, nor in the kind. -/
theorem quoted_literals_close (h : ctx.cursor.At text j) (ahead : text.drop j = on :: rest) :
    (∀ n, IsLeast {i | BreaksLine rest i} n → (∀ q, ClosesString rest q → n < q) →
      FailsAt text (j + 1 + n) "literal newlines aren't valid in a string"
        (Builtin.stringToken ctx)) ∧
    (∀ q, IsLeast {i | ClosesString rest i} q → (∀ n, BreaksLine rest n → q < n) →
      Makes text j (on :: rest.take (q + 1)) .string (Builtin.stringToken ctx)) ∧
    ((∀ i, ¬BreaksLine rest i ∧ ¬ClosesString rest i) →
      FailsAt text text.length "unterminated string literal" (Builtin.stringToken ctx)) ∧
    (∀ q, IsLeast {i | ClosesRawString rest i} q →
      Makes text j (on :: rest.take (q + 1)) .string (Builtin.rawStringToken ctx)) ∧
    ((∀ i, ¬ClosesRawString rest i) →
      FailsAt text text.length "unterminated raw string literal" (Builtin.rawStringToken ctx)) := by
  have char : text[j]? = some on := by
    rw [← List.head?_drop, ahead]
    rfl
  have on : ctx.On text j on := ⟨h, char⟩
  have behind : text.drop (j + 1) = rest := by
    rw [on.drop_eq] at ahead
    exact (List.cons.inj ahead).2
  have total : j + 1 + rest.length = text.length := by
    have := on.inside
    rw [← behind, List.length_drop]
    omega
  obtain ⟨m, stops, breaks, closes, ended⟩ := stringToken_stops on
  obtain ⟨k, stopsRaw, closesRaw, endedRaw⟩ := rawStringToken_stops on
  rw [behind] at stops breaks closes ended stopsRaw closesRaw endedRaw
  refine ⟨?_, ?_, ?_, ?_, ?_⟩
  · intro n least after
    have first : IsLeast {i | BreaksLine rest i ∨ ClosesString rest i} n := by
      refine ⟨.inl least.1, ?_⟩
      rintro i (breaks | closes)
      · exact least.2 breaks
      · exact (after i closes).le
    obtain rfl := stops.eq_of_isLeast first least.1.inside
    exact breaks least.1
  · intro q least after
    have first : IsLeast {i | BreaksLine rest i ∨ ClosesString rest i} q := by
      refine ⟨.inr least.1, ?_⟩
      rintro i (breaks | closes)
      · exact (after i breaks).le
      · exact least.2 closes
    obtain rfl := stops.eq_of_isLeast first least.1.inside
    exact closes least.1
  · intro never
    have last := stops.eq_size fun i => not_or.mpr (never i)
    have failed := ended last
    rw [last, total] at failed
    exact failed
  · intro q least
    obtain rfl := stopsRaw.eq_of_isLeast least (ClosesRawString.inside least.1)
    exact closesRaw least.1
  · intro never
    have last := stopsRaw.eq_size never
    have failed := endedRaw last
    rw [last, total] at failed
    exact failed

end Outcomes

/-- A context at the start of a text, with the whole text for a keyword. -/
def reserved (text : List Char) : Context Unit :=
  ⟨⟨.start text, none, {}⟩, Symbols.addKeyword {} (.ofList text) ⟨3001⟩, ()⟩

theorem reserved_at (text : List Char) : (reserved text).cursor.At text 0 :=
  ⟨Place.start_eq_nth text, Nat.zero_le _, rfl⟩

/-- A string with a quote and a backslash inside, both escaped. -/
def escapedBoth : List Char := ['"', '\\', '"', '\\', '\\', '"']

/-- The quote of `escapedBoth` that closes it is the last.  Behind a backslash, a line break still
breaks a string off; in a raw string it is like any other character. -/
theorem quoted_literals_close_escaped :
    ((reserved escapedBoth).cursor.At escapedBoth 0 ∧
      escapedBoth.drop 0 = '"' :: escapedBoth.tail ∧
      IsLeast {i | ClosesString escapedBoth.tail i} 4 ∧
      Makes escapedBoth 0 escapedBoth .string (Builtin.stringToken (reserved escapedBoth))) ∧
    FailsAt ['"', '\\', '\r', '"'] 2 "literal newlines aren't valid in a string"
      (Builtin.stringToken (reserved ['"', '\\', '\r', '"'])) ∧
    Makes ['\x60', '\n', '\x60'] 0 ['\x60', '\n', '\x60'] .string
      (Builtin.rawStringToken (reserved ['\x60', '\n', '\x60'])) := by
  refine ⟨⟨reserved_at _, rfl, ?_⟩, ?_, ?_⟩
  · have early : ∀ i < 4, ¬ClosesString escapedBoth.tail i := by decide
    have line : ∀ i < 5, ¬BreaksLine escapedBoth.tail i := by decide
    have least : IsLeast {i | ClosesString escapedBoth.tail i} 4 :=
      ⟨by decide, fun i closes => Nat.le_of_not_lt fun less => early i less closes⟩
    exact ⟨least, (quoted_literals_close (reserved_at _) rfl).2.1 4 least
      fun n breaks => absurd breaks (line n breaks.inside)⟩
  · have early : ∀ i < 1, ¬BreaksLine ['\\', '\r', '"'] i := by decide
    have after : ∀ q < 2, ¬ClosesString ['\\', '\r', '"'] q := by decide
    exact (quoted_literals_close (reserved_at _) rfl).1 1
      ⟨by decide, fun i breaks => Nat.le_of_not_lt fun less => early i less breaks⟩
      fun q closes => Nat.lt_of_not_le fun less => after q (Nat.lt_succ_of_le less) closes
  · have early : ∀ i < 1, ¬ClosesRawString ['\n', '\x60'] i := by decide
    exact (quoted_literals_close (reserved_at _) rfl).2.2.2.1 1
      ⟨by decide, fun i closes => Nat.le_of_not_lt fun less => early i less closes⟩

end FirstMatch.Lexing
