import FirstMatch.Proofs.Lexing.Bracket
import FirstMatch.Proofs.Lexing.Grammar
import FirstMatch.Proofs.Token.Symbols

/-! Operators by the longest match.  Whatever has been entered into the symbol tables, in whatever
order and however often, the search at the cursor finds the longest operator that the text ahead
begins with, and the token over it has the kind that was entered last. -/

namespace FirstMatch

namespace Symbols

/-! ### Tables made by entries -/

/-- Something entered into the tables. -/
inductive Entry where
  | operator (text : String) (kind : Kind)
  | keyword (text : String) (kind : Kind)
  deriving DecidableEq

def addEntry (s : Symbols) : Entry → Symbols
  | .operator text kind => s.addOperator text kind
  | .keyword text kind => s.addKeyword text kind

/-- The tables after some entries, made in the order of the list. -/
def ofEntries (entries : List Entry) : Symbols := entries.foldl addEntry {}

/-- The kind that an entry gives to an operator. -/
def Entry.operatorKind? (text : String) : Entry → Option Kind
  | .operator entered kind => if entered = text then some kind else none
  | .keyword _ _ => none

/-- The kind that the last entry of an operator gives to it. -/
def lastOperator? (entries : List Entry) (text : String) : Option Kind :=
  entries.reverse.findSome? (Entry.operatorKind? text)

/-- A text of at least one character that has been entered as an operator. -/
def Entered (entries : List Entry) (l : List Char) : Prop :=
  l ≠ [] ∧ ∃ kind, .operator (.ofList l) kind ∈ entries

theorem ofEntries_concat (entries : List Entry) (entry : Entry) :
    ofEntries (entries ++ [entry]) = (ofEntries entries).addEntry entry := by
  simp [ofEntries]

theorem operator?_addEntry (s : Symbols) (entry : Entry) (text : String) :
    (s.addEntry entry).operator? text = (entry.operatorKind? text).or (s.operator? text) := by
  cases entry with
  | operator entered kind =>
    rw [addEntry, operator?, addOperator, lookup_enter, Entry.operatorKind?]
    by_cases same : text = entered
    · rw [if_pos same, if_pos same.symm]
      rfl
    · rw [if_neg same, if_neg (Ne.symm same)]
      rfl
  | keyword => rfl

theorem operator?_ofEntries (entries : List Entry) (text : String) :
    (ofEntries entries).operator? text = lastOperator? entries text := by
  induction entries using List.reverseRecOn with
  | nil => rfl
  | append_singleton entries entry ih =>
    rw [ofEntries_concat, operator?_addEntry, ih, lastOperator?, lastOperator?,
      List.reverse_concat, List.findSome?_cons]
    cases entry.operatorKind? text with
    | none => rfl
    | some kind => rfl

theorem longest_le_addEntry (s : Symbols) (entry : Entry) :
    s.longest ≤ (s.addEntry entry).longest := by
  cases entry with
  | operator => exact Nat.le_max_left _ _
  | keyword => exact le_rfl

/-- No operator has more characters than the tables remember of the longest. -/
theorem length_le_longest {entries : List Entry} {text : String} {kind : Kind}
    (entered : .operator text kind ∈ entries) : text.length ≤ (ofEntries entries).longest := by
  induction entries using List.reverseRecOn with
  | nil => cases entered
  | append_singleton entries entry ih =>
    rw [ofEntries_concat]
    rcases List.mem_append.mp entered with earlier | last
    · exact (ih earlier).trans (longest_le_addEntry _ entry)
    · rw [← List.mem_singleton.mp last]
      exact Nat.le_max_right _ _

theorem isSome_lastOperator? {entries : List Entry} {text : String} :
    (lastOperator? entries text).isSome ↔ ∃ kind, .operator text kind ∈ entries := by
  rw [lastOperator?, List.findSome?_isSome_iff]
  constructor
  · rintro ⟨entry, member, gives⟩
    cases entry with
    | keyword => cases gives
    | operator entered kind =>
      rw [Entry.operatorKind?] at gives
      split at gives
      · rename_i same
        exact ⟨kind, same ▸ List.mem_reverse.mp member⟩
      · cases gives
  · rintro ⟨kind, member⟩
    exact ⟨_, List.mem_reverse.mpr member, by simp [Entry.operatorKind?]⟩

/-! ### The longest operator -/

/-- An operator of at least one and at most `n` characters. -/
structure IsOperator (s : Symbols) (n : Nat) (l : List Char) : Prop where
  nonempty : 0 < l.length
  bound : l.length ≤ n
  known : (s.operator? (.ofList l)).isSome

theorem isOperator_ofEntries {entries : List Entry} {l : List Char} :
    (ofEntries entries).IsOperator (ofEntries entries).longest l ↔ Entered entries l := by
  constructor
  · rintro ⟨nonempty, -, known⟩
    rw [operator?_ofEntries, isSome_lastOperator?] at known
    exact ⟨List.length_pos_iff.mp nonempty, known⟩
  · rintro ⟨nonempty, kind, entered⟩
    refine ⟨List.length_pos_iff.mpr nonempty, ?_, ?_⟩
    · simpa using length_le_longest entered
    · rw [operator?_ofEntries]
      exact isSome_lastOperator?.mpr ⟨kind, entered⟩

variable {s : Symbols} {chars : List Char} {n : Nat} {found : String} {kind : Kind}

theorem operatorWithin?_eq_take (search : s.operatorWithin? chars n = some (found, kind)) :
    ∃ m < n, found = .ofList (chars.take (m + 1)) := by
  induction n with
  | zero => cases search
  | succ n ih =>
    rw [operatorWithin?] at search
    split at search
    · obtain ⟨rfl, -⟩ := Prod.mk.inj (Option.some.inj search)
      exact ⟨n, Nat.lt_succ_self n, rfl⟩
    · obtain ⟨m, less, taken⟩ := ih search
      exact ⟨m, less.trans (Nat.lt_succ_self n), taken⟩

theorem operatorWithin?_longest (nonempty : chars ≠ [])
    (search : s.operatorWithin? chars n = some (found, kind)) :
    Lexing.Longest (s.IsOperator n) chars found.toList ∧ s.operator? found = some kind := by
  obtain ⟨known, starts, greatest⟩ := operatorWithin?_some search
  obtain ⟨m, less, taken⟩ := operatorWithin?_eq_take search
  have positive := List.length_pos_iff.mpr nonempty
  have length : found.toList.length = min (m + 1) chars.length := by
    rw [taken, String.toList_ofList, List.length_take]
  refine ⟨⟨starts, ⟨by omega, by omega, ?_⟩, ?_⟩, known⟩
  · rw [String.ofList_toList, known]
    rfl
  · intro l begins fits
    have whole := List.prefix_iff_eq_take.mp begins
    have shorter := greatest l.length fits.bound (by rw [← whole]; exact fits.known)
    rw [← whole] at shorter
    exact shorter

/-- The search fails exactly if the text begins with no operator. -/
theorem operatorWithin?_eq_none_iff (nonempty : chars ≠ []) :
    s.operatorWithin? chars n = none ↔ ∀ l, l <+: chars → ¬s.IsOperator n l := by
  constructor
  · intro search l starts fits
    have known := fits.known
    rw [List.prefix_iff_eq_take.mp starts,
      operatorWithin?_none search fits.nonempty fits.bound] at known
    cases known
  · intro missing
    match search : s.operatorWithin? chars n with
    | none => rfl
    | some (found, kind) =>
      obtain ⟨longest, -⟩ := operatorWithin?_longest nonempty search
      exact absurd longest.fits (missing _ longest.starts)

theorem exists_longest {l : List Char} (nonempty : chars ≠ []) (starts : l <+: chars)
    (fits : s.IsOperator n l) : ∃ found kind,
      Lexing.Longest (s.IsOperator n) chars found.toList ∧ s.operator? found = some kind := by
  match search : s.operatorWithin? chars n with
  | none => exact absurd fits ((operatorWithin?_eq_none_iff nonempty).mp search l starts)
  | some (found, kind) => exact ⟨found, kind, operatorWithin?_longest nonempty search⟩

/-- The search finds an operator exactly if it is the longest.  Where the text ends early, several
of the lengths tried give one and the same beginning. -/
theorem operatorWithin?_eq_some_iff (nonempty : chars ≠ []) :
    s.operatorWithin? chars n = some (found, kind) ↔
      Lexing.Longest (s.IsOperator n) chars found.toList ∧ s.operator? found = some kind := by
  refine ⟨operatorWithin?_longest nonempty, ?_⟩
  rintro ⟨longest, known⟩
  match search : s.operatorWithin? chars n with
  | none =>
    have missing := (operatorWithin?_eq_none_iff nonempty).mp search
    exact absurd longest.fits (missing _ longest.starts)
  | some (other, otherKind) =>
    obtain ⟨longestToo, knownToo⟩ := operatorWithin?_longest nonempty search
    obtain rfl := String.toList_injective (longest.unique longestToo)
    obtain rfl := Option.some.inj (known.symm.trans knownToo)
    rfl

end Symbols

namespace Lexing

variable {σ : Type} {text l : List Char} {j : Nat} {on : Char} {kind : Kind} {ctx : Context σ}

/-! ### Tokens -/

theorem Context.On.drop_ne_nil (h : ctx.On text j on) : text.drop j ≠ [] := by
  intro ended
  have := List.drop_eq_nil_iff.mp ended
  have := h.inside
  omega

/-- The token over the longest operator.  Its kind comes from the table twice over: the lookup of
the finished literal finds what the search has found. -/
theorem operatorToken_found (h : ctx.On text j on)
    (longest : Longest (ctx.symbols.IsOperator ctx.symbols.longest) (text.drop j) l)
    (known : ctx.symbols.operator? (.ofList l) = some kind) (ch : Char) :
    Builtin.operatorToken ch ctx =
        (.ok (.covering text j (j + l.length) kind), ctx.move (·.skip l.length)) ∧
      (ctx.move (·.skip l.length)).cursor.At text (j + l.length) := by
  have ahead : ctx.cursor.here.ahead = text.drop j := by rw [h.cursor.here, Place.ahead_nth]
  have search : ctx.symbols.operatorWithin? (text.drop j) ctx.symbols.longest =
      some (.ofList l, kind) := by
    rw [Symbols.operatorWithin?_eq_some_iff h.drop_ne_nil, String.toList_ofList]
    exact ⟨longest, known⟩
  have room : j + l.length ≤ text.length := by
    have := longest.starts.length_le
    have := h.inside
    rw [List.length_drop] at *
    omega
  have left : (ctx.move (·.skip l.length)).cursor.At text (j + l.length) :=
    h.cursor.skip_of_le room
  refine ⟨?_, left⟩
  have classified : (ctx.move (·.skip l.length)).classify kind (.ofList l) = kind := by
    have again : (ctx.move (·.skip l.length)).symbols.operator? (.ofList l) = some kind := known
    rw [Context.classify, Symbols.lookup, again]
    split
    · rfl
    · rfl
  rw [Builtin.operatorToken, ahead, search]
  dsimp only
  rw [String.length_ofList, Context.accept,
    Context.endToken_startToken h.cursor.here left.here (Nat.le_add_right _ _),
    slice_eq_of_prefix longest.starts, classified]

theorem operatorToken_missing (h : ctx.On text j on)
    (missing : ∀ l, l <+: text.drop j → ¬ctx.symbols.IsOperator ctx.symbols.longest l)
    (ch : Char) :
    Builtin.operatorToken ch ctx = ctx.fail ("invalid operator: " ++ ch.toString) := by
  have ahead : ctx.cursor.here.ahead = text.drop j := by rw [h.cursor.here, Place.ahead_nth]
  rw [Builtin.operatorToken, ahead,
    (Symbols.operatorWithin?_eq_none_iff h.drop_ne_nil).mpr missing]

/-- On a character, with any entries in the tables, an operator is read by the longest match.  If
the text ahead begins with anything that has been entered as an operator, the token is over the
longest such text and has the kind that was entered last for it; if it does not, the rule fails
where it is. -/
theorem operatorToken_longest (entries : List Symbols.Entry) (h : ctx.On text j on)
    (tables : ctx.symbols = .ofEntries entries) (ch : Char) :
    ((∃ l, l <+: text.drop j ∧ Symbols.Entered entries l) →
      ∃ l kind out, Longest (Symbols.Entered entries) (text.drop j) l ∧
        Symbols.lastOperator? entries (.ofList l) = some kind ∧
        Builtin.operatorToken ch ctx =
          (.ok ⟨kind, ctx.position, out.position, .ofList l⟩, out) ∧
        out.cursor.At text (j + l.length)) ∧
    ((¬∃ l, l <+: text.drop j ∧ Symbols.Entered entries l) →
      Builtin.operatorToken ch ctx = ctx.fail ("invalid operator: " ++ ch.toString)) := by
  have operators : ctx.symbols.IsOperator ctx.symbols.longest = Symbols.Entered entries := by
    rw [tables]
    exact funext fun l => propext Symbols.isOperator_ofEntries
  constructor
  · rintro ⟨candidate, starts, entered⟩
    rw [← operators] at entered ⊢
    obtain ⟨found, kind, longest, known⟩ := Symbols.exists_longest h.drop_ne_nil starts entered
    rw [← found.ofList_toList] at known
    obtain ⟨made, left⟩ := operatorToken_found h longest known ch
    rw [Token.covering_of_prefix longest.starts, ← h.position, ← left.position] at made
    refine ⟨found.toList, kind, _, longest, ?_, made, left⟩
    rw [← Symbols.operator?_ofEntries, ← tables, known]
  · intro nothing
    refine operatorToken_missing h (fun l starts fits => nothing ⟨l, starts, ?_⟩) ch
    rw [← operators]
    exact fits

/-- Arrows of one, two and five characters, and an empty one.  The double arrow is entered twice,
the second time with a kind that no table may change, and it is a keyword as well. -/
def arrows : List Symbols.Entry :=
  [.operator "→" ⟨2001⟩, .operator "" ⟨2000⟩, .operator "→→" ⟨2002⟩, .operator "→→" .number,
    .keyword "→→" ⟨3001⟩, .operator "→→→→→" ⟨2005⟩]

/-- Three arrows, of which two are an operator; and then something that is none. -/
theorem operatorToken_longest_arrows :
    let ctx (input : String) : Context Unit := ⟨.ofText input {}, .ofEntries arrows, ()⟩
    (ctx "→→→").On "→→→".toList 0 '→' ∧ (ctx "x→").On "x→".toList 0 'x' ∧
    (∃ l kind out, Longest (Symbols.Entered arrows) "→→→".toList l ∧
      Symbols.lastOperator? arrows (.ofList l) = some kind ∧
      Builtin.operatorToken '→' (ctx "→→→") =
        (.ok ⟨kind, (ctx "→→→").position, out.position, .ofList l⟩, out) ∧
      out.cursor.At "→→→".toList (0 + l.length)) ∧
    (Builtin.operatorToken '→' (ctx "→→→")).1 = .ok ⟨.number, ⟨1, 1, 0⟩, ⟨1, 3, 6⟩, "→→"⟩ ∧
    Builtin.operatorToken 'x' (ctx "x→") = (ctx "x→").fail "invalid operator: x" := by
  intro ctx
  have arrow : (ctx "→→→").On "→→→".toList 0 '→' := ⟨.ofText _, by decide⟩
  have letter : (ctx "x→").On "x→".toList 0 'x' := ⟨.ofText _, by decide⟩
  have noLetter : (arrows.all fun entry =>
      match entry with
      | .operator text _ => text.toList.head? != some 'x'
      | .keyword _ _ => true) = true := by decide
  have entered : Symbols.Entered arrows ['→'] := ⟨by decide, ⟨2001⟩, by decide⟩
  refine ⟨arrow, letter, ?_, by decide +kernel, ?_⟩
  · exact (operatorToken_longest arrows arrow rfl '→').1 ⟨['→'], ⟨['→', '→'], by decide⟩, entered⟩
  · refine (operatorToken_longest arrows letter rfl 'x').2 ?_
    rintro ⟨l, starts, nonempty, kind, member⟩
    rw [show "x→".toList.drop 0 = ['x', '→'] by decide] at starts
    have apart := List.all_eq_true.mp noLetter _ member
    cases l with
    | nil => exact nonempty rfl
    | cons first rest =>
      obtain ⟨rfl, -⟩ := List.cons_prefix_cons.mp starts
      simp at apart

end Lexing

end FirstMatch
