import FirstMatch.Proofs.Lexing.Bracket
import FirstMatch.Proofs.Lexing.Forms
import FirstMatch.Proofs.Token.Symbols

/-! The built-in ways to make a token read the lexemes of the grammar.  Where the text begins with a
lexeme of its form, each of them makes a token over it, and where it does not, it fails. -/

namespace FirstMatch.Lexing

open Text

variable {σ : Type}

/-! ### The symbols -/

/-- The fixed operators and the given keywords. -/
def standardSymbols (keywords : List (String × Kind)) : Symbols :=
  (Symbols.addOperators {} Kind.operators).addKeywords keywords

section Symbols

variable (keywords : List (String × Kind))

theorem operator?_standardSymbols (text : String) (kind : Kind) :
    (standardSymbols keywords).operator? text = some kind ↔ (text, kind) ∈ Kind.operators := by
  have table : (standardSymbols keywords).operator? text = Kind.operators.reverse.lookup text := by
    rw [Symbols.operator?, standardSymbols, (Symbols.addKeywords_frame _ keywords).1]
    have entered := Symbols.operator?_addOperators {} Kind.operators text
    rw [Symbols.operator?] at entered
    rw [entered]
    exact Option.or_none
  rw [table]
  constructor
  · intro found
    obtain ⟨before, after, split, _⟩ := List.lookup_eq_some_iff.mp found
    have member : (text, kind) ∈ Kind.operators.reverse := by simp [split]
    exact List.mem_reverse.mp member
  · intro entry
    exact lookup_operators _ entry

theorem keyword?_standardSymbols (text : String) :
    (standardSymbols keywords).keyword? text = keywords.reverse.lookup text := by
  rw [standardSymbols, Symbols.keyword?_addKeywords, Symbols.keyword?,
    Symbols.keywords_addOperators]
  exact Option.or_none

theorem longest_standardSymbols : (standardSymbols keywords).longest = 3 := by
  rw [standardSymbols, (Symbols.addKeywords_frame _ keywords).2]
  decide +kernel

end Symbols

/-! ### Outcomes -/

/-- The lexeme at index `j` made into a token, or a failure if there is none. -/
inductive Reads (keywords : List (String × Kind)) (b : Builtin) (text : List Char) (j : Nat) :
    Outcome σ → Prop
  | token {l kind} {out : Context σ} (lexeme : Lexeme keywords (text.drop j) l b kind)
      (nonempty : l ≠ []) (left : out.cursor.At text (j + l.length))
      (kept : out.symbols = standardSymbols keywords) :
      Reads keywords b text j (.ok (.covering text j (j + l.length) kind), out)
  | failure {k message} {out : Context σ}
      (none : ∀ l kind, ¬Lexeme keywords (text.drop j) l b kind) (left : out.cursor.At text k) :
      Reads keywords b text j (out.fail message)

section Reading

variable {keywords : List (String × Kind)} {text l : List Char} {j : Nat} {ch : Char}
  {b : Builtin} {kind given : Kind} {ctx out : Context σ}

theorem Context.On.drop_eq (h : ctx.On text j ch) : text.drop j = ch :: text.drop (j + 1) := by
  rw [List.drop_eq_getElem_cons h.inside, (List.getElem?_eq_some_iff.mp h.char).2]

theorem Context.next_at (h : ctx.cursor.At text j) (inside : j < text.length) :
    ctx.next.1 = text[j + 1]? ∧ ctx.next.2.cursor.At text (j + 1) :=
  ⟨congrArg Prod.fst (h.next_eq inside), h.next inside⟩

/-- A literal that is closed by the quote it was opened with. -/
theorem Context.On.closed_prefix (h : ctx.On text j ch) {taken : List Char}
    (before : taken <+: text.drop (j + 1)) (closes : text[j + 1 + taken.length]? = some ch) :
    ch :: taken ++ [ch] <+: text.drop j := by
  rw [h.drop_eq, List.cons_append, List.prefix_cons_inj]
  exact prefix_concat before (by rw [List.getElem?_drop, closes])

theorem Context.closed_left {taken : List Char} (stops : out.cursor.At text (j + 1 + taken.length))
    (closes : text[j + 1 + taken.length]? = some ch) :
    out.next.2.cursor.At text (j + (ch :: taken ++ [ch]).length) := by
  have inside := (List.getElem?_eq_some_iff.mp closes).1
  have total : j + (ch :: taken ++ [ch]).length = j + 1 + taken.length + 1 := by
    simp
    omega
  rw [total]
  exact stops.next inside

/-- Ending a token behind the lexeme that it was started on. -/
theorem Reads.accept (h : ctx.On text j ch) (lexeme : Lexeme keywords (text.drop j) l b kind)
    (nonempty : l ≠ []) (left : out.cursor.At text (j + l.length))
    (kept : out.symbols = standardSymbols keywords)
    (classified : out.classify given (String.ofList l) = kind) :
    Reads keywords b text j (out.accept (ctx.startToken given)) := by
  rw [Context.accept, Context.endToken_startToken h.cursor.here left.here (by omega),
    slice_eq_of_prefix lexeme.starts, classified]
  exact .token lexeme nonempty left kept

theorem no_char_lexeme
    (unclosed : ∀ c, c ≠ '\'' → text[j + 1]? = some c → text[j + 2]? ≠ some '\'') :
    ∀ l kind, ¬Lexeme keywords (text.drop j) l .charLiteral kind := by
  intro l kind lexeme
  cases lexeme with
  | char starts fits =>
    cases fits with
    | @quoted c content =>
      obtain ⟨tail, whole⟩ := starts
      refine unclosed c content ?_ ?_
      · rw [← List.getElem?_drop, ← whole]
        rfl
      · rw [← List.getElem?_drop, ← whole]
        rfl

variable (h : ctx.On text j ch) (known : ctx.symbols = standardSymbols keywords)
include h known

theorem numberToken_reads (numeric : isNumber ch = true) :
    Reads keywords .number text j (Builtin.numberToken ch ctx) := by
  obtain ⟨taken, longest, fold, stops⟩ :=
    h.cursor.scan_longest Builtin.numberStep .number h.inside
  have numeral : Longest IsNumeral (text.drop j) (ch :: taken) := by
    rw [h.drop_eq]
    exact longest.cons (isNumeral_cons numeric)
  have kind := kind_of_foldlM_number numeric fold
  rw [Builtin.numberToken, if_pos numeric]
  refine .accept h (.number numeral) (by simp) stops known ?_
  rw [kind]
  split
  · rfl
  · rfl

/-- A word keeps its kind unless it is a keyword: operators have no letters. -/
theorem identifierToken_reads (notNumeric : isNumber ch = false) (letter : isLetter ch = true) :
    Reads keywords .identifier text j (Builtin.identifierToken ch ctx) := by
  obtain ⟨taken, longest, _, stops⟩ := h.cursor.scan_longest
    (fun _ ch => if isLetterOrNumber ch then some () else none) () h.inside
  have begins : isLetterOrNumber ch = true := by rw [isLetterOrNumber, letter, Bool.true_or]
  have word : Longest IsWord (text.drop j) (ch :: taken) := by
    rw [h.drop_eq]
    refine longest.cons ?_
    intro l
    rw [IsWord, List.forall_mem_cons]
    constructor
    · rintro ⟨_, all⟩
      rw [Cursor.foldlM_test.mpr all]
      rfl
    · intro goes
      obtain ⟨_, fold⟩ := Option.isSome_iff_exists.mp goes
      exact ⟨begins, Cursor.foldlM_test.mp fold⟩
  rw [Builtin.identifierToken, if_neg (by simp [notNumeric]), if_pos letter]
  refine .accept h (.word word) (by simp) stops known ?_
  have noOperator : (standardSymbols keywords).operator? (.ofList (ch :: taken)) = none := by
    rw [Option.eq_none_iff_forall_ne_some]
    intro kind found
    rw [operator?_standardSymbols] at found
    have punctuation := List.all_eq_true.mp (operators_shape _ found).2.2 ch (by simp)
    rw [(isAsciiPunctuation_apart punctuation).1] at letter
    cases letter
  have kept : (ctx.move (·.stepWhile isLetterOrNumber)).symbols = standardSymbols keywords := known
  rw [Context.classify, if_pos (by decide), kept, Symbols.lookup, noOperator,
    keyword?_standardSymbols]
  rfl

theorem charToken_reads (quote : ch = '\'') :
    Reads keywords .charLiteral text j (Builtin.charToken ctx) := by
  subst quote
  obtain ⟨onto, there⟩ := Context.next_at h.cursor h.inside
  rw [Builtin.charToken]
  split
  · rename_i moved stuck
    rw [stuck] at onto there
    refine .failure (no_char_lexeme ?_) there
    intro c _ on
    rw [← onto] at on
    cases on
  · rename_i first moved stepped
    rw [stepped] at onto there
    split
    · rename_i empty
      refine .failure (no_char_lexeme ?_) there
      intro c content on
      rw [← onto] at on
      exact absurd ((Option.some.inj on).symm.trans empty) content
    · rename_i content
      have further : j + 1 < text.length := (List.getElem?_eq_some_iff.mp onto.symm).1
      obtain ⟨onto', there'⟩ := Context.next_at there further
      split
      · rename_i last stuck
        rw [stuck] at onto' there'
        refine .failure (no_char_lexeme ?_) there'
        intro c _ _ closes
        rw [← onto'] at closes
        cases closes
      · rename_i second last stepped'
        rw [stepped'] at onto' there'
        split
        · rename_i closes
          subst closes
          have before : [first] <+: text.drop (j + 1) :=
            prefix_concat List.nil_prefix (by rw [List.getElem?_drop]; exact onto.symm)
          have steps : last = ctx.next.2.next.2 := by rw [stepped, stepped']
          have kept : last.symbols = standardSymbols keywords := by
            rw [steps]
            exact known
          exact .accept h (.char (h.closed_prefix before onto'.symm) (.quoted content)) (by simp)
            (Context.closed_left there' onto'.symm) kept rfl
        · rename_i more
          refine .failure (no_char_lexeme ?_) there'
          intro c _ _ closes
          rw [← onto'] at closes
          exact more (Option.some.inj closes)

/-- A string goes on at least to where the scan stopped, and no line break may stand there. -/
theorem stringToken_reads (quote : ch = '"') :
    Reads keywords .string text j (Builtin.stringToken ctx) := by
  subst quote
  obtain ⟨taken, before, fold, stops, stopper, refuses⟩ :=
    h.cursor.scan Builtin.stringStep false h.inside
  have beyond : ∀ l, l <+: text.drop j → IsStringLiteral l → taken.length + 2 ≤ l.length ∧
      ∃ ch, (ctx.cursor.scan Builtin.stringStep false).stopper = some ch ∧
        isNewline ch = false := by
    intro l starts fits
    rw [h.drop_eq] at starts
    rw [stopper, ← List.getElem?_drop]
    exact isStringLiteral_beyond before fold starts fits
  rw [Builtin.stringToken]
  split
  · rename_i ended
    refine .failure ?_ stops
    intro l kind lexeme
    cases lexeme with
    | string shortest =>
      obtain ⟨_, ch, on, _⟩ := beyond l shortest.starts shortest.fits
      rw [ended] at on
      cases on
  · rename_i ch on
    split
    · rename_i newline
      refine .failure ?_ stops
      intro l kind lexeme
      cases lexeme with
      | string shortest =>
        obtain ⟨_, ch', on', sameLine⟩ := beyond l shortest.starts shortest.fits
        obtain rfl := Option.some.inj (on.symm.trans on')
        rw [sameLine] at newline
        cases newline
    · rename_i sameLine
      obtain ⟨rfl, closed⟩ := stringStep_none (refuses ch on) sameLine
      obtain ⟨escaped, line, _⟩ := foldlM_string fold
      have closes := stopper.symm.trans on
      have literal : Shortest IsStringLiteral (text.drop j) ('"' :: taken ++ ['"']) := by
        refine ⟨h.closed_prefix before closes, .quoted line (escaped.symm.trans closed), ?_⟩
        intro l starts fits
        rw [List.length_append, List.length_cons]
        exact (beyond l starts fits).1
      exact .accept h (.string literal) (by simp) (Context.closed_left stops closes) known rfl

theorem rawStringToken_reads (quote : ch = '\x60') :
    Reads keywords .rawString text j (Builtin.rawStringToken ctx) := by
  subst quote
  obtain ⟨taken, before, fold, stops, stopper, refuses⟩ :=
    h.cursor.scan (fun _ ch => if isBackQuote ch then none else some ()) () h.inside
  have inner := not_isBackQuote_of_foldlM fold
  have beyond : ∀ l, l <+: text.drop j → IsRawString l → taken.length + 2 ≤ l.length ∧
      ∃ ch, (ctx.cursor.scan (fun _ ch => if isBackQuote ch then none else some ()) ()).stopper =
        some ch := by
    intro l starts fits
    rw [h.drop_eq] at starts
    rw [stopper, ← List.getElem?_drop]
    exact isRawString_beyond before inner starts fits
  rw [Builtin.rawStringToken]
  split
  · rename_i ended
    refine .failure ?_ stops
    intro l kind lexeme
    cases lexeme with
    | rawString shortest =>
      obtain ⟨_, ch, on⟩ := beyond l shortest.starts shortest.fits
      rw [ended] at on
      cases on
  · rename_i ch on
    have quote : ch = '\x60' := by simpa [isBackQuote] using refuses ch on
    subst quote
    have closes := stopper.symm.trans on
    have literal : Shortest IsRawString (text.drop j) ('\x60' :: taken ++ ['\x60']) := by
      refine ⟨h.closed_prefix before closes, .quoted taken, ?_⟩
      intro l starts fits
      rw [List.length_append, List.length_cons]
      exact (beyond l starts fits).1
    exact .accept h (.rawString literal) (by simp) (Context.closed_left stops closes) known rfl

/-- The search has every operator at the start of the text among its candidates. -/
theorem operatorToken_reads :
    Reads keywords .operator text j (Builtin.operatorToken ch ctx) := by
  have ahead : ctx.cursor.here.ahead = text.drop j := by rw [h.cursor.here, Place.ahead_nth]
  have candidate : ∀ l, l <+: text.drop j → IsOperatorText l →
      0 < l.length ∧ l.length ≤ ctx.symbols.longest ∧
        (ctx.symbols.operator? (.ofList ((text.drop j).take l.length))).isSome := by
    rintro l starts ⟨kind, entry⟩
    obtain ⟨nonempty, bound, _⟩ := operators_shape _ entry
    rw [← List.prefix_iff_eq_take.mp starts, known, longest_standardSymbols,
      (operator?_standardSymbols keywords _ kind).mpr entry]
    refine ⟨?_, by simpa using bound, rfl⟩
    rw [List.length_pos_iff]
    rintro rfl
    exact nonempty rfl
  rw [Builtin.operatorToken, ahead]
  split
  · rename_i search
    refine .failure ?_ h.cursor
    intro l kind lexeme
    cases lexeme with
    | operator longest =>
      obtain ⟨positive, bound, found⟩ := candidate l longest.starts longest.fits
      rw [Symbols.operatorWithin?_none search positive bound] at found
      cases found
  · rename_i found kind search
    obtain ⟨entered, starts, greatest⟩ := Symbols.operatorWithin?_some search
    have entry := (operator?_standardSymbols keywords found kind).mp (known ▸ entered)
    have longest : Longest IsOperatorText (text.drop j) found.toList := by
      refine ⟨starts, ⟨kind, by rw [String.ofList_toList]; exact entry⟩, ?_⟩
      intro l begins fits
      obtain ⟨_, bound, there⟩ := candidate l begins fits
      have shorter := greatest l.length bound there
      rw [← List.prefix_iff_eq_take.mp begins] at shorter
      exact shorter
    have room : j + found.toList.length ≤ text.length := by
      have := starts.length_le
      have := h.inside
      rw [List.length_drop] at *
      omega
    refine .accept h (.operator longest (by rw [String.ofList_toList]; exact entry)) ?_
      (h.cursor.skip_of_le room) known ?_
    · intro empty
      exact (operators_shape _ entry).1 (String.toList_eq_nil_iff.mp empty)
    · rw [String.ofList_toList, Context.classify]
      split
      · have again : (ctx.move (·.skip found.length)).symbols.operator? found = some kind := entered
        rw [Symbols.lookup, again]
        rfl
      · rfl

/-- A character that selects a form is read in that form. -/
theorem run_reads (selected : selects ch = some b) : Reads keywords b text j (b.run ch ctx) := by
  cases selection_of_selects selected with
  | number numeric => exact numberToken_reads h known numeric
  | word notNumeric letter => exact identifierToken_reads h known notNumeric letter
  | char quote => exact charToken_reads h known quote
  | string quote => exact stringToken_reads h known quote
  | rawString quote => exact rawStringToken_reads h known quote
  | operator => exact operatorToken_reads h known

end Reading

end FirstMatch.Lexing
