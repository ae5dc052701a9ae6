import FirstMatch.Lexing.Builtin
import FirstMatch.Proofs.Source.Index
import FirstMatch.Proofs.Text.CharClass
import Mathlib.Data.List.Infix

/-! The lexical grammar of the standard configuration, written down without a lexer.  The first
character of a lexeme selects its form, `Lexeme` says how far it goes and what kind it has, and
`Split` takes a text apart into gaps and lexemes.  A text has at most one lawful split. -/

namespace FirstMatch.Lexing

open Text

/-! ### Longest and shortest beginnings -/

section Extremes

variable {P : List Char → Prop} {text l l' : List Char}

/-- Of the beginnings of `text` that `P` holds for, `l` is the longest. -/
structure Longest (P : List Char → Prop) (text l : List Char) : Prop where
  starts : l <+: text
  fits : P l
  greatest : ∀ l', l' <+: text → P l' → l'.length ≤ l.length

/-- Of the beginnings of `text` that `P` holds for, `l` is the shortest. -/
structure Shortest (P : List Char → Prop) (text l : List Char) : Prop where
  starts : l <+: text
  fits : P l
  least : ∀ l', l' <+: text → P l' → l.length ≤ l'.length

theorem prefix_unique (a : l <+: text) (b : l' <+: text) (same : l.length = l'.length) : l = l' :=
  (List.prefix_of_prefix_length_le a b same.le).eq_of_length same

theorem Longest.unique (a : Longest P text l) (b : Longest P text l') : l = l' :=
  prefix_unique a.starts b.starts
    (Nat.le_antisymm (b.greatest l a.starts a.fits) (a.greatest l' b.starts b.fits))

theorem Shortest.unique (a : Shortest P text l) (b : Shortest P text l') : l = l' :=
  prefix_unique a.starts b.starts
    (Nat.le_antisymm (a.least l' b.starts b.fits) (b.least l a.starts a.fits))

theorem Longest.alone (h : Longest P text l) : Longest P l l :=
  ⟨List.prefix_rfl, h.fits, fun _ starts _ => starts.length_le⟩

/-- Less text leaves the longest beginning the longest, if it is still there. -/
theorem Longest.of_append {more : List Char} (h : Longest P (text ++ more) l)
    (inside : l.length ≤ text.length) : Longest P text l :=
  ⟨(List.isPrefix_append_of_length inside).mp h.starts, h.fits,
    fun l' starts => h.greatest l' (starts.trans (List.prefix_append _ _))⟩

theorem Shortest.alone (h : Shortest P text l) : Shortest P l l :=
  ⟨List.prefix_rfl, h.fits, fun l' starts fits => h.least l' (starts.trans h.starts) fits⟩

/-- More text makes no longer beginning if it begins with what `P` allows nowhere. -/
theorem Longest.append {c : Char} (h : Longest P text l) (apart : ∀ l', P l' → c ∉ l')
    (more : List Char) : Longest P (text ++ c :: more) l := by
  refine ⟨h.starts.trans (List.prefix_append _ _), h.fits, ?_⟩
  intro l' starts fits
  refine h.greatest l' ((List.isPrefix_append_of_length ?_).mp starts) fits
  by_contra longer
  have within : text ++ [c] <+: l' :=
    List.prefix_of_prefix_length_le ⟨more, by simp⟩ starts (by simp; omega)
  exact apart l' fits (within.mem (by simp))

theorem Shortest.append (h : Shortest P text l) (more : List Char) :
    Shortest P (text ++ more) l := by
  refine ⟨h.starts.trans (List.prefix_append _ _), h.fits, ?_⟩
  intro l' starts fits
  rcases Nat.le_total l'.length text.length with shorter | longer
  · exact h.least l' ((List.isPrefix_append_of_length shorter).mp starts) fits
  · exact h.starts.length_le.trans longer

end Extremes

/-! ### Lexemes -/

/-- Numeric characters, and perhaps a point with more or none of them behind it. -/
inductive IsNumeral : List Char → Prop
  | whole {digits} (nonempty : digits ≠ []) (numeric : ∀ c ∈ digits, isNumber c = true) :
      IsNumeral digits
  | fraction {digits more} (nonempty : digits ≠ []) (numeric : ∀ c ∈ digits, isNumber c = true)
      (rest : ∀ c ∈ more, isNumber c = true) : IsNumeral (digits ++ '.' :: more)

theorem IsNumeral.numeric_or_point {l : List Char} (h : IsNumeral l) :
    ∀ c ∈ l, isNumber c = true ∨ c = '.' := by
  intro c member
  cases h with
  | whole _ numeric => exact .inl (numeric c member)
  | fraction _ numeric rest =>
    rcases List.mem_append.mp member with whole | behind
    · exact .inl (numeric c whole)
    · rcases List.mem_cons.mp behind with point | more
      · exact .inr point
      · exact .inl (rest c more)

theorem IsNumeral.visible {l : List Char} (h : IsNumeral l) : ∀ c ∈ l, isWhitespace c = false := by
  intro c member
  rw [← Bool.not_eq_true]
  intro blank
  rcases h.numeric_or_point c member with numeric | rfl
  · rw [not_isNumber_of_isWhitespace blank] at numeric
    cases numeric
  · exact absurd blank (by decide +kernel)

def IsWord (l : List Char) : Prop := ∀ c ∈ l, isLetterOrNumber c = true

theorem IsWord.visible {l : List Char} (h : IsWord l) : ∀ c ∈ l, isWhitespace c = false := by
  intro c member
  rw [← Bool.not_eq_true]
  intro blank
  have inWord := h c member
  rw [isLetterOrNumber, not_isLetter_of_isWhitespace blank, not_isNumber_of_isWhitespace blank]
    at inWord
  cases inWord

/-- Any one character but a single quote, between single quotes. -/
inductive IsCharLiteral : List Char → Prop
  | quoted {c} (content : c ≠ '\'') : IsCharLiteral ['\'', c, '\'']

/-- The next character is escaped if an odd number of backslashes stands right before it. -/
def escapes (before : List Char) : Bool :=
  (before.reverse.takeWhile (· == '\\')).length % 2 == 1

/-- A body on one line between double quotes, the second of them not escaped. -/
inductive IsStringLiteral : List Char → Prop
  | quoted {body} (line : ∀ c ∈ body, isNewline c = false) (closed : escapes body = false) :
      IsStringLiteral ('"' :: body ++ ['"'])

/-- Anything between back quotes. -/
inductive IsRawString : List Char → Prop
  | quoted (body : List Char) : IsRawString ('\x60' :: body ++ ['\x60'])

def IsOperatorText (l : List Char) : Prop := ∃ kind, (String.ofList l, kind) ∈ Kind.operators

/-- What a lexeme that begins with `c` is. -/
def selects (c : Char) : Option Builtin :=
  if isNumber c then some .number
  else if isLetter c then some .identifier
  else if c = '\'' then some .charLiteral
  else if c = '"' then some .string
  else if c = '\x60' then some .rawString
  else if isAsciiPunctuation c then some .operator
  else none

/-- The characters that select each form. -/
inductive Selection (c : Char) : Builtin → Prop
  | number (numeric : isNumber c = true) : Selection c .number
  | word (notNumeric : isNumber c = false) (letter : isLetter c = true) : Selection c .identifier
  | char (quote : c = '\'') : Selection c .charLiteral
  | string (quote : c = '"') : Selection c .string
  | rawString (quote : c = '\x60') : Selection c .rawString
  | operator (punctuation : isAsciiPunctuation c = true) (notSingle : c ≠ '\'')
      (notDouble : c ≠ '"') (notBack : c ≠ '\x60') : Selection c .operator

theorem selection_of_selects {c : Char} {b : Builtin} (selected : selects c = some b) :
    Selection c b := by
  unfold selects at selected
  split at selected
  · rename_i numeric
    obtain rfl := Option.some.inj selected
    exact .number numeric
  · rename_i notNumeric
    split at selected
    · rename_i letter
      obtain rfl := Option.some.inj selected
      exact .word (by simpa using notNumeric) letter
    · split at selected
      · rename_i quote
        obtain rfl := Option.some.inj selected
        exact .char quote
      · rename_i notSingle
        split at selected
        · rename_i quote
          obtain rfl := Option.some.inj selected
          exact .string quote
        · rename_i notDouble
          split at selected
          · rename_i quote
            obtain rfl := Option.some.inj selected
            exact .rawString quote
          · rename_i notBack
            split at selected
            · rename_i punctuation
              obtain rfl := Option.some.inj selected
              exact .operator punctuation notSingle notDouble notBack
            · cases selected

theorem not_isWhitespace_of_selects {c : Char} {b : Builtin} (selected : selects c = some b) :
    isWhitespace c = false := by
  rw [← Bool.not_eq_true]
  intro blank
  cases selection_of_selects selected with
  | number numeric => simp [not_isNumber_of_isWhitespace blank] at numeric
  | word _ letter => simp [not_isLetter_of_isWhitespace blank] at letter
  | char quote => subst quote; exact absurd blank (by decide +kernel)
  | string quote => subst quote; exact absurd blank (by decide +kernel)
  | rawString quote => subst quote; exact absurd blank (by decide +kernel)
  | operator punctuation => simp [(isAsciiPunctuation_apart punctuation).2.2] at blank

/-- The kind of a word: that of the last keyword entered for it, if there is one. -/
def wordKind (keywords : List (String × Kind)) (word : List Char) : Kind :=
  (keywords.reverse.lookup (String.ofList word)).getD .ident

/-- `text` begins with a lexeme `l` of the given form, which has the given kind. -/
inductive Lexeme (keywords : List (String × Kind)) (text l : List Char) : Builtin → Kind → Prop
  | number (longest : Longest IsNumeral text l) :
      Lexeme keywords text l .number (if '.' ∈ l then .float else .number)
  | word (longest : Longest IsWord text l) :
      Lexeme keywords text l .identifier (wordKind keywords l)
  | char (starts : l <+: text) (fits : IsCharLiteral l) : Lexeme keywords text l .charLiteral .char
  | string (shortest : Shortest IsStringLiteral text l) : Lexeme keywords text l .string .string
  | rawString (shortest : Shortest IsRawString text l) : Lexeme keywords text l .rawString .string
  | operator {kind} (longest : Longest IsOperatorText text l)
      (entry : (String.ofList l, kind) ∈ Kind.operators) : Lexeme keywords text l .operator kind

/-- No two of the fixed operators are spelled alike. -/
theorem lookup_operators : ∀ e ∈ Kind.operators, Kind.operators.reverse.lookup e.1 = some e.2 := by
  decide +kernel

/-- Operators are one to three characters of ASCII punctuation. -/
theorem operators_shape : ∀ e ∈ Kind.operators,
    e.1 ≠ "" ∧ e.1.length ≤ 3 ∧ e.1.toList.all isAsciiPunctuation = true := by
  decide +kernel

theorem IsOperatorText.visible {l : List Char} (h : IsOperatorText l) :
    ∀ c ∈ l, isWhitespace c = false := by
  obtain ⟨kind, entry⟩ := h
  intro c member
  have punctuation := List.all_eq_true.mp (operators_shape _ entry).2.2 c (by simpa using member)
  exact (isAsciiPunctuation_apart punctuation).2.2

namespace Lexeme

variable {keywords : List (String × Kind)} {text l l' : List Char} {b : Builtin} {kind kind' : Kind}

theorem starts (h : Lexeme keywords text l b kind) : l <+: text := by
  cases h with
  | number longest => exact longest.starts
  | word longest => exact longest.starts
  | char starts => exact starts
  | string shortest => exact shortest.starts
  | rawString shortest => exact shortest.starts
  | operator longest => exact longest.starts

theorem unique (h : Lexeme keywords text l b kind) (h' : Lexeme keywords text l' b kind') :
    l = l' ∧ kind = kind' := by
  cases h with
  | number longest =>
    cases h' with | number longest' =>
    obtain rfl := longest.unique longest'
    exact ⟨rfl, rfl⟩
  | word longest =>
    cases h' with | word longest' =>
    obtain rfl := longest.unique longest'
    exact ⟨rfl, rfl⟩
  | char starts fits =>
    cases h' with | char starts' fits' =>
    cases fits
    cases fits'
    exact ⟨prefix_unique starts starts' rfl, rfl⟩
  | string shortest =>
    cases h' with | string shortest' =>
    exact ⟨shortest.unique shortest', rfl⟩
  | rawString shortest =>
    cases h' with | rawString shortest' =>
    exact ⟨shortest.unique shortest', rfl⟩
  | operator longest entry =>
    cases h' with | operator longest' entry' =>
    obtain rfl := longest.unique longest'
    have found := lookup_operators _ entry
    have found' := lookup_operators _ entry'
    exact ⟨rfl, Option.some.inj (found.symm.trans found')⟩

/-- No lexeme ends in whitespace. -/
theorem visible (h : Lexeme keywords text l b kind) : l.getLast?.any isWhitespace = false := by
  have clear (none : ∀ c ∈ l, isWhitespace c = false) : l.getLast?.any isWhitespace = false := by
    cases last : l.getLast? with
    | none => rfl
    | some c => exact none c (List.mem_of_getLast? last)
  cases h with
  | number longest => exact clear longest.fits.visible
  | word longest => exact clear longest.fits.visible
  | char _ fits =>
    cases fits
    change isWhitespace '\'' = false
    decide +kernel
  | string shortest =>
    cases shortest.fits
    rw [List.getLast?_concat]
    decide +kernel
  | rawString shortest =>
    cases shortest.fits
    rw [List.getLast?_concat]
    decide +kernel
  | operator longest => exact clear longest.fits.visible

/-- A lexeme is read the same where nothing else follows it. -/
theorem alone (h : Lexeme keywords text l b kind) : Lexeme keywords l l b kind := by
  cases h with
  | number longest => exact .number longest.alone
  | word longest => exact .word longest.alone
  | char _ fits => exact .char List.prefix_rfl fits
  | string shortest => exact .string shortest.alone
  | rawString shortest => exact .rawString shortest.alone
  | operator longest entry => exact .operator longest.alone entry

/-- Whitespace is as good an end of the text as any: what the text begins with is read the same
before it.  Quoted literals may hold whitespace, but they are closed already. -/
theorem append (h : Lexeme keywords text l b kind) {more : List Char}
    (blank : ∀ c ∈ more.head?, isWhitespace c = true) :
    Lexeme keywords (text ++ more) l b kind := by
  cases more with
  | nil =>
    rw [List.append_nil]
    exact h
  | cons c more =>
    have apart {P : List Char → Prop} (visible : ∀ l, P l → ∀ c ∈ l, isWhitespace c = false) :
        ∀ l, P l → c ∉ l := by
      intro l fits member
      have seen := visible l fits c member
      rw [blank c rfl] at seen
      cases seen
    cases h with
    | number longest => exact .number (longest.append (apart fun _ => IsNumeral.visible) more)
    | word longest => exact .word (longest.append (apart fun _ => IsWord.visible) more)
    | char starts fits => exact .char (starts.trans (List.prefix_append _ _)) fits
    | string shortest => exact .string (shortest.append _)
    | rawString shortest => exact .rawString (shortest.append _)
    | operator longest entry =>
      exact .operator (longest.append (apart fun _ => IsOperatorText.visible) more) entry

/-- A lexeme has a kind, if the keywords have. -/
theorem legal (keywordsLegal : ∀ e ∈ keywords, e.2 ≠ .illegal)
    (h : Lexeme keywords text l b kind) : kind ≠ .illegal := by
  cases h with
  | number => split <;> decide
  | word =>
    rw [wordKind]
    cases found : keywords.reverse.lookup (String.ofList l) with
    | none => decide
    | some kind =>
      obtain ⟨before, after, split, _⟩ := List.lookup_eq_some_iff.mp found
      have member : (String.ofList l, kind) ∈ keywords.reverse := by simp [split]
      exact keywordsLegal _ (List.mem_reverse.mp member)
  | char => decide
  | string => decide
  | rawString => decide
  | operator _ entry =>
    have all : ∀ e ∈ Kind.operators, e.2 ≠ .illegal := by decide +kernel
    exact all _ entry

end Lexeme

/-! ### Splits -/

/-- Whitespace between `before` and `after` that goes on at neither end. -/
structure MaximalGap (before gap after : List Char) : Prop where
  blank : ∀ c ∈ gap, isWhitespace c = true
  left : before.getLast?.any isWhitespace = false
  right : after.head?.any isWhitespace = false

theorem MaximalGap.takeWhile_eq {before gap after : List Char} (h : MaximalGap before gap after) :
    (gap ++ after).takeWhile isWhitespace = gap := by
  rw [List.takeWhile_append_of_pos h.blank]
  cases after with
  | nil => simp
  | cons c rest =>
    have visible : isWhitespace c = false := h.right
    simp [visible]

theorem MaximalGap.cancel {before gap after before' gap' after' : List Char}
    (h : MaximalGap before gap after) (h' : MaximalGap before' gap' after')
    (same : gap ++ after = gap' ++ after') : gap = gap' ∧ after = after' := by
  have gaps : gap = gap' := by rw [← h.takeWhile_eq, same, h'.takeWhile_eq]
  subst gaps
  exact ⟨rfl, List.append_cancel_left same⟩

/-- A text taken apart: a gap, then nothing more, or a lexeme and what comes after it. -/
inductive Split where
  | done (gap : List Char)
  | part (gap lexeme : List Char) (kind : Kind) (rest : Split)

namespace Split

def text : Split → List Char
  | done gap => gap
  | part gap lexeme _ rest => gap ++ (lexeme ++ rest.text)

/-- What stands at the lexeme of a part and behind it, for a split of `whole` from index `j` on. -/
theorem text_part {whole gap lexeme : List Char} {kind : Kind} {rest : Split} {j : Nat}
    (same : (part gap lexeme kind rest).text = whole.drop j) :
    lexeme ++ rest.text = whole.drop (j + gap.length) ∧
      rest.text = whole.drop (j + gap.length + lexeme.length) := by
  have behind : lexeme ++ rest.text = whole.drop (j + gap.length) := by
    rw [← List.drop_drop, ← same, text, List.drop_left]
  refine ⟨behind, ?_⟩
  rw [← List.drop_drop, ← behind, List.drop_left]

/-- The number of lexemes. -/
def size : Split → Nat
  | done _ => 0
  | part _ _ _ rest => rest.size + 1

/-- The lexemes as tokens, for a split that begins at index `j` of `whole`. -/
def tokens (whole : List Char) : Split → Nat → List Token
  | done _, _ => []
  | part gap lexeme kind rest, j =>
    let start := j + gap.length
    let stop := start + lexeme.length
    ⟨kind, .derived whole start, .derived whole stop, .ofList lexeme⟩ :: rest.tokens whole stop

/-- Gaps are maximal, and each lexeme is the one that its first character selects.  Before the split
stands `before`. -/
inductive Lawful (keywords : List (String × Kind)) : List Char → Split → Prop
  | done {before gap} (maximal : MaximalGap before gap []) : Lawful keywords before (.done gap)
  | part {before gap lexeme kind rest c b} (maximal : MaximalGap before gap (lexeme ++ rest.text))
      (first : lexeme.head? = some c) (selected : selects c = some b)
      (reads : Lexeme keywords (lexeme ++ rest.text) lexeme b kind)
      (later : Lawful keywords lexeme rest) : Lawful keywords before (.part gap lexeme kind rest)

/-- A lawful split of a text. -/
structure Of (keywords : List (String × Kind)) (whole : List Char) (split : Split) : Prop where
  lawful : split.Lawful keywords []
  text : split.text = whole

variable {keywords : List (String × Kind)} {before before' : List Char} {split other : Split}

theorem Lawful.size_le (h : split.Lawful keywords before) : split.size ≤ split.text.length := by
  induction h with
  | done => exact Nat.zero_le _
  | @part _ _ lexeme _ _ _ _ _ first _ _ _ ih =>
    have nonempty : 0 < lexeme.length := List.length_pos_iff.mpr (by rintro rfl; cases first)
    simp only [size, text, List.length_append]
    omega

/-- A text is taken apart in one way only, whatever stands before it.  A gap up to the end leaves no
character for a lexeme, and lexemes that begin the same text are selected by the same character. -/
theorem Lawful.unique (h : split.Lawful keywords before) (h' : other.Lawful keywords before')
    (same : split.text = other.text) : split = other := by
  induction h generalizing before' other with
  | done maximal =>
    cases h' with
    | done => exact congrArg Split.done same
    | part maximal' first' =>
      obtain ⟨_, after⟩ := maximal.cancel maximal' ((List.append_nil _).trans same)
      rw [(List.append_eq_nil_iff.mp after.symm).1] at first'
      cases first'
  | @part _ _ lexeme _ _ _ _ maximal first selected reads later ih =>
    cases h' with
    | done maximal' =>
      obtain ⟨_, after⟩ := maximal.cancel maximal' (same.trans (List.append_nil _).symm)
      rw [(List.append_eq_nil_iff.mp after).1] at first
      cases first
    | part maximal' first' selected' reads' later' =>
      obtain ⟨rfl, after⟩ := maximal.cancel maximal' same
      have onto := congrArg List.head? after
      rw [List.head?_append, List.head?_append, first, first', Option.some_or, Option.some_or]
        at onto
      obtain rfl := Option.some.inj onto
      obtain rfl := Option.some.inj (selected.symm.trans selected')
      rw [← after] at reads'
      obtain ⟨rfl, rfl⟩ := reads.unique reads'
      rw [ih later' (List.append_cancel_left after)]

end Split

end FirstMatch.Lexing
