import FirstMatch.Proofs.Declarations.Acceptance
import FirstMatch.Proofs.Lexing.Standard

/-! Sources written out.  An `Item` is a form with its name, and `Written` says how lexemes may be
set in a text: in order, with whitespace anywhere between them and at least some between two words.
Whatever items a text is written from, it parses to these items. -/

namespace FirstMatch.Declarations

open Text Parsing Lexing

variable {σ : Type}

/-! ### Items and texts -/

/-- A word that can name something: letters and numbers, first a letter that is no number, and not
one of the keywords. -/
structure Name where
  text : String
  first : ∃ c, text.toList.head? = some c ∧ isLetter c = true ∧ isNumber c = false
  word : ∀ c ∈ text.toList, isLetterOrNumber c = true
  free : text ≠ "package" ∧ text ≠ "struct"

/-- A form with its name. -/
structure Item where
  form : Form
  name : Name

namespace Item

/-- The lexemes that an item is written with. -/
def lexemes (item : Item) : List String :=
  match item.form with
  | .identifier => [item.name.text]
  | .package => ["package", item.name.text]
  | .struct => ["struct", item.name.text, "\x7b", "\x7d"]

/-- The node says what the item says.  A struct is public if its name is capitalized. -/
inductive Means : Item → Node → Prop
  | identifier {name position} :
      Means ⟨.identifier, name⟩ (.expression (.identifier ⟨name.text, position⟩))
  | package {name keyword position} :
      Means ⟨.package, name⟩ (.declaration (.package ⟨keyword, ⟨name.text, position⟩⟩))
  | struct {name keyword position isPublic left right}
      (capitalized : isPublic = true ↔
        ∃ c, name.text.toList.head? = some c ∧ isUppercase c = true) :
      Means ⟨.struct, name⟩
        (.declaration (.struct ⟨keyword, ⟨name.text, position⟩, isPublic, left, right⟩))

end Item

def IsBlank (gap : String) : Prop := ∀ c ∈ gap.toList, isWhitespace c = true

def EndsInWord (text : String) : Prop := text.toList.getLast?.any isLetterOrNumber = true

def BeginsWithWord (text : String) : Prop := text.toList.head?.any isLetterOrNumber = true

instance (gap : String) : Decidable (IsBlank gap) :=
  decidable_of_iff (gap.toList.all isWhitespace = true) List.all_eq_true

instance (text : String) : Decidable (EndsInWord text) := inferInstanceAs (Decidable (_ = true))

instance (text : String) : Decidable (BeginsWithWord text) := inferInstanceAs (Decidable (_ = true))

/-- After the lexeme `before`, the lexemes are set in a text with whitespace around them, and two
words do not touch. -/
inductive Written : String → List String → String → Prop
  | done {before gap} (blank : IsBlank gap) : Written before [] gap
  | lexeme {before gap lexeme rest text} (blank : IsBlank gap)
      (apart : EndsInWord before → BeginsWithWord lexeme → gap ≠ "")
      (later : Written lexeme rest text) :
      Written before (lexeme :: rest) (gap ++ lexeme ++ text)

/-! ### Lexemes -/

/-- The keywords with their kinds. -/
def keywords : List (String × Kind) := [("package", packageKind), ("struct", structKind)]

theorem keywords_legal : ∀ e ∈ keywords, e.2 ≠ .illegal := by decide

/-- A lexeme that items are written with, and its kind. -/
inductive Spells : String → Kind → Prop
  | word {text c} (first : text.toList.head? = some c) (letter : isLetter c = true)
      (notNumeric : isNumber c = false) (word : IsWord text.toList) :
      Spells text (wordKind keywords text.toList)
  | left : Spells "\x7b" .leftBrace
  | right : Spells "\x7d" .rightBrace

theorem wordKind_eq_ident {text : String} (package : text ≠ "package") (struct : text ≠ "struct") :
    wordKind keywords text.toList = .ident := by
  rw [wordKind, String.ofList_toList]
  simp [keywords, List.lookup_cons, beq_false_of_ne package, beq_false_of_ne struct]

theorem Name.spells (name : Name) : Spells name.text .ident := by
  obtain ⟨c, first, letter, notNumeric⟩ := name.first
  rw [← wordKind_eq_ident name.free.1 name.free.2]
  exact .word first letter notNumeric name.word

theorem Item.lexemes_spell (item : Item) : List.Forall₂ Spells item.lexemes item.form.kinds := by
  have name := item.name.spells
  have package : Spells "package" packageKind :=
    .word (c := 'p') rfl (by decide +kernel) (by decide +kernel)
      (List.all_eq_true.mp (by decide +kernel))
  have struct : Spells "struct" structKind :=
    .word (c := 's') rfl (by decide +kernel) (by decide +kernel)
      (List.all_eq_true.mp (by decide +kernel))
  rw [lexemes]
  cases item.form with
  | identifier => exact .cons name .nil
  | package => exact .cons package (.cons name .nil)
  | struct => exact .cons struct (.cons name (.cons .left (.cons .right .nil)))

theorem Item.flatMap_lexemes_spell (items : List Item) :
    List.Forall₂ Spells (items.flatMap lexemes) (items.flatMap (·.form.kinds)) := by
  induction items with
  | nil => exact .nil
  | cons item items ih => exact List.rel_append item.lexemes_spell ih

section Lexemes

variable {word rest : List Char}

/-- A word goes on to the first character that is neither letter nor number. -/
theorem longest_word (inWord : IsWord word) (stops : rest.head?.any isLetterOrNumber = false) :
    Longest IsWord (word ++ rest) word := by
  refine ⟨List.prefix_append _ _, inWord, ?_⟩
  intro other starts otherWord
  by_contra longer
  obtain ⟨more, rfl⟩ := List.prefix_of_prefix_length_le (List.prefix_append word rest) starts
    (by omega)
  rw [List.prefix_append_right_inj] at starts
  cases more with
  | nil => simp at longer
  | cons c more =>
    obtain ⟨later, rfl⟩ := starts
    have letter := otherWord c (by simp)
    rw [← Bool.not_eq_true] at stops
    exact stops letter

/-- An operator that begins no other is the longest there is. -/
theorem longest_operator {operator : List Char} {kind : Kind}
    (entry : (String.ofList operator, kind) ∈ Kind.operators)
    (last : ∀ e ∈ Kind.operators, operator <+: e.1.toList → e.1.toList = operator) :
    Longest IsOperatorText (operator ++ rest) operator := by
  refine ⟨List.prefix_append _ _, ⟨kind, entry⟩, ?_⟩
  rintro other starts ⟨kind', entry'⟩
  by_contra longer
  have extends' := List.prefix_of_prefix_length_le (List.prefix_append operator rest) starts
    (by omega)
  have same := last _ entry' (by rw [String.toList_ofList]; exact extends')
  rw [String.toList_ofList] at same
  exact longer (by rw [same])

theorem Spells.toList_ne_nil {lexeme : String} {kind : Kind} (spells : Spells lexeme kind) :
    lexeme.toList ≠ [] := by
  cases spells with
  | word first =>
    intro empty
    rw [empty] at first
    cases first
  | left => decide
  | right => decide

/-- A lexeme is read where it is written, unless it is a word and the word goes on. -/
theorem Spells.reads {lexeme : String} {kind : Kind} (spells : Spells lexeme kind)
    (stops : EndsInWord lexeme → rest.head?.any isLetterOrNumber = false) :
    ∃ c b, lexeme.toList.head? = some c ∧ selects c = some b ∧
      Lexeme keywords (lexeme.toList ++ rest) lexeme.toList b kind := by
  cases spells with
  | @word _ c first letter notNumeric word =>
    have ends : EndsInWord lexeme := by
      have nonempty := (Spells.word first letter notNumeric word).toList_ne_nil
      rw [EndsInWord, List.getLast?_eq_some_getLast nonempty]
      exact word _ (List.getLast_mem nonempty)
    refine ⟨c, .identifier, first, ?_, .word (longest_word word (stops ends))⟩
    simp [selects, letter, notNumeric]
  | left =>
    have entry : (String.ofList ['\x7b'], Kind.leftBrace) ∈ Kind.operators := by decide +kernel
    exact ⟨_, .operator, rfl, by decide +kernel,
      .operator (longest_operator entry (by decide +kernel)) entry⟩
  | right =>
    have entry : (String.ofList ['\x7d'], Kind.rightBrace) ∈ Kind.operators := by decide +kernel
    exact ⟨_, .operator, rfl, by decide +kernel,
      .operator (longest_operator entry (by decide +kernel)) entry⟩

end Lexemes

/-! ### Lexing a text that is written out -/

section Writing

variable {before text : String} {lexemes : List String} {kinds : List Kind}

theorem not_isLetterOrNumber_of_isWhitespace {c : Char} (blank : isWhitespace c = true) :
    isLetterOrNumber c = false := by
  simp [isLetterOrNumber, not_isLetter_of_isWhitespace blank, not_isNumber_of_isWhitespace blank]

/-- Behind a word the text does not go on with a letter or number. -/
theorem Written.stops (written : Written before lexemes text)
    (spelled : List.Forall₂ Spells lexemes kinds) (ends : EndsInWord before) :
    text.toList.head?.any isLetterOrNumber = false := by
  have blankHead {gap : String} {later : List Char} (blank : IsBlank gap) (some : gap ≠ "") :
      (gap.toList ++ later).head?.any isLetterOrNumber = false := by
    obtain ⟨c, more, chars⟩ := List.exists_cons_of_ne_nil (mt String.toList_eq_nil_iff.mp some)
    rw [chars]
    exact not_isLetterOrNumber_of_isWhitespace (blank c (by simp [chars]))
  cases written with
  | done blank =>
    by_cases empty : text = ""
    · subst empty
      rfl
    · rw [← List.append_nil text.toList]
      exact blankHead blank empty
  | @lexeme _ gap lexeme rest text blank apart later =>
    rw [String.toList_append, String.toList_append, List.append_assoc]
    by_cases empty : gap = ""
    · have begins : ¬BeginsWithWord lexeme := fun begins => apart ends begins empty
      cases spelled with
      | cons spells _ =>
        rw [empty, String.toList_empty, List.nil_append,
          List.head?_append_of_ne_nil _ spells.toList_ne_nil]
        exact Bool.not_eq_true _ ▸ begins
    · exact blankHead blank empty

/-- A text that is written out splits into its lexemes. -/
theorem Written.exists_split (written : Written before lexemes text)
    (spelled : List.Forall₂ Spells lexemes kinds)
    (visible : before.toList.getLast?.any isWhitespace = false) :
    ∃ split : Split, split.Lawful keywords before.toList ∧ split.text = text.toList ∧
      ∀ whole j, (split.tokens whole j).map (·.kind) = kinds ∧
        (split.tokens whole j).map (·.literal) = lexemes := by
  induction written generalizing kinds with
  | @done before gap blank =>
    cases spelled
    exact ⟨.done gap.toList, .done ⟨blank, visible, rfl⟩, rfl, fun _ _ => ⟨rfl, rfl⟩⟩
  | @lexeme before gap lexeme rest text blank apart later ih =>
    cases spelled with
    | @cons _ kind _ kinds spells spelled =>
      obtain ⟨c, b, first, selected, reads⟩ := spells.reads (later.stops spelled)
      obtain ⟨split, lawful, same, tokens⟩ := ih spelled reads.visible
      rw [← same] at reads
      have right : (lexeme.toList ++ split.text).head?.any isWhitespace = false := by
        rw [List.head?_append, first]
        exact not_isWhitespace_of_selects selected
      refine ⟨.part gap.toList lexeme.toList kind split,
        .part ⟨blank, visible, right⟩ first selected reads lawful, ?_, ?_⟩
      · rw [Split.text, same, String.toList_append, String.toList_append, List.append_assoc]
      · intro whole j
        obtain ⟨rest, literals⟩ := tokens whole (j + gap.toList.length + lexeme.toList.length)
        rw [Split.tokens, List.map_cons, List.map_cons, rest, literals, String.ofList_toList]
        exact ⟨rfl, rfl⟩

end Writing

/-! ### Parsing it -/

/-- Tokens of the kinds of an item, with its lexemes as literals, are a phrase for it. -/
theorem exists_phrase {item : Item} {tokens : List Token}
    (kinds : tokens.map (·.kind) = item.form.kinds)
    (literals : tokens.map (·.literal) = item.lexemes) :
    ∃ p : Phrase, p.tokens = tokens ∧ item.Means p.node := by
  obtain ⟨form, name⟩ := item
  cases form with
  | identifier =>
    simp only [Form.kinds, List.map_eq_cons_iff, List.map_eq_nil_iff] at kinds
    obtain ⟨word, _, rfl, named, rfl⟩ := kinds
    have spelled : word.literal = name.text := (List.cons.inj literals).1
    refine ⟨.identifier word named, rfl, ?_⟩
    rw [Phrase.node, spelled]
    exact .identifier
  | package =>
    simp only [Form.kinds, List.map_eq_cons_iff, List.map_eq_nil_iff] at kinds
    obtain ⟨keyword, _, rfl, begun, word, _, rfl, named, rfl⟩ := kinds
    have spelled : word.literal = name.text := (List.cons.inj (List.cons.inj literals).2).1
    refine ⟨.package keyword word begun named, rfl, ?_⟩
    rw [Phrase.node, spelled]
    exact .package
  | struct =>
    simp only [Form.kinds, List.map_eq_cons_iff, List.map_eq_nil_iff] at kinds
    obtain ⟨keyword, _, rfl, begun, word, _, rfl, named, left, _, rfl, opened, right, _, rfl,
      closed, rfl⟩ := kinds
    have spelled : word.literal = name.text := (List.cons.inj (List.cons.inj literals).2).1
    refine ⟨.struct keyword word left right begun named opened closed, rfl, ?_⟩
    rw [Phrase.node, spelled]
    exact .struct (by simp [Option.any_eq_true])

theorem exists_phrases {items : List Item} {tokens : List Token}
    (kinds : tokens.map (·.kind) = items.flatMap (·.form.kinds))
    (literals : tokens.map (·.literal) = items.flatMap Item.lexemes) :
    ∃ phrases : List Phrase, phrases.flatMap Phrase.tokens = tokens ∧
      List.Forall₂ Item.Means items (phrases.map Phrase.node) := by
  induction items generalizing tokens with
  | nil =>
    obtain rfl := List.map_eq_nil_iff.mp kinds
    exact ⟨[], rfl, .nil⟩
  | cons item items ih =>
    rw [List.flatMap_cons] at kinds literals
    obtain ⟨front, back, rfl, frontKinds, backKinds⟩ := List.map_eq_append_iff.mp kinds
    have lengths : (front.map (·.literal)).length = item.lexemes.length := by
      rw [item.lexemes_spell.length_eq, ← frontKinds, List.length_map, List.length_map]
    rw [List.map_append] at literals
    obtain ⟨frontLiterals, backLiterals⟩ := List.append_inj literals lengths
    obtain ⟨p, rfl, means⟩ := exists_phrase frontKinds frontLiterals
    obtain ⟨phrases, rfl, all⟩ := ih backKinds backLiterals
    exact ⟨p :: phrases, rfl, .cons means all⟩

/-- However items are written out, with whitespace anywhere but inside a word and at least some
between two words, the text parses to nodes that say what the items say, one for each in order. -/
theorem parse_written (memory : σ) (items : List Item) (text : String)
    (written : Written "" (items.flatMap Item.lexemes) text) :
    ∃ nodes, (parser.parse memory text).result = .ok nodes ∧
      List.Forall₂ Item.Means items nodes := by
  have spelled := Item.flatMap_lexemes_spell items
  obtain ⟨split, lawful, whole, tokens⟩ := written.exists_split spelled rfl
  obtain ⟨kinds, literals⟩ := tokens text.toList 0
  obtain ⟨phrases, all, means⟩ := exists_phrases kinds literals
  refine ⟨phrases.map Phrase.node, Parser.parse_ok_iff.mpr ⟨phrases.flatMap Phrase.tokens, ?_, ?_⟩,
    means⟩
  · rw [all]
    exact lex_of_split keywords_legal ⟨lawful, whole⟩
  · exact parseTokens_phrases phrases

/-- A package, a public struct and an identifier, with no more whitespace than they need. -/
def crowded : List Item :=
  [⟨.package, ⟨"été", ⟨'é', rfl, by decide +kernel⟩,
      List.all_eq_true.mp (by decide +kernel), by decide⟩⟩,
    ⟨.struct, ⟨"Ωmega2", ⟨'Ω', rfl, by decide +kernel⟩,
      List.all_eq_true.mp (by decide +kernel), by decide⟩⟩,
    ⟨.identifier, ⟨"structs", ⟨'s', rfl, by decide +kernel⟩,
      List.all_eq_true.mp (by decide +kernel), by decide⟩⟩]

theorem crowded_written :
    Written "" (crowded.flatMap Item.lexemes) "package\tété\r\nstruct Ωmega2\x7b\x7dstructs " := by
  have text : "package\tété\r\nstruct Ωmega2\x7b\x7dstructs " =
      "" ++ "package" ++ ("\t" ++ "été" ++ ("\r\n" ++ "struct" ++ (" " ++ "Ωmega2" ++
        ("" ++ "\x7b" ++ ("" ++ "\x7d" ++ ("" ++ "structs" ++ " ")))))) := by decide
  rw [text]
  refine .lexeme (by decide) (by decide +kernel) ?_
  refine .lexeme (by decide +kernel) (by decide +kernel) ?_
  refine .lexeme (by decide +kernel) (by decide +kernel) ?_
  refine .lexeme (by decide +kernel) (by decide +kernel) ?_
  refine .lexeme (by decide +kernel) (by decide +kernel) ?_
  refine .lexeme (by decide +kernel) (by decide +kernel) ?_
  refine .lexeme (by decide +kernel) (by decide +kernel) ?_
  exact .done (by decide +kernel)

theorem parse_written_crowded :
    Written "" (crowded.flatMap Item.lexemes) "package\tété\r\nstruct Ωmega2\x7b\x7dstructs " ∧
    ∃ nodes, (parser.parse () "package\tété\r\nstruct Ωmega2\x7b\x7dstructs ").result = .ok nodes ∧
      List.Forall₂ Item.Means crowded nodes :=
  ⟨crowded_written, parse_written () crowded _ crowded_written⟩

end FirstMatch.Declarations
