import FirstMatch.Proofs.Declarations.Spelling
import FirstMatch.Proofs.Lexing.Bracket

/-! Where the nodes of a source stand in it.  A node does not keep the ends of its tokens: it works
its own end out from the length of a name or the place of a brace.  `Laid` follows the tokens
through the text, and from it the ends are compared: their offsets agree, and their lines and
columns do unless a line break follows. -/

namespace FirstMatch.Declarations

open Text Parsing Lexing

variable {σ : Type}

/-! ### From kinds back to lexemes -/

/-- The lexemes that are the only ones of their kind. -/
def fixedLexemes : List (String × Kind) :=
  keywords ++ [("\x7b", .leftBrace), ("\x7d", .rightBrace)]

section Kinds

variable {lexeme word : String} {kind : Kind}

theorem Spells.name_or_fixed (spells : Spells lexeme kind) :
    (∃ name : Name, name.text = lexeme ∧ kind = .ident) ∨ (lexeme, kind) ∈ fixedLexemes := by
  cases spells with
  | @word _ c first letter notNumeric inWord =>
    by_cases package : lexeme = "package"
    · subst package
      exact .inr (by decide)
    · by_cases struct : lexeme = "struct"
      · subst struct
        exact .inr (by decide)
      · exact .inl ⟨⟨lexeme, ⟨c, first, letter, notNumeric⟩, inWord, package, struct⟩, rfl,
          wordKind_eq_ident package struct⟩
  | left => exact .inr (by decide)
  | right => exact .inr (by decide)

theorem Spells.exists_name (spells : Spells lexeme .ident) : ∃ name : Name, name.text = lexeme := by
  rcases spells.name_or_fixed with ⟨name, same, -⟩ | fixed
  · exact ⟨name, same⟩
  · have none : ∀ e ∈ fixedLexemes, e.2 ≠ .ident := by decide
    exact absurd rfl (none _ fixed)

theorem Spells.eq_fixed (spells : Spells lexeme kind) (fixed : (word, kind) ∈ fixedLexemes) :
    lexeme = word := by
  have kinds : ∀ a ∈ fixedLexemes, a.2 ≠ .ident ∧ ∀ b ∈ fixedLexemes, a.2 = b.2 → a = b := by
    decide
  rcases spells.name_or_fixed with ⟨_, -, named⟩ | other
  · exact absurd named (kinds _ fixed).1
  · exact congrArg Prod.fst ((kinds _ other).2 _ fixed rfl)

/-- A line goes on behind each character of a lexeme. -/
theorem Spells.plain (spells : Spells lexeme kind) :
    ∀ c ∈ lexeme.toList, isNewline c = false ∧ c ≠ '\\' ∧ c ≠ '\'' := by
  cases spells with
  | word _ _ _ inWord =>
    intro c member
    have apart (d : Char) (other : isLetterOrNumber d = false) : c ≠ d := by
      rintro rfl
      rw [inWord c member] at other
      cases other
    refine ⟨?_, apart _ (by decide +kernel), apart _ (by decide +kernel)⟩
    have feed : c ≠ '\n' := apart _ (by decide +kernel)
    have carriage : c ≠ '\r' := apart _ (by decide +kernel)
    simp [isNewline, feed, carriage]
  | left =>
    intro c member
    rw [List.mem_singleton.mp member]
    decide
  | right =>
    intro c member
    rw [List.mem_singleton.mp member]
    decide

/-- Of the kinds that forms consist of there are no other lexemes than items are written with. -/
theorem spells_of_lexeme {text l : List Char} {b : Builtin} {c : Char} {f : Form}
    (reads : Lexeme keywords text l b kind) (first : l.head? = some c)
    (selected : selects c = some b) (listed : kind ∈ f.kinds) : Spells (String.ofList l) kind := by
  have other : Kind.number ∉ f.kinds ∧ Kind.float ∉ f.kinds ∧ Kind.char ∉ f.kinds ∧
      Kind.string ∉ f.kinds := by
    cases f <;> decide
  cases reads with
  | number =>
    split at listed
    · exact absurd listed other.2.1
    · exact absurd listed other.1
  | word longest =>
    cases selection_of_selects selected with
    | word notNumeric letter =>
      have kinds : wordKind keywords l = wordKind keywords (String.ofList l).toList := by
        rw [String.toList_ofList]
      rw [kinds]
      refine .word (c := c) ?_ letter notNumeric ?_
      · rw [String.toList_ofList]
        exact first
      · rw [String.toList_ofList]
        exact longest.fits
  | char => exact absurd listed other.2.2.1
  | string => exact absurd listed other.2.2.2
  | rawString => exact absurd listed other.2.2.2
  | operator _ entry =>
    have braces : ∀ e ∈ Kind.operators, e.2 ∈ f.kinds →
        e = ("\x7b", .leftBrace) ∨ e = ("\x7d", .rightBrace) := by
      cases f <;> decide +kernel
    rcases braces _ entry listed with brace | brace
    · obtain ⟨same, rfl⟩ := Prod.mk.inj brace
      rw [same]
      exact .left
    · obtain ⟨same, rfl⟩ := Prod.mk.inj brace
      rw [same]
      exact .right

end Kinds

/-! ### Tokens in the text -/

/-- The tokens cover lexemes of the text in order, the first from index `j` on and the last up to
index `e`, with whitespace before each. -/
inductive Laid (text : List Char) : Nat → List Token → Nat → Prop
  | nil {j} : Laid text j [] j
  | cons {j i k e kind tokens} (ordered : j ≤ i) (nonempty : i < k) (bound : k ≤ text.length)
      (blank : IsBlank (String.ofList ((text.take i).drop j)))
      (spells : ∀ f : Form, kind ∈ f.kinds →
        Spells (String.ofList ((text.take k).drop i)) kind)
      (later : Laid text k tokens e) : Laid text j (.covering text i k kind :: tokens) e

/-- A text made of the lexemes in order, with whitespace or nothing between them and nothing
around them. -/
inductive Joined : List String → String → Prop
  | single {lexeme} : Joined [lexeme] lexeme
  | cons {lexeme gap rest text} (blank : IsBlank gap) (later : Joined rest text) :
      Joined (lexeme :: rest) (lexeme ++ gap ++ text)

/-- The tokens of a split are laid in its text. -/
theorem exists_laid {before text : List Char} {split : Split} {j : Nat}
    (lawful : split.Lawful keywords before) (whole : split.text = text.drop j) :
    ∃ e, Laid text j (split.tokens text j) e := by
  induction lawful generalizing j with
  | done => exact ⟨j, .nil⟩
  | @part before gap lexeme kind rest c b maximal first selected reads later ih =>
    have starts : gap <+: text.drop j := ⟨_, whole⟩
    obtain ⟨behind, further⟩ := Split.text_part whole
    have here : lexeme <+: text.drop (j + gap.length) := ⟨_, behind⟩
    have nonempty : 0 < lexeme.length := List.length_pos_iff.mpr (by rintro rfl; cases first)
    have bound := here.length_le
    rw [List.length_drop] at bound
    obtain ⟨e, laid⟩ := ih further
    rw [tokens_part here]
    refine ⟨e, .cons (Nat.le_add_right _ _) (by omega) (by omega) ?_ ?_ laid⟩
    · rw [IsBlank, slice_eq_of_prefix starts, String.toList_ofList]
      exact maximal.blank
    · intro f listed
      have literal := slice_eq_of_prefix here
      rw [literal]
      exact spells_of_lexeme reads first selected listed

namespace Laid

variable {text : List Char} {j e : Nat} {t : Token} {tokens others : List Token}

theorem exists_append (laid : Laid text j (tokens ++ others) e) :
    ∃ m, Laid text j tokens m ∧ Laid text m others e := by
  induction tokens generalizing j with
  | nil => exact ⟨j, .nil, laid⟩
  | cons t tokens ih =>
    cases laid with
    | cons ordered nonempty bound blank spells later =>
      obtain ⟨m, front, back⟩ := ih later
      exact ⟨m, .cons ordered nonempty bound blank spells front, back⟩

theorem spells (laid : Laid text j tokens e) (member : t ∈ tokens) {f : Form}
    (listed : t.kind ∈ f.kinds) : Spells t.literal t.kind := by
  induction laid with
  | nil => cases member
  | cons _ _ _ _ spells _ ih =>
    rcases List.mem_cons.mp member with rfl | member
    · exact spells f listed
    · exact ih member

/-- The first token starts behind whitespace, and from there to the end is the text of all, with the
gap before each later token between it and the one before. -/
theorem joined (laid : Laid text j (t :: tokens) e) :
    ∃ i, j ≤ i ∧ i < e ∧ e ≤ text.length ∧ t.start = .derived text i ∧
      IsBlank (String.ofList ((text.take i).drop j)) ∧
      Joined ((t :: tokens).map (·.literal)) (String.ofList ((text.take e).drop i)) := by
  induction tokens generalizing j t with
  | nil =>
    cases laid with
    | cons ordered nonempty bound blank _ later =>
      cases later
      exact ⟨_, ordered, nonempty, bound, rfl, blank, .single⟩
  | cons next tokens ih =>
    cases laid with
    | @cons _ i k _ _ _ ordered nonempty _ blank _ later =>
      obtain ⟨i', gap, inside, bound, -, between, rest⟩ := ih later
      refine ⟨i, ordered, by omega, bound, rfl, blank, ?_⟩
      rw [← slice_append (j := i') (by omega) (by omega), ← slice_append (j := k) (by omega) gap,
        String.ofList_append, String.ofList_append]
      exact .cons between rest

theorem exists_last (laid : Laid text j tokens e) (last : tokens.getLast? = some t) :
    ∃ i kind, i < e ∧ e ≤ text.length ∧ t = .covering text i e kind := by
  induction laid with
  | nil => cases last
  | @cons _ i k _ kind tokens _ nonempty bound _ _ later ih =>
    cases tokens with
    | nil =>
      cases later
      exact ⟨i, kind, nonempty, bound, (Option.some.inj last).symm⟩
    | cons next tokens =>
      rw [List.getLast?_cons_cons] at last
      exact ih last

end Laid

/-! ### Nodes in the text -/

namespace Phrase

def first (p : Phrase) : Token := p.tokens.head (tokens_isPrefixCode.nonempty p)

def last (p : Phrase) : Token := p.tokens.getLast (tokens_isPrefixCode.nonempty p)

/-- The node covers the text of its tokens in the input.  Its end is the end of the last token, but
on the line of that token even if the next character is a line break. -/
structure Faithful (input : String) (p : Phrase) : Prop where
  start : p.node.start = p.first.start
  stop : p.node.stop.offset = p.last.stop.offset
  source : ∃ (item : Item) (source : String), item.Means p.node ∧
    item.lexemes = p.tokens.map (·.literal) ∧ Joined item.lexemes source ∧
    input.toUTF8.extract p.node.start.offset p.node.stop.offset = source.toUTF8
  line : ∃ before after : String, input = before ++ after ∧
    before.utf8ByteSize = p.node.stop.offset ∧
    (p.node.stop = p.last.stop ↔ after.toList.head?.any isNewline = false)

theorem start_node (p : Phrase) : p.node.start = p.first.start := by
  cases p <;> rfl

/-- A phrase whose tokens are spelled lawfully is written by some item, and the item means its node:
the tokens belong to no other phrase. -/
theorem exists_item {p : Phrase} (spelled : ∀ t ∈ p.tokens, Spells t.literal t.kind) :
    ∃ item : Item, item.Means p.node ∧ item.lexemes = p.tokens.map (·.literal) := by
  suffices named : ∃ item : Item, item.form = p.form ∧
      item.lexemes = p.tokens.map (·.literal) by
    obtain ⟨item, form, lexemes⟩ := named
    obtain ⟨q, same, means⟩ := exists_phrase (p.kinds_tokens.trans (congrArg _ form.symm))
      lexemes.symm
    obtain ⟨rfl, -⟩ := tokens_isPrefixCode.cancel (congrArg (· ++ []) same)
    exact ⟨item, means, lexemes⟩
  cases p with
  | identifier name named =>
    obtain ⟨word, same⟩ := (named ▸ spelled name (by simp [tokens])).exists_name
    exact ⟨⟨.identifier, word⟩, rfl, by simp [Item.lexemes, tokens, same]⟩
  | package keyword name begun named =>
    obtain ⟨word, same⟩ := (named ▸ spelled name (by simp [tokens])).exists_name
    have package : keyword.literal = "package" :=
      (begun ▸ spelled keyword (by simp [tokens])).eq_fixed (by decide)
    exact ⟨⟨.package, word⟩, rfl, by simp [Item.lexemes, tokens, same, package]⟩
  | struct keyword name left right begun named opened closed =>
    obtain ⟨word, same⟩ := (named ▸ spelled name (by simp [tokens])).exists_name
    have struct : keyword.literal = "struct" :=
      (begun ▸ spelled keyword (by simp [tokens])).eq_fixed (by decide)
    have leftBrace : left.literal = "\x7b" :=
      (opened ▸ spelled left (by simp [tokens])).eq_fixed (by decide)
    have rightBrace : right.literal = "\x7d" :=
      (closed ▸ spelled right (by simp [tokens])).eq_fixed (by decide)
    exact ⟨⟨.struct, word⟩, rfl,
      by simp [Item.lexemes, tokens, same, struct, leftBrace, rightBrace]⟩

/-- A node ends where its last token would end if its line went on. -/
theorem stop_node {p : Phrase} (spelled : Spells p.last.literal p.last.kind) :
    p.node.stop = p.last.start.along p.last.literal.toList := by
  cases p with
  | identifier name =>
    change Identifier.stop _ = name.start.along name.literal.toList
    rw [Position.along, byteLength_toList, String.length_toList]
    rfl
  | package keyword name =>
    change Identifier.stop _ = name.start.along name.literal.toList
    rw [Position.along, byteLength_toList, String.length_toList]
    rfl
  | struct keyword name left right begun named opened closed =>
    change Spells right.literal right.kind at spelled
    rw [closed] at spelled
    have brace : right.literal = "\x7d" := spelled.eq_fixed (by decide)
    change Struct.stop _ = right.start.along right.literal.toList
    rw [brace]
    rfl

end Phrase

section Ends

variable {text : List Char} {i k : Nat} {kind : Kind}

/-- Going along the literal of a token leads to its end, on the same line. -/
theorem along_covering (ordered : i < k) (bound : k ≤ text.length)
    (spelled : Spells (String.ofList ((text.take k).drop i)) kind) :
    ((Position.derived text i).along ((text.take k).drop i)).offset =
      (Position.derived text k).offset ∧
    ((Position.derived text i).along ((text.take k).drop i) = .derived text k ↔
      text[k]?.any isNewline = false) := by
  have starts : (text.take k).drop i <+: text.drop i := ⟨_, drop_split text ordered.le⟩
  have length : i + ((text.take k).drop i).length = k := by
    rw [List.length_drop, List.length_take_of_le bound]
    omega
  have plain := spelled.plain
  have nonempty := spelled.toList_ne_nil
  rw [String.toList_ofList] at plain nonempty
  have offset := Position.offset_derived_add starts
  have line := Position.derived_add_eq_along_iff starts nonempty plain
  rw [length] at offset line
  exact ⟨offset.symm, eq_comm.trans line⟩

variable {p : Phrase} {j e : Nat}

namespace Laid

theorem spelled (laid : Laid text j p.tokens e) : ∀ t ∈ p.tokens, Spells t.literal t.kind := by
  intro t member
  refine laid.spells member (f := p.form) ?_
  rw [← p.kinds_tokens]
  exact List.mem_map_of_mem member

/-- A phrase starts with its first token and goes on to the end. -/
theorem start_phrase (laid : Laid text j p.tokens e) :
    ∃ i, j ≤ i ∧ i < e ∧ e ≤ text.length ∧ p.node.start = .derived text i ∧
      Joined (p.tokens.map (·.literal)) (String.ofList ((text.take e).drop i)) := by
  have nonempty := Phrase.tokens_isPrefixCode.nonempty p
  have head : p.tokens.head? = some p.first := List.head?_eq_some_head nonempty
  obtain ⟨rest, shape⟩ := List.head?_eq_some_iff.mp head
  rw [shape] at laid
  obtain ⟨i, ordered, inside, bound, start, -, joined⟩ := laid.joined
  rw [p.start_node, shape]
  exact ⟨i, ordered, inside, bound, start, joined⟩

/-- The end of a phrase, worked out by its node, against the end of its last token. -/
theorem stop_phrase (laid : Laid text j p.tokens e) :
    p.last.stop = .derived text e ∧ p.node.stop.offset = byteLength (text.take e) ∧
      (p.node.stop = .derived text e ↔ text[e]?.any isNewline = false) := by
  have nonempty := Phrase.tokens_isPrefixCode.nonempty p
  have final : p.tokens.getLast? = some p.last := List.getLast?_eq_some_getLast nonempty
  have spelled := laid.spelled p.last (List.getLast_mem nonempty)
  have stop := Phrase.stop_node spelled
  obtain ⟨i, kind, ordered, bound, last⟩ := laid.exists_last final
  rw [last] at spelled stop ⊢
  obtain ⟨offset, line⟩ := along_covering ordered bound spelled
  rw [stop, Token.covering, String.toList_ofList]
  exact ⟨rfl, offset, line⟩

/-- Tokens that are laid in a text make a node that is faithful to it. -/
theorem faithful (laid : Laid text j p.tokens e) : p.Faithful (String.ofList text) := by
  obtain ⟨item, means, lexemes⟩ := Phrase.exists_item laid.spelled
  obtain ⟨i, -, inside, -, start, joined⟩ := laid.start_phrase
  obtain ⟨stopped, offset, line⟩ := laid.stop_phrase
  refine ⟨p.start_node, ?_, ?_, ?_⟩
  · rw [stopped, offset]
    rfl
  · refine ⟨item, String.ofList ((text.take e).drop i), means, lexemes, ?_, ?_⟩
    · rw [lexemes]
      exact joined
    · rw [start, offset]
      exact (Token.toUTF8_covering text .ident inside.le).symm
  · refine ⟨String.ofList (text.take e), String.ofList (text.drop e), ?_, offset.symm, ?_⟩
    · rw [← String.ofList_append, List.take_append_drop]
    · rw [stopped, String.toList_ofList, List.head?_drop]
      exact line

end Laid

end Ends

/-! ### Files -/

/-- The spans of a file are faithful to the input that it is parsed from.  Every node covers the
text of its tokens, the nodes follow one another, and the span of the file covers all of them. -/
structure File.Faithful (input : String) (tokens : List Token) (file : File) : Prop where
  nodes : ∃ phrases : List Phrase, phrases.flatMap Phrase.tokens = tokens ∧
    phrases.map Phrase.node = file.nodes ∧ ∀ p ∈ phrases, p.Faithful input
  nonempty : ∀ n ∈ file.nodes, n.start.offset < n.stop.offset
  ordered : file.nodes.Pairwise fun n later => n.stop.offset ≤ later.start.offset
  span : ∀ span, file.span? = some span ↔ ∃ first last, file.nodes.head? = some first ∧
    file.nodes.getLast? = some last ∧ span = ⟨first.start, last.stop⟩
  contains : ∀ span, file.span? = some span → ∀ n ∈ file.nodes,
    span.start.offset ≤ n.start.offset ∧ n.stop.offset ≤ span.stop.offset

/-- The phrases of tokens that are laid in a text follow one another in it: each starts where the
one before ends, or behind that. -/
theorem Laid.phrases {text : List Char} {j e : Nat} {phrases : List Phrase}
    (laid : Laid text j (phrases.flatMap Phrase.tokens) e) :
    (∀ p ∈ phrases, p.Faithful (String.ofList text) ∧
      byteLength (text.take j) ≤ p.node.start.offset ∧
      p.node.start.offset < p.node.stop.offset) ∧
    phrases.Pairwise fun p later => p.node.stop.offset ≤ later.node.start.offset := by
  induction phrases generalizing j with
  | nil => exact ⟨by simp, .nil⟩
  | cons p phrases ih =>
    rw [List.flatMap_cons] at laid
    obtain ⟨m, here, later⟩ := laid.exists_append
    obtain ⟨i, ordered, inside, bound, start, -⟩ := here.start_phrase
    obtain ⟨-, stop, -⟩ := here.stop_phrase
    obtain ⟨all, apart⟩ := ih later
    have before := byteLength_take_mono ordered (inside.le.trans bound)
    have some := byteLength_take_lt inside bound
    rw [← Position.offset_derived text i, ← start] at before some
    rw [← stop] at some
    constructor
    · intro q member
      rcases List.mem_cons.mp member with rfl | member
      · exact ⟨here.faithful, before, some⟩
      · obtain ⟨faithful, behind, some'⟩ := all q member
        exact ⟨faithful, by omega, some'⟩
    · refine .cons ?_ apart
      intro q member
      rw [stop]
      exact (all q member).2.1

theorem File.span?_eq_some_iff {f : File} {span : Span} :
    f.span? = some span ↔ ∃ first last, f.nodes.head? = some first ∧
      f.nodes.getLast? = some last ∧ span = ⟨first.start, last.stop⟩ := by
  rw [File.span?]
  cases f.nodes.head? with
  | none => simp
  | some first =>
    cases f.nodes.getLast? with
    | none => simp
    | some last => simp [eq_comm]

/-- Nodes that follow one another lie between the first and the last of them. -/
theorem between_of_ordered {nodes : List Node} {first last n : Node}
    (nonempty : ∀ n ∈ nodes, n.start.offset < n.stop.offset)
    (ordered : nodes.Pairwise fun n later => n.stop.offset ≤ later.start.offset)
    (head : nodes.head? = some first) (final : nodes.getLast? = some last) (member : n ∈ nodes) :
    first.start.offset ≤ n.start.offset ∧ n.stop.offset ≤ last.stop.offset := by
  constructor
  · obtain ⟨later, rfl⟩ := List.head?_eq_some_iff.mp head
    rcases List.mem_cons.mp member with rfl | behind
    · exact le_rfl
    · have apart := (List.pairwise_cons.mp ordered).1 n behind
      have some := nonempty first List.mem_cons_self
      omega
  · obtain ⟨earlier, rfl⟩ := List.getLast?_eq_some_iff.mp final
    rcases List.mem_append.mp member with before | here
    · have apart := (List.pairwise_append.mp ordered).2.2 n before last (by simp)
      have some := nonempty last (by simp)
      omega
    · rw [List.mem_singleton.mp here]

/-- Whatever parses, the spans of its nodes and of the file are faithful to the source. -/
theorem parse_spans_faithful (memory : σ) (input : String) (nodes : List Node)
    (ok : (parser.parse memory input).result = .ok nodes) :
    ∃ tokens, (lexer.lex memory input).result = .ok tokens ∧
      File.Faithful input tokens ⟨nodes⟩ := by
  obtain ⟨tokens, lexed, parsed⟩ := Parser.parse_ok_iff.mp ok
  obtain ⟨phrases, rfl, rfl⟩ := exists_phrases_of_ok parsed
  obtain ⟨split, of, same⟩ := exists_split keywords_legal lexed
  have whole : split.text = input.toList.drop 0 := of.text
  obtain ⟨e, laid⟩ := exists_laid of.lawful whole
  rw [same] at laid
  obtain ⟨all, apart⟩ := laid.phrases
  rw [String.ofList_toList] at all
  have nonempty : ∀ n ∈ phrases.map Phrase.node, n.start.offset < n.stop.offset := by
    intro n member
    obtain ⟨p, listed, rfl⟩ := List.mem_map.mp member
    exact (all p listed).2.2
  have ordered : (phrases.map Phrase.node).Pairwise
      fun n later => n.stop.offset ≤ later.start.offset := List.pairwise_map.mpr apart
  refine ⟨_, lexed, ⟨phrases, rfl, rfl, fun p listed => (all p listed).1⟩, nonempty, ordered,
    fun _ => File.span?_eq_some_iff, ?_⟩
  intro span spans n member
  obtain ⟨first, last, head, final, rfl⟩ := File.span?_eq_some_iff.mp spans
  exact between_of_ordered nonempty ordered head final member

/-- A struct, a package and an identifier, each on a line of its own. -/
def lined : List Node :=
  [.declaration (.struct ⟨⟨1, 1, 0⟩, ⟨"Ωmega", ⟨1, 8, 7⟩⟩, true, ⟨1, 14, 14⟩, ⟨1, 16, 16⟩⟩),
    .declaration (.package ⟨⟨2, 2, 18⟩, ⟨"été", ⟨2, 10, 26⟩⟩⟩),
    .expression (.identifier ⟨"x", ⟨4, 2, 33⟩⟩)]

theorem lined_parsed :
    (parser.parse () "struct Ωmega \x7b \x7d\npackage été\r\nx").result = .ok lined := by
  decide +kernel

theorem parse_spans_faithful_lined :
    (parser.parse () "struct Ωmega \x7b \x7d\npackage été\r\nx").result = .ok lined ∧
    ∃ tokens, (lexer.lex () "struct Ωmega \x7b \x7d\npackage été\r\nx").result = .ok tokens ∧
      File.Faithful "struct Ωmega \x7b \x7d\npackage été\r\nx" tokens ⟨lined⟩ :=
  ⟨lined_parsed, parse_spans_faithful () _ lined lined_parsed⟩

end FirstMatch.Declarations
