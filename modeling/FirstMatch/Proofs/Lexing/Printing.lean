import FirstMatch.Proofs.Lexing.Standard

/-! Printing tokens and lexing them again.  A lexeme is read the same wherever whitespace or nothing
follows it, so the lexemes of a text may be set apart by blanks: the text so printed has the lexemes
it was printed from, in the same order and of the same kinds. -/

namespace FirstMatch.Lexing

open Text

variable {σ : Type}

namespace Split

/-- The same lexemes with `gap` before the first, a blank before each of the others and no
whitespace at the end. -/
def respaced (gap : List Char) : Split → Split
  | done _ => done []
  | part _ lexeme kind rest => part gap lexeme kind (rest.respaced [' '])

variable {keywords : List (String × Kind)}

/-- Behind a lexeme comes a blank or nothing. -/
theorem lexeme_respaced {text l : List Char} {b : Builtin} {kind : Kind}
    (reads : Lexeme keywords text l b kind) (rest : Split) :
    Lexeme keywords (l ++ (rest.respaced [' ']).text) l b kind := by
  refine reads.alone.append ?_
  cases rest with
  | done => exact fun c none => nomatch none
  | part =>
    rintro _ ⟨⟩
    decide +kernel

theorem Lawful.respaced {before other gap : List Char} {split : Split}
    (h : split.Lawful keywords before) (blank : ∀ c ∈ gap, isWhitespace c = true)
    (visible : other.getLast?.any isWhitespace = false) :
    (split.respaced gap).Lawful keywords other := by
  induction h generalizing other gap with
  | done => exact .done ⟨by simp, visible, rfl⟩
  | @part _ _ lexeme _ rest c _ _ first selected reads _ ih =>
    have right : (lexeme ++ (rest.respaced [' ']).text).head?.any isWhitespace = false := by
      rw [List.head?_append, first]
      exact not_isWhitespace_of_selects selected
    exact .part ⟨blank, visible, right⟩ first selected (lexeme_respaced reads rest)
      (ih (List.all_eq_true.mp (by decide +kernel)) reads.visible)

/-- The lexemes are the same, whatever the tokens cover. -/
theorem tokens_respaced (split : Split) (gap whole other : List Char) (j k : Nat) :
    ((split.respaced gap).tokens other k).map (·.kind) = (split.tokens whole j).map (·.kind) ∧
      ((split.respaced gap).tokens other k).map (·.literal) =
        (split.tokens whole j).map (·.literal) := by
  induction split generalizing gap j k with
  | done => exact ⟨rfl, rfl⟩
  | part _ lexeme kind rest ih =>
    obtain ⟨kinds, literals⟩ := ih [' '] _ _
    exact ⟨congrArg (kind :: ·) kinds, congrArg (String.ofList lexeme :: ·) literals⟩

/-- The literals of tokens, joined by blanks. -/
theorem text_respaced (split : Split) (whole : List Char) (j : Nat) :
    (split.respaced []).text =
      (" ".intercalate ((split.tokens whole j).map (·.literal))).toList := by
  induction split generalizing j with
  | done => rfl
  | part gap lexeme kind rest ih =>
    cases rest with
    | done => simp [respaced, text, tokens]
    | part next lexeme' kind' rest =>
      have later := ih (j + gap.length + lexeme.length)
      have blank : ((part next lexeme' kind' rest).respaced [' ']).text =
          ' ' :: ((part next lexeme' kind' rest).respaced []).text := rfl
      rw [respaced, text, List.nil_append, blank, later]
      simp [tokens]

end Split

/-- Printed with blanks between them, the tokens of an input are lexed again: into as many tokens,
of the same kinds and with the same literals. -/
theorem lex_printed (keywords : List (String × Kind)) (legal : ∀ e ∈ keywords, e.2 ≠ .illegal)
    (memory : σ) {input : String} {tokens : List Token}
    (ok : ((Config.standard.addKeywords keywords).lex memory input).result = .ok tokens) :
    ∃ again, ((Config.standard.addKeywords keywords).lex memory
        (" ".intercalate (tokens.map (·.literal)))).result = .ok again ∧
      again.map (·.kind) = tokens.map (·.kind) ∧
      again.map (·.literal) = tokens.map (·.literal) := by
  obtain ⟨split, of, rfl⟩ := exists_split legal ok
  have printed : Split.Of keywords
      (" ".intercalate ((split.tokens input.toList 0).map (·.literal))).toList
      (split.respaced []) :=
    ⟨of.lawful.respaced (by simp) rfl, split.text_respaced input.toList 0⟩
  exact ⟨_, lex_of_split legal printed, split.tokens_respaced [] _ _ 0 0⟩

/-- A fraction that ends in its point, with a point, a number, a keyword, a string and an operator
close behind it. -/
def touching : List Token :=
  [⟨.float, ⟨1, 1, 0⟩, ⟨1, 3, 2⟩, "1."⟩, ⟨⟨50⟩, ⟨1, 3, 2⟩, ⟨1, 4, 3⟩, "."⟩,
    ⟨.number, ⟨1, 4, 3⟩, ⟨1, 5, 4⟩, "5"⟩, ⟨⟨3001⟩, ⟨1, 5, 4⟩, ⟨1, 7, 6⟩, "if"⟩,
    ⟨.string, ⟨1, 7, 6⟩, ⟨1, 12, 11⟩, "\"a b\""⟩, ⟨⟨30⟩, ⟨1, 12, 11⟩, ⟨1, 15, 14⟩, "&^="⟩]

/-- Set apart, the point does not become part of either number. -/
theorem lex_printed_touching :
    (∀ e ∈ conditional, e.2 ≠ .illegal) ∧
    ((Config.standard.addKeywords conditional).lex () "1..5if\"a b\"&^=").result = .ok touching ∧
    ∃ again, ((Config.standard.addKeywords conditional).lex ()
        "1. . 5 if \"a b\" &^=").result = .ok again ∧
      again.map (·.kind) = [.float, ⟨50⟩, .number, ⟨3001⟩, .string, ⟨30⟩] ∧
      again.map (·.literal) = ["1.", ".", "5", "if", "\"a b\"", "&^="] := by
  have legal : ∀ e ∈ conditional, e.2 ≠ .illegal := by decide
  have ok : ((Config.standard.addKeywords conditional).lex () "1..5if\"a b\"&^=").result =
      .ok touching := by
    decide +kernel
  have printed : "1. . 5 if \"a b\" &^=" = " ".intercalate (touching.map (·.literal)) := by decide
  refine ⟨legal, ok, ?_⟩
  rw [printed]
  exact lex_printed conditional legal () ok

end FirstMatch.Lexing
