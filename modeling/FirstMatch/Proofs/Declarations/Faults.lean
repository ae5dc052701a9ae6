import FirstMatch.Proofs.Declarations.Acceptance
import Mathlib.Order.Bounds.Basic

/-! Where a parse of declarations fails.  The error is about the first token that no source can have
at its place, and about the end of the last token if the tokens only break off too early. -/

namespace FirstMatch.Declarations

open Parsing

/-- Token `i` is the first that no source can have where it stands: the kinds up to it begin no word
of the grammar. -/
def Offends (tokens : List Token) (i : Nat) : Prop :=
  IsLeast {i | i < tokens.length ∧ ¬Viable ((tokens.take (i + 1)).map (·.kind))} i

section Offences

variable {before after : List Token} {found : Token} {i : Nat}

theorem viable_take {tokens : List Token} (viable : Viable (tokens.map (·.kind))) (n : Nat) :
    Viable ((tokens.take n).map (·.kind)) := by
  rw [← List.take_append_drop n tokens, List.map_append] at viable
  exact viable.of_append

variable (viable : Viable (before.map (·.kind)))
  (stuck : ¬Viable (before.map (·.kind) ++ [found.kind]))
include viable stuck

theorem offends_iff : Offends (before ++ found :: after) i ↔ i = before.length := by
  have least : Offends (before ++ found :: after) before.length := by
    constructor
    · refine ⟨by simp, ?_⟩
      have upto : (before ++ found :: after).take (before.length + 1) = before ++ [found] := by
        simp [List.take_append, List.take_of_length_le]
      rw [upto, List.map_append]
      exact stuck
    · intro j earlier
      by_contra less
      have inside : (before ++ found :: after).take (j + 1) = before.take (j + 1) :=
        List.take_append_of_le_length (by omega)
      obtain ⟨-, stops⟩ := earlier
      rw [inside] at stops
      exact stops (viable_take viable _)
  constructor
  · intro offends
    exact offends.unique least
  · rintro rfl
    exact least

/-- What stands at an offence. -/
theorem eq_of_offends {token : Token} (offends : Offends (before ++ found :: after) i)
    (here : (before ++ found :: after)[i]? = some token) :
    token = found ∧ (before ++ found :: after).take i = before := by
  obtain rfl := (offends_iff viable stuck).mp offends
  rw [List.getElem?_append_right le_rfl, Nat.sub_self] at here
  exact ⟨(Option.some.inj here).symm, List.take_left⟩

end Offences

/-- If valid tokens are rejected, the error is about the first of them that offends: no rule matches
it where a form has to begin, and within a form the rule fails at its start.  If none offends, the
rule fails at the end of the last token because the input ends there. -/
theorem parseTokens_error_located {tokens : List Token}
    (valid : ∀ token ∈ tokens, token.isValid = true) {error : Error}
    (rejected : (parseTokens rules tokens).result = .error error) :
    (∀ i token, Offends tokens i → tokens[i]? = some token →
      ((tokens.take i).map (·.kind) ∈ grammar → error = .noMatch token.literal token.span) ∧
      ((tokens.take i).map (·.kind) ∉ grammar →
        ∃ rule message, error = .refused rule (.fail message token.start))) ∧
    ((∀ i, ¬Offends tokens i) →
      ∃ rule expected last, tokens.getLast? = some last ∧
        error = .refused rule (.fail (expected ++ ", got end of input") last.stop)) := by
  obtain ⟨phrases, rest, rfl, ends⟩ := parseTokens_ends tokens
  rw [rejected] at ends
  have whole := Phrase.kinds_mem_grammar phrases
  have behind (kinds : List Kind) :
      Viable ((phrases.flatMap Phrase.tokens).map (·.kind) ++ kinds) ↔ Viable kinds := by
    rw [Phrase.kinds_flatMap, viable_append]
  cases ends with
  | fault fault =>
  cases fault with
  | @stray found later here none =>
    subst here
    have viable : Viable ((phrases.flatMap Phrase.tokens).map (·.kind)) :=
      ⟨_, whole, List.prefix_rfl⟩
    have stuck : ¬Viable ((phrases.flatMap Phrase.tokens).map (·.kind) ++ [found.kind]) := by
      rw [behind]
      intro viable
      obtain ⟨f, -, -, head, -⟩ := exists_form_of_viable viable (by simp)
      exact none f head
    constructor
    · intro i token offends here
      obtain ⟨rfl, taken⟩ := eq_of_offends viable stuck offends here
      rw [taken]
      exact ⟨fun _ => rfl, fun inside => absurd whole inside⟩
    · intro clear
      exact absurd ((offends_iff viable stuck).mpr rfl) (clear _)
  | @broken f read last after kind rule message position split awaits other complaint =>
    subst split
    have viable : Viable ((phrases.flatMap Phrase.tokens ++ (read ++ [last])).map (·.kind)) := by
      rw [List.map_append, behind]
      exact awaits.viable
    cases after with
    | nil =>
      constructor
      · intro i token offends _
        exact absurd (viable_take viable _) offends.1.2
      · intro _
        obtain ⟨rfl, expected, rfl⟩ := complaint.ended rfl
        exact ⟨rule, expected, last, by simp, rfl⟩
    | cons found after =>
      have inside : (phrases.flatMap Phrase.tokens ++ (read ++ [last])).map (·.kind) ∉ grammar := by
        rw [List.map_append, Phrase.kinds_flatMap, append_mem_grammar]
        exact awaits.not_mem_grammar
      have stuck : ¬Viable ((phrases.flatMap Phrase.tokens ++ (read ++ [last])).map (·.kind) ++
          [found.kind]) := by
        rw [List.map_append, List.append_assoc, behind]
        intro viable
        exact other found rfl (awaits.eq_of_viable viable)
      have at_start : position = found.start := complaint.found found rfl (valid found (by simp))
      have split : phrases.flatMap Phrase.tokens ++ (read ++ last :: found :: after) =
          phrases.flatMap Phrase.tokens ++ (read ++ [last]) ++ found :: after := by simp
      rw [split]
      constructor
      · intro i token offends here
        obtain ⟨rfl, taken⟩ := eq_of_offends viable stuck offends here
        rw [taken]
        exact ⟨fun whole => absurd whole inside, fun _ => ⟨rule, message, by rw [at_start]⟩⟩
      · intro clear
        exact absurd ((offends_iff viable stuck).mpr rfl) (clear _)

/-- A struct whose name is followed by a number. -/
def numbered : List Token :=
  [⟨.ident, ⟨1, 1, 0⟩, ⟨1, 2, 1⟩, "a"⟩, ⟨structKind, ⟨1, 3, 2⟩, ⟨1, 9, 8⟩, "struct"⟩,
    ⟨.ident, ⟨1, 10, 9⟩, ⟨1, 11, 10⟩, "B"⟩, ⟨.number, ⟨1, 12, 11⟩, ⟨1, 14, 13⟩, "42"⟩,
    ⟨.rightBrace, ⟨1, 14, 13⟩, ⟨1, 15, 14⟩, "\x7d"⟩]

theorem numbered_rejected :
    (parseTokens rules numbered).result = .error (.refused "ParseStruct"
      (.fail ("expected '\x7b' after struct name, got " ++
        "Token\x7bKind: NUMBER, Start: 1:12, End: 1:14\x7d") ⟨1, 12, 11⟩)) := by
  decide +kernel

/-- After the name of a struct stands a brace, so the number offends. -/
theorem numbered_offends : Offends numbered 3 ∧ (numbered.take 3).map (·.kind) ∉ grammar := by
  have awaits : Form.struct.Awaits [structKind, .ident] .leftBrace := ⟨by simp, [.rightBrace], rfl⟩
  have viable : Viable ((numbered.take 3).map (·.kind)) :=
    (viable_append [.identifier] _).mpr awaits.viable
  refine ⟨(offends_iff viable ?_).mpr rfl, ?_⟩
  · intro stuck
    exact absurd (awaits.eq_of_viable ((viable_append [.identifier] _).mp stuck)) (by decide)
  · intro member
    exact awaits.not_mem_grammar ((append_mem_grammar [.identifier] _).mp member)

theorem parseTokens_error_located_numbered :
    (∀ token ∈ numbered, token.isValid = true) ∧ Offends numbered 3 ∧
    ∃ error rule message, (parseTokens rules numbered).result = .error error ∧
      error = .refused rule (.fail message ⟨1, 12, 11⟩) := by
  have valid : ∀ token ∈ numbered, token.isValid = true := by decide
  obtain ⟨offends, inside⟩ := numbered_offends
  obtain ⟨rule, message, located⟩ :=
    ((parseTokens_error_located valid numbered_rejected).1 3 _ offends rfl).2 inside
  exact ⟨valid, offends, _, rule, message, numbered_rejected, located⟩

end FirstMatch.Declarations
