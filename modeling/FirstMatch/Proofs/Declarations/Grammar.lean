import FirstMatch.Declarations.Form
import Mathlib.Computability.Language
import Mathlib.Data.Set.List

/-! The grammar of the declaration language over tokens, written down without a parser.  Each form
is a word of token kinds, a source is any number of forms, and a `Phrase` is the tokens of one form
with the node they stand for.  No form begins another, so tokens are taken apart into phrases in one
way only, and what may still follow some kinds depends on the last form alone. -/

namespace FirstMatch.Declarations

open Text

open scoped Computability

/-! ### Prefix codes -/

section Codes

variable {α β : Type} {code : α → List β}

/-- No code word is empty or begins another. -/
structure IsPrefixCode (code : α → List β) : Prop where
  nonempty : ∀ x, code x ≠ []
  cancel : ∀ {x y a b}, code x ++ a = code y ++ b → x = y ∧ a = b

/-- A sequence of code words that begins like another one is a continuation of it. -/
theorem IsPrefixCode.flatMap_cancel (isCode : IsPrefixCode code) {xs ys : List α} {rest : List β}
    (same : xs.flatMap code ++ rest = ys.flatMap code) :
    ∃ zs, ys = xs ++ zs ∧ zs.flatMap code = rest := by
  induction xs generalizing ys with
  | nil => exact ⟨ys, rfl, same.symm⟩
  | cons x xs ih =>
    rw [List.flatMap_cons, List.append_assoc] at same
    cases ys with
    | nil => exact absurd (List.append_eq_nil_iff.mp same).1 (isCode.nonempty x)
    | cons y ys =>
      obtain ⟨rfl, later⟩ := isCode.cancel same
      obtain ⟨zs, rfl, spelled⟩ := ih later
      exact ⟨zs, rfl, spelled⟩

theorem IsPrefixCode.flatMap_inj (isCode : IsPrefixCode code) {xs ys : List α}
    (same : xs.flatMap code = ys.flatMap code) : xs = ys := by
  obtain ⟨zs, rfl, spelled⟩ := isCode.flatMap_cancel ((List.append_nil _).trans same)
  cases zs with
  | nil => rw [List.append_nil]
  | cons z zs => exact absurd (List.append_eq_nil_iff.mp spelled).1 (isCode.nonempty z)

end Codes

/-! ### Forms and sources -/

namespace Form

/-- The kinds of the tokens that a form consists of. -/
def kinds : Form → List Kind
  | identifier => [.ident]
  | package => [packageKind, .ident]
  | struct => [structKind, .ident, .leftBrace, .rightBrace]

/-- The first token tells the forms apart. -/
theorem eq_of_head_eq {f g : Form} (same : f.kinds.head? = g.kinds.head?) : f = g := by
  revert same
  cases f <;> cases g <;> decide

theorem kinds_ne_nil (f : Form) : f.kinds ≠ [] := by
  cases f <;> exact List.cons_ne_nil _ _

theorem kinds_isPrefixCode : IsPrefixCode kinds where
  nonempty := kinds_ne_nil
  cancel := by
    intro f g a b same
    have heads := congrArg List.head? same
    rw [List.head?_append_of_ne_nil _ f.kinds_ne_nil,
      List.head?_append_of_ne_nil _ g.kinds_ne_nil] at heads
    obtain rfl := eq_of_head_eq heads
    exact ⟨rfl, List.append_cancel_left same⟩

/-- The kinds `read` begin the form, and `kind` has to come next. -/
structure Awaits (f : Form) (read : List Kind) (kind : Kind) : Prop where
  begun : read ≠ []
  goesOn : ∃ later, f.kinds = read ++ kind :: later

end Form

/-- The kinds of the tokens of a whole source: packages, structs and identifiers in any order. -/
def grammar : Language Kind :=
  ({Form.package.kinds} + {Form.struct.kinds} + {Form.identifier.kinds})∗

theorem mem_grammar_iff {word : List Kind} :
    word ∈ grammar ↔ ∃ forms : List Form, forms.flatMap Form.kinds = word := by
  have one (part : List Kind) :
      part ∈ ({Form.package.kinds} + {Form.struct.kinds} + {Form.identifier.kinds} :
        Language Kind) ↔ part ∈ Set.range Form.kinds := by
    constructor
    · rintro ((rfl | rfl) | rfl)
      · exact ⟨.package, rfl⟩
      · exact ⟨.struct, rfl⟩
      · exact ⟨.identifier, rfl⟩
    · rintro ⟨f, rfl⟩
      cases f with
      | identifier => exact .inr rfl
      | package => exact .inl (.inl rfl)
      | struct => exact .inl (.inr rfl)
  rw [grammar, Language.mem_kstar]
  constructor
  · rintro ⟨parts, rfl, all⟩
    have listed : parts ∈ Set.range (List.map Form.kinds) := by
      rw [Set.range_list_map]
      exact fun part member => (one part).mp (all part member)
    obtain ⟨forms, rfl⟩ := listed
    exact ⟨forms, List.flatMap_def⟩
  · rintro ⟨forms, rfl⟩
    refine ⟨forms.map Form.kinds, List.flatMap_def, ?_⟩
    intro part member
    obtain ⟨f, -, rfl⟩ := List.mem_map.mp member
    exact (one _).mpr ⟨f, rfl⟩

/-- Whole forms in front make no difference. -/
theorem append_mem_grammar (forms : List Form) (word : List Kind) :
    forms.flatMap Form.kinds ++ word ∈ grammar ↔ word ∈ grammar := by
  rw [mem_grammar_iff, mem_grammar_iff]
  constructor
  · rintro ⟨all, same⟩
    obtain ⟨later, -, spelled⟩ := Form.kinds_isPrefixCode.flatMap_cancel same.symm
    exact ⟨later, spelled⟩
  · rintro ⟨later, rfl⟩
    exact ⟨forms ++ later, List.flatMap_append⟩

/-! ### What may still follow -/

/-- The kinds are a beginning of some source. -/
def Viable (kinds : List Kind) : Prop := ∃ word ∈ grammar, kinds <+: word

theorem viable_iff {kinds : List Kind} : Viable kinds ↔ ∃ later, kinds ++ later ∈ grammar := by
  constructor
  · rintro ⟨_, member, later, rfl⟩
    exact ⟨later, member⟩
  · rintro ⟨later, member⟩
    exact ⟨_, member, later, rfl⟩

theorem Viable.of_append {kinds later : List Kind} (viable : Viable (kinds ++ later)) :
    Viable kinds := by
  obtain ⟨word, member, starts⟩ := viable
  exact ⟨word, member, (List.prefix_append _ _).trans starts⟩

theorem viable_append (forms : List Form) (kinds : List Kind) :
    Viable (forms.flatMap Form.kinds ++ kinds) ↔ Viable kinds := by
  simp only [viable_iff, List.append_assoc, append_mem_grammar]

/-- A source that goes on at all goes on with a form. -/
theorem exists_form_of_viable {kinds : List Kind} (viable : Viable kinds) (some : kinds ≠ []) :
    ∃ (f : Form) (after rest : List Kind), f.kinds.head? = kinds.head? ∧
      kinds ++ after = f.kinds ++ rest := by
  obtain ⟨after, member⟩ := viable_iff.mp viable
  obtain ⟨forms, spelled⟩ := mem_grammar_iff.mp member
  cases forms with
  | nil => exact absurd (List.append_eq_nil_iff.mp spelled.symm).1 some
  | cons f forms =>
    rw [List.flatMap_cons] at spelled
    have heads := congrArg List.head? spelled
    rw [List.head?_append_of_ne_nil _ f.kinds_ne_nil, List.head?_append_of_ne_nil _ some] at heads
    exact ⟨f, after, _, heads, spelled.symm⟩

namespace Form.Awaits

variable {f : Form} {read : List Kind} {kind : Kind}

theorem viable (h : f.Awaits read kind) : Viable read := by
  obtain ⟨later, whole⟩ := h.goesOn
  refine viable_iff.mpr ⟨kind :: later, mem_grammar_iff.mpr ⟨[f], ?_⟩⟩
  rw [List.flatMap_singleton, whole]

/-- Kinds that begin a form and do not end it are no source. -/
theorem not_mem_grammar (h : f.Awaits read kind) : read ∉ grammar := by
  intro member
  obtain ⟨later, whole⟩ := h.goesOn
  obtain ⟨forms, rfl⟩ := mem_grammar_iff.mp member
  have single : forms.flatMap kinds ++ kind :: later = [f].flatMap kinds := by
    rw [List.flatMap_singleton, whole]
  obtain ⟨rest, all, spelled⟩ := kinds_isPrefixCode.flatMap_cancel single
  cases forms with
  | nil => exact h.begun rfl
  | cons g forms =>
    obtain ⟨rfl, rfl⟩ := List.append_eq_nil_iff.mp (List.cons.inj all).2.symm
    cases spelled

/-- Nothing but the kind awaited may come next. -/
theorem eq_of_viable (h : f.Awaits read kind) {next : Kind} (viable : Viable (read ++ [next])) :
    next = kind := by
  obtain ⟨later, whole⟩ := h.goesOn
  obtain ⟨g, after, rest, head, spelled⟩ := exists_form_of_viable viable (by simp)
  have same : g = f := by
    apply eq_of_head_eq
    rw [head, whole, List.head?_append_of_ne_nil _ h.begun, List.head?_append_of_ne_nil _ h.begun]
  subst same
  rw [whole, List.append_assoc, List.append_assoc] at spelled
  exact (List.cons.inj (List.append_cancel_left spelled)).1

end Form.Awaits

/-! ### Phrases -/

/-- The tokens of one form, each of the right kind. -/
inductive Phrase where
  | identifier (name : Token) (named : name.kind = .ident)
  | package (keyword name : Token) (begun : keyword.kind = packageKind) (named : name.kind = .ident)
  | struct (keyword name left right : Token) (begun : keyword.kind = structKind)
      (named : name.kind = .ident) (opened : left.kind = .leftBrace)
      (closed : right.kind = .rightBrace)

namespace Phrase

def form : Phrase → Form
  | identifier .. => .identifier
  | package .. => .package
  | struct .. => .struct

def tokens : Phrase → List Token
  | identifier name _ => [name]
  | package keyword name _ _ => [keyword, name]
  | struct keyword name left right _ _ _ _ => [keyword, name, left, right]

/-- The node that a phrase stands for.  A struct is public if its name is capitalized. -/
def node : Phrase → Node
  | identifier name _ => .expression (.identifier ⟨name.literal, name.start⟩)
  | package keyword name _ _ =>
    .declaration (.package ⟨keyword.start, ⟨name.literal, name.start⟩⟩)
  | struct keyword name left right _ _ _ _ =>
    .declaration (.struct ⟨keyword.start, ⟨name.literal, name.start⟩,
      name.literal.toList.head?.any isUppercase, left.start, right.start⟩)

theorem kinds_tokens (p : Phrase) : p.tokens.map (·.kind) = p.form.kinds := by
  cases p with
  | identifier _ named => simp [tokens, form, Form.kinds, named]
  | package _ _ begun named => simp [tokens, form, Form.kinds, begun, named]
  | struct _ _ _ _ begun named opened closed =>
    simp [tokens, form, Form.kinds, begun, named, opened, closed]

theorem kinds_flatMap (phrases : List Phrase) :
    (phrases.flatMap tokens).map (·.kind) = (phrases.map form).flatMap Form.kinds := by
  simp only [List.map_flatMap, List.flatMap_map, kinds_tokens]

theorem kinds_mem_grammar (phrases : List Phrase) :
    (phrases.flatMap tokens).map (·.kind) ∈ grammar :=
  mem_grammar_iff.mpr ⟨phrases.map form, (kinds_flatMap phrases).symm⟩

theorem eq_of_tokens_eq {p q : Phrase} (forms : p.form = q.form) (same : p.tokens = q.tokens) :
    p = q :=
  match p, q, forms, same with
  | identifier .., identifier .., _, rfl => rfl
  | package .., package .., _, rfl => rfl
  | struct .., struct .., _, rfl => rfl

theorem tokens_isPrefixCode : IsPrefixCode tokens where
  nonempty p := by cases p <;> exact List.cons_ne_nil _ _
  cancel := by
    intro p q a b same
    have kinds := congrArg (List.map (·.kind)) same
    rw [List.map_append, List.map_append, kinds_tokens, kinds_tokens] at kinds
    obtain ⟨forms, -⟩ := Form.kinds_isPrefixCode.cancel kinds
    have lengths : p.tokens.length = q.tokens.length := by
      have counted := congrArg (fun f : Form => f.kinds.length) forms
      simpa only [← kinds_tokens, List.length_map] using counted
    obtain ⟨tokens, rest⟩ := List.append_inj same lengths
    exact ⟨eq_of_tokens_eq forms tokens, rest⟩

end Phrase

end FirstMatch.Declarations
