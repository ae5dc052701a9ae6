import FirstMatch.Session.Transcript
import Mathlib.Data.List.Basic
import Mathlib.Data.List.Induction

/-! Sessions at the prompt.  Every line is answered by itself, up to the first that ends the
session; what comes after that line is never looked at. -/

namespace FirstMatch.Session

open Text Declarations

theorem Transcript.after_after (first second : String) (log more : List Log.Line) (t : Transcript) :
    (t.after second more).after first log = t.after (first ++ second) (log ++ more) := by
  simp [Transcript.after, String.append_assoc]

namespace Prompt

/-! ### One line -/

/-- What an input is printed as: its tokens if it can be lexed, or its tree if it can be parsed. -/
def rendering? (mode : Mode) (input : String) : Option String :=
  match mode with
  | .tokens =>
    ((lexer : Lexing.Config Unit).lex () input).result.toOption.map fun tokens =>
      (Outline.list (tokens.map Token.outline)).indented 0 ++ "\n"
  | .tree =>
    ((parser : Parsing.Parser Node Unit).parse () input).result.toOption.map fun nodes =>
      (File.mk nodes).outline.indented 0 ++ "\n"

theorem toOption_map_mapError {α β ε δ : Type} (f : α → β) (g : ε → δ) (result : Except ε α) :
    ((result.map f).mapError g).toOption = result.toOption.map f := by
  cases result with
  | ok => rfl
  | error => rfl

theorem toOption_ofInput (mode : Mode) (input : String) :
    (Answer.ofInput mode input).result.toOption = rendering? mode input := by
  cases mode with
  | tokens => exact toOption_map_mapError _ _ _
  | tree => exact toOption_map_mapError _ _ _

/-- A line that is not read as an input. -/
def IsCommand (line : String) : Prop := trimEnd line = "" ∨ trimEnd line = "exit"

instance : DecidablePred IsCommand := fun _ => inferInstanceAs (Decidable (_ ∨ _))

/-- What a line is answered with.  There is no answer to a command, nor to an input that fails. -/
def shown (mode : Mode) (line : String) : String :=
  if IsCommand line then "" else (rendering? mode (trimEnd line)).getD ""

/-- What is logged for a line. -/
def noted (mode : Mode) (line : String) : List Log.Line :=
  if IsCommand line then []
  else
    let answer := Answer.ofInput mode (trimEnd line)
    match answer.result with
    | .ok _ => answer.log
    | .error message => answer.log ++ [errorLine message]

/-- Whether the last of the lines is blank. -/
def endsBlank (lines : List String) : Bool := lines.getLast?.any (trimEnd · == "")

/-- After the lines `front`, a line ends the session if it says so, or if it is blank and the line
right before it is blank, too. -/
def Ends (front : List String) (line : String) : Prop :=
  trimEnd line = "exit" ∨ trimEnd line = "" ∧ endsBlank front = true

instance (front : List String) : DecidablePred (Ends front) :=
  fun _ => inferInstanceAs (Decidable (_ ∨ _))

/-- What is said when a line ends the session. -/
def parting (line : String) : String := if trimEnd line = "" then farewell else ""

section Replies

variable (mode : Mode) {front : List String} {line : String}

theorem reply_ends (ends : Ends front line) :
    reply mode (endsBlank front) (some line) = .done { output := parting line } := by
  rcases ends with exits | ⟨blank, again⟩
  · have nothing : parting line = "" := if_neg (by rw [exits]; decide)
    rw [nothing, reply, Option.map_some, exits]
    rfl
  · have message : parting line = farewell := if_pos blank
    rw [message, reply, Option.map_some, blank, again]
    rfl

theorem reply_goesOn (goesOn : ¬Ends front line) :
    reply mode (endsBlank front) (some line) =
      .more (shown mode line) (noted mode line) (endsBlank (front ++ [line])) := by
  obtain ⟨stays, once⟩ := not_or.mp goesOn
  have last : endsBlank (front ++ [line]) = (trimEnd line == "") := by
    rw [endsBlank, List.getLast?_concat]
    rfl
  rw [last]
  by_cases blank : trimEnd line = ""
  · have first : endsBlank front = false := by
      rw [← Bool.not_eq_true]
      exact fun again => once ⟨blank, again⟩
    have unanswered : shown mode line = "" := if_pos (.inl blank)
    have unlogged : noted mode line = [] := if_pos (.inl blank)
    rw [unanswered, unlogged, first, reply, Option.map_some, blank]
    rfl
  · have input : ¬IsCommand line := not_or.mpr ⟨blank, stays⟩
    rw [shown, noted, if_neg input, if_neg input, ← toOption_ofInput, beq_false_of_ne blank, reply,
      Option.map_some]
    split
    · cases ‹_›
    · exact absurd (Option.some.inj ‹_›) blank
    · exact absurd (Option.some.inj ‹_›) stays
    · rename_i same
      rw [← Option.some.inj same]
      dsimp only
      generalize Answer.ofInput mode (trimEnd line) = answer
      cases answer.result with
      | ok output => rfl
      | error message => rfl

end Replies

/-! ### Sessions -/

/-- None of the lines ends the session. -/
def GoesOn (lines : List String) : Prop :=
  ∀ front line later, lines = front ++ line :: later → ¬Ends front line

theorem goesOn_nil : GoesOn [] := by
  intro front line later none
  simp at none

theorem goesOn_concat_iff {lines : List String} {line : String} :
    GoesOn (lines ++ [line]) ↔ GoesOn lines ∧ ¬Ends lines line := by
  constructor
  · intro goesOn
    refine ⟨?_, goesOn lines line [] rfl⟩
    rintro front other later rfl
    exact goesOn front other (later ++ [line]) (by simp)
  · rintro ⟨goesOn, stays⟩ front other later same
    rcases List.eq_nil_or_concat' later with rfl | ⟨later, last, rfl⟩
    · obtain ⟨rfl, single⟩ := List.append_inj' same rfl
      obtain rfl := List.singleton_inj.mp single
      exact stays
    · rw [← List.cons_append, ← List.append_assoc] at same
      exact goesOn front other later (List.append_inj' same rfl).1

/-- A session goes on to its last line, or there is a first line that ends it. -/
theorem goesOn_or_ends (lines : List String) :
    GoesOn lines ∨ ∃ front line later, lines = front ++ line :: later ∧ GoesOn front ∧
      Ends front line := by
  induction lines using List.reverseRecOn with
  | nil => exact .inl goesOn_nil
  | append_singleton lines line ih =>
    rcases ih with goesOn | ⟨front, stop, later, rfl, goesOn, ends⟩
    · by_cases ends : Ends lines line
      · exact .inr ⟨lines, line, [], rfl, goesOn, ends⟩
      · exact .inl (goesOn_concat_iff.mpr ⟨goesOn, ends⟩)
    · exact .inr ⟨front, stop, later ++ [line], by simp, goesOn, ends⟩

/-- The transcript of a session that answers the given lines, prompts once more and ends. -/
def transcript (mode : Mode) (lines : List String) (ending : String) : Transcript where
  exit := 0
  output := banner ++ String.join (lines.map fun line => mark ++ shown mode line) ++ mark ++ ending
  log := lines.flatMap (noted mode)

/-- The answers come one after the other, and what comes next knows of the lines before it only
whether the last of them was blank. -/
theorem converse_append (mode : Mode) {front : List String} (goesOn : GoesOn front)
    (rest : List (Option String)) :
    converse mode false (front.map some ++ rest) =
      (converse mode (endsBlank front) rest).after
        (String.join (front.map fun line => mark ++ shown mode line))
        (front.flatMap (noted mode)) := by
  induction front using List.reverseRecOn generalizing rest with
  | nil => simp [Transcript.after, endsBlank]
  | append_singleton front line ih =>
    obtain ⟨earlier, stays⟩ := goesOn_concat_iff.mp goesOn
    have next : converse mode (endsBlank front) (some line :: rest) =
        (converse mode (endsBlank (front ++ [line])) rest).after (mark ++ shown mode line)
          (noted mode line) := by
      rw [converse, reply_goesOn mode stays]
    rw [List.map_append, List.append_assoc, ih earlier]
    simp [next, Transcript.after_after]

/-- The session is over when a line has ended it or there are no more lines. -/
theorem run_append (mode : Mode) {front : List String} (goesOn : GoesOn front)
    {rest : List (Option String)} {ending : String}
    (last : converse mode (endsBlank front) rest = { output := mark ++ ending }) :
    run mode (front.map some ++ rest) = transcript mode front ending := by
  rw [run, converse_append mode goesOn, last]
  simp [transcript, Transcript.after, String.append_assoc]

/-- A session at the prompt answers line by line and ends with the first line that ends it, or else
with the last line and one more prompt.  Whatever comes after the line that ends it changes
nothing. -/
theorem run_lines (mode : Mode) (lines : List String) :
    (GoesOn lines ∧ run mode (lines.map some) = transcript mode lines "") ∨
    ∃ front line later, lines = front ++ line :: later ∧ GoesOn front ∧ Ends front line ∧
      run mode (lines.map some) = transcript mode front (parting line) ∧
      ∀ others, run mode ((front ++ [line]).map some ++ others) =
        transcript mode front (parting line) := by
  rcases goesOn_or_ends lines with goesOn | ⟨front, line, later, rfl, goesOn, ends⟩
  · have last : converse mode (endsBlank lines) [] = { output := mark ++ "" } := by
      rw [converse, String.append_empty]
    have whole := run_append mode goesOn last
    rw [List.append_nil] at whole
    exact .inl ⟨goesOn, whole⟩
  · have stops (others : List (Option String)) :
        run mode (front.map some ++ some line :: others) =
          transcript mode front (parting line) := by
      refine run_append mode goesOn ?_
      rw [converse, reply_ends mode ends]
      rfl
    refine .inr ⟨front, line, later, rfl, goesOn, ends, ?_, fun others => ?_⟩
    · rw [List.map_append, List.map_cons]
      exact stops (later.map some)
    · rw [List.map_append, List.append_assoc]
      exact stops others

/-- Between two blank lines, one that fails; the third blank line follows the second. -/
example : (run .tokens [some "", some "\"open", some "  ", some "\t", some "x"]).output =
    banner ++ "> > > > " ++ farewell := by
  decide +kernel

end Prompt

end FirstMatch.Session
