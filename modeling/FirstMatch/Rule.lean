import FirstMatch.Source.Position

/-! Rules: what a lexer or parser tries in order on each character or token. -/

namespace FirstMatch

open Text

/-- Why a rule gives no result.  A rule that declines leaves the matter to the rules after it; one
that fails ends the whole call. -/
inductive Refusal where
  | decline (message : String) (position : Position)
  | fail (message : String) (position : Position)
  deriving DecidableEq

namespace Refusal

def message : Refusal → String
  | decline message _ | fail message _ => message

def position : Refusal → Position
  | decline _ position | fail _ position => position

def display (r : Refusal) : String := r.message ++ " at " ++ r.position.display

end Refusal

/-- A rule for units of type `ι`, working in a context of type `γ` towards a result of type `ρ`.
It runs on a unit that it accepts, with the context placed on that unit. -/
structure Rule (ι γ ρ : Type) where
  name : String
  accepts : ι → Bool
  run : ι → γ → Except Refusal ρ × γ

/-- A rule shows only its name. -/
def Rule.outline {ι γ ρ : Type} (r : Rule ι γ ρ) : Outline :=
  .record "Rule" [("name", .quoted r.name)]

end FirstMatch
