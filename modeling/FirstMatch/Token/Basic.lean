import FirstMatch.Source.Position
import FirstMatch.Token.Kind

/-! Tokens: stretches of the source with a kind. -/

namespace FirstMatch

open Text

structure Token where
  kind : Kind
  start : Position
  stop : Position
  literal : String
  deriving DecidableEq

namespace Token

/-- What stands where there is no token. -/
def absent : Token := ⟨.illegal, .unknown, .unknown, ""⟩

def isValid (t : Token) : Bool := t.start.isValid && t.stop.isValid

def span (t : Token) : Span := ⟨t.start, t.stop⟩

def display (t : Token) : String :=
  "Token\x7bKind: " ++ t.kind.display ++ ", Start: " ++ t.start.display ++
    ", End: " ++ t.stop.display ++ "\x7d"

def outline (t : Token) : Outline :=
  .record "Token"
    [("kind", t.kind.outline), ("start", t.start.outline), ("end", t.stop.outline),
      ("literal", .quoted t.literal)]

end Token

end FirstMatch
