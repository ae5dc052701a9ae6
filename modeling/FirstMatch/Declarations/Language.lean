import FirstMatch.Declarations.Form
import FirstMatch.Parsing.Call

/-! The declaration language: its lexer, its rules, and parsing a source into a file. -/

namespace FirstMatch.Declarations

open Parsing

variable {σ : Type}

/-- Classes of tokens that a rule can be for. -/
inductive TokenClass where
  | identifier
  | keyword
  | string
  | package
  | struct
  deriving DecidableEq

namespace TokenClass

def all : List TokenClass := [identifier, keyword, string, package, struct]

def holds (token : Token) : TokenClass → Bool
  | identifier => token.kind == .ident
  | keyword => token.kind.isKeyword
  | string => token.kind == .string
  | package => token.kind == packageKind
  | struct => token.kind == structKind

/-- The classes a token belongs to. -/
def ofToken (token : Token) : List TokenClass := all.filter (·.holds token)

end TokenClass

/-- The standard lexer with the two keywords. -/
def lexer : Lexing.Config σ :=
  Lexing.Config.standard.addKeywords [("package", packageKind), ("struct", structKind)]

def rules : List (Parsing.Rule Node) :=
  [Form.package.rule "ParsePackage" (TokenClass.package.holds ·),
    Form.struct.rule "ParseStruct" (TokenClass.struct.holds ·),
    Form.identifier.rule "ParseIdentifier" (TokenClass.identifier.holds ·)]

def parser : Parser Node σ := ⟨lexer, rules⟩

end FirstMatch.Declarations
