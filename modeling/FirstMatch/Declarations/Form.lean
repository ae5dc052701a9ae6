import FirstMatch.Declarations.Node
import FirstMatch.Parsing.TokenStream
import FirstMatch.Text.CharClass

/-! The forms of the declaration language and how each is read from tokens. -/

namespace FirstMatch.Declarations

open Text Parsing

/-- The kind of the word that begins a package declaration. -/
def packageKind : Kind := ⟨3000⟩

/-- The kind of the word that begins a struct declaration. -/
def structKind : Kind := ⟨3001⟩

def Identifier.ofToken (t : Token) : Identifier := ⟨t.literal, t.start⟩

inductive Form where
  | identifier
  | package
  | struct
  deriving DecidableEq

namespace Form

/-- Fails at the token under the cursor, or at the end of the token before it if the input ends
there. -/
def unexpected (s : TokenStream) (before : Token) (expected : String) : Outcome Node :=
  if s.current.isValid then s.fail (expected ++ ", got " ++ s.current.display)
  else (.error (.fail (expected ++ ", got end of input") before.stop), s)

/-- A lone token is an identifier whatever its kind; the rule decides which tokens come here. -/
def readIdentifier (token : Token) (s : TokenStream) : Outcome Node :=
  (.ok (.expression (.identifier (.ofToken token))), s)

/-- The keyword, then a name. -/
def readPackage (token : Token) (s : TokenStream) : Outcome Node :=
  let s := s.next
  let name := s.current
  if name.kind ≠ .ident then unexpected s token "expected package name"
  else (.ok (.declaration (.package ⟨token.start, .ofToken name⟩)), s)

/-- The keyword, a name, and a pair of braces with nothing between them. -/
def readStruct (token : Token) (s : TokenStream) : Outcome Node :=
  if token.kind ≠ structKind then s.fail ("expected struct, got " ++ token.display)
  else
    let s := s.next
    let name := s.current
    if name.kind ≠ .ident then unexpected s token "expected struct name"
    else
      let s := s.next
      let left := s.current
      if left.kind ≠ .leftBrace then unexpected s name "expected '\x7b' after struct name"
      else
        let s := s.next
        let right := s.current
        if right.kind ≠ .rightBrace then unexpected s left "expected '\x7d'"
        else
          let isPublic := name.literal.toList.head?.any isUppercase
          (.ok (.declaration (.struct
            ⟨token.start, .ofToken name, isPublic, left.start, right.start⟩)), s)

def read : Form → Token → TokenStream → Outcome Node
  | identifier => readIdentifier
  | package => readPackage
  | struct => readStruct

/-- A rule that reads a form. -/
def rule (f : Form) (name : String) (accepts : Token → Bool) : Parsing.Rule Node :=
  { name, accepts, run := f.read }

/-- A node of this form put together from two tokens: one that it begins with and one that stands
for the rest of it. -/
def sketch (f : Form) (asStatement : Bool) (first rest : Token) : Node :=
  match f with
  | identifier =>
    let e := .identifier (.ofToken first)
    if asStatement then .statement (.expression e) else .expression e
  | package =>
    let d := .package ⟨first.start, .ofToken rest⟩
    if asStatement then .statement (.declaration d) else .declaration d
  | struct =>
    let d := .struct ⟨first.start, .ofToken rest, false, rest.start, rest.stop⟩
    if asStatement then .statement (.declaration d) else .declaration d

end Form

end FirstMatch.Declarations
