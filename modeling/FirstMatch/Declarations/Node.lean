import FirstMatch.Source.Position

/-! Syntax trees of the declaration language: packages, empty structs and bare identifiers. -/

namespace FirstMatch.Declarations

open Text

structure Identifier where
  name : String
  position : Position
  deriving DecidableEq

/-- A package declaration: the keyword and the name. -/
structure Package where
  keyword : Position
  name : Identifier
  deriving DecidableEq

/-- A struct declaration.  A capitalized name makes it public. -/
structure Struct where
  keyword : Position
  name : Identifier
  isPublic : Bool
  leftBrace : Position
  rightBrace : Position
  deriving DecidableEq

inductive Expression where
  | identifier (id : Identifier)
  deriving DecidableEq

inductive Declaration where
  | package (p : Package)
  | struct (s : Struct)
  deriving DecidableEq

inductive Statement where
  | declaration (d : Declaration)
  | expression (e : Expression)
  deriving DecidableEq

inductive Node where
  | statement (s : Statement)
  | declaration (d : Declaration)
  | expression (e : Expression)
  deriving DecidableEq

namespace Identifier

/-- A name never goes on to another line. -/
def stop (i : Identifier) : Position :=
  ⟨i.position.line, i.position.column + i.name.length, i.position.offset + i.name.utf8ByteSize⟩

def outline (i : Identifier) : Outline :=
  .record "Identifier" [("name", .quoted i.name), ("name_pos", i.position.outline)]

end Identifier

namespace Package

def outline (p : Package) : Outline :=
  .record "Package" [("token", p.keyword.outline), ("name", p.name.outline)]

end Package

namespace Struct

/-- Just after the closing brace. -/
def stop (s : Struct) : Position :=
  ⟨s.rightBrace.line, s.rightBrace.column + 1, s.rightBrace.offset + 1⟩

def outline (s : Struct) : Outline :=
  .record "Struct"
    [("token", s.keyword.outline), ("name", s.name.outline), ("public", .bool s.isPublic),
      ("lbrace", s.leftBrace.outline), ("rbrace", s.rightBrace.outline)]

end Struct

namespace Expression

def start : Expression → Position
  | identifier id => id.position

def stop : Expression → Position
  | identifier id => id.stop

def outline : Expression → Outline
  | identifier id => .tuple "Identifier" [id.outline]

end Expression

namespace Declaration

def start : Declaration → Position
  | package p => p.keyword
  | struct s => s.keyword

def stop : Declaration → Position
  | package p => p.name.stop
  | struct s => s.stop

def outline : Declaration → Outline
  | package p => .tuple "Package" [p.outline]
  | struct s => .tuple "Struct" [s.outline]

end Declaration

namespace Statement

def start : Statement → Position
  | declaration d => d.start
  | expression e => e.start

def stop : Statement → Position
  | declaration d => d.stop
  | expression e => e.stop

def outline : Statement → Outline
  | declaration d => .tuple "Declaration" [d.outline]
  | expression e => .tuple "Expression" [e.outline]

end Statement

namespace Node

def start : Node → Position
  | statement s => s.start
  | declaration d => d.start
  | expression e => e.start

def stop : Node → Position
  | statement s => s.stop
  | declaration d => d.stop
  | expression e => e.stop

def span (n : Node) : Span := ⟨n.start, n.stop⟩

def outline : Node → Outline
  | statement s => .tuple "Statement" [s.outline]
  | declaration d => .tuple "Declaration" [d.outline]
  | expression e => .tuple "Expression" [e.outline]

end Node

/-- A whole source: its nodes in the order they stand. -/
structure File where
  nodes : List Node := []
  deriving DecidableEq

namespace File

def isEmpty (f : File) : Bool := f.nodes.isEmpty

/-- From the start of the first node to the end of the last. -/
def span? (f : File) : Option Span :=
  match f.nodes.head?, f.nodes.getLast? with
  | some first, some last => some ⟨first.start, last.stop⟩
  | _, _ => none

def outline (f : File) : Outline :=
  .record "File" [("nodes", .list (f.nodes.map Node.outline))]

end File

end FirstMatch.Declarations
