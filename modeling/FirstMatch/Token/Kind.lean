import FirstMatch.Text.Outline

/-! The kinds of tokens: a fixed set below 1000 and three families that grammars may draw from. -/

namespace FirstMatch

open Text

structure Kind where
  code : UInt32
  deriving DecidableEq

namespace Kind

/-- The fixed kinds in the order of their codes, each with its spelling if it is an operator. -/
def fixed : List (String × String) :=
  [("ILLEGAL", ""), ("EOF", ""), ("COMMENT", ""), ("WHITESPACE", ""),
    ("IDENT", ""), ("STRING", ""), ("CHAR", ""), ("NUMBER", ""), ("FLOAT", ""),
    ("ADD", "+"), ("SUB", "-"), ("MUL", "*"), ("QUO", "/"), ("REM", "%"),
    ("AND", "&"), ("OR", "|"), ("XOR", "^"), ("SHL", "<<"), ("SHR", ">>"), ("AND_NOT", "&^"),
    ("ADD_ASSIGN", "+="), ("SUB_ASSIGN", "-="), ("MUL_ASSIGN", "*="), ("QUO_ASSIGN", "/="),
    ("REM_ASSIGN", "%="), ("AND_ASSIGN", "&="), ("OR_ASSIGN", "|="), ("XOR_ASSIGN", "^="),
    ("SHL_ASSIGN", "<<="), ("SHR_ASSIGN", ">>="), ("AND_NOT_ASSIGN", "&^="),
    ("LAND", "&&"), ("LOR", "||"), ("ARROW", "<-"), ("INC", "++"), ("DEC", "--"),
    ("EQL", "=="), ("LSS", "<"), ("GTR", ">"), ("ASSIGN", "="), ("NOT", "!"),
    ("NEQ", "!="), ("LEQ", "<="), ("GEQ", ">="), ("DEFINE", ":="), ("ELLIPSIS", "..."),
    ("LPAREN", "("), ("LBRACK", "["), ("LBRACE", "\x7b"), ("COMMA", ","), ("PERIOD", "."),
    ("RPAREN", ")"), ("RBRACK", "]"), ("RBRACE", "\x7d"), ("SEMICOLON", ";"), ("COLON", ":")]

/-- The kind of a token that no rule has classified. -/
def illegal : Kind := ⟨0⟩
def comment : Kind := ⟨2⟩
def whitespace : Kind := ⟨3⟩
def ident : Kind := ⟨4⟩
def string : Kind := ⟨5⟩
def char : Kind := ⟨6⟩
def number : Kind := ⟨7⟩
def float : Kind := ⟨8⟩
def leftBrace : Kind := ⟨48⟩
def rightBrace : Kind := ⟨53⟩

/-- The fixed operators with their kinds, in the order of their codes. -/
def operators : List (String × Kind) :=
  fixed.zipIdx.filterMap fun ((_, spelling), code) =>
    if spelling.isEmpty then none else some (spelling, ⟨code.toUInt32⟩)

def name? (k : Kind) : Option String := (fixed[k.code.toNat]?).map (·.1)

def display (k : Kind) : String := k.name?.getD (toString k.code.toNat)

def outline (k : Kind) : Outline := .tuple "Kind" [.nat k.code.toNat]

def isIllegal (k : Kind) : Bool := k == illegal

def isLiteral (k : Kind) : Bool :=
  4 ≤ k.code && k.code ≤ 8 || 1000 ≤ k.code && k.code < 2000

def isOperator (k : Kind) : Bool :=
  9 ≤ k.code && k.code ≤ 55 || 2000 ≤ k.code && k.code < 3000

def isKeyword (k : Kind) : Bool := 3000 ≤ k.code

/-- Whether a symbol table may give the finished token another kind.  Quoted literals, numbers and
comments stay what they are whatever they spell. -/
def isReclassifiable (k : Kind) : Bool :=
  !List.contains [string, char, number, float, comment] k

/-- The families of kinds that grammars draw from. -/
inductive Family where
  | literal
  | operator
  | keyword
  deriving DecidableEq

namespace Family

def first : Family → Nat
  | literal => 1000
  | operator => 2000
  | keyword => 3000

/-- How many kinds the family has; the last family takes all the codes that remain. -/
def size : Family → Nat
  | literal => 1000
  | operator => 1000
  | keyword => UInt32.size - 3000

def name : Family → String
  | literal => "literal"
  | operator => "operator"
  | keyword => "keyword"

/-- What is said of a number that the family has no kind for. -/
def outOfRange (f : Family) : String := f.name ++ " kind out of range"

end Family

/-- The kind with number `n` of a family. -/
def ofFamily? (f : Family) (n : Nat) : Option Kind :=
  if n < f.size then some ⟨(f.first + n).toUInt32⟩ else none

end Kind

end FirstMatch
