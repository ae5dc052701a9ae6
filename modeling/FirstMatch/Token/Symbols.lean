import FirstMatch.Token.Kind

/-! Symbol tables: the texts that are operators or keywords, with their kinds. -/

namespace FirstMatch

open Text

/-- Operators, keywords, and the length in characters of the longest operator. -/
structure Symbols where
  operators : List (String × Kind) := []
  keywords : List (String × Kind) := []
  longest : Nat := 0
  deriving DecidableEq

namespace Symbols

/-- Enters a text into a table in place of any earlier entry for it. -/
def enter (table : List (String × Kind)) (text : String) (kind : Kind) : List (String × Kind) :=
  (text, kind) :: table.filter (·.1 ≠ text)

def addOperator (s : Symbols) (text : String) (kind : Kind) : Symbols :=
  { s with operators := enter s.operators text kind, longest := max s.longest text.length }

def addKeyword (s : Symbols) (text : String) (kind : Kind) : Symbols :=
  { s with keywords := enter s.keywords text kind }

def addOperators (s : Symbols) (entries : List (String × Kind)) : Symbols :=
  entries.foldl (fun s e => s.addOperator e.1 e.2) s

def addKeywords (s : Symbols) (entries : List (String × Kind)) : Symbols :=
  entries.foldl (fun s e => s.addKeyword e.1 e.2) s

def operator? (s : Symbols) (text : String) : Option Kind := s.operators.lookup text

def keyword? (s : Symbols) (text : String) : Option Kind := s.keywords.lookup text

/-- A text that is both is an operator. -/
def lookup (s : Symbols) (text : String) : Option Kind :=
  (s.operator? text).or (s.keyword? text)

/-- The longest operator of at most `n` characters at the start of `text`.  Near the end of the
text several lengths give the same candidate. -/
def operatorWithin? (s : Symbols) (text : List Char) : Nat → Option (String × Kind)
  | 0 => none
  | n + 1 =>
    let candidate := String.ofList (text.take (n + 1))
    match s.operator? candidate with
    | some kind => some (candidate, kind)
    | none => s.operatorWithin? text n

def outline (s : Symbols) : Outline :=
  let table (entries : List (String × Kind)) : Outline :=
    .table (entries.map fun e => (quoteString e.1, e.2.outline))
  .record "Symbols"
    [("operators", table s.operators), ("keywords", table s.keywords),
      ("longest_operator", .nat s.longest)]

end Symbols

end FirstMatch
