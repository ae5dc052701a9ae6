import FirstMatch.Text.Alphabetic
import FirstMatch.Text.Numeric
import FirstMatch.Text.Ranges
import FirstMatch.Text.Uppercase
import FirstMatch.Text.WhiteSpace

/-! The classes of characters that rules are selected by. -/

namespace FirstMatch.Text

def isLetter (c : Char) : Bool := covers alphabetic c.toNat

/-- One of the ten ASCII digits. -/
def isDigit (c : Char) : Bool := c.isDigit

/-- Any numeric character.  Letter-like numbers such as `Ⅷ` are letters as well. -/
def isNumber (c : Char) : Bool := covers numeric c.toNat

def isLetterOrNumber (c : Char) : Bool := isLetter c || isNumber c

def isUppercase (c : Char) : Bool := covers uppercase c.toNat

def isWhitespace (c : Char) : Bool := covers whiteSpace c.toNat

/-- Whitespace that stays on its line. -/
def isSpace (c : Char) : Bool := c == ' ' || c == '\t'

def isNewline (c : Char) : Bool := c == '\n' || c == '\r'

def isSingleQuote (c : Char) : Bool := c == '\''

def isDoubleQuote (c : Char) : Bool := c == '"'

def isBackQuote (c : Char) : Bool := c == '\x60'

def isSymbol (c : Char) : Bool := ['$', '+', '<', '=', '>', '^', '\x60', '|', '~'].contains c

/-- ASCII punctuation that is no symbol. -/
def isPunctuation (c : Char) : Bool :=
  '!' ≤ c && c ≤ '~' && !c.isAlphanum && !isSymbol c

/-- A character that an operator may begin with. -/
def isOperator (c : Char) : Bool := isSymbol c || isPunctuation c

/-- The classes that a rule can name. -/
inductive CharClass where
  | letter
  | digit
  | number
  | letterOrNumber
  | singleQuote
  | doubleQuote
  | backQuote
  | operator
  | symbol
  | punctuation
  | whitespace
  | space
  | newline
  deriving DecidableEq

namespace CharClass

def all : List CharClass :=
  [letter, digit, number, letterOrNumber, singleQuote, doubleQuote, backQuote, operator, symbol,
    punctuation, whitespace, space, newline]

/-- Membership of a character in the class. -/
def holds : CharClass → Char → Bool
  | letter => isLetter
  | digit => isDigit
  | number => isNumber
  | letterOrNumber => isLetterOrNumber
  | singleQuote => isSingleQuote
  | doubleQuote => isDoubleQuote
  | backQuote => isBackQuote
  | operator => isOperator
  | symbol => isSymbol
  | punctuation => isPunctuation
  | whitespace => isWhitespace
  | space => isSpace
  | newline => isNewline

/-- The classes a character belongs to. -/
def ofChar (c : Char) : List CharClass := all.filter (·.holds c)

end CharClass

end FirstMatch.Text
