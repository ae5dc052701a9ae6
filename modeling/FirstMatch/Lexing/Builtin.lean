import FirstMatch.Lexing.Context

/-! The built-in ways to make a token.  Each begins on the character it was offered and leaves the
cursor on the first character after the token. -/

namespace FirstMatch.Lexing

open Text

variable {σ : Type}

inductive Builtin where
  | identifier
  | charLiteral
  | string
  | rawString
  | number
  | operator
  | whitespace
  deriving DecidableEq

namespace Builtin

/-- Letters and numbers.  A number in front is stepped over and declined, so that undoing one step
finds it again. -/
def identifierToken (ch : Char) (ctx : Context σ) : Outcome σ :=
  let token := ctx.startToken .ident
  if isNumber ch then
    ctx.next.2.decline "first character of an identifier can't be a number"
  else if isLetter ch then (ctx.move (·.stepWhile isLetterOrNumber)).accept token
  else ctx.accept token

/-- One character between single quotes. -/
def charToken (ctx : Context σ) : Outcome σ :=
  let token := ctx.startToken .char
  match ctx.next with
  | (none, ctx) => ctx.fail "unterminated char literal"
  | (some ch, ctx) =>
    if ch = '\'' then ctx.fail "empty char literal"
    else
      match ctx.next with
      | (none, ctx) => ctx.fail "unterminated char literal"
      | (some ch, ctx) =>
        if ch = '\'' then ctx.next.2.accept token
        else ctx.fail "too many characters in char literal"

/-- Whether the next character is escaped, unless this one ends the string: an unescaped double
quote closes it and a line break breaks it off. -/
def stringStep (escaped : Bool) (ch : Char) : Option Bool :=
  if isNewline ch then none
  else if ch = '"' ∧ ¬escaped then none
  else some (!escaped && ch == '\\')

/-- Text between double quotes on one line. -/
def stringToken (ctx : Context σ) : Outcome σ :=
  let token := ctx.startToken .string
  let scan := ctx.cursor.scan stringStep false
  let ctx := { ctx with cursor := scan.cursor }
  match scan.stopper with
  | none => ctx.fail "unterminated string literal"
  | some ch =>
    if isNewline ch then ctx.fail "literal newlines aren't valid in a string"
    else ctx.next.2.accept token

/-- Text up to the next back quote, line breaks included. -/
def rawStringToken (ctx : Context σ) : Outcome σ :=
  let token := ctx.startToken .string
  let scan := ctx.cursor.scan (fun _ ch => if isBackQuote ch then none else some ()) ()
  let ctx := { ctx with cursor := scan.cursor }
  match scan.stopper with
  | none => ctx.fail "unterminated raw string literal"
  | some _ => ctx.next.2.accept token

/-- A number goes on through numeric characters; its first point makes it a fraction. -/
def numberStep (kind : Kind) (ch : Char) : Option Kind :=
  if isNumber ch then some kind
  else if ch = '.' ∧ kind = .number then some .float
  else none

def numberToken (ch : Char) (ctx : Context σ) : Outcome σ :=
  let token := ctx.startToken .number
  if isNumber ch then
    let scan := ctx.cursor.scan numberStep .number
    { ctx with cursor := scan.cursor }.accept { token with kind := scan.state }
  else ctx.accept token

/-- The longest operator at the cursor. -/
def operatorToken (ch : Char) (ctx : Context σ) : Outcome σ :=
  match ctx.symbols.operatorWithin? ctx.cursor.here.ahead ctx.symbols.longest with
  | none => ctx.fail ("invalid operator: " ++ ch.toString)
  | some (text, kind) => (ctx.move (·.skip text.length)).accept (ctx.startToken kind)

def whitespaceToken (ch : Char) (ctx : Context σ) : Outcome σ :=
  let token := ctx.startToken .whitespace
  if isWhitespace ch then (ctx.move (·.stepWhile isWhitespace)).accept token
  else ctx.accept token

def run : Builtin → Char → Context σ → Outcome σ
  | identifier => identifierToken
  | charLiteral => fun _ => charToken
  | string => fun _ => stringToken
  | rawString => fun _ => rawStringToken
  | number => numberToken
  | operator => operatorToken
  | whitespace => whitespaceToken

/-- A rule that makes its tokens in a built-in way. -/
def rule (b : Builtin) (name : String) (accepts : Char → Bool) : Rule σ :=
  { name, accepts, run := b.run }

end Builtin

end FirstMatch.Lexing
