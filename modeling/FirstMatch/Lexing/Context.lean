import FirstMatch.Rule
import FirstMatch.Source.Scan
import FirstMatch.Token.Basic
import FirstMatch.Token.Symbols

/-! What a lexing rule works on: a cursor over the input, the symbol tables, and a memory of the
rules' own that outlives the call. -/

namespace FirstMatch.Lexing

structure Context (σ : Type) where
  cursor : Cursor
  symbols : Symbols
  memory : σ

/-- A lexing rule is offered the character under the cursor and makes a token. -/
abbrev Rule (σ : Type) := FirstMatch.Rule Char (Context σ) Token

/-- What a rule leaves: a token or a refusal, and the context as it moved it. -/
abbrev Outcome (σ : Type) := Except Refusal Token × Context σ

namespace Context

variable {σ : Type}

def position (ctx : Context σ) : Position := ctx.cursor.position

def current (ctx : Context σ) : Option Char := ctx.cursor.current

def atEnd (ctx : Context σ) : Bool := ctx.cursor.atEnd

def next (ctx : Context σ) : Option Char × Context σ :=
  let moved := ctx.cursor.next
  (moved.1, { ctx with cursor := moved.2 })

def undo (ctx : Context σ) : Option Char × Context σ :=
  let moved := ctx.cursor.undo
  (moved.1, { ctx with cursor := moved.2 })

def look (ctx : Context σ) : Bool × Context σ :=
  let looked := ctx.cursor.look
  (looked.1, { ctx with cursor := looked.2 })

def lookahead (ctx : Context σ) (n : Nat) : String := ctx.cursor.lookahead n

/-- The context with the cursor moved. -/
def move (ctx : Context σ) (f : Cursor → Cursor) : Context σ := { ctx with cursor := f ctx.cursor }

/-- A token that begins at the cursor. -/
def startToken (ctx : Context σ) (kind : Kind) : Token :=
  { Token.absent with kind, start := ctx.position }

/-- Ends a token at the cursor.  The symbol tables may then give it another kind. -/
def endToken (ctx : Context σ) (token : Token) : Token :=
  let literal := ctx.cursor.sliceFrom token.start
  let kind := if token.kind.isReclassifiable then (ctx.symbols.lookup literal).getD token.kind
    else token.kind
  { token with kind, stop := ctx.position, literal }

/-- Succeeds with a token that ends at the cursor. -/
def accept (ctx : Context σ) (token : Token) : Outcome σ := (.ok (ctx.endToken token), ctx)

def decline (ctx : Context σ) (message : String) : Outcome σ :=
  (.error (.decline message ctx.position), ctx)

def fail (ctx : Context σ) (message : String) : Outcome σ :=
  (.error (.fail message ctx.position), ctx)

end Context

end FirstMatch.Lexing
