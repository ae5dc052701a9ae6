import FirstMatch.Lexing.Config

/-! Lexing rules given as data: a script is a list of steps that move the cursor and build up a
token. -/

namespace FirstMatch.Lexing

/-- How often each of the numbered rules has run. -/
structure Tally where
  counts : Array Nat := #[]

namespace Tally

def count (t : Tally) (slot : Nat) : Nat := t.counts.getD slot 0

def bump (t : Tally) (slot : Nat) : Tally :=
  let padded := t.counts ++ Array.replicate (slot + 1 - t.counts.size) 0
  ⟨padded.modify slot (· + 1)⟩

end Tally

namespace Script

/-- A condition on the place of the cursor. -/
inductive Test where
  | on (accepts : Char → Bool)
  | off (accepts : Char → Bool)
  | spelling (text : String)

inductive Step where
  | next (times : Nat)
  | undo (times : Nat)
  | skipWhile (accepts : Char → Bool)
  | skipUntil (accepts : Char → Bool)
  | lookahead (n : Nat)
  | lookup (text : String)
  | slice (start : Position)
  | input
  | longestOperator
  | start (kind : Kind)
  | finish
  | setKind (kind : Kind)
  | setToken (token : Token)
  | call (builtin : Builtin)
  | given (test : Test) (steps : List Step)
  /-- Waits for the watch to give up. -/
  | spin
  | stop
  | decline (message : String)
  | fail (message : String)

inductive Value where
  | nothing
  | char (ch : Option Char)
  | text (text : String)
  | kind (kind : Option Kind)
  | number (n : Nat)

/-- What a step does: it has a value and the script goes on, or it ends the script. -/
inductive Effect where
  | value (v : Value)
  | ended (result : Except Refusal Token)

/-- A script under way: the context, the token being made, and the character that the rule was
offered. -/
structure Machine (σ : Type) where
  context : Context σ
  token : Token := .absent
  offered : Char := '\x00'

variable {σ : Type}

namespace Test

def holds (ctx : Context σ) : Test → Bool
  | on accepts => ctx.current.any accepts
  | off accepts => !ctx.current.any accepts
  | spelling text => ctx.lookahead text.length == text

end Test

namespace Machine

def move (m : Machine σ) (f : Cursor → Cursor) : Machine σ := { m with context := m.context.move f }

/-- Makes the same move `times` times over and gives what the last one gave. -/
def repeated (f : Context σ → Option Char × Context σ) :
    Nat → Option Char → Machine σ → Option Char × Machine σ
  | 0, found, m => (found, m)
  | times + 1, _, m =>
    let (found, context) := f m.context
    repeated f times found { m with context }

end Machine

def valued (v : Value) (m : Machine σ) : Effect × Machine σ := (.value v, m)

def ended (outcome : Outcome σ) (m : Machine σ) : Effect × Machine σ :=
  (.ended outcome.1, { m with context := outcome.2 })

mutual

def runStep : Step → Machine σ → Effect × Machine σ
  | .next times, m =>
    let (ch, m) := m.repeated Context.next times none
    valued (.char ch) m
  | .undo times, m =>
    let (ch, m) := m.repeated Context.undo times none
    valued (.char ch) m
  | .skipWhile accepts, m => valued .nothing (m.move (·.skipWhile accepts))
  | .skipUntil accepts, m =>
    valued .nothing <|
      if m.context.current.any accepts then m else m.move (·.stepWhile fun ch => !accepts ch)
  | .lookahead n, m => valued (.text (m.context.lookahead n)) m
  | .lookup text, m => valued (.kind (m.context.symbols.lookup text)) m
  | .slice start, m => valued (.text (m.context.cursor.sliceFrom start)) m
  | .input, m => valued (.text m.context.cursor.input) m
  | .longestOperator, m => valued (.number m.context.symbols.longest) m
  | .start kind, m => valued .nothing { m with token := m.context.startToken kind }
  | .finish, m => valued .nothing { m with token := m.context.endToken m.token }
  | .setKind kind, m => valued .nothing { m with token := { m.token with kind } }
  | .setToken token, m => valued .nothing { m with token }
  | .call builtin, m =>
    match builtin.run (m.context.current.getD m.offered) m.context with
    | (.ok token, context) => valued .nothing { m with context, token }
    | (.error refusal, context) => (.ended (.error refusal), { m with context })
  | .given test steps, m =>
    if test.holds m.context then
      match runSteps steps m with
      | (some result, m) => (.ended result, m)
      | (none, m) => valued .nothing m
    else valued .nothing m
  | .spin, m => valued .nothing (m.move Cursor.cancel)
  | .stop, m => (.ended (.ok m.token), m)
  | .decline message, m => ended (m.context.decline message) m
  | .fail message, m => ended (m.context.fail message) m

/-- Runs steps up to the first that ends the script. -/
def runSteps : List Step → Machine σ → Option (Except Refusal Token) × Machine σ
  | [], m => (none, m)
  | step :: rest, m =>
    match runStep step m with
    | (.value _, m) => runSteps rest m
    | (.ended result, m) => (some result, m)

end

/-- Runs each step in turn whatever the others do, and gives what every one leaves. -/
def trace : List Step → Machine σ → List (Effect × Machine σ)
  | [], _ => []
  | step :: rest, m =>
    let row := runStep step m
    row :: trace rest row.2

/-- A rule that runs a script, at most `limit` times.  A script that does not end gives the token it
has made. -/
def rule (name : String) (accepts : Char → Bool) (slot limit : Nat) (steps : List Step) :
    Rule Tally where
  name := name
  accepts := accepts
  run ch ctx :=
    let ctx := { ctx with memory := ctx.memory.bump slot }
    if limit < ctx.memory.count slot then ctx.fail "script limit"
    else
      match runSteps steps { context := ctx, offered := ch } with
      | (some result, m) => (result, m.context)
      | (none, m) => (.ok m.token, m.context)

end Script

end FirstMatch.Lexing
