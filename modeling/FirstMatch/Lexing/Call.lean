import FirstMatch.Lexing.Dispatch

/-! Lex calls: one dispatch after another until the input ends or one fails. -/

namespace FirstMatch.Lexing

open Text

variable {σ : Type}

/-- The answer of a lex call, what it reported, and the memory its rules leave to later calls. -/
structure Report (σ : Type) where
  result : Except Error (List Token)
  log : List Event
  memory : σ

/-- A lex call under way. -/
structure Call (σ : Type) where
  context : Context σ
  tokens : Array Token := #[]
  log : Array Event := #[]

namespace Call

def succeed (call : Call σ) : Report σ :=
  { result := .ok call.tokens.toList
    log := (call.log.push (.lexed call.tokens.size)).toList
    memory := call.context.memory }

def fail (call : Call σ) (error : Error) : Report σ :=
  { result := .error error, log := call.log.toList, memory := call.context.memory }

/-- Fails because the watch has given up. -/
def giveUp (call : Call σ) (watch : Watch) : Report σ :=
  let log := call.log.push (call.context.loopEvent watch)
  { call with log }.fail (.loop call.context.position)

end Call

/-- What is to be done next. -/
inductive Turn (σ : Type) where
  | finish (context : Context σ)
  | giveUp (context : Context σ)
  | offer (ch : Char) (context : Context σ)

namespace Config

/-- Steps over whitespace, if the configuration skips it. -/
def skipGap (cfg : Config σ) (ctx : Context σ) : Context σ :=
  if cfg.skipsWhitespace then ctx.move (·.skipWhile isWhitespace) else ctx

/-- Finds the next turn, unless the input has ended or the probe is cancelled. -/
def turn (cfg : Config σ) (ctx : Context σ) : Turn σ :=
  if ctx.atEnd then .finish ctx
  else
    let looked := ctx.look
    if looked.1 then .giveUp looked.2
    else
      let there := cfg.skipGap looked.2
      match there.current with
      | none => .finish there
      | some ch => .offer ch there

/-- Takes turns, at most `budget` of them with a dispatch. -/
def proceed (cfg : Config σ) (budget : Nat) (call : Call σ) : Report σ :=
  match cfg.turn call.context with
  | .finish context => { call with context }.succeed
  | .giveUp context => { call with context }.giveUp cfg.watch
  | .offer ch context =>
    match budget with
    | 0 => { call with context }.giveUp cfg.watch
    | budget + 1 =>
      let d := dispatch cfg.watch cfg.rules ch context
      match d.result with
      | .ok token => proceed cfg budget ⟨d.context, call.tokens.push token, call.log ++ d.log⟩
      | .error error => Call.fail ⟨d.context, call.tokens, call.log ++ d.log⟩ error

/-- A context at the start of an input. -/
def context (cfg : Config σ) (memory : σ) (input : String) (probe : Probe) : Context σ :=
  ⟨.ofText input probe, cfg.symbols, memory⟩

/-- Lexes an input under a probe that may be cancelled on the way. -/
def lexProbed (cfg : Config σ) (memory : σ) (probe : Probe) (input : String) : Report σ :=
  cfg.proceed (input.length + cfg.watch.patience) { context := cfg.context memory input probe }

/-- Lexes a whole input into its tokens, or gives the first failure. -/
def lex (cfg : Config σ) (memory : σ) (input : String) : Report σ := cfg.lexProbed memory {} input

/-- Lexes inputs in turn; the rules keep their memory from one to the next. -/
def lexEach (cfg : Config σ) (memory : σ) : List String → List (Report σ)
  | [] => []
  | input :: rest =>
    let report := cfg.lex memory input
    report :: cfg.lexEach report.memory rest

end Config

end FirstMatch.Lexing
