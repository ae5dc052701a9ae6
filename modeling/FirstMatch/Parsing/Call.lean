import FirstMatch.Lexing.Call
import FirstMatch.Parsing.Dispatch

/-! Parse calls: one dispatch after another until the tokens end or one fails. -/

namespace FirstMatch.Parsing

variable {ν σ : Type}

/-- The answer of a parse call and what it reported. -/
structure Report (ν : Type) where
  result : Except Error (List ν)
  log : List Log.Line

/-- A parse call under way. -/
structure Call (ν : Type) where
  stream : TokenStream
  nodes : Array ν := #[]
  log : Array Event := #[]

namespace Call

def succeed (call : Call ν) : Report ν :=
  ⟨.ok call.nodes.toList, (call.log.push (.parsed call.nodes.size)).toList.map Event.line⟩

def fail (call : Call ν) (error : Error) : Report ν :=
  ⟨.error error, call.log.toList.map Event.line⟩

end Call

/-- Makes at most `budget` dispatches, each followed by a step past the last token used. -/
def proceed (rules : List (Rule ν)) (budget : Nat) (call : Call ν) : Report ν :=
  if call.stream.atEnd then call.succeed
  else
    match budget with
    | 0 => call.fail (.endless call.stream.current.span)
    | budget + 1 =>
      let d := dispatch call.stream.current rules call.stream
      match d.result with
      | .ok node => proceed rules budget ⟨d.stream.next, call.nodes.push node, call.log ++ d.log⟩
      | .error error => Call.fail ⟨d.stream, call.nodes, call.log ++ d.log⟩ error

/-- Parses tokens into nodes.  A rule does the same whenever it is offered the same token, so a call
that makes more dispatches than there are tokens would never end. -/
def parseTokens (rules : List (Rule ν)) (tokens : List Token) : Report ν :=
  proceed rules tokens.length { stream := .ofList tokens }

/-- A lexer and the rules for its tokens. -/
structure Parser (ν σ : Type) where
  lexer : Lexing.Config σ
  rules : List (Rule ν)

/-- Lexes and parses a whole input; lexing is complete before parsing begins. -/
def Parser.parse (p : Parser ν σ) (memory : σ) (input : String) : Report ν :=
  let lexed := p.lexer.lex memory input
  let log := lexed.log.map Lexing.Event.line
  match lexed.result with
  | .error error => ⟨.error (.lexing error), log⟩
  | .ok tokens =>
    let parsed := parseTokens p.rules tokens
    { parsed with log := log ++ parsed.log }

open Text in
/-- A rule list shows the names of its rules. -/
def rulesOutline (rules : List (Rule ν)) : Outline :=
  .record "ParserConfig" [("rules", .list (rules.map fun rule => .quoted rule.name))]

end FirstMatch.Parsing
