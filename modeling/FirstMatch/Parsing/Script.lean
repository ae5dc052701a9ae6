import FirstMatch.Parsing.TokenStream

/-! Parsing rules given as data: a script is a list of steps that move over the tokens and end with
a node. -/

namespace FirstMatch.Parsing.Script

variable {ν : Type}

/-- A condition on the token under the cursor. -/
inductive Test where
  | on (accepts : Token → Bool)
  | off (accepts : Token → Bool)

def Test.holds (token : Token) : Test → Bool
  | on accepts => accepts token
  | off accepts => !accepts token

inductive Step (ν : Type) where
  | next (times : Nat)
  | backup (times : Nat)
  | lookahead (n : Nat)
  | lookbehind (n : Nat)
  | size
  | checkpoint
  | restore (saved : Nat)
  | restoreTo (index : Nat)
  | given (test : Test) (steps : List (Step ν))
  | call (run : Token → TokenStream → Outcome ν)
  /-- Ends with a node made from the token that the rule was offered and the one under the
  cursor. -/
  | node (make : Token → Token → ν)
  | decline (message : String)
  | fail (message : String)

inductive Value where
  | nothing
  | token (token : Option Token)
  | tokens (tokens : Option (List Token))
  | number (n : Nat)
  | checkpoint (saved : Checkpoint)

/-- What a step does: it has a value and the script goes on, or it ends the script. -/
inductive Effect (ν : Type) where
  | value (v : Value)
  | ended (result : Except Refusal ν)

/-- A script under way: the tokens, the checkpoints taken, and the token that the rule was
offered. -/
structure Machine where
  stream : TokenStream
  saved : Array Checkpoint := #[]
  offered : Token := .absent

namespace Machine

/-- Makes the same move `times` times over and gives the token of the last one. -/
def repeated (f : TokenStream → Token × TokenStream) :
    Nat → Option Token → Machine → Option Token × Machine
  | 0, found, m => (found, m)
  | times + 1, _, m =>
    let (found, stream) := f m.stream
    repeated f times (some found) { m with stream }

end Machine

def valued (v : Value) (m : Machine) : Effect ν × Machine := (.value v, m)

def ended (outcome : Outcome ν) (m : Machine) : Effect ν × Machine :=
  (.ended outcome.1, { m with stream := outcome.2 })

mutual

def runStep : Step ν → Machine → Effect ν × Machine
  | .next times, m =>
    let (token, m) := m.repeated (fun s => (s.next.current, s.next)) times none
    valued (.token token) m
  | .backup times, m =>
    let (token, m) := m.repeated TokenStream.backup times none
    valued (.token token) m
  | .lookahead n, m => valued (.tokens (m.stream.lookahead n)) m
  | .lookbehind n, m => valued (.tokens (m.stream.lookbehind n)) m
  | .size, m => valued (.number m.stream.size) m
  | .checkpoint, m =>
    let saved := m.stream.checkpoint
    valued (.checkpoint saved) { m with saved := m.saved.push saved }
  | .restore i, m =>
    valued .nothing <|
      match m.saved[i]? with
      | some saved => { m with stream := m.stream.restore saved }
      | none => m
  | .restoreTo index, m =>
    valued .nothing { m with stream := m.stream.restore ⟨index, .unknown⟩ }
  | .given test steps, m =>
    if test.holds m.stream.current then
      match runSteps steps m with
      | (some result, m) => (.ended result, m)
      | (none, m) => valued .nothing m
    else valued .nothing m
  | .call run, m => ended (run m.stream.current m.stream) m
  | .node make, m => (.ended (.ok (make m.offered m.stream.current)), m)
  | .decline message, m => ended (m.stream.decline message) m
  | .fail message, m => ended (m.stream.fail message) m

/-- Runs steps up to the first that ends the script. -/
def runSteps : List (Step ν) → Machine → Option (Except Refusal ν) × Machine
  | [], m => (none, m)
  | step :: rest, m =>
    match runStep step m with
    | (.value _, m) => runSteps rest m
    | (.ended result, m) => (some result, m)

end

/-- Runs each step in turn whatever the others do, as if the token under the cursor had just been
offered, and gives what every one leaves. -/
def trace : List (Step ν) → Machine → List (Effect ν × Machine)
  | [], _ => []
  | step :: rest, m =>
    let row := runStep step { m with offered := m.stream.current }
    row :: trace rest row.2

/-- A rule that runs a script.  A script that does not end gives the node `make` makes. -/
def rule (name : String) (accepts : Token → Bool) (make : Token → Token → ν)
    (steps : List (Step ν)) : Rule ν where
  name := name
  accepts := accepts
  run token s :=
    match runSteps steps { stream := s, offered := token } with
    | (some result, m) => (result, m.stream)
    | (none, m) => (.ok (make token m.stream.current), m.stream)

end FirstMatch.Parsing.Script
