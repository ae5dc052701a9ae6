import FirstMatch.Rule
import FirstMatch.Token.Basic

/-! A cursor over a sequence of tokens. -/

namespace FirstMatch.Parsing

/-- Tokens and the index of the one under the cursor. -/
structure TokenStream where
  tokens : Array Token
  index : Nat := 0
  deriving DecidableEq

/-- A place to return to, with the position of the token there. -/
structure Checkpoint where
  index : Nat
  position : Position
  deriving DecidableEq

namespace TokenStream

def ofList (tokens : List Token) : TokenStream := { tokens := tokens.toArray }

def size (s : TokenStream) : Nat := s.tokens.size

def atEnd (s : TokenStream) : Bool := s.size ≤ s.index

/-- The token under the cursor, or the absent token after the last one. -/
def current (s : TokenStream) : Token := s.tokens.getD s.index .absent

/-- The cursor one token further on, at most just after the last. -/
def next (s : TokenStream) : TokenStream := { s with index := min (s.index + 1) s.size }

/-- Steps back and gives the token found; the first token has none before it. -/
def backup (s : TokenStream) : Token × TokenStream :=
  match s.index with
  | 0 => (.absent, s)
  | index + 1 => let s := { s with index }; (s.current, s)

/-- The `n` tokens from the cursor on, if there are so many. -/
def lookahead (s : TokenStream) (n : Nat) : Option (List Token) :=
  if s.index + n ≤ s.size then some ((s.tokens.toList.drop s.index).take n) else none

/-- The `n` tokens before the cursor, if there are so many. -/
def lookbehind (s : TokenStream) (n : Nat) : Option (List Token) :=
  if n ≤ s.index ∧ s.index ≤ s.size then some ((s.tokens.toList.take s.index).drop (s.index - n))
  else none

def checkpoint (s : TokenStream) : Checkpoint := ⟨s.index, s.current.start⟩

def restore (s : TokenStream) (saved : Checkpoint) : TokenStream :=
  { s with index := min saved.index s.size }

@[simp] theorem tokens_next (s : TokenStream) : s.next.tokens = s.tokens := rfl

@[simp] theorem tokens_restore (s : TokenStream) (saved : Checkpoint) :
    (s.restore saved).tokens = s.tokens := rfl

@[simp] theorem tokens_backup (s : TokenStream) : s.backup.2.tokens = s.tokens := by
  rw [backup]
  split <;> rfl

theorem index_next_le (s : TokenStream) : s.next.index ≤ s.next.size := Nat.min_le_right ..

theorem index_restore_le (s : TokenStream) (saved : Checkpoint) :
    (s.restore saved).index ≤ (s.restore saved).size := Nat.min_le_right ..

/-- Within bounds, returning to a checkpoint returns to its index. -/
theorem index_restore (s : TokenStream) (saved : Checkpoint) (h : saved.index ≤ s.size) :
    (s.restore saved).index = saved.index := Nat.min_eq_left h

end TokenStream

/-- A parsing rule is offered the token under the cursor and makes a node. -/
abbrev Rule (ν : Type) := FirstMatch.Rule Token TokenStream ν

/-- What a rule leaves: a node or a refusal, and the tokens with the cursor as it moved it, which
after a success is on the last token used. -/
abbrev Outcome (ν : Type) := Except Refusal ν × TokenStream

namespace TokenStream

variable {ν : Type}

def decline (s : TokenStream) (message : String) : Outcome ν :=
  (.error (.decline message s.current.start), s)

def fail (s : TokenStream) (message : String) : Outcome ν :=
  (.error (.fail message s.current.start), s)

end TokenStream

end FirstMatch.Parsing
