import FirstMatch.Proofs.Parsing.Trace

/-! Falling through to the next rule.  Rules move over the tokens as they like.  Whatever a rule
that declines did to the cursor is undone, so a dispatch ends as the first rule that settles the
matter would have ended it alone, and a rule that always declines might as well not be there. -/

namespace FirstMatch.Parsing

variable {ν : Type}

/-- One thing that a rule may do with the tokens. -/
inductive TokenStream.Move where
  | next
  | backup
  | lookahead (n : Nat)
  | lookbehind (n : Nat)
  | checkpoint
  /-- Returns to any checkpoint at all, whether or not it was taken here. -/
  | restore (saved : Checkpoint)
  deriving DecidableEq

namespace TokenStream

/-- Looking around and taking a checkpoint leave the cursor where it is. -/
def step (s : TokenStream) : Move → TokenStream
  | .next => s.next
  | .backup => s.backup.2
  | .lookahead _ | .lookbehind _ | .checkpoint => s
  | .restore saved => s.restore saved

def after (s : TokenStream) (moves : List Move) : TokenStream := moves.foldl step s

@[simp] theorem tokens_step (s : TokenStream) (move : Move) : (s.step move).tokens = s.tokens := by
  cases move with
  | next => exact s.tokens_next
  | backup => exact s.tokens_backup
  | lookahead | lookbehind | checkpoint => rfl
  | restore saved => exact s.tokens_restore saved

@[simp] theorem tokens_after (s : TokenStream) (moves : List Move) :
    (s.after moves).tokens = s.tokens := by
  induction moves generalizing s with
  | nil => rfl
  | cons move rest ih => exact (ih (s.step move)).trans (s.tokens_step move)

/-- From anywhere among the same tokens, a checkpoint leads back to where it was taken. -/
theorem restore_checkpoint {s moved : TokenStream} (same : moved.tokens = s.tokens)
    (bound : s.index ≤ s.size) : moved.restore s.checkpoint = s := by
  have within : s.checkpoint.index ≤ moved.size := by
    rw [size, same]
    exact bound
  have back : (moved.restore s.checkpoint).index = s.index := moved.index_restore _ within
  calc moved.restore s.checkpoint
      = ⟨moved.tokens, (moved.restore s.checkpoint).index⟩ := rfl
    _ = s := by rw [same, back]

end TokenStream

/-- A rule that works on the tokens by moves alone, whatever it makes of what it sees. -/
def Rule.Walks (rule : Rule ν) : Prop :=
  ∀ token s, ∃ moves, (rule.run token s).2 = s.after moves

theorem Rule.Walks.tokens_eq {rule : Rule ν} (walks : rule.Walks) {token : Token}
    {s moved : TokenStream} {result : Except Refusal ν} (ran : rule.run token s = (result, moved)) :
    moved.tokens = s.tokens := by
  obtain ⟨moves, there⟩ := walks token s
  rw [ran] at there
  exact (congrArg TokenStream.tokens there).trans (s.tokens_after moves)

/-- A rule that never does more than decline. -/
def Rule.AlwaysDeclines (rule : Rule ν) : Prop :=
  ∀ token s, ∃ message position moved,
    rule.run token s = (.error (.decline message position), moved)

/-- What a rule makes of a token when it is run alone: a node or a failure, and where it leaves the
cursor.  A rule that refuses the token or declines settles nothing. -/
def Rule.settle? (rule : Rule ν) (token : Token) (s : TokenStream) :
    Option (Except Error ν × TokenStream) :=
  if rule.accepts token then
    match rule.run token s with
    | (.ok node, moved) => some (.ok node, moved)
    | (.error (.fail message position), moved) =>
      some (.error (.refused rule.name (.fail message position)), moved)
    | (.error (.decline _ _), _) => none
  else none

theorem Rule.AlwaysDeclines.settle?_eq {rule : Rule ν} (declines : rule.AlwaysDeclines)
    (token : Token) (s : TokenStream) : rule.settle? token s = none := by
  obtain ⟨message, position, moved, ran⟩ := declines token s
  rw [Rule.settle?, ran]
  simp

/-- How the rules settle a token between them: the first in order that settles it does. -/
def settled (rules : List (Rule ν)) (token : Token) (s : TokenStream) :
    Except Error ν × TokenStream :=
  (rules.findSome? (·.settle? token s)).getD (.error (.noMatch token.literal token.span), s)

/-- The answer of a dispatch and where it leaves the cursor. -/
def Dispatch.outcome (d : Dispatch ν) : Except Error ν × TokenStream := (d.result, d.stream)

@[simp] theorem Dispatch.outcome_after (events : List Event) (d : Dispatch ν) :
    (d.after events).outcome = d.outcome := rfl

theorem settled_cons_none {rule : Rule ν} {rules : List (Rule ν)} {token : Token} {s : TokenStream}
    (nothing : rule.settle? token s = none) :
    settled (rule :: rules) token s = settled rules token s := by
  rw [settled, List.findSome?_cons, nothing, settled]

theorem settled_cons_some {rule : Rule ν} {rules : List (Rule ν)} {token : Token} {s : TokenStream}
    {outcome : Except Error ν × TokenStream} (settles : rule.settle? token s = some outcome) :
    settled (rule :: rules) token s = outcome := by
  rw [settled, List.findSome?_cons, settles, Option.getD_some]

/-- A dispatch ends as the first rule that settles the matter does from where it began: however far
a rule went before it declined, it kept the tokens, so restoring undoes it. -/
theorem dispatch_outcome {rules : List (Rule ν)} (walks : ∀ rule ∈ rules, rule.Walks)
    (token : Token) {s : TokenStream} (bound : s.index ≤ s.size) :
    (dispatch token rules s).outcome = settled rules token s := by
  induction rules with
  | nil => rfl
  | cons rule rest ih =>
    have later := ih fun rule member => walks rule (List.mem_cons_of_mem _ member)
    cases accepts : rule.accepts token with
    | false =>
      have nothing : rule.settle? token s = none := by simp [Rule.settle?, accepts]
      rw [dispatch_passed accepts, Dispatch.outcome_after, later, settled_cons_none nothing]
    | true =>
      match ran : rule.run token s with
      | (.ok node, moved) =>
        have settles : rule.settle? token s = some (.ok node, moved) := by
          simp [Rule.settle?, accepts, ran]
        rw [dispatch_made accepts ran, settled_cons_some settles]
        rfl
      | (.error (.fail message position), moved) =>
        have settles : rule.settle? token s =
            some (.error (.refused rule.name (.fail message position)), moved) := by
          simp [Rule.settle?, accepts, ran]
        rw [dispatch_failed accepts ran, settled_cons_some settles]
        rfl
      | (.error (.decline message position), moved) =>
        have nothing : rule.settle? token s = none := by simp [Rule.settle?, accepts, ran]
        have same := (walks rule List.mem_cons_self).tokens_eq ran
        rw [dispatch_declined accepts ran, TokenStream.restore_checkpoint same bound,
          Dispatch.outcome_after, Dispatch.outcome_after, later, settled_cons_none nothing]

/-- Rule lists whose dispatches have the same outcomes give the same result. -/
theorem proceed_congr {rules others : List (Rule ν)}
    (same : ∀ s : TokenStream, s.index ≤ s.size →
      (dispatch s.current rules s).outcome = (dispatch s.current others s).outcome)
    (budget : Nat) {call other : Call ν} (stream : call.stream = other.stream)
    (nodes : call.nodes = other.nodes) (bound : call.stream.index ≤ call.stream.size) :
    (proceed rules budget call).result = (proceed others budget other).result := by
  induction budget generalizing call other with
  | zero =>
    rw [proceed, proceed, ← stream]
    split
    · exact congrArg (fun nodes => Except.ok nodes.toList) nodes
    · rfl
  | succ budget ih =>
    have agree := same call.stream bound
    have results : (dispatch call.stream.current rules call.stream).result =
        (dispatch call.stream.current others call.stream).result := congrArg Prod.fst agree
    have streams : (dispatch call.stream.current rules call.stream).stream =
        (dispatch call.stream.current others call.stream).stream := congrArg Prod.snd agree
    rw [proceed, proceed, ← stream]
    split
    · exact congrArg (fun nodes => Except.ok nodes.toList) nodes
    · dsimp only
      rw [← results]
      split
      · refine ih ?_ ?_ (TokenStream.index_next_le _)
        · exact congrArg TokenStream.next streams
        · exact congrArg (Array.push · _) nodes
      · rfl

theorem settled_insert {idle : Rule ν} (declines : idle.AlwaysDeclines)
    (before after : List (Rule ν)) (token : Token) (s : TokenStream) :
    settled (before ++ idle :: after) token s = settled (before ++ after) token s := by
  have nothing := declines.settle?_eq token s
  simp only [settled, List.findSome?_append, List.findSome?_cons, nothing]

/-- What rules do before they decline is invisible.  A dispatch ends as the first rule that accepts
the token and does not decline ends when run alone from the same index, and putting in a rule that
always declines changes no parse. -/
theorem declining_invisible (rules : List (Rule ν)) (walks : ∀ rule ∈ rules, rule.Walks) :
    (∀ s : TokenStream, s.index < s.size →
      (dispatch s.current rules s).outcome = settled rules s.current s) ∧
    ∀ (before after : List (Rule ν)) (idle : Rule ν), rules = before ++ after → idle.Walks →
      idle.AlwaysDeclines → ∀ tokens,
        (parseTokens (before ++ idle :: after) tokens).result =
          (parseTokens rules tokens).result := by
  refine ⟨fun s inside => dispatch_outcome walks _ (Nat.le_of_lt inside), ?_⟩
  rintro before after idle rfl walksIdle declines tokens
  have walksAll : ∀ rule ∈ before ++ idle :: after, rule.Walks := by
    intro rule member
    rcases List.mem_append.mp member with old | rest
    · exact walks rule (List.mem_append_left _ old)
    · rcases List.mem_cons.mp rest with rfl | old
      · exact walksIdle
      · exact walks rule (List.mem_append_right _ old)
  refine proceed_congr (fun s bound => ?_) _ rfl rfl (Nat.zero_le _)
  rw [dispatch_outcome walksAll _ bound, dispatch_outcome walks _ bound, settled_insert declines]

/-- Runs past the end, returns to a checkpoint from elsewhere, and declines. -/
def rambler : Rule String where
  name := "Rambler"
  accepts _ := true
  run _ s := (s.after [.next, .next, .next, .restore ⟨7, .unknown⟩]).decline "not here"

/-- Backs up to before the token it was offered, and declines. -/
def retreater : Rule String where
  name := "Retreater"
  accepts _ := true
  run _ s := (s.after [.backup, .backup]).decline "not here either"

/-- Takes an identifier by its name. -/
def namer : Rule String where
  name := "Namer"
  accepts token := token.kind == .ident
  run token s := (.ok token.literal, s)

theorem rambler_walks : rambler.Walks := fun _ _ => ⟨_, rfl⟩

theorem retreater_walks : retreater.Walks := fun _ _ => ⟨_, rfl⟩

theorem namer_walks : namer.Walks := fun _ _ => ⟨[], rfl⟩

theorem retreater_alwaysDeclines : retreater.AlwaysDeclines := fun _ _ => ⟨_, _, _, rfl⟩

def twoNames : List Token :=
  [⟨.ident, ⟨1, 1, 0⟩, ⟨1, 2, 1⟩, "a"⟩, ⟨.ident, ⟨1, 3, 2⟩, ⟨1, 4, 3⟩, "b"⟩]

/-- Two identifiers behind two rules that wander off. -/
theorem declining_invisible_rambler :
    (∀ rule ∈ [rambler, namer], rule.Walks) ∧ retreater.Walks ∧ retreater.AlwaysDeclines ∧
    (dispatch (TokenStream.current ⟨twoNames.toArray, 1⟩) [rambler, namer]
      ⟨twoNames.toArray, 1⟩).outcome = (.ok "b", ⟨twoNames.toArray, 1⟩) ∧
    (parseTokens [rambler, retreater, namer] twoNames).result = .ok ["a", "b"] := by
  have walks : ∀ rule ∈ [rambler, namer], rule.Walks := by
    intro rule member
    rcases List.mem_cons.mp member with rfl | last
    · exact rambler_walks
    · rw [List.mem_singleton.mp last]
      exact namer_walks
  obtain ⟨alone, inserted⟩ := declining_invisible [rambler, namer] walks
  refine ⟨walks, retreater_walks, retreater_alwaysDeclines, ?_, ?_⟩
  · exact alone ⟨twoNames.toArray, 1⟩ (by decide)
  · have without : (parseTokens [rambler, namer] twoNames).result = .ok ["a", "b"] := rfl
    rw [← without]
    exact inserted [rambler] [namer] retreater rfl retreater_walks retreater_alwaysDeclines twoNames

end FirstMatch.Parsing
