import FirstMatch.Proofs.Parsing.Fallthrough

/-! Progress of a parse call.  If rules that succeed never leave the cursor before the token they
were offered, the step after each dispatch always moves on: a call ends after at most as many
dispatches as there are tokens, and its nodes share the tokens out between them. -/

namespace FirstMatch.Parsing

variable {ν : Type}

/-- A rule whose successes leave the cursor no earlier than they found it. -/
def Rule.GoesForward (rule : Rule ν) : Prop :=
  ∀ token s node moved, s.index < s.size → rule.run token s = (.ok node, moved) →
    s.index ≤ moved.index

theorem Rule.settle?_ok {rule : Rule ν} {token : Token} {s moved : TokenStream} {node : ν}
    (settles : rule.settle? token s = some (.ok node, moved)) :
    rule.run token s = (.ok node, moved) := by
  rw [Rule.settle?] at settles
  split at settles
  · split at settles
    · rename_i ran
      rw [ran]
      simp at settles
      rw [settles.1, settles.2]
    · simp at settles
    · cases settles
  · cases settles

/-- A call left to itself makes dispatches from the given places and ends with the given report. -/
inductive Run (rules : List (Rule ν)) : List TokenStream → Call ν → Report ν → Prop
  | finish {call : Call ν} (ended : call.stream.atEnd = true) : Run rules [] call call.succeed
  | fail {call : Call ν} {error : Error} (more : call.stream.atEnd = false)
      (failed : (dispatch call.stream.current rules call.stream).result = .error error) :
      Run rules [call.stream] call
        (Call.fail ⟨(dispatch call.stream.current rules call.stream).stream, call.nodes,
          call.log ++ (dispatch call.stream.current rules call.stream).log⟩ error)
  | next {call : Call ν} {node : ν} {starts : List TokenStream} {report : Report ν}
      (more : call.stream.atEnd = false)
      (made : (dispatch call.stream.current rules call.stream).result = .ok node)
      (later : Run rules starts
        ⟨(dispatch call.stream.current rules call.stream).stream.next, call.nodes.push node,
          call.log ++ (dispatch call.stream.current rules call.stream).log⟩ report) :
      Run rules (call.stream :: starts) call report

/-- A budget for the dispatches of a run is enough to follow it. -/
theorem Run.proceed_eq {rules : List (Rule ν)} {starts : List TokenStream} {call : Call ν}
    {report : Report ν} (run : Run rules starts call report) {budget : Nat}
    (enough : starts.length ≤ budget) : proceed rules budget call = report := by
  induction run generalizing budget with
  | finish ended =>
    unfold proceed
    rw [if_pos ended]
  | fail more failed =>
    obtain ⟨budget, rfl⟩ : ∃ n, budget = n + 1 := ⟨budget - 1, by simp at enough; omega⟩
    rw [proceed, if_neg (by simp [more])]
    simp only [failed]
  | next more made _ ih =>
    obtain ⟨budget, rfl⟩ : ∃ n, budget = n + 1 := ⟨budget - 1, by simp at enough; omega⟩
    rw [proceed, if_neg (by simp [more])]
    simp only [made]
    exact ih (by simpa using enough)

/-- After the tokens `before`, each node comes from a segment of the tokens that follow.  The node
is what the rules settle on the first token of its segment.  The segment ends with the token that
they leave the cursor on, or with the last token of all if they ran past the end. -/
inductive Segments (rules : List (Rule ν)) : List Token → List ν → List Token → Prop
  | done {before : List Token} : Segments rules before [] []
  | node {before others rest : List Token} {first : Token} {node : ν} {nodes : List ν}
      {moved : TokenStream}
      (won : settled rules first ⟨(before ++ first :: others ++ rest).toArray, before.length⟩ =
        (.ok node, moved))
      (ends : moved.index + 1 = (before ++ first :: others).length ∨
        moved.atEnd = true ∧ rest = [])
      (later : Segments rules (before ++ first :: others) nodes rest) :
      Segments rules before (node :: nodes) (first :: others ++ rest)

section Forward

variable {rules : List (Rule ν)} (walks : ∀ rule ∈ rules, rule.Walks)
  (forward : ∀ rule ∈ rules, rule.GoesForward)
include walks forward

/-- A dispatch that makes a node keeps the tokens and does not go back. -/
theorem dispatch_forward {token : Token} {s : TokenStream} {node : ν} (inside : s.index < s.size)
    (made : (dispatch token rules s).result = .ok node) :
    settled rules token s = (.ok node, (dispatch token rules s).stream) ∧
      (dispatch token rules s).stream.tokens = s.tokens ∧
      s.index ≤ (dispatch token rules s).stream.index := by
  have outcome := dispatch_outcome walks token (Nat.le_of_lt inside)
  rw [Dispatch.outcome, made] at outcome
  refine ⟨outcome.symm, ?_⟩
  cases found : rules.findSome? (·.settle? token s) with
  | none =>
    rw [settled, found, Option.getD_none] at outcome
    cases congrArg Prod.fst outcome
  | some settlement =>
    rw [settled, found, Option.getD_some] at outcome
    subst outcome
    obtain ⟨rule, member, settles⟩ := List.exists_of_findSome?_eq_some found
    have ran := Rule.settle?_ok settles
    exact ⟨(walks rule member).tokens_eq ran, forward rule member _ _ _ _ inside ran⟩

/-- The step after a dispatch that makes a node moves on. -/
theorem index_next_dispatch {token : Token} {s : TokenStream} {node : ν} (inside : s.index < s.size)
    (made : (dispatch token rules s).result = .ok node) :
    s.index < (dispatch token rules s).stream.next.index := by
  obtain ⟨-, same, onward⟩ := dispatch_forward walks forward inside made
  have sizes : (dispatch token rules s).stream.size = s.size := congrArg Array.size same
  rw [TokenStream.next, sizes]
  change s.index < min _ _
  omega

/-- A call comes to an end after at most one dispatch for each token ahead. -/
theorem exists_run (call : Call ν) :
    ∃ starts report, Run rules starts call report ∧
      starts.length ≤ call.stream.size - call.stream.index := by
  induction ahead : call.stream.size - call.stream.index using Nat.strongRecOn
    generalizing call with
  | ind left ih =>
    cases more : call.stream.atEnd with
    | true => exact ⟨[], _, .finish more, Nat.zero_le _⟩
    | false =>
      have inside : call.stream.index < call.stream.size := by
        simpa [TokenStream.atEnd] using more
      cases result : (dispatch call.stream.current rules call.stream).result with
      | error error => exact ⟨[_], _, .fail more result, by simp; omega⟩
      | ok node =>
        let d := dispatch call.stream.current rules call.stream
        let rest : Call ν := ⟨d.stream.next, call.nodes.push node, call.log ++ d.log⟩
        have onward := index_next_dispatch walks forward inside result
        have same := (dispatch_forward walks forward inside result).2.1
        have sizes : rest.stream.size = call.stream.size := congrArg Array.size same
        have less : rest.stream.size - rest.stream.index < left := by
          change call.stream.index < rest.stream.index at onward
          omega
        obtain ⟨starts, report, run, few⟩ := ih _ less rest rfl
        exact ⟨call.stream :: starts, report, .next more result run, by simp; omega⟩

/-- A dispatch that makes a node uses up a segment: the tokens from the one it was offered up to
where the step after it goes. -/
theorem exists_segment {before rest : List Token} {s : TokenStream} {node : ν}
    (place : s = ⟨(before ++ rest).toArray, before.length⟩) (more : s.atEnd = false)
    (made : (dispatch s.current rules s).result = .ok node) :
    ∃ first others later, rest = first :: others ++ later ∧
      settled rules first ⟨(before ++ first :: others ++ later).toArray, before.length⟩ =
        (.ok node, (dispatch s.current rules s).stream) ∧
      ((dispatch s.current rules s).stream.index + 1 = (before ++ first :: others).length ∨
        (dispatch s.current rules s).stream.atEnd = true ∧ later = []) ∧
      (dispatch s.current rules s).stream.next =
        ⟨(before ++ first :: others ++ later).toArray, (before ++ first :: others).length⟩ := by
  have inside : s.index < s.size := by simpa [TokenStream.atEnd] using more
  obtain ⟨won, same, -⟩ := dispatch_forward walks forward inside made
  have onward := index_next_dispatch walks forward inside made
  generalize (dispatch s.current rules s).stream = moved at won same onward ⊢
  have started : s.index = before.length := by rw [place]
  have tokens : moved.tokens = (before ++ rest).toArray := by rw [same, place]
  have size : moved.size = before.length + rest.length := by simp [TokenStream.size, tokens]
  have stop : moved.next.index = min (moved.index + 1) moved.size := rfl
  obtain ⟨first, after, rfl⟩ : ∃ first after, rest = first :: after := by
    refine List.exists_cons_of_ne_nil ?_
    rintro rfl
    simp [place, TokenStream.size] at inside
  have current : s.current = first := by simp [place, TokenStream.current]
  obtain ⟨others, later, rfl, reach⟩ : ∃ others later, after = others ++ later ∧
      (before ++ first :: others).length = moved.next.index := by
    let n := moved.next.index - (before.length + 1)
    refine ⟨after.take n, after.drop n, (List.take_append_drop n after).symm, ?_⟩
    simp at size ⊢
    omega
  have all : before ++ first :: (others ++ later) = before ++ first :: others ++ later := by simp
  refine ⟨first, others, later, rfl, ?_, ?_, ?_⟩
  · rw [← all, ← place, ← current]
    exact won
  · rcases Nat.lt_or_ge moved.index moved.size with within | beyond
    · exact .inl (by omega)
    · refine .inr ⟨by simpa [TokenStream.atEnd] using beyond, ?_⟩
      simp at size reach
      exact List.length_eq_zero_iff.mp (by omega)
  · rw [reach, ← all, ← tokens]
    rfl

/-- From wherever a call has got to, the nodes still to come share out the tokens still to come. -/
theorem Run.segments {starts : List TokenStream} {call : Call ν} {report : Report ν}
    (run : Run rules starts call report) {before rest : List Token}
    (place : call.stream = ⟨(before ++ rest).toArray, before.length⟩) {all : List ν}
    (ok : report.result = .ok all) :
    ∃ nodes, all = call.nodes.toList ++ nodes ∧ Segments rules before nodes rest := by
  induction run generalizing before rest with
  | @finish call ended =>
    obtain rfl := Except.ok.inj ok
    have nothing : rest.length = 0 := by
      have size : call.stream.size = before.length + rest.length := by
        simp [place, TokenStream.size]
      have index : call.stream.index = before.length := by rw [place]
      have past : call.stream.size ≤ call.stream.index := by simpa [TokenStream.atEnd] using ended
      omega
    rw [List.length_eq_zero_iff.mp nothing]
    exact ⟨[], by simp, .done⟩
  | fail => cases ok
  | @next call node starts report more made _ ih =>
    obtain ⟨first, others, later, rfl, won, ends, there⟩ :=
      exists_segment walks forward place more made
    obtain ⟨nodes, rfl, segments⟩ := ih there ok
    exact ⟨node :: nodes, by simp, .node won ends segments⟩

end Forward

/-- With rules that never go back when they succeed, a call ends after at most as many dispatches as
there are tokens, and its nodes share out the tokens: consecutive segments, none of them empty, each
made into a node from its first token on. -/
theorem parseTokens_partition (rules : List (Rule ν)) (walks : ∀ rule ∈ rules, rule.Walks)
    (forward : ∀ rule ∈ rules, rule.GoesForward) (tokens : List Token) :
    (∃ starts, Run rules starts { stream := .ofList tokens } (parseTokens rules tokens) ∧
      starts.length ≤ tokens.length) ∧
    ∀ nodes, (parseTokens rules tokens).result = .ok nodes → Segments rules [] nodes tokens := by
  obtain ⟨starts, report, run, few⟩ := exists_run walks forward { stream := .ofList tokens }
  have enough : starts.length ≤ tokens.length := by
    simpa [TokenStream.ofList, TokenStream.size] using few
  have parsed : parseTokens rules tokens = report := run.proceed_eq enough
  rw [parsed]
  refine ⟨⟨starts, run, enough⟩, fun nodes ok => ?_⟩
  have place : TokenStream.ofList tokens = ⟨([] ++ tokens).toArray, 0⟩ := rfl
  obtain ⟨_, rfl, segments⟩ := Run.segments walks forward run place ok
  exact segments

/-- Takes a token and the one after it, if there is one. -/
def coupler : Rule String where
  name := "Coupler"
  accepts _ := true
  run token s := (.ok (token.literal ++ s.next.current.literal), s.next)

theorem coupler_walks : coupler.Walks := fun _ _ => ⟨[.next], rfl⟩

theorem rambler_goesForward : rambler.GoesForward := fun _ _ _ _ _ ran => nomatch ran

theorem coupler_goesForward : coupler.GoesForward := by
  rintro token s node moved inside ran
  obtain ⟨-, rfl⟩ := Prod.mk.inj ran
  exact Nat.le_min.mpr ⟨Nat.le_succ _, Nat.le_of_lt inside⟩

def threeNames : List Token := twoNames ++ [⟨.ident, ⟨1, 5, 4⟩, ⟨1, 6, 5⟩, "c"⟩]

/-- Three tokens taken two at a time, behind a rule that wanders off: the second time the end comes
first. -/
theorem parseTokens_partition_coupler :
    (∀ rule ∈ [rambler, coupler], rule.Walks) ∧ (∀ rule ∈ [rambler, coupler], rule.GoesForward) ∧
    (∃ starts, Run [rambler, coupler] starts { stream := .ofList threeNames }
      (parseTokens [rambler, coupler] threeNames) ∧ starts.length ≤ 3) ∧
    (parseTokens [rambler, coupler] threeNames).result = .ok ["ab", "c"] ∧
    Segments [rambler, coupler] [] ["ab", "c"] threeNames := by
  have walks : ∀ rule ∈ [rambler, coupler], rule.Walks := by
    intro rule member
    rcases List.mem_cons.mp member with rfl | last
    · exact rambler_walks
    · rw [List.mem_singleton.mp last]
      exact coupler_walks
  have forward : ∀ rule ∈ [rambler, coupler], rule.GoesForward := by
    intro rule member
    rcases List.mem_cons.mp member with rfl | last
    · exact rambler_goesForward
    · rw [List.mem_singleton.mp last]
      exact coupler_goesForward
  have parsed : (parseTokens [rambler, coupler] threeNames).result = .ok ["ab", "c"] := rfl
  obtain ⟨ends, shared⟩ := parseTokens_partition [rambler, coupler] walks forward threeNames
  exact ⟨walks, forward, ends, parsed, shared _ parsed⟩

end FirstMatch.Parsing
