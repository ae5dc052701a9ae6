import FirstMatch.Parsing.Call

/-! Parse calls one step at a time.  `TokenStream.rest` shows a stream as the tokens from its cursor
on, and every branch of a dispatch and of the main loop has a rewriting lemma. -/

namespace FirstMatch.Parsing

variable {ν : Type}

namespace TokenStream

/-- The tokens from the cursor on. -/
def rest (s : TokenStream) : List Token := s.tokens.toList.drop s.index

@[simp] theorem rest_ofList (tokens : List Token) : (ofList tokens).rest = tokens := by
  simp [rest, ofList]

@[simp] theorem rest_next (s : TokenStream) : s.next.rest = s.rest.tail := by
  rw [rest, rest, List.tail_drop]
  by_cases inside : s.index < s.size
  · rw [next, Nat.min_eq_left inside]
  · have ended : s.tokens.toList.length ≤ s.next.index := by
      rw [next, Nat.min_eq_right (by omega)]
      exact Nat.le_of_eq Array.length_toList
    have beyond : s.tokens.toList.length ≤ s.index + 1 := by
      rw [Array.length_toList]
      exact Nat.le_succ_of_le (Nat.not_lt.mp inside)
    rw [List.drop_eq_nil_of_le beyond]
    exact List.drop_eq_nil_of_le ended

theorem current_eq (s : TokenStream) : s.current = s.rest.headD .absent := by
  rw [current, rest, List.headD_eq_head?_getD, List.head?_drop, Array.getElem?_toList,
    Array.getD_eq_getD_getElem?]

theorem atEnd_iff (s : TokenStream) : s.atEnd = true ↔ s.rest = [] := by
  rw [atEnd, rest, List.drop_eq_nil_iff, Array.length_toList]
  exact decide_eq_true_iff

end TokenStream

/-! ### One dispatch -/

section Branches

variable {rule : Rule ν} {rules : List (Rule ν)} {token : Token} {s moved : TokenStream}

theorem dispatch_passed (refuses : rule.accepts token = false) :
    dispatch token (rule :: rules) s =
      (dispatch token rules s).after [.attempting rule.name token] := by
  rw [dispatch, if_neg (by simp [refuses])]

theorem dispatch_made {node : ν} (accepts : rule.accepts token = true)
    (ran : rule.run token s = (.ok node, moved)) :
    dispatch token (rule :: rules) s =
      Dispatch.after [.attempting rule.name token, .running rule.name] ⟨.ok node, moved, []⟩ := by
  rw [dispatch, if_pos accepts, ran]

theorem dispatch_failed {message : String} {position : Position}
    (accepts : rule.accepts token = true)
    (ran : rule.run token s = (.error (.fail message position), moved)) :
    dispatch token (rule :: rules) s =
      Dispatch.after [.attempting rule.name token, .running rule.name]
        ⟨.error (.refused rule.name (.fail message position)), moved, []⟩ := by
  rw [dispatch, if_pos accepts, ran]

theorem dispatch_declined {message : String} {position : Position}
    (accepts : rule.accepts token = true)
    (ran : rule.run token s = (.error (.decline message position), moved)) :
    dispatch token (rule :: rules) s =
      Dispatch.after [.attempting rule.name token, .running rule.name]
        ((dispatch token rules (moved.restore s.checkpoint)).after
          [.declined rule.name message s.checkpoint.position]) := by
  rw [dispatch, if_pos accepts, ran]

end Branches

/-! ### The main loop -/

section Loop

variable {rules : List (Rule ν)} {budget : Nat} {call : Call ν} {first : Token}
  {later : List Token}

theorem proceed_done (ended : call.stream.rest = []) :
    proceed rules budget call = call.succeed := by
  unfold proceed
  rw [if_pos (call.stream.atEnd_iff.mpr ended)]

variable (more : call.stream.rest = first :: later)
include more

theorem proceed_made {node : ν}
    (made : (dispatch first rules call.stream).result = .ok node) :
    proceed rules (budget + 1) call =
      proceed rules budget ⟨(dispatch first rules call.stream).stream.next, call.nodes.push node,
        call.log ++ (dispatch first rules call.stream).log⟩ := by
  have current : call.stream.current = first := by rw [call.stream.current_eq, more]; rfl
  rw [proceed, if_neg (by simp [call.stream.atEnd_iff, more]), current]
  simp only [made]

theorem proceed_failed {error : Error}
    (failed : (dispatch first rules call.stream).result = .error error) :
    (proceed rules (budget + 1) call).result = .error error := by
  have current : call.stream.current = first := by rw [call.stream.current_eq, more]; rfl
  rw [proceed, if_neg (by simp [call.stream.atEnd_iff, more]), current]
  simp only [failed]
  rfl

end Loop

/-! ### Lexing before parsing -/

theorem Parser.parse_ok_iff {σ : Type} {p : Parser ν σ} {memory : σ} {input : String}
    {nodes : List ν} :
    (p.parse memory input).result = .ok nodes ↔
      ∃ tokens, (p.lexer.lex memory input).result = .ok tokens ∧
        (parseTokens p.rules tokens).result = .ok nodes := by
  rw [Parser.parse]
  cases lexed : (p.lexer.lex memory input).result with
  | error error => simp
  | ok tokens => simp

end FirstMatch.Parsing
