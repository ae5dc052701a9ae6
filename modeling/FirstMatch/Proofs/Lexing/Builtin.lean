import FirstMatch.Proofs.Lexing.Bracket

/-! What the built-in ways to make a token have in common.  Each steps forward from the character
it was offered and starts its token there; the one that declines does so after a single step, so
undoing that step finds the same character again. -/

namespace FirstMatch.Lexing

variable {σ : Type}

theorem Context.next_move_skip (ctx : Context σ) (n : Nat) :
    (ctx.move (·.skip n)).next.2 = ctx.move (·.skip (n + 1)) := by
  simp only [move, next, Cursor.skip_succ]

/-- Some steps from `ctx`, then a failure, or a token that began where the steps did; or one step
and a decline. -/
inductive Direct (ctx : Context σ) : Outcome σ → Prop
  | fail (n : Nat) (message : String) : Direct ctx ((ctx.move (·.skip n)).fail message)
  | decline (message : String) : Direct ctx ((ctx.move (·.skip 1)).decline message)
  | accept (n : Nat) (kind : Kind) :
      Direct ctx ((ctx.move (·.skip n)).accept (ctx.startToken kind))

theorem Direct.exists_skip {ctx : Context σ} {outcome : Outcome σ} (direct : Direct ctx outcome) :
    ∃ n, outcome.2 = ctx.move (·.skip n) := by
  cases direct with
  | fail n => exact ⟨n, rfl⟩
  | decline => exact ⟨1, rfl⟩
  | accept n => exact ⟨n, rfl⟩

namespace Builtin

variable (ch : Char) (ctx : Context σ)

theorem identifierToken_direct : Direct ctx (identifierToken ch ctx) := by
  unfold identifierToken
  dsimp only
  split
  · exact .decline _
  · split
    · obtain ⟨n, steps⟩ := ctx.cursor.stepWhile_cursor Text.isLetterOrNumber
      rw [Context.move, steps]
      exact .accept n .ident
    · exact .accept 0 .ident

theorem charToken_direct : Direct ctx (charToken ctx) := by
  unfold charToken
  split
  · rename_i moved stuck
    have one : moved = ctx.move (·.skip 1) := (congrArg Prod.snd stuck).symm
    rw [one]
    exact .fail 1 _
  · rename_i ch moved stepped
    have one : moved = ctx.move (·.skip 1) := (congrArg Prod.snd stepped).symm
    subst one
    split
    · exact .fail 1 _
    · split
      · rename_i moved stuck
        have two : moved = ctx.move (·.skip 2) := (congrArg Prod.snd stuck).symm
        rw [two]
        exact .fail 2 _
      · rename_i ch moved stepped
        have two : moved = ctx.move (·.skip 2) := (congrArg Prod.snd stepped).symm
        subst two
        split
        · exact .accept 3 .char
        · exact .fail 2 _

theorem stringToken_direct : Direct ctx (stringToken ctx) := by
  obtain ⟨n, steps⟩ := ctx.cursor.scan_cursor stringStep false
  unfold stringToken
  dsimp only
  rw [steps]
  split
  · exact .fail n _
  · split
    · exact .fail n _
    · have more : Direct ctx _ := .accept (n + 1) .string
      rw [← ctx.next_move_skip n] at more
      exact more

theorem rawStringToken_direct : Direct ctx (rawStringToken ctx) := by
  obtain ⟨n, steps⟩ :=
    ctx.cursor.scan_cursor (fun _ ch => if Text.isBackQuote ch then none else some ()) ()
  unfold rawStringToken
  dsimp only
  rw [steps]
  split
  · exact .fail n _
  · have more : Direct ctx _ := .accept (n + 1) .string
    rw [← ctx.next_move_skip n] at more
    exact more

theorem numberToken_direct : Direct ctx (numberToken ch ctx) := by
  obtain ⟨n, steps⟩ := ctx.cursor.scan_cursor numberStep .number
  unfold numberToken
  dsimp only
  split
  · rw [steps]
    exact .accept n _
  · exact .accept 0 .number

theorem operatorToken_direct : Direct ctx (operatorToken ch ctx) := by
  unfold operatorToken
  split
  · exact .fail 0 _
  · exact .accept _ _

theorem whitespaceToken_direct : Direct ctx (whitespaceToken ch ctx) := by
  unfold whitespaceToken
  dsimp only
  split
  · obtain ⟨n, steps⟩ := ctx.cursor.stepWhile_cursor Text.isWhitespace
    rw [Context.move, steps]
    exact .accept n .whitespace
  · exact .accept 0 .whitespace

theorem run_direct (b : Builtin) : Direct ctx (b.run ch ctx) := by
  cases b with
  | identifier => exact identifierToken_direct ch ctx
  | charLiteral => exact charToken_direct ctx
  | string => exact stringToken_direct ctx
  | rawString => exact rawStringToken_direct ctx
  | number => exact numberToken_direct ch ctx
  | operator => exact operatorToken_direct ch ctx
  | whitespace => exact whitespaceToken_direct ch ctx

end Builtin

end FirstMatch.Lexing
