import FirstMatch.Proofs.Lexing.Lossless
import FirstMatch.Proofs.Source.Shadow

/-! Cancellation of a lex call.  A call that is going to be cancelled shadows one that is left to
itself, and what a built-in rule makes of a step that was refused is never looked at: the flag is
checked before the outcome.  The gap between tokens is another matter.  A call cancelled there goes
on to offer the whitespace that it could not skip. -/

namespace FirstMatch.Lexing

open Text

variable {σ : Type}

namespace Context

variable {text : List Char} {ctx other : Context σ}

/-- The cursor of `other` shadows that of `ctx`, and all else is the same. -/
structure Shadows (text : List Char) (ctx other : Context σ) : Prop where
  cursor : ctx.cursor.Shadows text other.cursor
  symbols : other.symbols = ctx.symbols
  memory : other.memory = ctx.memory

/-- `other` has been cancelled, or else it still shadows `ctx`. -/
def Follows (text : List Char) (ctx other : Context σ) : Prop :=
  other.cursor.Stopped ∨ ctx.Shadows text other

theorem Shadows.startToken (h : ctx.Shadows text other) (kind : Kind) :
    other.startToken kind = ctx.startToken kind := by
  rw [Context.startToken, position, h.cursor.position, Context.startToken, position]

theorem Shadows.endToken (h : ctx.Shadows text other) (token : Token) :
    other.endToken token = ctx.endToken token := by
  simp only [Context.endToken, Context.position, Cursor.sliceFrom, Cursor.position, h.cursor.here,
    h.symbols]

/-- Moving the cursor and nothing else. -/
theorem Shadows.follows (h : ctx.Shadows text other) {moved there : Cursor}
    (kept : there.Stopped ∨ moved.Shadows text there) :
    Follows text { ctx with cursor := moved } { other with cursor := there } := by
  rcases kept with stopped | shadows
  · exact .inl stopped
  · exact .inr ⟨shadows, h.symbols, h.memory⟩

theorem Shadows.next (h : ctx.Shadows text other) :
    other.next.1 = none ∧ other.next.2.cursor.Stopped ∨
      other.next.1 = ctx.next.1 ∧ ctx.next.2.Shadows text other.next.2 := by
  rcases h.cursor.next with ⟨nothing, -, stopped⟩ | ⟨same, shadows⟩
  · exact .inl ⟨nothing, stopped⟩
  · exact .inr ⟨same, shadows, h.symbols, h.memory⟩

theorem Shadows.next_follows (h : ctx.Shadows text other) :
    ctx.next.2.Follows text other.next.2 := by
  rcases h.next with ⟨-, stopped⟩ | ⟨-, shadows⟩
  · exact .inl stopped
  · exact .inr shadows

theorem Shadows.undo (h : ctx.Shadows text other) :
    other.undo.1 = ctx.undo.1 ∧ ctx.undo.2.Shadows text other.undo.2 := by
  obtain ⟨same, shadows⟩ := h.cursor.undo
  exact ⟨same, shadows, h.symbols, h.memory⟩

theorem Shadows.look (h : ctx.Shadows text other) :
    other.look.1 = true ∨
      other.look.1 = false ∧ ctx.look = (false, ctx) ∧ ctx.Shadows text other.look.2 := by
  rcases h.cursor.look with ⟨looked, -⟩ | ⟨looked, quiet, shadows⟩
  · exact .inl looked
  · refine .inr ⟨looked, ?_, shadows, h.symbols, h.memory⟩
    simp [Context.look, quiet]

theorem look_stopped (stopped : ctx.cursor.Stopped) : ctx.look = (true, ctx) := by
  simp [look, stopped.look]

end Context

/-- The outcome `other` was cancelled on the way, or it is like `out`. -/
def Agrees (text : List Char) (out other : Outcome σ) : Prop :=
  other.2.cursor.Stopped ∨ other.1 = out.1 ∧ out.2.Shadows text other.2

section Outcomes

variable {text : List Char} {ctx other : Context σ}

/-- Once the flag has been found clear, the outcomes are alike. -/
theorem Agrees.of_look {out other : Outcome σ} (agrees : Agrees text out other)
    (clear : other.2.look.1 = false) :
    other.1 = out.1 ∧ out.2.look = (false, out.2) ∧ out.2.Shadows text other.2.look.2 := by
  rcases agrees with stopped | ⟨same, shadows⟩
  · rw [Context.look_stopped stopped] at clear
    cases clear
  · rcases shadows.look with looked | ⟨-, quiet, shadows⟩
    · rw [clear] at looked
      cases looked
    · exact ⟨same, quiet, shadows⟩

theorem Context.Follows.accept (h : ctx.Follows text other) (token : Token) :
    Agrees text (ctx.accept token) (other.accept token) := by
  rcases h with stopped | shadows
  · exact .inl stopped
  · exact .inr ⟨congrArg Except.ok (shadows.endToken token), shadows⟩

theorem Context.Follows.fail (h : ctx.Follows text other) (message : String) :
    Agrees text (ctx.fail message) (other.fail message) := by
  rcases h with stopped | shadows
  · exact .inl stopped
  · have same := congrArg (Refusal.fail message) shadows.cursor.position
    exact .inr ⟨congrArg Except.error same, shadows⟩

theorem Context.Follows.decline (h : ctx.Follows text other) (message : String) :
    Agrees text (ctx.decline message) (other.decline message) := by
  rcases h with stopped | shadows
  · exact .inl stopped
  · have same := congrArg (Refusal.decline message) shadows.cursor.position
    exact .inr ⟨congrArg Except.error same, shadows⟩

/-- A step that fails if there is nothing to step onto.  Cancelling it makes it fail, too. -/
theorem Context.Shadows.next_or_fail (h : ctx.Shadows text other) (message : String)
    (rest : Char → Context σ → Outcome σ)
    (agrees : ∀ ch ctx other, ctx.Shadows text other → Agrees text (rest ch ctx) (rest ch other)) :
    Agrees text
      (match ctx.next with
        | (none, ctx) => ctx.fail message
        | (some ch, ctx) => rest ch ctx)
      (match other.next with
        | (none, ctx) => ctx.fail message
        | (some ch, ctx) => rest ch ctx) := by
  have stepped := h.next
  obtain ⟨found, moved, next⟩ : ∃ found moved, other.next = (found, moved) := ⟨_, _, rfl⟩
  obtain ⟨_, plain, step⟩ : ∃ found plain, ctx.next = (found, plain) := ⟨_, _, rfl⟩
  rw [next, step] at stepped
  rw [next, step]
  rcases stepped with ⟨nothing, stopped⟩ | ⟨same, shadows⟩
  · obtain rfl : found = none := nothing
    exact .inl stopped
  · obtain rfl : found = _ := same
    cases found with
    | none => exact Context.Follows.fail (.inr shadows) message
    | some ch => exact agrees ch _ _ shadows

namespace Builtin

variable (ch : Char) (h : ctx.Shadows text other)
include h

theorem identifierToken_agrees :
    Agrees text (identifierToken ch ctx) (identifierToken ch other) := by
  unfold identifierToken
  dsimp only
  rw [h.startToken]
  split
  · exact h.next_follows.decline _
  · split
    · exact (h.follows (h.cursor.stepWhile isLetterOrNumber)).accept _
    · exact Context.Follows.accept (.inr h) _

theorem whitespaceToken_agrees :
    Agrees text (whitespaceToken ch ctx) (whitespaceToken ch other) := by
  unfold whitespaceToken
  dsimp only
  rw [h.startToken]
  split
  · exact (h.follows (h.cursor.stepWhile isWhitespace)).accept _
  · exact Context.Follows.accept (.inr h) _

theorem operatorToken_agrees :
    Agrees text (operatorToken ch ctx) (operatorToken ch other) := by
  unfold operatorToken
  rw [h.symbols, h.cursor.here]
  split
  · exact Context.Follows.fail (.inr h) _
  · rw [h.startToken]
    exact (h.follows (h.cursor.skip _)).accept _

theorem numberToken_agrees : Agrees text (numberToken ch ctx) (numberToken ch other) := by
  unfold numberToken
  dsimp only
  rw [h.startToken]
  split
  · cases h.cursor.scan numberStep .number with
    | cut stopped => exact .inl stopped
    | through state _ cursor =>
      rw [state]
      exact (h.follows (.inr cursor)).accept _
  · exact Context.Follows.accept (.inr h) _

theorem stringToken_agrees : Agrees text (stringToken ctx) (stringToken other) := by
  unfold stringToken
  dsimp only
  rw [h.startToken]
  cases h.cursor.scan stringStep false with
  | cut stopped stopper =>
    rw [stopper]
    exact .inl stopped
  | through _ stopper cursor =>
    have there : Context.Shadows text
        { ctx with cursor := (ctx.cursor.scan stringStep false).cursor }
        { other with cursor := (other.cursor.scan stringStep false).cursor } :=
      ⟨cursor, h.symbols, h.memory⟩
    rw [stopper]
    split
    · exact Context.Follows.fail (.inr there) _
    · split
      · exact Context.Follows.fail (.inr there) _
      · exact there.next_follows.accept _

theorem rawStringToken_agrees : Agrees text (rawStringToken ctx) (rawStringToken other) := by
  unfold rawStringToken
  dsimp only
  rw [h.startToken]
  cases h.cursor.scan (fun _ ch => if isBackQuote ch then none else some ()) () with
  | cut stopped stopper =>
    rw [stopper]
    exact .inl stopped
  | through _ stopper cursor =>
    rw [stopper]
    split
    · exact (h.follows (.inr cursor)).fail _
    · have there : Context.Shadows text { ctx with cursor := _ } { other with cursor := _ } :=
        ⟨cursor, h.symbols, h.memory⟩
      exact there.next_follows.accept _

theorem charToken_agrees : Agrees text (charToken ctx) (charToken other) := by
  unfold charToken
  dsimp only
  rw [h.startToken]
  refine h.next_or_fail _ _ fun ch inner cut there => ?_
  split
  · exact Context.Follows.fail (.inr there) _
  · refine there.next_or_fail _ _ fun ch last cutLast closing => ?_
    split
    · exact closing.next_follows.accept _
    · exact Context.Follows.fail (.inr closing) _

theorem run_agrees (b : Builtin) : Agrees text (b.run ch ctx) (b.run ch other) := by
  cases b with
  | identifier => exact identifierToken_agrees ch h
  | charLiteral => exact charToken_agrees h
  | string => exact stringToken_agrees h
  | rawString => exact rawStringToken_agrees h
  | number => exact numberToken_agrees ch h
  | operator => exact operatorToken_agrees ch h
  | whitespace => exact whitespaceToken_agrees ch h

end Builtin

end Outcomes

section Dispatches

variable {text : List Char} {watch : Watch} {rules : List (Rule σ)}
  (builtin : ∀ rule ∈ rules, rule.IsBuiltin) {ctx other : Context σ}
include builtin

/-- A dispatch that begins cancelled gives up after the first rule that it runs, which cannot
move. -/
theorem dispatch_stopped (stopped : other.cursor.Stopped) (ch : Char) :
    (∃ p, (dispatch watch rules ch other).result = .error (.loop p)) ∨
      (∀ rule ∈ rules, rule.accepts ch = false) ∧
        (dispatch watch rules ch other).result = .error (.noMatch ch other.position) := by
  induction rules with
  | nil => exact .inr ⟨by simp, rfl⟩
  | cons rule rest ih =>
    cases accepts : rule.accepts ch with
    | false =>
      rw [dispatch_passed accepts, Dispatch.result_after]
      rcases ih fun rule member => builtin rule (List.mem_cons_of_mem _ member) with
        loop | ⟨refuse, unmatched⟩
      · exact .inl loop
      · exact .inr ⟨List.forall_mem_cons.mpr ⟨accepts, refuse⟩, unmatched⟩
    | true =>
      obtain ⟨b, name, matcher, rfl⟩ := builtin rule List.mem_cons_self
      obtain ⟨n, moved⟩ := (b.run_direct ch other).exists_skip
      have stays : (b.run ch other).2.cursor.Stopped := by
        rw [moved, Context.move, stopped.skip]
        exact stopped
      have looked : (b.run ch other).2.look.1 = true := by rw [Context.look_stopped stays]
      rw [dispatch_cancelled accepts rfl looked]
      exact .inl ⟨_, rfl⟩

/-- A dispatch that is cancelled on the way gives up; one that is not ends as the one it shadows.
With the flag still clear after a rule, no step of the rule has been refused. -/
theorem dispatch_shadows (h : ctx.Shadows text other) (ch : Char) :
    (∃ p, (dispatch watch rules ch other).result = .error (.loop p)) ∨
      (dispatch watch rules ch other).result = (dispatch watch rules ch ctx).result ∧
        (dispatch watch rules ch ctx).context.Shadows text
          (dispatch watch rules ch other).context := by
  induction rules generalizing ch ctx other with
  | nil =>
    refine .inr ⟨?_, h⟩
    exact congrArg (fun p => Except.error (Error.noMatch ch p)) h.cursor.position
  | cons rule rest ih =>
    have later := @ih fun rule member => builtin rule (List.mem_cons_of_mem _ member)
    cases accepts : rule.accepts ch with
    | false =>
      rw [dispatch_passed accepts, dispatch_passed accepts]
      exact later h ch
    | true =>
      obtain ⟨b, name, matcher, rfl⟩ := builtin rule List.mem_cons_self
      have agrees := b.run_agrees ch h
      obtain ⟨_, out, ran⟩ : ∃ result out, b.run ch ctx = (result, out) := ⟨_, _, rfl⟩
      obtain ⟨result, cut, ranCut⟩ : ∃ result cut, b.run ch other = (result, cut) := ⟨_, _, rfl⟩
      rw [ran, ranCut] at agrees
      cases looked : cut.look.1 with
      | true =>
        rw [dispatch_cancelled accepts ranCut looked]
        exact .inl ⟨_, rfl⟩
      | false =>
        obtain ⟨same, quiet, shadows⟩ := agrees.of_look looked
        obtain rfl : result = _ := same
        change out.look = (false, out) at quiet
        change out.Shadows text cut.look.2 at shadows
        have clear : out.look.1 = false := by rw [quiet]
        match result with
        | .ok token =>
          rw [dispatch_made accepts ranCut looked, dispatch_made accepts ran clear, quiet]
          refine .inr ⟨?_, shadows⟩
          exact congrArg (checkToken name · token) h.cursor.position
        | .error (.fail message position) =>
          rw [dispatch_failed accepts ranCut looked, dispatch_failed accepts ran clear, quiet]
          exact .inr ⟨rfl, shadows⟩
        | .error (.decline message position) =>
          obtain ⟨found, back⟩ := shadows.undo
          have there : out.look.2 = out := by rw [quiet]
          rw [← there] at found back
          obtain ⟨_, behind, undone⟩ : ∃ found behind, out.look.2.undo = (found, behind) :=
            ⟨_, _, rfl⟩
          obtain ⟨char, behindCut, undoneCut⟩ : ∃ found behind, cut.look.2.undo = (found, behind) :=
            ⟨_, _, rfl⟩
          rw [undone, undoneCut] at found back
          obtain rfl : char = _ := found
          cases char with
          | none =>
            rw [dispatch_declined_end accepts ranCut looked undoneCut,
              dispatch_declined_end accepts ran clear undone]
            refine .inr ⟨?_, back⟩
            exact congrArg (fun p => Except.error (Error.noMatch ch p)) back.cursor.position
          | some char =>
            rw [dispatch_declined accepts ranCut looked undoneCut,
              dispatch_declined accepts ran clear undone]
            exact later back char

end Dispatches

/-! ### The main loop -/

/-- How the turn of a shadow compares with the turn that it shadows.  It may have been cut off in a
gap, on whitespace that is to be skipped. -/
inductive TurnShadows (cfg : Config σ) (text : List Char) : Turn σ → Turn σ → Prop
  | finish {ctx other} : TurnShadows cfg text (.finish ctx) (.finish other)
  | giveUp {turn other} : TurnShadows cfg text turn (.giveUp other)
  | offer {ch ctx other} (shadows : Context.Shadows text ctx other) :
      TurnShadows cfg text (.offer ch ctx) (.offer ch other)
  | cut {turn ch} {other : Context σ} (skips : cfg.skipsWhitespace = true)
      (stopped : other.cursor.Stopped) (within : other.cursor.Within text)
      (on : other.current = some ch) (blank : isWhitespace ch = true) :
      TurnShadows cfg text turn (.offer ch other)

theorem skipGap_shadows (cfg : Config σ) {text : List Char} {ctx other : Context σ}
    (h : ctx.Shadows text other) :
    (cfg.skipsWhitespace = true ∧ (cfg.skipGap other).cursor.Stopped ∧
        (cfg.skipGap other).cursor.Within text ∧
        (cfg.skipGap other).current.any isWhitespace = true) ∨
      (cfg.skipGap ctx).Shadows text (cfg.skipGap other) := by
  rw [Config.skipGap, Config.skipGap]
  split
  · rename_i skips
    rcases h.cursor.skipWhile isWhitespace with ⟨stopped, blank⟩ | shadows
    · obtain ⟨n, steps⟩ := other.cursor.skipWhile_cursor isWhitespace
      refine .inl ⟨skips, stopped, ?_, blank⟩
      rw [Context.move, steps]
      exact h.cursor.within.skip n
    · exact .inr ⟨shadows, h.symbols, h.memory⟩
  · exact .inr h

theorem turn_shadows (cfg : Config σ) {text : List Char} {ctx other : Context σ}
    (h : ctx.Shadows text other) : TurnShadows cfg text (cfg.turn ctx) (cfg.turn other) := by
  have ends : other.atEnd = ctx.atEnd := h.cursor.atEnd
  rw [Config.turn, Config.turn, ends]
  split
  · exact .finish
  · dsimp only
    rcases h.look with looked | ⟨looked, quiet, shadows⟩
    · rw [if_pos looked]
      exact .giveUp
    · rw [looked, quiet]
      rcases skipGap_shadows cfg shadows with ⟨skips, stopped, within, blank⟩ | there
      · cases on : (cfg.skipGap other.look.2).current with
        | none =>
          rw [on] at blank
          cases blank
        | some ch =>
          rw [on] at blank
          exact .cut skips stopped within on blank
      · have current : (cfg.skipGap other.look.2).current = (cfg.skipGap ctx).current :=
          there.cursor.current
        simp only [Bool.false_eq_true, if_false, current]
        split
        · exact .finish
        · exact .offer there

/-- What becomes of a call that would end with `plain` if it is cancelled on the way.  It ends all
the same, or it gives up; or, cut off in a gap, it complains of the whitespace there, if no rule is
for that. -/
inductive CutShort (cfg : Config σ) (text : List Char) (plain : Except Error (List Token)) :
    Except Error (List Token) → Prop
  | same : CutShort cfg text plain plain
  | gaveUp (position : Position) : CutShort cfg text plain (.error (.loop position))
  | inGap {j : Nat} {ch : Char} (skips : cfg.skipsWhitespace = true) (on : text[j]? = some ch)
      (blank : isWhitespace ch = true) (unmatched : ∀ rule ∈ cfg.rules, rule.accepts ch = false) :
      CutShort cfg text plain (.error (.noMatch ch (.derived text j)))

/-- A call that is cancelled on the way is cut short.  If that happens in a gap, the whitespace is
offered although the flag is up: nobody looks before a rule has run. -/
theorem proceed_cutShort {cfg : Config σ} (builtin : ∀ rule ∈ cfg.rules, rule.IsBuiltin)
    {text : List Char} (budget : Nat) {call other : Call σ} (tokens : other.tokens = call.tokens)
    (h : call.context.Shadows text other.context) :
    CutShort cfg text (cfg.proceed budget call).result (cfg.proceed budget other).result := by
  have done : CutShort cfg text (.ok call.tokens.toList) (.ok other.tokens.toList) := by
    rw [tokens]
    exact .same
  induction budget generalizing call other with
  | zero =>
    have turns := turn_shadows cfg h
    rw [Config.proceed, Config.proceed]
    generalize cfg.turn call.context = turn, cfg.turn other.context = cutTurn at turns
    cases turns with
    | finish => exact done
    | giveUp | offer | cut => exact .gaveUp _
  | succ budget ih =>
    have turns := turn_shadows cfg h
    rw [Config.proceed, Config.proceed]
    generalize cfg.turn call.context = turn, cfg.turn other.context = cutTurn at turns
    cases turns with
    | finish => exact done
    | giveUp => exact .gaveUp _
    | @offer ch there cut shadows =>
      dsimp only
      rcases dispatch_shadows builtin shadows ch with ⟨p, loop⟩ | ⟨same, later⟩
      · rw [loop]
        exact .gaveUp p
      · rw [same]
        split
        · rename_i token _
          have pushed : other.tokens.push token = call.tokens.push token := by rw [tokens]
          refine ih pushed later ?_
          rw [pushed]
          exact .same
        · exact .same
    | @cut turn ch cut skips stopped within on blank =>
      obtain ⟨j, -, position, current⟩ := within.position
      dsimp only
      rcases dispatch_stopped builtin stopped ch with ⟨p, loop⟩ | ⟨refuse, unmatched⟩
      · rw [loop]
        exact .gaveUp p
      · have there : cut.position = .derived text j := position
        rw [unmatched, there]
        exact .inGap skips (current.symm.trans on) blank refuse

theorem lexProbed_cutShort {cfg : Config σ} (builtin : ∀ rule ∈ cfg.rules, rule.IsBuiltin)
    (memory : σ) (input : String) (looks : Nat) :
    CutShort cfg input.toList (cfg.lex memory input).result
      (cfg.lexProbed memory { alarm := .after looks } input).result :=
  proceed_cutShort builtin _ rfl ⟨.ofText input looks, rfl, rfl⟩

/-! ### Where cancelling is safe -/

/-- Whenever a call is cancelled, it gives the result that it would have given, or gives up. -/
def Config.CancelsSafely (cfg : Config σ) (memory : σ) : Prop :=
  ∀ input looks,
    (cfg.lexProbed memory { alarm := .after looks } input).result = (cfg.lex memory input).result ∨
      ∃ position, (cfg.lexProbed memory { alarm := .after looks } input).result =
        .error (.loop position)

theorem dispatch_refused {watch : Watch} {rules : List (Rule σ)} {ch : Char} {ctx : Context σ}
    (refuse : ∀ rule ∈ rules, rule.accepts ch = false) :
    (dispatch watch rules ch ctx).result = .error (.noMatch ch ctx.position) := by
  induction rules with
  | nil => rfl
  | cons rule rest ih =>
    obtain ⟨first, later⟩ := List.forall_mem_cons.mp refuse
    rw [dispatch_passed first, Dispatch.result_after]
    exact ih later

section Blank

variable {cfg : Config σ} {ch : Char} (skips : cfg.skipsWhitespace = true)
  (blank : isWhitespace ch = true) (memory : σ)
include skips blank

theorem lex_blank : (cfg.lex memory (.singleton ch)).result = .ok [] := by
  have start : (Cursor.ofText (.singleton ch) {}).At [ch] 0 := by
    simpa using Cursor.At.ofText (.singleton ch)
  have at_start : (cfg.context memory (.singleton ch) {}).cursor.At [ch] 0 := start
  have passed : [ch][cfg.gapEnd [ch] 0]? = none := by simp [Config.gapEnd, skips, blank]
  have turn := cfg.turn_at at_start
  rw [passed] at turn
  rw [Config.lex, Config.lexProbed, Config.proceed, turn]
  rfl

/-- Cancelled at its second look, a call is in the gap that the input begins with. -/
theorem lexProbed_blank (refuse : ∀ rule ∈ cfg.rules, rule.accepts ch = false) :
    (cfg.lexProbed memory { alarm := .after 1 } (.singleton ch)).result =
      .error (.noMatch ch .origin) := by
  have turn : cfg.turn (cfg.context memory (.singleton ch) { alarm := .after 1 }) =
      .offer ch (cfg.context memory (.singleton ch) { alarm := .raised 0 }) := by
    simp [Config.turn, Config.context, Context.atEnd, Cursor.atEnd, Context.look, Cursor.look,
      Cursor.ofText, Place.start, Probe.look, Probe.record, Config.skipGap, skips, Context.move,
      Cursor.skipWhile, Cursor.current, Place.current, blank, Cursor.stepWhile, Cursor.scan,
      Cursor.scanAlong, Cursor.next, Probe.cancel, Context.current]
  obtain ⟨budget, enough⟩ : ∃ n, (String.singleton ch).length + cfg.watch.patience = n + 1 :=
    ⟨cfg.watch.patience, by rw [String.length_singleton, Nat.add_comm]⟩
  rw [Config.lexProbed, enough, Config.proceed, turn]
  simp only [dispatch_refused refuse]
  rfl

end Blank

/-- A call of built-in rules that is cancelled on the way gives its result all the same or gives up,
unless it is cancelled in a gap.  So cancelling is safe for just those configurations that keep
whitespace, or have rules for all of it. -/
theorem lexProbed_cancelled {cfg : Config σ} (builtin : ∀ rule ∈ cfg.rules, rule.IsBuiltin)
    (memory : σ) :
    (∀ input looks, CutShort cfg input.toList (cfg.lex memory input).result
      (cfg.lexProbed memory { alarm := .after looks } input).result) ∧
    (cfg.CancelsSafely memory ↔
      (cfg.skipsWhitespace = true →
        ∀ ch, isWhitespace ch = true → ∃ rule ∈ cfg.rules, rule.accepts ch = true)) := by
  refine ⟨lexProbed_cutShort builtin memory, fun safe skips ch blank => ?_, ?_⟩
  · by_contra unmatched
    have refuse : ∀ rule ∈ cfg.rules, rule.accepts ch = false := by
      intro rule member
      exact Bool.eq_false_iff.mpr fun accepts => unmatched ⟨rule, member, accepts⟩
    have cut := safe (.singleton ch) 1
    rw [lexProbed_blank skips blank memory refuse, lex_blank skips blank memory] at cut
    rcases cut with same | ⟨position, loop⟩
    · cases same
    · cases loop
  · intro covered input looks
    have cut := lexProbed_cutShort builtin memory input looks
    generalize (cfg.lexProbed memory { alarm := .after looks } input).result = result at cut ⊢
    cases cut with
    | same => exact .inl rfl
    | gaveUp position => exact .inr ⟨position, rfl⟩
    | inGap skips on blank unmatched =>
      obtain ⟨rule, member, accepts⟩ := covered skips _ blank
      rw [unmatched rule member] at accepts
      cases accepts

/-- The standard rules, with one that is for the whitespace a cancelled call may come to. -/
def spaced : Config Unit :=
  Config.standard.addRules [Builtin.whitespace.rule "LexWhitespace" isWhitespace]

theorem spaced_isBuiltin : ∀ rule ∈ spaced.rules, rule.IsBuiltin := by
  intro rule member
  rcases List.mem_append.mp member with standard | whitespace
  · exact standard_isBuiltin rule standard
  · rw [List.mem_singleton.mp whitespace]
    exact ⟨_, _, _, rfl⟩

theorem spaced_covers :
    ∀ ch, isWhitespace ch = true → ∃ rule ∈ spaced.rules, rule.accepts ch = true :=
  fun _ blank => ⟨_, List.mem_append_right _ List.mem_cons_self, blank⟩

theorem lexProbed_cancelled_spaced :
    (∀ rule ∈ spaced.rules, rule.IsBuiltin) ∧ spaced.CancelsSafely () :=
  ⟨spaced_isBuiltin, (lexProbed_cancelled spaced_isBuiltin ()).2.mpr fun _ => spaced_covers⟩

/-- The standard rules leave whitespace to the gaps, where a cancelled call takes it for a character
that no rule is for. -/
theorem standard_not_cancelsSafely :
    (∀ rule ∈ (Config.standard : Config Unit).rules, rule.IsBuiltin) ∧
    (Config.standard.lex () " x").result = .ok [⟨.ident, ⟨1, 2, 1⟩, ⟨1, 3, 2⟩, "x"⟩] ∧
    (Config.standard.lexProbed () { alarm := .after 1 } " x").result =
      .error (.noMatch ' ' ⟨1, 1, 0⟩) ∧
    ¬(Config.standard : Config Unit).CancelsSafely () := by
  have plain : (Config.standard.lex () " x").result =
      .ok [⟨.ident, ⟨1, 2, 1⟩, ⟨1, 3, 2⟩, "x"⟩] := by decide +kernel
  have cut : (Config.standard.lexProbed () { alarm := .after 1 } " x").result =
      .error (.noMatch ' ' ⟨1, 1, 0⟩) := by decide +kernel
  refine ⟨standard_isBuiltin, plain, cut, fun safe => ?_⟩
  have either := safe " x" 1
  rw [plain, cut] at either
  rcases either with same | ⟨position, loop⟩
  · cases same
  · cases loop

end FirstMatch.Lexing
