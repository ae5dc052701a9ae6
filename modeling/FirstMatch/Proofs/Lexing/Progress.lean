import FirstMatch.Proofs.Lexing.Bracket

/-! Progress of a lex call whose rules only move forward.  Every dispatch that succeeds leaves the
cursor further on than it found it, so there are no more dispatches than characters, and the tokens
come in the order of the text without overlapping. -/

namespace FirstMatch.Lexing

open Text

variable {σ : Type}

/-- What a rule that only steps forward does from `ctx`.  It fails, or declines after a step, or
gives a token that it started and ended on its way. -/
inductive Forward (ctx : Context σ) : Outcome σ → Prop
  | fail {message position} {out : Context σ} (n : Nat)
      (moved : out.cursor = ctx.cursor.skip n) :
      Forward ctx (.error (.fail message position), out)
  | decline {message position} {out : Context σ} (n : Nat)
      (moved : out.cursor = ctx.cursor.skip (n + 1)) :
      Forward ctx (.error (.decline message position), out)
  | token {opened closed out : Context σ} {kind} (before within after : Nat)
      (starts : opened.cursor = ctx.cursor.skip before)
      (ends : closed.cursor = opened.cursor.skip within)
      (moved : out.cursor = closed.cursor.skip after) :
      Forward ctx (.ok (closed.endToken (opened.startToken kind)), out)

/-- A rule that only steps forward when it is started on a character and nobody cancels. -/
def Rule.GoesForward (rule : Rule σ) : Prop :=
  ∀ ch ctx, ctx.current = some ch → ctx.cursor.probe.alarm = .silent →
    Forward ctx (rule.run ch ctx)

section Outcomes

variable {text : List Char} {j : Nat} {ch : Char} {ctx out : Context σ} {rule : Rule σ}

theorem Rule.GoesForward.outcome (forward : rule.GoesForward) (h : ctx.On text j ch) :
    Forward ctx (rule.run ch ctx) :=
  forward ch ctx h.current h.cursor.silent

/-- A token of a forward rule covers text not before the place the rule was started, and the cursor
is left not before the end of the token. -/
theorem Forward.token_covering {token : Token} (forward : Forward ctx (.ok token, out))
    (h : ctx.cursor.At text j) :
    ∃ i k kind e, j ≤ i ∧ i ≤ k ∧ k ≤ e ∧ token = .covering text i k kind ∧
      out.cursor.At text e := by
  cases forward with
  | token before within after starts ends moved =>
    have opened := h.skip before
    rw [← starts] at opened
    have closed := opened.skip within
    rw [← ends] at closed
    have left := closed.skip after
    rw [← moved] at left
    have := h.bound
    exact ⟨_, _, _, _, by omega, by omega, by omega,
      Context.endToken_startToken opened.here closed.here (by omega) _, left⟩

/-- Undoing the decline of a forward rule finds a character not before the place where the rule was
started. -/
theorem Forward.back_on {message : String} {position : Position}
    (forward : Forward ctx (.error (.decline message position), out)) (h : ctx.On text j ch) :
    ∃ k found, j ≤ k ∧ out.look.2.undo.1 = some found ∧ out.look.2.undo.2.On text k found := by
  cases forward with
  | decline n moved =>
    obtain ⟨k, after, inside, found, back⟩ := h.cursor.undo_skip h.inside n
    rw [← moved] at found back
    have left := h.cursor.skip (n + 1)
    rw [← moved] at left
    rw [Context.look_at left]
    exact ⟨k, text[k], after, found.trans (List.getElem?_eq_getElem inside), back,
      List.getElem?_eq_getElem inside⟩

end Outcomes

section Dispatches

variable {cfg : Config σ} (forward : ∀ rule ∈ cfg.rules, rule.GoesForward) {text : List Char}
  {j : Nat} {offer : Offer σ}
include forward

/-- Every rule that a dispatch tries is started on its character, not before the first. -/
theorem tries_on (h : offer.context.On text j offer.ch) {rule : Rule σ} {on : Char}
    {started : Context σ} (tries : Tries cfg.rules offer.ch offer.context rule on started) :
    ∃ k, j ≤ k ∧ started.On text k on := by
  refine tries.invariant (P := fun ch ctx => ∃ k, j ≤ k ∧ ctx.On text k ch) ?_ ⟨j, le_rfl, h⟩
  rintro rule member ch ctx message position out found back ⟨i, after, on⟩ ran - rewound
  have outcome := (forward rule member).outcome on
  rw [ran] at outcome
  obtain ⟨k, char, further, same, there⟩ := outcome.back_on on
  rw [rewound] at same there
  obtain rfl := Option.some.inj same
  exact ⟨k, after.trans further, there⟩

theorem dispatch_covering (h : offer.context.On text j offer.ch) {token : Token}
    (ok : (cfg.dispatch offer).result = .ok token) :
    ∃ i k kind e, j ≤ i ∧ i < k ∧ k ≤ e ∧ token = .covering text i k kind ∧
      (cfg.dispatch offer).context.cursor.At text e := by
  obtain ⟨rule, on, started, out, tries, ran, ended, checked⟩ := dispatch_ok ok
  obtain ⟨begins, after, there⟩ := tries_on forward h tries
  have outcome := (forward rule tries.mem).outcome there
  rw [ran] at outcome
  obtain ⟨i, k, kind, e, first, ordered, last, rfl, left⟩ := outcome.token_covering there.cursor
  have covers : i ≠ k := by
    rintro rfl
    exact absurd (checkToken_eq_ok.mp checked).2.2.1 (Nat.lt_irrefl _)
  refine ⟨i, k, kind, e, after.trans first, by omega, last, rfl, ?_⟩
  rw [Config.dispatch, ended, Context.look_at left]
  exact left

/-- A call comes to an end after at most one dispatch for each character ahead, each of them on its
character. -/
theorem exists_run {call : Call σ} (h : call.context.cursor.At text j) :
    ∃ offers report, cfg.Run offers call report ∧ offers.length ≤ text.length - j ∧
      ∀ offer ∈ offers, ∃ k, offer.context.On text k offer.ch := by
  induction left : text.length - j using Nat.strong_induction_on generalizing call j with
  | _ left ih =>
    have turn := cfg.turn_at h
    cases on : text[cfg.gapEnd text j]? with
    | none =>
      rw [on] at turn
      exact ⟨[], _, .finish turn, Nat.zero_le _, by simp⟩
    | some ch =>
      rw [on] at turn
      let offer : Offer σ := ⟨ch, cfg.skipGap call.context⟩
      have there : offer.context.On text (cfg.gapEnd text j) offer.ch := ⟨Config.skipGap_at h, on⟩
      have := there.inside
      have := cfg.le_gapEnd text j
      cases result : (cfg.dispatch offer).result with
      | error error =>
        refine ⟨[offer], _, .fail turn result, ?_, ?_⟩
        · simp
          omega
        · intro other member
          rw [List.mem_singleton.mp member]
          exact ⟨_, there⟩
      | ok token =>
        obtain ⟨i, k, kind, e, first, ordered, last, -, ends⟩ :=
          dispatch_covering forward there result
        have := ends.bound
        let later : Call σ := ⟨(cfg.dispatch offer).context, call.tokens.push token,
          call.log ++ (cfg.dispatch offer).log⟩
        have ready : later.context.cursor.At text e := ends
        obtain ⟨offers, report, run, few, all⟩ := ih (text.length - e) (by omega) ready rfl
        refine ⟨offer :: offers, report, .next turn result run, ?_, ?_⟩
        · simp
          omega
        · intro other member
          rcases List.mem_cons.mp member with rfl | later
          · exact ⟨_, there⟩
          · exact all other later

end Dispatches

/-- A dispatch that succeeds leaves the cursor further on than it found it. -/
def Offer.Advances (cfg : Config σ) (offer : Offer σ) : Prop :=
  ∀ token, (cfg.dispatch offer).result = .ok token →
    offer.context.position.offset < (cfg.dispatch offer).context.position.offset

/-- Wherever a rule declines in a dispatch, undoing one step finds a character, and not before the
place where the rule was started. -/
def Offer.Rewinds (cfg : Config σ) (offer : Offer σ) : Prop :=
  ∀ rule on started message position out,
    Tries cfg.rules offer.ch offer.context rule on started →
    rule.run on started = (.error (.decline message position), out) →
    (∃ found, out.look.2.undo.1 = some found) ∧
      started.position.offset ≤ out.look.2.undo.2.position.offset

/-- No token is empty, and none begins before the one before it has ended. -/
def InOrder (tokens : List Token) : Prop :=
  (∀ token ∈ tokens, token.start.offset < token.stop.offset) ∧
    tokens.IsChain fun token later => token.stop.offset ≤ later.start.offset

theorem advances {cfg : Config σ} (forward : ∀ rule ∈ cfg.rules, rule.GoesForward)
    {text : List Char} {j : Nat} {offer : Offer σ} (h : offer.context.On text j offer.ch) :
    offer.Advances cfg := by
  intro token ok
  obtain ⟨i, k, kind, e, first, ordered, last, -, ends⟩ := dispatch_covering forward h ok
  have after : (cfg.dispatch offer).context.position = .derived text e := ends.position
  rw [h.position, after]
  exact byteLength_take_lt (by omega) ends.bound

theorem rewinds {cfg : Config σ} (forward : ∀ rule ∈ cfg.rules, rule.GoesForward)
    {text : List Char} {j : Nat} {offer : Offer σ} (h : offer.context.On text j offer.ch) :
    offer.Rewinds cfg := by
  intro rule on started message position out tries ran
  obtain ⟨i, -, there⟩ := tries_on forward h tries
  have outcome := (forward rule tries.mem).outcome there
  rw [ran] at outcome
  obtain ⟨k, found, further, char, back⟩ := outcome.back_on there
  refine ⟨⟨found, char⟩, ?_⟩
  rw [there.position, back.position]
  exact byteLength_take_mono further back.cursor.bound

theorem lex_inOrder {cfg : Config σ} (forward : ∀ rule ∈ cfg.rules, rule.GoesForward)
    {memory : σ} {input : String} {tokens : List Token}
    (ok : (cfg.lex memory input).result = .ok tokens) : InOrder tokens := by
  let P : Context σ → List Token → Prop := fun ctx tokens =>
    ∀ j, ctx.cursor.At input.toList j → InOrder tokens ∧
      ∀ first ∈ tokens.head?, byteLength (input.toList.take j) ≤ first.start.offset
  suffices P (cfg.context memory input {}) tokens from (this 0 (.ofText input)).1
  refine Config.lexProbed_ok ?_ ?_ ok
  · intro ctx there turn j h
    exact ⟨⟨by simp, .nil⟩, by simp⟩
  · intro ctx offer token tokens turn made later j h
    obtain ⟨-, on⟩ := Config.turn_at_offer h turn
    obtain ⟨i, k, kind, e, first, ordered, last, rfl, ends⟩ := dispatch_covering forward on made
    obtain ⟨⟨covers, chain⟩, next⟩ := later e ends
    have bound := ends.bound
    have gap := cfg.le_gapEnd input.toList j
    refine ⟨⟨?_, ?_⟩, ?_⟩
    · intro other member
      rcases List.mem_cons.mp member with rfl | rest
      · exact byteLength_take_lt ordered (by omega)
      · exact covers other rest
    · refine List.isChain_cons.mpr ⟨?_, chain⟩
      intro other head
      exact (byteLength_take_mono last bound).trans (next other head)
    · intro other head
      obtain rfl := Option.some.inj head
      exact byteLength_take_mono (by omega) (by omega)

/-- With rules that only move forward, a call ends after at most as many dispatches as there are
characters.  Each dispatch that succeeds advances, what declines is undone to a character not before
its start, and the tokens come in order. -/
theorem lex_forward_progress (cfg : Config σ) (forward : ∀ rule ∈ cfg.rules, rule.GoesForward)
    (memory : σ) (input : String) :
    ∃ offers, cfg.Run offers { context := cfg.context memory input {} } (cfg.lex memory input) ∧
      offers.length ≤ input.length ∧
      (∀ offer ∈ offers, offer.Advances cfg ∧ offer.Rewinds cfg) ∧
      ∀ tokens, (cfg.lex memory input).result = .ok tokens → InOrder tokens := by
  let call : Call σ := { context := cfg.context memory input {} }
  have start : call.context.cursor.At input.toList 0 := .ofText input
  obtain ⟨offers, report, run, few, on⟩ := exists_run forward start
  rw [String.length_toList, Nat.sub_zero] at few
  have lexed : cfg.lex memory input = report := run.proceed_eq (by omega)
  refine ⟨offers, lexed ▸ run, few, ?_, fun tokens ok => lex_inOrder forward ok⟩
  intro offer member
  obtain ⟨k, there⟩ := on offer member
  exact ⟨advances forward there, rewinds forward there⟩

/-- A rule that declines after three steps, and after it one that takes a single character. -/
def hasty : Config Unit where
  rules :=
    [{ name := "Greedy", accepts := isLetter
       run := fun _ ctx => (ctx.move (·.skip 3)).decline "changed my mind" },
      { name := "Tail", accepts := fun _ => true
        run := fun _ ctx => (ctx.move (·.skip 1)).accept (ctx.startToken .ident) }]

theorem hasty_goesForward : ∀ rule ∈ hasty.rules, rule.GoesForward := by
  intro rule member
  rcases List.mem_cons.mp member with rfl | last
  · intro ch ctx _ _
    exact .decline 2 rfl
  · rw [List.mem_singleton.mp last]
    intro ch ctx _ _
    exact .token 0 1 0 rfl rfl rfl

/-- Of four letters the first two are lost: one step is undone of three. -/
theorem lex_forward_progress_hasty :
    (∀ rule ∈ hasty.rules, rule.GoesForward) ∧
    (hasty.lex () "abcd").result =
      .ok [⟨.ident, ⟨1, 3, 2⟩, ⟨1, 4, 3⟩, "c"⟩, ⟨.ident, ⟨1, 4, 3⟩, ⟨1, 5, 4⟩, "d"⟩] ∧
    ∃ offers, hasty.Run offers { context := hasty.context () "abcd" {} } (hasty.lex () "abcd") ∧
      offers.length ≤ "abcd".length ∧
      (∀ offer ∈ offers, offer.Advances hasty ∧ offer.Rewinds hasty) ∧
      ∀ tokens, (hasty.lex () "abcd").result = .ok tokens → InOrder tokens :=
  ⟨hasty_goesForward, by decide +kernel, lex_forward_progress hasty hasty_goesForward () "abcd"⟩

end FirstMatch.Lexing
