import FirstMatch.Lexing.Call
import FirstMatch.Proofs.Source.Scan

/-! Traces of lex calls.  `Tries` says which rules a dispatch comes to and where it starts them, and
`Config.Run` is the main loop without a budget, with the list of its dispatches.  A dispatch that
succeeds owes its token to a rule it tried; a call that succeeds is a chain of such dispatches. -/

namespace FirstMatch.Lexing

open Text

variable {σ : Type}

theorem checkToken_eq_ok {rule : String} {started : Position} {token checked : Token} :
    checkToken rule started token = .ok checked ↔
      token = checked ∧ token.isValid = true ∧ token.start.offset < token.stop.offset ∧
        token.kind ≠ .illegal := by
  unfold checkToken
  by_cases valid : token.isValid
  · by_cases covers : token.start.offset < token.stop.offset
    · by_cases illegal : token.kind = .illegal
      · simp [valid, Nat.not_le.mpr covers, illegal, Kind.isIllegal]
      · simp [valid, Nat.not_le.mpr covers, covers, illegal, Kind.isIllegal]
    · simp [valid, Nat.not_lt.mp covers, covers]
  · simp [valid]

namespace Context

variable {text : List Char} {j : Nat} {ch : Char} {ctx : Context σ}

theorem look_at (h : ctx.cursor.At text j) : ctx.look = (false, ctx) := by
  simp [look, h.look]

/-- The cursor is on index `j` of `text`, and the character there is `ch`. -/
structure On (text : List Char) (j : Nat) (ch : Char) (ctx : Context σ) : Prop where
  cursor : ctx.cursor.At text j
  char : text[j]? = some ch

theorem On.inside (h : ctx.On text j ch) : j < text.length :=
  (List.getElem?_eq_some_iff.mp h.char).1

theorem On.current (h : ctx.On text j ch) : ctx.current = some ch := h.cursor.current.trans h.char

theorem On.position (h : ctx.On text j ch) : ctx.position = .derived text j := h.cursor.position

/-- One step, undone, is back on the same character. -/
theorem On.undo_next (h : ctx.On text j ch) :
    ctx.next.2.look.1 = false ∧ ∃ back, ctx.next.2.look.2.undo = (some ch, back) ∧
      back.On text j ch ∧ back.symbols = ctx.symbols := by
  have moved : ctx.next.2.cursor.At text (j + 1) := h.cursor.next h.inside
  obtain ⟨same, there⟩ := h.cursor.undo_next h.inside
  rw [look_at moved]
  exact ⟨rfl, ctx.next.2.undo.2, Prod.ext (same.trans h.char) rfl, ⟨there, h.char⟩, rfl⟩

end Context

/-! ### One dispatch -/

section Branches

variable {watch : Watch} {rule : Rule σ} {rest : List (Rule σ)} {ch : Char} {ctx out : Context σ}

theorem dispatch_passed (refuses : rule.accepts ch = false) :
    dispatch watch (rule :: rest) ch ctx =
      (dispatch watch rest ch ctx).after [.attempting rule.name ch] := by
  rw [dispatch, if_neg (by simp [refuses])]

variable (accepts : rule.accepts ch = true)
include accepts

theorem dispatch_cancelled {result : Except Refusal Token} (ran : rule.run ch ctx = (result, out))
    (stops : out.look.1 = true) :
    dispatch watch (rule :: rest) ch ctx =
      Dispatch.after [.attempting rule.name ch, .running rule.name]
        ⟨.error (.loop out.look.2.position), out.look.2, [out.look.2.loopEvent watch]⟩ := by
  rw [dispatch, if_pos accepts, ran]
  simp only [if_pos stops]

theorem dispatch_made {token : Token} (ran : rule.run ch ctx = (.ok token, out))
    (goesOn : out.look.1 = false) :
    dispatch watch (rule :: rest) ch ctx =
      Dispatch.after [.attempting rule.name ch, .running rule.name]
        ⟨checkToken rule.name ctx.position token, out.look.2, []⟩ := by
  rw [dispatch, if_pos accepts, ran]
  simp only [goesOn, Bool.false_eq_true, if_false]

theorem dispatch_failed {message : String} {position : Position}
    (ran : rule.run ch ctx = (.error (.fail message position), out))
    (goesOn : out.look.1 = false) :
    dispatch watch (rule :: rest) ch ctx =
      Dispatch.after [.attempting rule.name ch, .running rule.name]
        ⟨.error (.refused rule.name (.fail message position)), out.look.2, []⟩ := by
  rw [dispatch, if_pos accepts, ran]
  simp only [goesOn, Bool.false_eq_true, if_false]

theorem dispatch_declined {message : String} {position : Position} {found : Char}
    {back : Context σ} (ran : rule.run ch ctx = (.error (.decline message position), out))
    (goesOn : out.look.1 = false) (rewound : out.look.2.undo = (some found, back)) :
    dispatch watch (rule :: rest) ch ctx =
      Dispatch.after [.attempting rule.name ch, .running rule.name]
        (Dispatch.after [.declined rule.name message] (dispatch watch rest found back)) := by
  rw [dispatch, if_pos accepts, ran]
  simp only [goesOn, Bool.false_eq_true, if_false, rewound]

theorem dispatch_declined_end {message : String} {position : Position} {back : Context σ}
    (ran : rule.run ch ctx = (.error (.decline message position), out))
    (goesOn : out.look.1 = false) (rewound : out.look.2.undo = (none, back)) :
    dispatch watch (rule :: rest) ch ctx =
      Dispatch.after [.attempting rule.name ch, .running rule.name]
        (Dispatch.after [.declined rule.name message]
          ⟨.error (.noMatch ch back.position), back, []⟩) := by
  rw [dispatch, if_pos accepts, ran]
  simp only [goesOn, Bool.false_eq_true, if_false, rewound]

end Branches

/-- Offering `ch` at `ctx` to `rules` comes to start `rule` on `on` at `started`. -/
inductive Tries : List (Rule σ) → Char → Context σ → Rule σ → Char → Context σ → Prop
  | here {rule : Rule σ} {rest ch ctx} (accepts : rule.accepts ch = true) :
      Tries (rule :: rest) ch ctx rule ch ctx
  | passed {rule tried : Rule σ} {rest ch ctx on started} (refuses : rule.accepts ch = false)
      (later : Tries rest ch ctx tried on started) :
      Tries (rule :: rest) ch ctx tried on started
  | declined {rule tried : Rule σ} {rest ch ctx on started message position out found back}
      (accepts : rule.accepts ch = true)
      (ran : rule.run ch ctx = (.error (.decline message position), out))
      (goesOn : out.look.1 = false) (rewound : out.look.2.undo = (some found, back))
      (later : Tries rest found back tried on started) :
      Tries (rule :: rest) ch ctx tried on started

theorem Tries.mem {rules : List (Rule σ)} {ch on : Char} {ctx started : Context σ} {rule : Rule σ}
    (tries : Tries rules ch ctx rule on started) : rule ∈ rules := by
  induction tries with
  | here => exact List.mem_cons_self
  | passed _ _ ih => exact List.mem_cons_of_mem _ ih
  | declined _ _ _ _ _ ih => exact List.mem_cons_of_mem _ ih

theorem Tries.exists_accepts {rules : List (Rule σ)} {ch on : Char} {ctx started : Context σ}
    {rule : Rule σ} (tries : Tries rules ch ctx rule on started) :
    ∃ rule ∈ rules, rule.accepts ch = true := by
  induction tries with
  | here accepts => exact ⟨_, List.mem_cons_self, accepts⟩
  | passed _ _ ih =>
    obtain ⟨rule, member, accepts⟩ := ih
    exact ⟨rule, List.mem_cons_of_mem _ member, accepts⟩
  | declined accepts _ _ _ _ _ => exact ⟨_, List.mem_cons_self, accepts⟩

/-- A dispatch that comes to a rule ends as if it had begun with it. -/
theorem Tries.dispatch_eq {rules : List (Rule σ)} {ch on : Char} {ctx started : Context σ}
    {rule : Rule σ} (watch : Watch) (tries : Tries rules ch ctx rule on started) :
    rule.accepts on = true ∧ ∃ rest,
      (dispatch watch rules ch ctx).result = (dispatch watch (rule :: rest) on started).result ∧
      (dispatch watch rules ch ctx).context =
        (dispatch watch (rule :: rest) on started).context := by
  induction tries with
  | here accepts => exact ⟨accepts, _, rfl, rfl⟩
  | passed refuses _ ih =>
    rw [dispatch_passed refuses]
    exact ih
  | declined accepts ran goesOn rewound _ ih =>
    rw [dispatch_declined accepts ran goesOn rewound]
    exact ih

/-- What holds where a dispatch begins, and wherever the cursor is after a decline has been undone,
holds wherever a rule is started. -/
theorem Tries.invariant {rules : List (Rule σ)} {ch on : Char} {ctx started : Context σ}
    {rule : Rule σ} {P : Char → Context σ → Prop} (tries : Tries rules ch ctx rule on started)
    (kept : ∀ rule ∈ rules, ∀ ch ctx message position out found back, P ch ctx →
      rule.run ch ctx = (.error (.decline message position), out) → out.look.1 = false →
      out.look.2.undo = (some found, back) → P found back)
    (first : P ch ctx) : P on started := by
  induction tries with
  | here => exact first
  | passed _ _ ih => exact ih (fun rule member => kept rule (List.mem_cons_of_mem _ member)) first
  | declined _ ran goesOn rewound _ ih =>
    apply ih fun rule member => kept rule (List.mem_cons_of_mem _ member)
    exact kept _ List.mem_cons_self _ _ _ _ _ _ _ first ran goesOn rewound

/-- The token of a dispatch comes from a rule that was tried, and has passed the checks. -/
theorem dispatch_ok {watch : Watch} {rules : List (Rule σ)} {ch : Char} {ctx : Context σ}
    {token : Token} (ok : (dispatch watch rules ch ctx).result = .ok token) :
    ∃ rule on started out, Tries rules ch ctx rule on started ∧
      rule.run on started = (.ok token, out) ∧
      (dispatch watch rules ch ctx).context = out.look.2 ∧
      checkToken rule.name started.position token = .ok token := by
  induction rules generalizing ch ctx with
  | nil => cases ok
  | cons rule rest ih =>
    cases accepts : rule.accepts ch with
    | false =>
      rw [dispatch_passed accepts] at ok ⊢
      obtain ⟨winner, on, started, out, tries, wins⟩ := ih ok
      exact ⟨winner, on, started, out, .passed accepts tries, wins⟩
    | true =>
      obtain ⟨result, out, ran⟩ : ∃ result out, rule.run ch ctx = (result, out) := ⟨_, _, rfl⟩
      cases goesOn : out.look.1 with
      | true =>
        rw [dispatch_cancelled accepts ran goesOn] at ok
        cases ok
      | false =>
        match result with
        | .ok made =>
          rw [dispatch_made accepts ran goesOn] at ok ⊢
          obtain ⟨rfl, _⟩ := checkToken_eq_ok.mp ok
          exact ⟨rule, ch, ctx, out, .here accepts, ran, rfl, ok⟩
        | .error (.fail message position) =>
          rw [dispatch_failed accepts ran goesOn] at ok
          cases ok
        | .error (.decline message position) =>
          match rewound : out.look.2.undo with
          | (none, back) =>
            rw [dispatch_declined_end accepts ran goesOn rewound] at ok
            cases ok
          | (some found, back) =>
            rw [dispatch_declined accepts ran goesOn rewound] at ok ⊢
            obtain ⟨winner, on, started, last, tries, wins⟩ := ih ok
            exact ⟨winner, on, started, last, .declined accepts ran goesOn rewound tries, wins⟩

/-! ### The main loop -/

/-- A dispatch about to be made: the character under the cursor and the context. -/
structure Offer (σ : Type) where
  ch : Char
  context : Context σ

theorem symbols_skipGap (cfg : Config σ) (ctx : Context σ) :
    (cfg.skipGap ctx).symbols = ctx.symbols := by
  unfold Config.skipGap
  split
  · rfl
  · rfl

namespace Config

def dispatch (cfg : Config σ) (offer : Offer σ) : Dispatch σ :=
  Lexing.dispatch cfg.watch cfg.rules offer.ch offer.context

/-- A character is offered where it stands, after some steps over a gap. -/
theorem turn_offer {cfg : Config σ} {ctx there : Context σ} {ch : Char}
    (turn : cfg.turn ctx = .offer ch there) :
    (∃ n, there = ctx.look.2.move (·.skip n)) ∧ there.current = some ch := by
  have gap : ∃ n, cfg.skipGap ctx.look.2 = ctx.look.2.move (·.skip n) := by
    rw [skipGap]
    split
    · obtain ⟨n, steps⟩ := Cursor.skipWhile_cursor isWhitespace ctx.look.2.cursor
      exact ⟨n, by simp [Context.move, steps]⟩
    · exact ⟨0, rfl⟩
  rw [Config.turn] at turn
  split at turn
  · cases turn
  · dsimp only at turn
    split at turn
    · cases turn
    · split at turn
      · cases turn
      · rename_i on
        cases turn
        exact ⟨gap, on⟩

/-- The index after the gap that begins at index `j`. -/
def gapEnd (cfg : Config σ) (text : List Char) (j : Nat) : Nat :=
  if cfg.skipsWhitespace then j + ((text.drop j).takeWhile isWhitespace).length else j

theorem le_gapEnd (cfg : Config σ) (text : List Char) (j : Nat) : j ≤ cfg.gapEnd text j := by
  rw [gapEnd]
  split <;> omega

/-- A gap goes on as far as it can. -/
theorem not_isWhitespace_gapEnd {cfg : Config σ} {text : List Char} {j : Nat} {ch : Char}
    (skips : cfg.skipsWhitespace = true) (on : text[cfg.gapEnd text j]? = some ch) :
    isWhitespace ch = false := by
  rw [gapEnd, if_pos skips, ← List.getElem?_drop] at on
  exact Cursor.takeWhile_stop on

theorem skipGap_at {cfg : Config σ} {ctx : Context σ} {text : List Char} {j : Nat}
    (h : ctx.cursor.At text j) : (cfg.skipGap ctx).cursor.At text (cfg.gapEnd text j) := by
  rw [skipGap, gapEnd]
  split
  · exact h.skipWhile isWhitespace
  · exact h

/-- Without cancellation, a turn looks past the gap. -/
theorem turn_at (cfg : Config σ) {ctx : Context σ} {text : List Char} {j : Nat}
    (h : ctx.cursor.At text j) :
    cfg.turn ctx =
      match text[cfg.gapEnd text j]? with
      | none => .finish (cfg.skipGap ctx)
      | some ch => .offer ch (cfg.skipGap ctx) := by
  have current : (cfg.skipGap ctx).current = text[cfg.gapEnd text j]? := (skipGap_at h).current
  rw [turn]
  by_cases ended : j = text.length
  · subst ended
    have nothing : ctx.cursor.current = none := by
      rw [h.current]
      simp
    have stays : cfg.skipGap ctx = ctx := by
      rw [skipGap]
      split
      · simp [Context.move, Cursor.skipWhile, nothing]
      · rfl
    rw [if_pos (by simp [Context.atEnd, h.atEnd]), ← current, stays, Context.current, nothing]
  · rw [if_neg (by simp [Context.atEnd, h.atEnd, ended])]
    cases on : text[cfg.gapEnd text j]? with
    | none => simp only [Context.look_at h, Bool.false_eq_true, if_false, current, on]
    | some ch => simp only [Context.look_at h, Bool.false_eq_true, if_false, current, on]

theorem turn_at_offer {cfg : Config σ} {ctx there : Context σ} {text : List Char} {j : Nat}
    {ch : Char} (h : ctx.cursor.At text j) (turn : cfg.turn ctx = .offer ch there) :
    there = cfg.skipGap ctx ∧ there.On text (cfg.gapEnd text j) ch := by
  rw [cfg.turn_at h] at turn
  split at turn
  · cases turn
  · rename_i on
    cases turn
    exact ⟨rfl, skipGap_at h, on⟩

theorem turn_at_finish {cfg : Config σ} {ctx there : Context σ} {text : List Char} {j : Nat}
    (h : ctx.cursor.At text j) (turn : cfg.turn ctx = .finish there) :
    cfg.gapEnd text j = text.length := by
  have bound : cfg.gapEnd text j ≤ text.length := (skipGap_at h).bound
  rw [cfg.turn_at h] at turn
  split at turn
  · rename_i ended
    have := List.getElem?_eq_none_iff.mp ended
    omega
  · cases turn

section Turns

variable {cfg : Config σ} {budget : Nat} {call : Call σ} {offer : Offer σ}

theorem proceed_done (cfg : Config σ) {context : Context σ}
    (turn : cfg.turn call.context = .finish context) :
    cfg.proceed budget call = Call.succeed { call with context } := by
  rw [proceed, turn]

theorem proceed_made {token : Token} (made : (cfg.dispatch offer).result = .ok token)
    (turn : cfg.turn call.context = .offer offer.ch offer.context) :
    cfg.proceed (budget + 1) call = cfg.proceed budget
      ⟨(cfg.dispatch offer).context, call.tokens.push token,
        call.log ++ (cfg.dispatch offer).log⟩ := by
  rw [Config.dispatch] at made
  rw [proceed, turn]
  simp only [made, Config.dispatch]

theorem proceed_failed {error : Error} (failed : (cfg.dispatch offer).result = .error error)
    (turn : cfg.turn call.context = .offer offer.ch offer.context) :
    cfg.proceed (budget + 1) call =
      Call.fail ⟨(cfg.dispatch offer).context, call.tokens, call.log ++ (cfg.dispatch offer).log⟩
        error := by
  rw [Config.dispatch] at failed
  rw [proceed, turn]
  simp only [failed, Config.dispatch]

end Turns

/-- A call that is left to itself makes the given dispatches and ends with the given report. -/
inductive Run (cfg : Config σ) : List (Offer σ) → Call σ → Report σ → Prop
  | finish {call : Call σ} {context} (turn : cfg.turn call.context = .finish context) :
      Run cfg [] call (Call.succeed { call with context })
  | giveUp {call : Call σ} {context} (turn : cfg.turn call.context = .giveUp context) :
      Run cfg [] call (Call.giveUp { call with context } cfg.watch)
  | fail {call : Call σ} {offer : Offer σ} {error}
      (turn : cfg.turn call.context = .offer offer.ch offer.context)
      (failed : (cfg.dispatch offer).result = .error error) :
      Run cfg [offer] call
        (Call.fail ⟨(cfg.dispatch offer).context, call.tokens, call.log ++ (cfg.dispatch offer).log⟩
          error)
  | next {call : Call σ} {offer : Offer σ} {token offers report}
      (turn : cfg.turn call.context = .offer offer.ch offer.context)
      (ok : (cfg.dispatch offer).result = .ok token)
      (later : Run cfg offers
        ⟨(cfg.dispatch offer).context, call.tokens.push token, call.log ++ (cfg.dispatch offer).log⟩
        report) :
      Run cfg (offer :: offers) call report

/-- A budget for the dispatches of a run is enough to follow it. -/
theorem Run.proceed_eq {cfg : Config σ} {offers : List (Offer σ)} {call : Call σ}
    {report : Report σ} (run : cfg.Run offers call report) {budget : Nat}
    (enough : offers.length ≤ budget) : cfg.proceed budget call = report := by
  induction run generalizing budget with
  | finish turn => exact cfg.proceed_done turn
  | giveUp turn => rw [proceed, turn]
  | fail turn failed =>
    obtain ⟨budget, rfl⟩ : ∃ n, budget = n + 1 := ⟨budget - 1, by simp at enough; omega⟩
    exact proceed_failed failed turn
  | next turn ok _ ih =>
    obtain ⟨budget, rfl⟩ : ∃ n, budget = n + 1 := ⟨budget - 1, by simp at enough; omega⟩
    rw [proceed_made ok turn]
    exact ih (by simpa using enough)

/-- In `n` dispatches `call` comes to be `later`: whatever `later` does, `call` does after them. -/
def LeadsTo (cfg : Config σ) (n : Nat) (call later : Call σ) : Prop :=
  ∀ offers report, cfg.Run offers later report →
    ∃ all, cfg.Run all call report ∧ all.length = n + offers.length

theorem LeadsTo.refl {cfg : Config σ} (call : Call σ) : cfg.LeadsTo 0 call call :=
  fun offers _ run => ⟨offers, run, (Nat.zero_add _).symm⟩

theorem LeadsTo.next {cfg : Config σ} {n : Nat} {call later : Call σ} {offer : Offer σ}
    {token : Token} (turn : cfg.turn call.context = .offer offer.ch offer.context)
    (ok : (cfg.dispatch offer).result = .ok token)
    (leads : cfg.LeadsTo n
      ⟨(cfg.dispatch offer).context, call.tokens.push token, call.log ++ (cfg.dispatch offer).log⟩
      later) : cfg.LeadsTo (n + 1) call later := by
  intro offers report run
  obtain ⟨all, whole, length⟩ := leads offers report run
  refine ⟨offer :: all, .next turn ok whole, ?_⟩
  rw [List.length_cons, length]
  omega

/-- From `first` on, `n` dispatches that each make a token lead to `call`. -/
inductive Reaches (cfg : Config σ) (first : Call σ) : Nat → Call σ → Prop
  | start : Reaches cfg first 0 first
  | step {n} {call : Call σ} {offer : Offer σ} {token} (reached : Reaches cfg first n call)
      (turn : cfg.turn call.context = .offer offer.ch offer.context)
      (made : (cfg.dispatch offer).result = .ok token) :
      Reaches cfg first (n + 1)
        ⟨(cfg.dispatch offer).context, call.tokens.push token, call.log ++ (cfg.dispatch offer).log⟩

section Reached

variable {cfg : Config σ} {n : Nat} {first call : Call σ} {offers : List (Offer σ)}
  {report : Report σ}

theorem Reaches.leadsTo (reached : cfg.Reaches first n call) : cfg.LeadsTo n first call := by
  induction reached with
  | start => exact .refl first
  | step _ turn made ih =>
    intro offers report run
    obtain ⟨all, whole, length⟩ := ih _ _ (.next turn made run)
    refine ⟨all, whole, ?_⟩
    rw [length, List.length_cons]
    omega

/-- A failure other than a loop is that of a dispatch which the call has come to. -/
theorem Run.failed_dispatch (run : cfg.Run offers call report) (reached : cfg.Reaches first n call)
    {error : Error} (failed : report.result = .error error) (found : ∀ p, error ≠ .loop p) :
    ∃ n last, ∃ offer : Offer σ, cfg.Reaches first n last ∧
      cfg.turn last.context = .offer offer.ch offer.context ∧
      (cfg.dispatch offer).result = .error error := by
  induction run generalizing n with
  | finish => cases failed
  | giveUp =>
    cases failed
    exact absurd rfl (found _)
  | fail turn bad =>
    obtain rfl := Except.error.inj failed
    exact ⟨n, _, _, reached, turn, bad⟩
  | next turn made _ ih => exact ih (reached.step turn made) failed

/-- The first tokens of a call that succeeds are those that it has made at some point. -/
theorem Run.reaches_take (run : cfg.Run offers call report) (reached : cfg.Reaches first n call)
    {tokens : List Token} (ok : report.result = .ok tokens) :
    call.tokens.toList <+: tokens ∧ ∀ m, call.tokens.size ≤ m → m ≤ tokens.length →
      ∃ n last, cfg.Reaches first n last ∧ last.tokens.toList = tokens.take m := by
  induction run generalizing n with
  | @finish call _ turn =>
    obtain rfl : call.tokens.toList = tokens := Except.ok.inj ok
    refine ⟨List.prefix_rfl, fun m least most => ⟨n, call, reached, ?_⟩⟩
    rw [List.take_of_length_le]
    rwa [Array.length_toList]
  | giveUp => cases ok
  | fail => cases ok
  | @next call _ token _ _ turn made _ ih =>
    obtain ⟨starts, later⟩ := ih (reached.step turn made) ok
    rw [Array.toList_push] at starts
    have before : call.tokens.toList <+: tokens := (List.prefix_append _ _).trans starts
    refine ⟨before, fun m least most => ?_⟩
    rcases Nat.lt_or_eq_of_le least with more | rfl
    · exact later m (by rw [Array.size_push]; exact more) most
    · refine ⟨n, call, reached, ?_⟩
      rw [← Array.length_toList]
      exact List.prefix_iff_eq_take.mp before

end Reached

/-- An induction over the dispatches of a call that succeeds, last one first.  `P ctx tokens` is to
say that the call gives `tokens` from `ctx` on. -/
theorem proceed_ok {cfg : Config σ} {P : Context σ → List Token → Prop}
    (finish : ∀ ctx there, cfg.turn ctx = .finish there → P ctx [])
    (step : ∀ ctx (offer : Offer σ) token tokens, cfg.turn ctx = .offer offer.ch offer.context →
      (cfg.dispatch offer).result = .ok token → P (cfg.dispatch offer).context tokens →
      P ctx (token :: tokens))
    {budget : Nat} {call : Call σ} {all : List Token}
    (ok : (cfg.proceed budget call).result = .ok all) :
    ∃ tokens, all = call.tokens.toList ++ tokens ∧ P call.context tokens := by
  induction budget generalizing call with
  | zero =>
    rw [proceed] at ok
    split at ok
    · rename_i context turn
      obtain rfl := Except.ok.inj ok
      exact ⟨[], by simp, finish _ _ turn⟩
    · cases ok
    · cases ok
  | succ budget ih =>
    rw [proceed] at ok
    split at ok
    · rename_i context turn
      obtain rfl := Except.ok.inj ok
      exact ⟨[], by simp, finish _ _ turn⟩
    · cases ok
    · rename_i ch context turn
      dsimp only at ok
      split at ok
      · rename_i token made
        obtain ⟨tokens, rfl, rest⟩ := ih ok
        exact ⟨token :: tokens, by simp, step _ ⟨ch, context⟩ token tokens turn made rest⟩
      · cases ok

theorem lexProbed_ok {cfg : Config σ} {P : Context σ → List Token → Prop}
    (finish : ∀ ctx there, cfg.turn ctx = .finish there → P ctx [])
    (step : ∀ ctx (offer : Offer σ) token tokens, cfg.turn ctx = .offer offer.ch offer.context →
      (cfg.dispatch offer).result = .ok token → P (cfg.dispatch offer).context tokens →
      P ctx (token :: tokens))
    {memory : σ} {probe : Probe} {input : String} {tokens : List Token}
    (ok : (cfg.lexProbed memory probe input).result = .ok tokens) :
    P (cfg.context memory input probe) tokens := by
  obtain ⟨_, rfl, all⟩ := proceed_ok finish step ok
  exact all

end Config

end FirstMatch.Lexing
