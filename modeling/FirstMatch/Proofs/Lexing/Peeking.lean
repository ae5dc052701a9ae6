import FirstMatch.Proofs.Lexing.Lossless

/-! Rules that peek: they decline without having moved.  After a decline, the dispatch undoes one
step all the same, and on any character but the first that is the step that led there.  The rules
that follow are then offered the character before, unless an earlier rule has declined by
stepping. -/

namespace FirstMatch

theorem Position.derived_ne_origin {text : List Char} {j : Nat} (inside : j < text.length) :
    derived text (j + 1) ≠ origin := by
  intro same
  rw [← derived_zero text] at same
  have first := byteLength_take_inj inside (Nat.zero_le _) (congrArg Position.offset same)
  cases first

theorem Token.head?_covering {text : List Char} {i k : Nat} (kind : Kind) (ordered : i < k) :
    (covering text i k kind).literal.toList.head? = text[i]? := by
  simp [covering, List.head?_drop, ordered]

end FirstMatch

namespace FirstMatch.Lexing

open Text

variable {σ : Type}

/-- A rule that declines at once and leaves everything as it was. -/
def Rule.Peeks (rule : Rule σ) : Prop :=
  ∀ ch ctx, ∃ message position, rule.run ch ctx = (.error (.decline message position), ctx)

/-- A character that `peek` accepts only if an earlier rule does, too. -/
def Guarded (before : List (Rule σ)) (peek : Rule σ) (ch : Char) : Prop :=
  peek.accepts ch = true → ∃ rule ∈ before, rule.accepts ch = true

/-! ### One dispatch -/

def Dispatch.outcome (d : Dispatch σ) : Except Error Token × Context σ := (d.result, d.context)

@[simp] theorem Dispatch.outcome_after (events : List Event) (d : Dispatch σ) :
    (d.after events).outcome = d.outcome := rfl

section Dispatches

variable {watch : Watch} {before after : List (Rule σ)} {peek : Rule σ} (peeks : peek.Peeks)
  {text : List Char} {j : Nat} {ch : Char} {ctx : Context σ}
include peeks

/-- Where there is nothing to undo, a peeking rule may as well not be there. -/
theorem dispatch_peek_settled (h : ctx.On text j ch) (settled : ctx.cursor.Settled) :
    (dispatch watch (peek :: after) ch ctx).outcome = (dispatch watch after ch ctx).outcome := by
  cases accepts : peek.accepts ch with
  | false => rw [dispatch_passed accepts, Dispatch.outcome_after]
  | true =>
    obtain ⟨message, position, ran⟩ := peeks ch ctx
    have quiet := Context.look_at h.cursor
    have rewound : ctx.look.2.undo = (some ch, ctx) := by
      have stays : ctx.cursor.undo = (some ch, ctx.cursor) := settled.trans (by
        rw [← h.current]
        rfl)
      simp only [quiet, Context.undo, stays]
    rw [dispatch_declined accepts ran (by rw [quiet]) rewound]
    simp only [Dispatch.outcome_after]

/-- Nor does it matter among rules of which an earlier one takes the character or declines it by a
step: undoing that step again finds the same character, and leaves the peeking rule nothing to
undo. -/
theorem dispatch_insert_peek (builtin : ∀ rule ∈ before, rule.IsBuiltin) (h : ctx.On text j ch)
    (harmless : ctx.cursor.Settled ∨ Guarded before peek ch) :
    (dispatch watch (before ++ peek :: after) ch ctx).outcome =
      (dispatch watch (before ++ after) ch ctx).outcome := by
  induction before generalizing ctx with
  | nil =>
    rcases harmless with settled | guarded
    · exact dispatch_peek_settled peeks h settled
    · have refuses : peek.accepts ch = false :=
        Bool.eq_false_iff.mpr fun accepts => nomatch guarded accepts
      rw [List.nil_append, dispatch_passed refuses, Dispatch.outcome_after, List.nil_append]
  | cons rule rest ih =>
    have rests := fun rule member => builtin rule (List.mem_cons_of_mem _ member)
    rw [List.cons_append, List.cons_append]
    cases accepts : rule.accepts ch with
    | false =>
      rw [dispatch_passed accepts, dispatch_passed accepts]
      simp only [Dispatch.outcome_after]
      refine ih rests h (harmless.imp_right fun guarded accepted => ?_)
      obtain ⟨other, member, matching⟩ := guarded accepted
      rcases List.mem_cons.mp member with rfl | member
      · rw [accepts] at matching
        cases matching
      · exact ⟨other, member, matching⟩
    | true =>
      obtain ⟨b, name, matcher, rfl⟩ := builtin rule List.mem_cons_self
      obtain ⟨outcome, ran⟩ : ∃ outcome, b.run ch ctx = outcome := ⟨_, rfl⟩
      have direct : Direct ctx outcome := ran ▸ b.run_direct ch ctx
      have quiet (n : Nat) : (ctx.move (·.skip n)).look.1 = false := by
        rw [Context.look_at (h.cursor.skip n)]
      cases direct with
      | fail n message =>
        rw [dispatch_failed accepts ran (quiet n), dispatch_failed accepts ran (quiet n)]
      | accept n kind =>
        rw [dispatch_made accepts ran (quiet n), dispatch_made accepts ran (quiet n)]
      | decline message =>
        obtain ⟨_, back, undone, there, _⟩ := h.undo_next
        have settled : back.cursor.Settled := by
          have moved : ctx.next.2.cursor.At text (j + 1) := h.cursor.next h.inside
          rw [Context.look_at moved] at undone
          have same : ctx.next.2.undo.2 = back := congrArg Prod.snd undone
          rw [← same]
          exact h.cursor.settled_undo_next h.inside
        rw [dispatch_declined accepts ran (quiet 1) undone,
          dispatch_declined accepts ran (quiet 1) undone]
        simp only [Dispatch.outcome_after]
        exact ih rests there (.inl settled)

/-- A peeking rule that is the first to accept a character sends the dispatch one character back. -/
theorem dispatch_peek_alone {i : Nat} (accepts : peek.accepts ch = true)
    (refuse : ∀ rule ∈ before, rule.accepts ch = false) (h : ctx.cursor.Arrived text (i + 1)) :
    ∃ found back, Context.On text i found back ∧
      (dispatch watch (before ++ peek :: after) ch ctx).outcome =
        (dispatch watch after found back).outcome := by
  induction before with
  | nil =>
    have inside : i < text.length := h.cursor.bound
    obtain ⟨message, position, ran⟩ := peeks ch ctx
    have quiet := Context.look_at h.cursor
    have char : text[i]? = some text[i] := List.getElem?_eq_getElem inside
    have rewound : ctx.look.2.undo = (some text[i], ctx.undo.2) := by
      rw [quiet]
      refine Prod.ext ?_ rfl
      simp [Context.undo, Cursor.undo, h.last, Cursor.placeBefore, char]
    refine ⟨text[i], ctx.undo.2, ⟨⟨?_, inside.le, ?_⟩, char⟩, ?_⟩
    · simp [Context.undo, Cursor.undo, h.last, Cursor.placeBefore]
    · simp [Context.undo, Cursor.undo, h.last, Cursor.placeBefore, Probe.record, h.cursor.silent]
    · rw [List.nil_append, dispatch_declined accepts ran (by rw [quiet]) rewound]
      simp only [Dispatch.outcome_after]
  | cons rule rest ih =>
    obtain ⟨first, later⟩ := List.forall_mem_cons.mp refuse
    obtain ⟨found, back, on, same⟩ := ih later
    refine ⟨found, back, on, ?_⟩
    rw [List.cons_append, dispatch_passed first, Dispatch.outcome_after]
    exact same

end Dispatches

/-- A dispatch of built-in rules that makes a token leaves the cursor by a step. -/
theorem dispatch_arrived {cfg : Config σ} (builtin : ∀ rule ∈ cfg.rules, rule.IsBuiltin)
    {text : List Char} {j : Nat} {offer : Offer σ} (h : offer.context.On text j offer.ch)
    {token : Token} (ok : (cfg.dispatch offer).result = .ok token) :
    ∃ k kind, j < k ∧ token = .covering text j k kind ∧
      (cfg.dispatch offer).context.cursor.Arrived text k := by
  obtain ⟨k, kind, ordered, covers, ends⟩ := dispatch_builtin builtin h ok
  obtain ⟨rule, on, started, out, tries, ran, ended, -⟩ := dispatch_ok ok
  have there := tries_same builtin h tries
  obtain ⟨n, moved⟩ := (run_direct builtin tries.mem on started).exists_skip
  rw [ran] at moved
  obtain rfl : out = _ := moved
  have left : (cfg.dispatch offer).context.cursor = started.cursor.skip n := by
    rw [Config.dispatch, ended, Context.look_at (there.cursor.skip n)]
    rfl
  rw [left] at ends ⊢
  exact ⟨k, kind, ordered, covers, there.cursor.arrived_skip ends ordered⟩

theorem Config.skipGap_arrived {cfg : Config σ} {ctx : Context σ} {text : List Char} {j : Nat}
    (h : ctx.cursor.Arrived text j) :
    (cfg.skipGap ctx).cursor.Arrived text (cfg.gapEnd text j) := by
  have there : (cfg.skipGap ctx).cursor.At text (cfg.gapEnd text j) := skipGap_at h.cursor
  obtain ⟨n, steps⟩ : ∃ n, (cfg.skipGap ctx).cursor = ctx.cursor.skip n := by
    rw [skipGap]
    split
    · exact ctx.cursor.skipWhile_cursor isWhitespace
    · exact ⟨0, rfl⟩
  rw [steps] at there ⊢
  exact h.skip there

theorem Config.turn_arrived (cfg : Config σ) {ctx : Context σ} {text : List Char} {j : Nat}
    (h : ctx.cursor.Arrived text j) :
    (∃ there, cfg.turn ctx = .finish there) ∨
      ∃ (offer : Offer σ) (k : Nat), cfg.turn ctx = .offer offer.ch offer.context ∧
        offer.context.cursor.Arrived text k ∧ text[k]? = some offer.ch := by
  have turn := cfg.turn_at h.cursor
  cases on : text[cfg.gapEnd text j]? with
  | none =>
    rw [on] at turn
    exact .inl ⟨_, turn⟩
  | some ch =>
    rw [on] at turn
    exact .inr ⟨⟨ch, cfg.skipGap ctx⟩, _, turn, skipGap_arrived h, on⟩

/-! ### Whole calls -/

/-- A token that a peeking rule does no harm to: it begins the input, or on a guarded character. -/
def Heeded (before : List (Rule σ)) (peek : Rule σ) (token : Token) : Prop :=
  token.start ≠ .origin →
    ∀ ch, token.literal.toList.head? = some ch → Guarded before peek ch

section Tokens

variable {before : List (Rule σ)} {peek : Rule σ} {text : List Char} {j k : Nat} {kind : Kind}

theorem heeded_first (k : Nat) (kind : Kind) : Heeded before peek (.covering text 0 k kind) :=
  fun later => absurd (Position.derived_zero text) later

theorem heeded_covering_iff {ch : Char} (on : text[j + 1]? = some ch) (ordered : j + 1 < k) :
    Heeded before peek (.covering text (j + 1) k kind) ↔ Guarded before peek ch := by
  have bound : j + 1 < text.length := (List.getElem?_eq_some_iff.mp on).1
  have later : (Token.covering text (j + 1) k kind).start ≠ .origin :=
    Position.derived_ne_origin (by omega)
  rw [Heeded, Token.head?_covering kind ordered, on]
  constructor
  · exact fun heeded => heeded later ch rfl
  · rintro guarded - _ ⟨⟩
    exact guarded

end Tokens

/-- How a call with a peeking rule compares with one without it. -/
inductive Compared (before : List (Rule σ)) (peek : Rule σ) (text : List Char) :
    Except Error (List Token) → Except Error (List Token) → Prop
  | done {tokens} (heeded : ∀ token ∈ tokens, Heeded before peek token) :
      Compared before peek text (.ok tokens) (.ok tokens)
  | failed {error} : Compared before peek text (.error error) (.error error)
  /-- The peeking rule was the first to accept a character other than that of the start. -/
  | astray {plain peeking j ch} (on : text[j + 1]? = some ch) (alone : ¬Guarded before peek ch)
      (apart : ∀ tokens, plain = .ok tokens →
        peeking ≠ .ok tokens ∧ ∃ token ∈ tokens, ¬Heeded before peek token) :
      Compared before peek text plain peeking

/-- A call that succeeds goes on with the token of its next dispatch. -/
theorem Config.proceed_offer {cfg : Config σ} {budget : Nat} {call : Call σ} {offer : Offer σ}
    {tokens : List Token} (ok : (cfg.proceed budget call).result = .ok tokens)
    (turn : cfg.turn call.context = .offer offer.ch offer.context) :
    ∃ token, (cfg.dispatch offer).result = .ok token ∧ tokens[call.tokens.size]? = some token := by
  cases budget with
  | zero =>
    rw [Config.proceed, turn] at ok
    cases ok
  | succ budget =>
    cases made : (cfg.dispatch offer).result with
    | error error =>
      rw [Config.proceed_failed made turn] at ok
      cases ok
    | ok token =>
      rw [Config.proceed_made made turn] at ok
      obtain ⟨rest, rfl, -⟩ := Config.proceed_ok (P := fun _ _ => True)
        (fun _ _ _ => trivial) (fun _ _ _ _ _ _ _ => trivial) ok
      refine ⟨token, rfl, ?_⟩
      simp

/-- The configuration with other rules in place of its own. -/
def Config.withRules (cfg : Config σ) (rules : List (Rule σ)) : Config σ := { cfg with rules }

theorem Config.turn_withRules (cfg : Config σ) (rules : List (Rule σ)) (ctx : Context σ) :
    (cfg.withRules rules).turn ctx = cfg.turn ctx := rfl

section Calls

variable (cfg : Config σ) {before after : List (Rule σ)} {peek : Rule σ} {text : List Char}
  (builtin : ∀ rule ∈ before ++ after, rule.IsBuiltin) (peeks : peek.Peeks)
include builtin peeks

/-- A dispatch that does not go astray is the same with the peeking rule as without. -/
theorem dispatch_guarded {j : Nat} {offer : Offer σ}
    (arrived : offer.context.cursor.Arrived text j) (on : text[j]? = some offer.ch)
    (guarded : ∀ i, j = i + 1 → Guarded before peek offer.ch) :
    ((cfg.withRules (before ++ peek :: after)).dispatch offer).outcome =
        ((cfg.withRules (before ++ after)).dispatch offer).outcome ∧
      ∀ token, ((cfg.withRules (before ++ after)).dispatch offer).result = .ok token →
        Heeded before peek token ∧ ∃ k,
          ((cfg.withRules (before ++ after)).dispatch offer).context.cursor.Arrived text k := by
  have builtins : ∀ rule ∈ (cfg.withRules (before ++ after)).rules, rule.IsBuiltin := builtin
  have builtinsBefore : ∀ rule ∈ before, rule.IsBuiltin :=
    fun rule member => builtin rule (List.mem_append_left _ member)
  constructor
  · refine dispatch_insert_peek peeks builtinsBefore ⟨arrived.cursor, on⟩ ?_
    cases j with
    | zero => exact .inl arrived.settled
    | succ i => exact .inr (guarded i rfl)
  · intro token made
    obtain ⟨k, kind, ordered, rfl, left⟩ := dispatch_arrived builtins ⟨arrived.cursor, on⟩ made
    refine ⟨?_, k, left⟩
    cases j with
    | zero => exact heeded_first k kind
    | succ i => exact (heeded_covering_iff on ordered).mpr (guarded i rfl)

variable {call other : Call σ} (tokens : other.tokens = call.tokens)
include tokens

/-- Once astray, a call does not find back: its next token begins one character before the one at
the same index of the other list. -/
theorem proceed_astray {i budget : Nat} {offer : Offer σ}
    (turn : cfg.turn call.context = .offer offer.ch offer.context)
    (turnOther : cfg.turn other.context = .offer offer.ch offer.context)
    (arrived : offer.context.cursor.Arrived text (i + 1)) (on : text[i + 1]? = some offer.ch)
    (alone : ¬Guarded before peek offer.ch) :
    Compared before peek text
      ((cfg.withRules (before ++ after)).proceed budget call).result
      ((cfg.withRules (before ++ peek :: after)).proceed budget other).result := by
  refine .astray on alone fun all plain => ?_
  obtain ⟨accepts, refuse⟩ : peek.accepts offer.ch = true ∧
      ∀ rule ∈ before, rule.accepts offer.ch = false := by
    simpa [Guarded] using alone
  obtain ⟨token, made, next⟩ := Config.proceed_offer plain turn
  have builtins : ∀ rule ∈ (cfg.withRules (before ++ after)).rules, rule.IsBuiltin := builtin
  obtain ⟨k, kind, ordered, rfl, -⟩ := dispatch_builtin builtins ⟨arrived.cursor, on⟩ made
  refine ⟨fun peeking => ?_, _, List.mem_of_getElem? next, ?_⟩
  · obtain ⟨early, madeEarly, nextEarly⟩ := Config.proceed_offer peeking turnOther
    obtain ⟨found, back, there, same⟩ := dispatch_peek_alone peeks accepts refuse arrived
    have madeLater : ((cfg.withRules after).dispatch ⟨found, back⟩).result = .ok early :=
      (congrArg Prod.fst same).symm.trans madeEarly
    have builtinsLater : ∀ rule ∈ (cfg.withRules after).rules, rule.IsBuiltin :=
      fun rule member => builtin rule (List.mem_append_right _ member)
    obtain ⟨l, kindEarly, -, rfl, -⟩ := dispatch_builtin builtinsLater there madeLater
    rw [tokens, next] at nextEarly
    have starts := congrArg (·.start.offset) (Option.some.inj nextEarly)
    have := byteLength_take_inj arrived.cursor.bound there.cursor.bound starts
    omega
  · rw [heeded_covering_iff on ordered]
    exact alone

/-- By induction on the budget: as long as no dispatch goes astray, the two calls are at the same
place with the same tokens, all of them heeded. -/
theorem proceed_compared {j budget : Nat} (contexts : other.context = call.context)
    (arrived : call.context.cursor.Arrived text j)
    (heeded : ∀ token ∈ call.tokens.toList, Heeded before peek token) :
    Compared before peek text
      ((cfg.withRules (before ++ after)).proceed budget call).result
      ((cfg.withRules (before ++ peek :: after)).proceed budget other).result := by
  induction budget generalizing call other j with
  | zero =>
    rcases cfg.turn_arrived arrived with ⟨_, turn⟩ | ⟨offer, k, turn, -, -⟩
    · rw [(cfg.withRules (before ++ after)).proceed_done turn,
        (cfg.withRules (before ++ peek :: after)).proceed_done (contexts ▸ turn), tokens]
      exact .done heeded
    · rw [Config.proceed, Config.proceed, contexts, Config.turn_withRules, Config.turn_withRules,
        turn]
      exact .failed
  | succ budget ih =>
    rcases cfg.turn_arrived arrived with ⟨_, turn⟩ | ⟨offer, k, turn, there, on⟩
    · rw [(cfg.withRules (before ++ after)).proceed_done turn,
        (cfg.withRules (before ++ peek :: after)).proceed_done (contexts ▸ turn), tokens]
      exact .done heeded
    · by_cases strays : ∃ i, k = i + 1 ∧ ¬Guarded before peek offer.ch
      · obtain ⟨i, rfl, alone⟩ := strays
        exact proceed_astray cfg builtin peeks tokens turn (contexts ▸ turn) there on alone
      · have guarded : ∀ i, k = i + 1 → Guarded before peek offer.ch := by
          intro i later
          by_contra alone
          exact strays ⟨i, later, alone⟩
        obtain ⟨same, further⟩ := dispatch_guarded cfg builtin peeks there on guarded
        obtain ⟨results, left⟩ := Prod.mk.inj same
        cases made : ((cfg.withRules (before ++ after)).dispatch offer).result with
        | error error =>
          rw [Config.proceed_failed made turn,
            Config.proceed_failed (results.trans made) (contexts ▸ turn)]
          exact .failed
        | ok token =>
          obtain ⟨heeds, l, arrives⟩ := further token made
          rw [Config.proceed_made made turn,
            Config.proceed_made (results.trans made) (contexts ▸ turn)]
          refine ih (congrArg (·.push token) tokens) left arrives ?_
          intro made member
          rw [Array.toList_push] at member
          rcases List.mem_append.mp member with old | new
          · exact heeded made old
          · rw [List.mem_singleton.mp new]
            exact heeds

end Calls

/-- A peeking rule goes unnoticed where no character but the first is one that it would be the first
to accept.  For an input without faults, that is to be asked of the characters that tokens begin
with, and of no others. -/
theorem lex_peeking (cfg : Config σ) {before after : List (Rule σ)} {peek : Rule σ}
    (builtin : ∀ rule ∈ before ++ after, rule.IsBuiltin) (peeks : peek.Peeks) (memory : σ)
    (input : String) :
    ((∀ ch ∈ input.toList.tail, Guarded before peek ch) →
      ((cfg.withRules (before ++ peek :: after)).lex memory input).result =
        ((cfg.withRules (before ++ after)).lex memory input).result) ∧
    ∀ tokens, ((cfg.withRules (before ++ after)).lex memory input).result = .ok tokens →
      (((cfg.withRules (before ++ peek :: after)).lex memory input).result = .ok tokens ↔
        ∀ token ∈ tokens, Heeded before peek token) := by
  have compared : Compared before peek input.toList
      ((cfg.withRules (before ++ after)).lex memory input).result
      ((cfg.withRules (before ++ peek :: after)).lex memory input).result :=
    proceed_compared cfg builtin peeks rfl rfl (.ofText input) (by simp)
  generalize ((cfg.withRules (before ++ after)).lex memory input).result = plain,
    ((cfg.withRules (before ++ peek :: after)).lex memory input).result = peeking at compared
  cases compared with
  | done heeded =>
    refine ⟨fun _ => rfl, ?_⟩
    rintro _ ⟨⟩
    exact ⟨fun _ => heeded, fun _ => rfl⟩
  | failed => exact ⟨fun _ => rfl, fun _ ok => nomatch ok⟩
  | @astray _ _ j ch on alone apart =>
    constructor
    · intro guarded
      have member : ch ∈ input.toList.tail := by
        rw [← List.drop_one]
        exact List.mem_of_getElem? (by rw [List.getElem?_drop, Nat.add_comm, on])
      exact absurd (guarded ch member) alone
    · intro tokens ok
      obtain ⟨differs, token, member, unheeded⟩ := apart tokens ok
      exact ⟨fun same => absurd same differs, fun all => absurd (all token member) unheeded⟩

/-- Declines whatever might begin a number. -/
def peeker : Rule Unit where
  name := "Peek"
  accepts := isNumber
  run := fun _ ctx => ctx.decline "only peeking"

theorem peeker_peeks : peeker.Peeks := fun _ _ => ⟨_, _, rfl⟩

def blanks : Config Unit where
  skipsWhitespace := true

/-- Words that begin with what `begins` accepts. -/
def words (begins : Char → Bool) : List (Rule Unit) := [Builtin.identifier.rule "Word" begins]

def numbers : List (Rule Unit) := [Builtin.number.rule "Number" isNumber]

theorem words_numbers_isBuiltin (begins : Char → Bool) :
    ∀ rule ∈ words begins ++ numbers, rule.IsBuiltin := by
  intro rule member
  rcases List.mem_cons.mp member with rfl | member
  · exact ⟨_, _, _, rfl⟩
  · rw [List.mem_singleton.mp member]
    exact ⟨_, _, _, rfl⟩

/-- Words that are offered numbers, too, decline them by a step, which is what the dispatch undoes
after the peeking rule as well. -/
theorem lex_peeking_words :
    (∀ rule ∈ words isLetterOrNumber ++ numbers, rule.IsBuiltin) ∧ peeker.Peeks ∧
    (∀ ch, Guarded (words isLetterOrNumber) peeker ch) ∧
    ((blanks.withRules (words isLetterOrNumber ++ peeker :: numbers)).lex () "a 1").result =
      .ok [⟨.ident, ⟨1, 1, 0⟩, ⟨1, 2, 1⟩, "a"⟩, ⟨.number, ⟨1, 3, 2⟩, ⟨1, 4, 3⟩, "1"⟩] := by
  have guarded : ∀ ch, Guarded (words isLetterOrNumber) peeker ch := by
    intro ch accepts
    have either : isLetterOrNumber ch = true := by
      have number : isNumber ch = true := accepts
      simp [isLetterOrNumber, number]
    exact ⟨_, List.mem_cons_self, either⟩
  have builtin := words_numbers_isBuiltin isLetterOrNumber
  have plain : ((blanks.withRules (words isLetterOrNumber ++ numbers)).lex () "a 1").result =
      .ok [⟨.ident, ⟨1, 1, 0⟩, ⟨1, 2, 1⟩, "a"⟩, ⟨.number, ⟨1, 3, 2⟩, ⟨1, 4, 3⟩, "1"⟩] := by
    decide +kernel
  refine ⟨builtin, peeker_peeks, guarded, ?_⟩
  rw [← plain]
  exact (lex_peeking blanks builtin peeker_peeks () "a 1").1 fun ch _ => guarded ch

/-- With words that only letters begin, the peeking rule is the first to accept the number, and the
dispatch goes back to the blank before it. -/
theorem peeking_noticed :
    (∀ rule ∈ words isLetter ++ numbers, rule.IsBuiltin) ∧ peeker.Peeks ∧
    ((blanks.withRules (words isLetter ++ numbers)).lex () "a 1").result =
      .ok [⟨.ident, ⟨1, 1, 0⟩, ⟨1, 2, 1⟩, "a"⟩, ⟨.number, ⟨1, 3, 2⟩, ⟨1, 4, 3⟩, "1"⟩] ∧
    ((blanks.withRules (words isLetter ++ peeker :: numbers)).lex () "a 1").result =
      .error (.noMatch ' ' ⟨1, 2, 1⟩) :=
  ⟨words_numbers_isBuiltin isLetter, peeker_peeks, by decide +kernel, by decide +kernel⟩

end FirstMatch.Lexing
