import FirstMatch.Proofs.Lexing.Lossless
import Mathlib.Data.List.Forall2

/-! Lexing further on in a text.  The built-in rules look at nothing but the text ahead of the
cursor, so behind other text they do what they would do without it, only further on: tokens and
failures are the same, with their offsets shifted by the length of what stands before. -/

namespace FirstMatch

namespace Cursor

variable {c other : Cursor} {α : Type}

/-- Two cursors that nobody cancels, with the same text ahead of them. -/
structure Abreast (c other : Cursor) : Prop where
  ahead : other.here.ahead = c.here.ahead
  silent : c.probe.alarm = .silent
  silentToo : other.probe.alarm = .silent

namespace Abreast

theorem next (h : c.Abreast other) : other.next.1 = c.next.1 ∧ c.next.2.Abreast other.next.2 := by
  have quiet : c.probe.look = (false, c.probe) := by simp [Probe.look, h.silent]
  have quietToo : other.probe.look = (false, other.probe) := by simp [Probe.look, h.silentToo]
  have ends : other.atEnd = c.atEnd := by rw [atEnd, h.ahead, atEnd]
  have onto : other.here.step.ahead = c.here.step.ahead := by
    rw [Place.ahead_step, h.ahead, Place.ahead_step]
  rw [Cursor.next, Cursor.next, quiet, quietToo, ends]
  cases c.atEnd with
  | true => exact ⟨rfl, h⟩
  | false => exact ⟨congrArg List.head? onto, onto, h.silent, h.silentToo⟩

/-- Scans take the same steps, for the same reasons. -/
theorem scanAlong (f : α → Char → Option α) (along : List Char) (s : α) (h : c.Abreast other) :
    ∃ n, (scanAlong f along s c).cursor = c.skip n ∧
      (scanAlong f along s other).cursor = other.skip n ∧
      (scanAlong f along s other).state = (scanAlong f along s c).state ∧
      (scanAlong f along s other).stopper = (scanAlong f along s c).stopper := by
  induction along generalizing s c other with
  | nil => exact ⟨1, rfl, rfl, rfl, rfl⟩
  | cons _ rest ih =>
    have stepped := h.next
    obtain ⟨_, moved, step⟩ : ∃ found moved, c.next = (found, moved) := ⟨_, _, rfl⟩
    obtain ⟨found, movedToo, stepToo⟩ : ∃ found moved, other.next = (found, moved) := ⟨_, _, rfl⟩
    rw [step, stepToo] at stepped
    obtain ⟨same, abreast⟩ := stepped
    obtain rfl : found = _ := same
    rw [Cursor.scanAlong, Cursor.scanAlong, step, stepToo]
    have one : moved = c.skip 1 := (congrArg Prod.snd step).symm
    have oneToo : movedToo = other.skip 1 := (congrArg Prod.snd stepToo).symm
    cases found with
    | none => exact ⟨1, one, oneToo, rfl, rfl⟩
    | some ch =>
      cases goes : f s ch with
      | none =>
        simp only [goes]
        exact ⟨1, one, oneToo, trivial, trivial⟩
      | some s' =>
        simp only [goes]
        obtain ⟨n, cursor, cursorToo, ends⟩ := ih s' abreast
        refine ⟨1 + n, ?_, ?_, ends⟩
        · rw [cursor, one, skip_add]
        · rw [cursorToo, oneToo, skip_add]

theorem scan (f : α → Char → Option α) (s : α) (h : c.Abreast other) :
    ∃ n, (c.scan f s).cursor = c.skip n ∧ (other.scan f s).cursor = other.skip n ∧
      (other.scan f s).state = (c.scan f s).state ∧
      (other.scan f s).stopper = (c.scan f s).stopper := by
  rw [Cursor.scan, Cursor.scan, h.ahead]
  exact h.scanAlong f _ s

theorem stepWhile (p : Char → Bool) (h : c.Abreast other) :
    ∃ n, c.stepWhile p = c.skip n ∧ other.stepWhile p = other.skip n := by
  obtain ⟨n, cursor, cursorToo, -⟩ := h.scan (fun _ ch => if p ch then some () else none) ()
  exact ⟨n, cursor, cursorToo⟩

end Abreast

end Cursor

theorem byteLength_take_add (before text : List Char) (j : Nat) :
    byteLength ((before ++ text).take (before.length + j)) =
      byteLength (text.take j) + byteLength before := by
  rw [List.take_length_add_append, byteLength_append, Nat.add_comm]

/-- The same token `n` bytes further on. -/
structure Token.ShiftedBy (n : Nat) (token moved : Token) : Prop where
  kind : moved.kind = token.kind
  literal : moved.literal = token.literal
  start : moved.start.offset = token.start.offset + n
  stop : moved.stop.offset = token.stop.offset + n

theorem Token.shiftedBy_covering (before text : List Char) (i k : Nat) (kind : Kind) :
    (covering text i k kind).ShiftedBy (byteLength before)
      (covering (before ++ text) (before.length + i) (before.length + k) kind) where
  kind := rfl
  literal := by
    simp only [covering]
    rw [List.take_length_add_append, List.drop_length_add_append]
  start := byteLength_take_add before text i
  stop := byteLength_take_add before text k

namespace Lexing

open Text

variable {σ : Type}

/-! ### Built-in rules -/

/-- Two contexts with the same text ahead and the same symbols. -/
structure Context.Abreast (ctx other : Context σ) : Prop where
  cursor : ctx.cursor.Abreast other.cursor
  symbols : other.symbols = ctx.symbols

/-- From `ctx` and `other`, the same number of steps and then the same failure, or a token of the
same kind; or one step and the same decline. -/
inductive Alike (ctx other : Context σ) : Outcome σ → Outcome σ → Prop
  | fail (n : Nat) (message : String) :
      Alike ctx other ((ctx.move (·.skip n)).fail message) ((other.move (·.skip n)).fail message)
  | decline (message : String) :
      Alike ctx other ((ctx.move (·.skip 1)).decline message)
        ((other.move (·.skip 1)).decline message)
  | accept (n : Nat) (kind : Kind) :
      Alike ctx other ((ctx.move (·.skip n)).accept (ctx.startToken kind))
        ((other.move (·.skip n)).accept (other.startToken kind))

namespace Builtin

variable (ch : Char) {ctx other : Context σ} (h : ctx.Abreast other)
include h

theorem identifierToken_alike :
    Alike ctx other (identifierToken ch ctx) (identifierToken ch other) := by
  unfold identifierToken
  dsimp only
  split
  · exact .decline _
  · split
    · obtain ⟨n, steps, stepsToo⟩ := h.cursor.stepWhile isLetterOrNumber
      rw [Context.move, Context.move, steps, stepsToo]
      exact .accept n .ident
    · exact .accept 0 .ident

theorem charToken_alike : Alike ctx other (charToken ctx) (charToken other) := by
  obtain ⟨first, inner⟩ := h.cursor.next
  obtain ⟨second, -⟩ := inner.next
  have one : ctx.next = (ctx.cursor.next.1, ctx.move (·.skip 1)) := rfl
  have oneToo : other.next = (ctx.cursor.next.1, other.move (·.skip 1)) := by
    rw [← first]
    rfl
  have two : (ctx.move (·.skip 1)).next = (ctx.cursor.next.2.next.1, ctx.move (·.skip 2)) := rfl
  have twoToo : (other.move (·.skip 1)).next =
      (ctx.cursor.next.2.next.1, other.move (·.skip 2)) := by
    rw [← second]
    rfl
  unfold charToken
  rw [one, oneToo]
  cases ctx.cursor.next.1 with
  | none => exact .fail 1 _
  | some ch =>
    dsimp only
    split
    · exact .fail 1 _
    · rw [two, twoToo]
      cases ctx.cursor.next.2.next.1 with
      | none => exact .fail 2 _
      | some ch =>
        dsimp only
        split
        · exact .accept 3 .char
        · exact .fail 2 _

theorem stringToken_alike : Alike ctx other (stringToken ctx) (stringToken other) := by
  obtain ⟨n, steps, stepsToo, -, stopper⟩ := h.cursor.scan stringStep false
  unfold stringToken
  dsimp only
  rw [steps, stepsToo, stopper]
  split
  · exact .fail n _
  · split
    · exact .fail n _
    · have more : Alike ctx other _ _ := .accept (n + 1) .string
      rw [← ctx.next_move_skip n, ← other.next_move_skip n] at more
      exact more

theorem rawStringToken_alike : Alike ctx other (rawStringToken ctx) (rawStringToken other) := by
  obtain ⟨n, steps, stepsToo, -, stopper⟩ :=
    h.cursor.scan (fun _ ch => if isBackQuote ch then none else some ()) ()
  unfold rawStringToken
  dsimp only
  rw [steps, stepsToo, stopper]
  split
  · exact .fail n _
  · have more : Alike ctx other _ _ := .accept (n + 1) .string
    rw [← ctx.next_move_skip n, ← other.next_move_skip n] at more
    exact more

theorem numberToken_alike : Alike ctx other (numberToken ch ctx) (numberToken ch other) := by
  obtain ⟨n, steps, stepsToo, state, -⟩ := h.cursor.scan numberStep .number
  unfold numberToken
  dsimp only
  split
  · rw [steps, stepsToo, state]
    exact .accept n _
  · exact .accept 0 .number

theorem operatorToken_alike : Alike ctx other (operatorToken ch ctx) (operatorToken ch other) := by
  unfold operatorToken
  rw [h.symbols, h.cursor.ahead]
  split
  · exact .fail 0 _
  · exact .accept _ _

theorem whitespaceToken_alike :
    Alike ctx other (whitespaceToken ch ctx) (whitespaceToken ch other) := by
  unfold whitespaceToken
  dsimp only
  split
  · obtain ⟨n, steps, stepsToo⟩ := h.cursor.stepWhile isWhitespace
    rw [Context.move, Context.move, steps, stepsToo]
    exact .accept n .whitespace
  · exact .accept 0 .whitespace

theorem run_alike (b : Builtin) : Alike ctx other (b.run ch ctx) (b.run ch other) := by
  cases b with
  | identifier => exact identifierToken_alike ch h
  | charLiteral => exact charToken_alike h
  | string => exact stringToken_alike h
  | rawString => exact rawStringToken_alike h
  | number => exact numberToken_alike ch h
  | operator => exact operatorToken_alike ch h
  | whitespace => exact whitespaceToken_alike ch h

end Builtin

/-! ### Places further on -/

/-- The same failure `n` bytes further on. -/
inductive Error.ShiftedBy (n : Nat) : Error → Error → Prop
  | refused {rule message p q} (shifted : q.offset = p.offset + n) :
      ShiftedBy n (.refused rule (.fail message p)) (.refused rule (.fail message q))
  | unbounded {rule p q} (shifted : q.offset = p.offset + n) :
      ShiftedBy n (.unbounded rule p) (.unbounded rule q)
  | empty {rule p q} (shifted : q.offset = p.offset + n) :
      ShiftedBy n (.empty rule p) (.empty rule q)
  | illegal {span moved literal} (start : moved.start.offset = span.start.offset + n)
      (stop : moved.stop.offset = span.stop.offset + n) :
      ShiftedBy n (.illegal span literal) (.illegal moved literal)
  | noMatch {ch p q} (shifted : q.offset = p.offset + n) :
      ShiftedBy n (.noMatch ch p) (.noMatch ch q)
  | loop {p q} (shifted : q.offset = p.offset + n) : ShiftedBy n (.loop p) (.loop q)

theorem gapEnd_append (before text : List Char) (cfg : Config σ) (j : Nat) :
    cfg.gapEnd (before ++ text) (before.length + j) = before.length + cfg.gapEnd text j := by
  unfold Config.gapEnd
  rw [List.drop_length_add_append]
  split
  · rw [Nat.add_assoc]
  · rfl

/-- `ctx` is on index `j` of `text`, and `other` is where this index comes to be behind `before`. -/
structure Context.Displaced (before text : List Char) (j : Nat) (ctx other : Context σ) : Prop where
  here : ctx.cursor.At text j
  there : other.cursor.At (before ++ text) (before.length + j)
  symbols : other.symbols = ctx.symbols

namespace Context.Displaced

variable {before text : List Char} {j : Nat} {ctx other : Context σ}

theorem abreast (h : ctx.Displaced before text j other) : ctx.Abreast other := by
  refine ⟨⟨?_, h.here.silent, h.there.silent⟩, h.symbols⟩
  rw [h.here.here, h.there.here, Place.ahead_nth, Place.ahead_nth, List.drop_length_add_append]

theorem offset_eq (h : ctx.Displaced before text j other) :
    other.position.offset = ctx.position.offset + byteLength before := by
  rw [position, h.there.position, position, h.here.position]
  exact byteLength_take_add before text j

theorem skip (h : ctx.Displaced before text j other) (n : Nat) :
    (ctx.move (·.skip n)).Displaced before text (min (j + n) text.length)
      (other.move (·.skip n)) := by
  refine ⟨h.here.skip n, ?_, h.symbols⟩
  have there := h.there.skip n
  rw [List.length_append, Nat.add_assoc, Nat.add_min_add_left] at there
  exact there

/-- The tokens made in both places cover the same stretch and get the same kind. -/
theorem endToken {k : Nat} {out outToo : Context σ} (h : ctx.Displaced before text j other)
    (left : out.Displaced before text k outToo) (ordered : j ≤ k) (kind : Kind) :
    ∃ given, out.endToken (ctx.startToken kind) = .covering text j k given ∧
      outToo.endToken (other.startToken kind) =
        .covering (before ++ text) (before.length + j) (before.length + k) given := by
  refine ⟨_, Context.endToken_startToken h.here.here left.here.here ordered kind, ?_⟩
  rw [Context.endToken_startToken h.there.here left.there.here (by omega), classify, left.symbols,
    List.take_length_add_append, List.drop_length_add_append]
  rfl

end Context.Displaced

/-! ### Dispatches and calls -/

/-- Both dispatches make a token, or both fail, the second further on than the first. -/
inductive Dispatch.Displaced (before text : List Char) (d other : Dispatch σ) : Prop
  | made {k token moved} (ok : d.result = .ok token) (okToo : other.result = .ok moved)
      (shifted : token.ShiftedBy (byteLength before) moved)
      (left : d.context.Displaced before text k other.context)
  | failed {error moved} (bad : d.result = .error error) (badToo : other.result = .error moved)
      (shifted : error.ShiftedBy (byteLength before) moved)

section Dispatches

variable {before text : List Char} {j : Nat} {ctx other : Context σ}

theorem Dispatch.Displaced.after {d other : Dispatch σ} (h : d.Displaced before text other)
    (events : List Event) : (d.after events).Displaced before text (other.after events) := by
  cases h with
  | made ok okToo shifted left => exact .made ok okToo shifted left
  | failed bad badToo shifted => exact .failed bad badToo shifted

/-- The checks look at nothing that displacement changes. -/
theorem checkToken_displaced {token moved : Token} {k : Nat} {out outToo : Context σ}
    (shifted : token.ShiftedBy (byteLength before) moved) (valid : token.isValid = true)
    (validToo : moved.isValid = true) (left : out.Displaced before text k outToo) (rule : String)
    (p q : Position) :
    Dispatch.Displaced before text ⟨checkToken rule p token, out, []⟩
      ⟨checkToken rule q moved, outToo, []⟩ := by
  have covers : moved.stop.offset ≤ moved.start.offset ↔
      token.stop.offset ≤ token.start.offset := by
    rw [shifted.start, shifted.stop, Nat.add_le_add_iff_right]
  simp only [checkToken, valid, validToo, shifted.kind, Bool.not_true, Bool.false_eq_true, if_false]
  by_cases empty : token.stop.offset ≤ token.start.offset
  · rw [if_pos empty, if_pos (covers.mpr empty)]
    exact .failed rfl rfl (.empty shifted.start)
  · rw [if_neg empty, if_neg (empty ∘ covers.mp)]
    split
    · rw [shifted.literal]
      exact .failed rfl rfl (.illegal shifted.start shifted.stop)
    · exact .made rfl rfl shifted left

/-- Behind `before`, a dispatch ends as it does without, only further on.  The step that a rule
makes before it declines is undone in both. -/
theorem dispatch_displaced (watch : Watch) {rules : List (Rule σ)}
    (builtin : ∀ rule ∈ rules, rule.IsBuiltin) {ch : Char} (h : ctx.Displaced before text j other)
    (on : text[j]? = some ch) :
    (dispatch watch rules ch ctx).Displaced before text (dispatch watch rules ch other) := by
  induction rules generalizing ctx other with
  | nil => exact .failed rfl rfl (.noMatch h.offset_eq)
  | cons rule rest ih =>
    obtain ⟨first, later⟩ := List.forall_mem_cons.mp builtin
    cases accepts : rule.accepts ch with
    | false =>
      rw [dispatch_passed accepts, dispatch_passed accepts]
      exact (ih later h).after _
    | true =>
      have alike : Alike ctx other (rule.run ch ctx) (rule.run ch other) := by
        obtain ⟨b, name, _, rfl⟩ := first
        exact b.run_alike ch h.abreast
      generalize ran : rule.run ch ctx = outcome, ranToo : rule.run ch other = outcomeToo at alike
      cases alike with
      | fail n message =>
        have left := h.skip n
        have quiet := Context.look_at left.here
        have quietToo := Context.look_at left.there
        rw [dispatch_failed accepts ran (by rw [quiet]),
          dispatch_failed accepts ranToo (by rw [quietToo])]
        exact Dispatch.Displaced.after (.failed rfl rfl (.refused left.offset_eq)) _
      | decline message =>
        have onToo : other.On (before ++ text) (before.length + j) ch := by
          refine ⟨h.there, ?_⟩
          rw [List.getElem?_append_right (by omega), Nat.add_sub_cancel_left, on]
        obtain ⟨goesOn, back, rewound, here, kept⟩ := Context.On.undo_next ⟨h.here, on⟩
        obtain ⟨goesOnToo, backToo, rewoundToo, there, keptToo⟩ := onToo.undo_next
        rw [dispatch_declined accepts ran goesOn rewound,
          dispatch_declined accepts ranToo goesOnToo rewoundToo]
        have again : back.Displaced before text j backToo :=
          ⟨here.cursor, there.cursor, by rw [keptToo, h.symbols, kept]⟩
        exact ((ih later again).after _).after _
      | accept n kind =>
        have left := h.skip n
        have quiet := Context.look_at left.here
        have quietToo := Context.look_at left.there
        rw [dispatch_made accepts ran (by rw [quiet]),
          dispatch_made accepts ranToo (by rw [quietToo]), quiet, quietToo]
        have inside : j < text.length := (List.getElem?_eq_some_iff.mp on).1
        obtain ⟨given, token, moved⟩ := h.endToken left (by omega) kind
        rw [token, moved]
        exact (checkToken_displaced (Token.shiftedBy_covering before text _ _ given)
          (Token.isValid_covering ..) (Token.isValid_covering ..) left rule.name _ _).after _

end Dispatches

/-- What a call gives behind text whose tokens are `front`, against what it gives without. -/
inductive Behind (n : Nat) (front : List Token) :
    Except Error (List Token) → Except Error (List Token) → Prop
  | ok {tokens moved} (shifted : List.Forall₂ (Token.ShiftedBy n) tokens moved) :
      Behind n front (.ok tokens) (.ok (front ++ moved))
  | error {error moved} (shifted : error.ShiftedBy n moved) :
      Behind n front (.error error) (.error moved)

/-- `ctx` is in `text` and `other` in the same text behind `before`, and the next character that is
no gap is the same for both. -/
structure Config.Poised (cfg : Config σ) (before text : List Char) (j k : Nat)
    (ctx other : Context σ) : Prop where
  here : ctx.cursor.At text j
  there : other.cursor.At (before ++ text) k
  symbols : other.symbols = ctx.symbols
  gap : cfg.gapEnd (before ++ text) k = before.length + cfg.gapEnd text j

section Calls

variable {cfg : Config σ} {before text : List Char} {j k : Nat} {ctx other : Context σ}

theorem Context.Displaced.poised (h : ctx.Displaced before text j other) :
    cfg.Poised before text j (before.length + j) ctx other :=
  ⟨h.here, h.there, h.symbols, gapEnd_append before text cfg j⟩

theorem Config.Poised.turn_finish (h : cfg.Poised before text j k ctx other) {done : Context σ}
    (turn : cfg.turn ctx = .finish done) : cfg.turn other = .finish (cfg.skipGap other) := by
  have ended : (before ++ text)[cfg.gapEnd (before ++ text) k]? = none := by
    rw [h.gap, Config.turn_at_finish h.here turn, ← List.length_append, List.getElem?_length]
  rw [cfg.turn_at h.there, ended]

theorem Config.Poised.turn_offer (h : cfg.Poised before text j k ctx other) {offer : Offer σ}
    (turn : cfg.turn ctx = .offer offer.ch offer.context) :
    ∃ moved, cfg.turn other = .offer offer.ch moved ∧
      offer.context.Displaced before text (cfg.gapEnd text j) moved ∧
      text[cfg.gapEnd text j]? = some offer.ch := by
  obtain ⟨place, on⟩ := Config.turn_at_offer h.here turn
  have char : (before ++ text)[cfg.gapEnd (before ++ text) k]? = some offer.ch := by
    rw [h.gap, List.getElem?_append_right (by omega), Nat.add_sub_cancel_left, on.char]
  have turnToo := cfg.turn_at h.there
  rw [char] at turnToo
  have there : (cfg.skipGap other).cursor.At (before ++ text) _ := Config.skipGap_at h.there
  rw [h.gap] at there
  refine ⟨cfg.skipGap other, turnToo, ⟨on.cursor, there, ?_⟩, on.char⟩
  rw [symbols_skipGap, h.symbols, place, symbols_skipGap]

/-- A call on `text` alone is followed step by step by one behind `before`. -/
theorem exists_run_displaced (builtin : ∀ rule ∈ cfg.rules, rule.IsBuiltin)
    {front moved : List Token} {offers : List (Offer σ)} {call other : Call σ} {report : Report σ}
    (run : cfg.Run offers call report)
    (h : cfg.Poised before text j k call.context other.context)
    (tokens : other.tokens.toList = front ++ moved)
    (shifted : List.Forall₂ (Token.ShiftedBy (byteLength before)) call.tokens.toList moved) :
    ∃ offers' report', cfg.Run offers' other report' ∧ offers'.length = offers.length ∧
      Behind (byteLength before) front report.result report'.result := by
  induction run generalizing other moved j k with
  | finish turn =>
    refine ⟨[], _, .finish (h.turn_finish turn), rfl, ?_⟩
    have all : (Call.succeed { other with context := cfg.skipGap other.context }).result =
        .ok (front ++ moved) := congrArg Except.ok tokens
    rw [all]
    exact .ok shifted
  | giveUp turn =>
    rw [cfg.turn_at h.here] at turn
    split at turn
    · cases turn
    · cases turn
  | @fail call offer error turn failed =>
    obtain ⟨there, turnToo, displaced, on⟩ := h.turn_offer turn
    cases dispatch_displaced cfg.watch builtin displaced on with
    | made ok =>
      rw [Config.dispatch, ok] at failed
      cases failed
    | failed bad badToo shifted =>
      obtain rfl := Except.error.inj (bad.symm.trans failed)
      exact ⟨[⟨offer.ch, there⟩], _, .fail turnToo badToo, rfl, .error shifted⟩
  | @next call offer _ offers report turn ok later ih =>
    obtain ⟨there, turnToo, displaced, on⟩ := h.turn_offer turn
    cases dispatch_displaced cfg.watch builtin displaced on with
    | failed bad =>
      rw [Config.dispatch, bad] at ok
      cases ok
    | @made _ token tokenToo made madeToo same left =>
      obtain rfl := Except.ok.inj (made.symm.trans ok)
      let offer' : Offer σ := ⟨offer.ch, there⟩
      let other' : Call σ := ⟨(cfg.dispatch offer').context, other.tokens.push tokenToo,
        other.log ++ (cfg.dispatch offer').log⟩
      have tokens' : other'.tokens.toList = front ++ (moved ++ [tokenToo]) := by
        rw [Array.toList_push, tokens, List.append_assoc]
      have poised : cfg.Poised before text _ _ (cfg.dispatch offer).context other'.context :=
        left.poised
      have shifted' : List.Forall₂ (Token.ShiftedBy (byteLength before))
          (call.tokens.push token).toList (moved ++ [tokenToo]) := by
        rw [Array.toList_push]
        exact List.rel_append shifted (.cons same .nil)
      obtain ⟨offers', report', run', length, behind⟩ := ih poised tokens' shifted'
      refine ⟨offer' :: offers', report', .next turnToo madeToo run', ?_, behind⟩
      rw [List.length_cons, List.length_cons, length]

end Calls

end Lexing

end FirstMatch
