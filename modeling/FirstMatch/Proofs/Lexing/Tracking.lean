import FirstMatch.Proofs.Lexing.Bracket

/-! The positions that a cursor keeps track of are those derived from the text, however the cursor
is moved.  So are the positions of every token that rules start and end where they come by. -/

namespace FirstMatch

/-- A position of `input`: it lies between two characters, and its line and column are derived from
the index it lies at. -/
structure Position.Lawful (input : String) (p : Position) : Prop where
  bound : p.offset ≤ input.utf8ByteSize
  boundary : String.Pos.Raw.IsValid input ⟨p.offset⟩
  derived : ∀ j ≤ input.length, p.offset = byteLength (input.toList.take j) →
    p = .derived input.toList j

theorem Position.lawful_derived {input : String} {j : Nat} (bound : j ≤ input.length) :
    (Position.derived input.toList j).Lawful input := by
  refine ⟨?_, ?_, ?_⟩
  · rw [← byteLength_toList]
    exact byteLength_take_le _ _
  · exact isValid_iff_exists_take.mpr ⟨j, bound, rfl⟩
  · intro i inside same
    rw [byteLength_take_inj bound inside same]

namespace Lexing

variable {σ : Type}

/-- There are moves from one context to the other. -/
def Context.Reaches (ctx there : Context σ) : Prop :=
  ∃ moves, there.cursor = ctx.cursor.after moves

/-- A rule that moves the cursor as it likes, and starts and ends its tokens where it comes by. -/
def Rule.Brackets (rule : Rule σ) : Prop :=
  ∀ ch ctx, ctx.Reaches (rule.run ch ctx).2 ∧
    ∀ token, (rule.run ch ctx).1 = .ok token →
      ∃ opened closed kind, ctx.Reaches opened ∧ ctx.Reaches closed ∧
        token = closed.endToken (opened.startToken kind)

theorem Context.Reaches.within {text : List Char} {ctx there : Context σ}
    (reaches : ctx.Reaches there) (within : ctx.cursor.Within text) :
    there.cursor.Within text := by
  obtain ⟨moves, moved⟩ := reaches
  rw [moved]
  exact within.after moves

/-- Undoing a decline stays within the text. -/
theorem Rule.Brackets.within_back {text : List Char} {rule : Rule σ} (brackets : rule.Brackets)
    {ch : Char} {ctx out back : Context σ} (within : ctx.cursor.Within text)
    {result : Except Refusal Token} {found : Option Char} (ran : rule.run ch ctx = (result, out))
    (rewound : out.look.2.undo = (found, back)) : back.cursor.Within text := by
  have moved := (brackets ch ctx).1.within within
  rw [ran] at moved
  have undone := moved.look.undo
  change out.look.2.undo.2.cursor.Within text at undone
  rw [rewound] at undone
  exact undone

/-- A token that passes the checks covers a stretch of the text. -/
theorem Rule.Brackets.token_covering {text : List Char} {rule : Rule σ} (brackets : rule.Brackets)
    {ch : Char} {ctx : Context σ} (within : ctx.cursor.Within text) {token : Token}
    (made : (rule.run ch ctx).1 = .ok token) (covers : token.start.offset < token.stop.offset) :
    ∃ i k kind, i < k ∧ k ≤ text.length ∧ token = .covering text i k kind := by
  obtain ⟨opened, closed, kind, reachesOpened, reachesClosed, rfl⟩ := (brackets ch ctx).2 token made
  obtain ⟨i, startBound, start⟩ := (reachesOpened.within within).here
  obtain ⟨k, stopBound, stop⟩ := (reachesClosed.within within).here
  have began : (closed.endToken (opened.startToken kind)).start = .derived text i := by
    simp [Context.endToken, Context.startToken, Context.position, Cursor.position, start]
  have ended : (closed.endToken (opened.startToken kind)).stop = .derived text k := by
    simp [Context.endToken, Context.position, Cursor.position, stop]
  have ordered : i < k := by
    by_contra behind
    rw [began, ended, Position.offset_derived, Position.offset_derived] at covers
    rcases Nat.lt_or_eq_of_le (Nat.not_lt.mp behind) with less | rfl
    · exact absurd (byteLength_take_lt less startBound) (Nat.not_lt.mpr covers.le)
    · exact absurd covers (Nat.lt_irrefl _)
  exact ⟨i, k, _, ordered, stopBound, Context.endToken_startToken start stop ordered.le kind⟩

/-- Every token of a call covers a stretch of the text. -/
theorem lexProbed_covering {cfg : Config σ} (brackets : ∀ rule ∈ cfg.rules, rule.Brackets)
    {memory : σ} {probe : Probe} {input : String} {tokens : List Token}
    (ok : (cfg.lexProbed memory probe input).result = .ok tokens) :
    ∀ token ∈ tokens, ∃ i k kind, i < k ∧ k ≤ input.toList.length ∧
      token = .covering input.toList i k kind := by
  let P : Context σ → List Token → Prop := fun ctx tokens =>
    ctx.cursor.Within input.toList → ∀ token ∈ tokens, ∃ i k kind, i < k ∧
      k ≤ input.toList.length ∧ token = .covering input.toList i k kind
  suffices P (cfg.context memory input probe) tokens from this (.ofText input probe)
  refine Config.lexProbed_ok (fun _ _ _ _ token none => nomatch none) ?_ ok
  intro ctx offer token tokens turn made later within
  obtain ⟨⟨n, offered⟩, -⟩ := Config.turn_offer turn
  have begins : offer.context.cursor.Within input.toList := by
    rw [offered]
    exact within.look.skip n
  obtain ⟨rule, on, started, out, tries, ran, ended, checked⟩ := dispatch_ok made
  have member := tries.mem
  have starts : started.cursor.Within input.toList := by
    refine tries.invariant (P := fun _ ctx => ctx.cursor.Within input.toList) ?_ begins
    intro rule member ch ctx message position out found back within ran _ rewound
    exact (brackets rule member).within_back within ran rewound
  have ends : (cfg.dispatch offer).context.cursor.Within input.toList := by
    have moved := (brackets rule member on started).1.within starts
    rw [ran] at moved
    rw [Config.dispatch, ended]
    exact moved.look
  intro other member'
  rcases List.mem_cons.mp member' with rfl | rest
  · have covers := (checkToken_eq_ok.mp checked).2.2.1
    exact (brackets rule member).token_covering starts (by rw [ran]) covers
  · exact later ends other rest

/-- Tracked positions are derived positions: for a cursor after any moves, and for every token of a
call whose rules start and end their tokens where they come by. -/
theorem tracked_positions_lawful (input : String) :
    (∀ (probe : Probe) (moves : List Move),
      ((Cursor.ofText input probe).after moves).position.Lawful input ∧
        (((Cursor.ofText input probe).after moves).previous = .unknown ∨
          ((Cursor.ofText input probe).after moves).previous.Lawful input)) ∧
    ∀ (cfg : Config σ) (memory : σ) (probe : Probe) (tokens : List Token),
      (∀ rule ∈ cfg.rules, rule.Brackets) →
      (cfg.lexProbed memory probe input).result = .ok tokens →
      ∀ token ∈ tokens, token.start.Lawful input ∧ token.stop.Lawful input ∧
        token.literal.toUTF8 =
          input.toUTF8.extract token.start.offset token.stop.offset := by
  refine ⟨fun probe moves => ?_, fun cfg memory probe tokens brackets ok token member => ?_⟩
  · have within := (Cursor.Within.ofText input probe).after moves
    constructor
    · obtain ⟨j, bound, position, -⟩ := within.position
      rw [position]
      exact Position.lawful_derived bound
    · rcases within.previous with none | ⟨i, bound, previous⟩
      · exact .inl none
      · rw [previous]
        exact .inr (Position.lawful_derived bound)
  · obtain ⟨i, k, kind, ordered, bound, rfl⟩ := lexProbed_covering brackets ok token member
    have start : i ≤ input.length := ordered.le.trans bound
    refine ⟨Position.lawful_derived start, Position.lawful_derived bound, ?_⟩
    have bytes := Token.toUTF8_covering input.toList kind ordered.le
    rw [String.ofList_toList] at bytes
    exact bytes

/-- A rule that takes one character: it steps past it, back, and past it again. -/
def restep : Rule Unit where
  name := "Restep"
  accepts _ := true
  run _ ctx :=
    let there := ctx.next.2.undo.2.next.2
    (.ok (there.endToken (ctx.startToken .ident)), there)

theorem restep_brackets : restep.Brackets := by
  intro ch ctx
  refine ⟨⟨[.next, .undo, .next], rfl⟩, ?_⟩
  intro token made
  obtain rfl := Except.ok.inj made
  exact ⟨ctx, _, .ident, ⟨[], rfl⟩, ⟨[.next, .undo, .next], rfl⟩, rfl⟩

/-- Two characters of different widths, the second of them a line break. -/
theorem tracked_positions_lawful_restep :
    (∀ rule ∈ [restep], rule.Brackets) ∧
    (Config.lexProbed { rules := [restep] } () {} "é\n").result =
      .ok [⟨.ident, ⟨1, 1, 0⟩, ⟨2, 1, 2⟩, "é"⟩, ⟨.ident, ⟨2, 1, 2⟩, ⟨2, 2, 3⟩, "\n"⟩] ∧
    ∀ token ∈ [(⟨.ident, ⟨1, 1, 0⟩, ⟨2, 1, 2⟩, "é"⟩ : Token),
        ⟨.ident, ⟨2, 1, 2⟩, ⟨2, 2, 3⟩, "\n"⟩],
      token.start.Lawful "é\n" ∧ token.stop.Lawful "é\n" ∧
        token.literal.toUTF8 =
          "é\n".toUTF8.extract token.start.offset token.stop.offset := by
  have brackets : ∀ rule ∈ [restep], rule.Brackets := by
    intro rule member
    rw [List.mem_singleton.mp member]
    exact restep_brackets
  have lexed : (Config.lexProbed { rules := [restep] } () {} "é\n").result =
      .ok [⟨.ident, ⟨1, 1, 0⟩, ⟨2, 1, 2⟩, "é"⟩, ⟨.ident, ⟨2, 1, 2⟩, ⟨2, 2, 3⟩, "\n"⟩] := by
    decide +kernel
  exact ⟨brackets, lexed, (tracked_positions_lawful "é\n").2 _ () {} _ brackets lexed⟩

end Lexing

end FirstMatch
