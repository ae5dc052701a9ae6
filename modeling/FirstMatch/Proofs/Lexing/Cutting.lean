import FirstMatch.Proofs.Lexing.Operators
import FirstMatch.Proofs.Lexing.Separation

/-! Lexing a text that is cut off.  Where a token ends within the beginning of a text, it is made
just the same without the rest: a scan that has stopped does not see what comes later, and the
longest operator stays the longest.  So a text that is lexed up to some place can be cut off there,
and the character that no rule is for is the first with which the text cannot be lexed. -/

namespace FirstMatch

/-! ### Scans in the front of a text -/

section Scans

variable {front back : List Char} {j k : Nat} {c other : Cursor} {α : Type}

theorem lt_length_append (back : List Char) (inside : j < front.length) :
    j < (front ++ back).length := by
  rw [List.length_append]
  omega

/-- A scan that ends within `front` ends in the same place, in the same state, without `back`. -/
theorem Cursor.At.scan_front (f : α → Char → Option α) (s : α) (h : c.At (front ++ back) j)
    (there : other.At front j) (inside : j < front.length)
    (left : (c.scan f s).cursor.At (front ++ back) k) (fits : k ≤ front.length) :
    (other.scan f s).cursor.At front k ∧ (other.scan f s).state = (c.scan f s).state := by
  obtain ⟨taken, longest, fold, stops⟩ := h.scan_longest f s (lt_length_append back inside)
  obtain ⟨takenToo, longestToo, foldToo, stopsToo⟩ := there.scan_longest f s inside
  obtain rfl := stops.index_eq left
  rw [List.drop_append_of_le_length inside] at longest
  have short : taken.length ≤ (front.drop (j + 1)).length := by
    rw [List.length_drop]
    omega
  obtain rfl := (longest.of_append short).unique longestToo
  exact ⟨stopsToo, Option.some.inj (foldToo.symm.trans fold)⟩

/-- If it stops before the end of `front`, it is also stopped by the same character. -/
theorem Cursor.At.stopper_front (f : α → Char → Option α) (s : α) (h : c.At (front ++ back) j)
    (there : other.At front j) (inside : j < front.length)
    (left : (c.scan f s).cursor.At (front ++ back) k) (before : k < front.length) :
    (other.scan f s).stopper = (c.scan f s).stopper := by
  obtain ⟨leftToo, -⟩ := h.scan_front f s there inside left before.le
  rw [there.scan_stopper f s inside, leftToo.current,
    h.scan_stopper f s (lt_length_append back inside), left.current,
    List.getElem?_append_left before]

end Scans

theorem Token.kept_covering {front : List Char} {j k : Nat} (back : List Char) (kind : Kind)
    (ordered : j < k) (fits : k ≤ front.length) :
    (covering front j k kind).Kept (byteLength front) (covering (front ++ back) j k kind) := by
  rw [covering, covering, List.take_append_of_le_length fits]
  exact kept_append back kind _ ordered fits

namespace Lexing

open Text

variable {σ : Type}

/-! ### Built-in rules -/

/-- `ctx` is on index `j` of a text that begins with `front`, and `other` on the same index of
`front` alone. -/
structure Context.CutOff (front back : List Char) (j : Nat) (ctx other : Context σ) : Prop where
  here : ctx.cursor.At (front ++ back) j
  there : other.cursor.At front j
  symbols : other.symbols = ctx.symbols

/-- What a rule does with the whole text from `ctx`, against what it does with `front` alone from
`other`.  A token that ends within `front` and a decline are the same in both. -/
inductive Spared (front back : List Char) (ctx other : Context σ) : Outcome σ → Outcome σ → Prop
  | fail {message position outcome} {out : Context σ} :
      Spared front back ctx other (.error (.fail message position), out) outcome
  | beyond {k kind outcome} {out : Context σ} (left : out.cursor.At (front ++ back) k)
      (past : front.length < k) :
      Spared front back ctx other (out.accept (ctx.startToken kind)) outcome
  | decline (message : String) :
      Spared front back ctx other ((ctx.move (·.skip 1)).decline message)
        ((other.move (·.skip 1)).decline message)
  | accept {k kind} {out outToo : Context σ} (left : out.CutOff front back k outToo) :
      Spared front back ctx other (out.accept (ctx.startToken kind))
        (outToo.accept (other.startToken kind))

namespace Builtin

variable {front back : List Char} {j : Nat} (ch : Char) {ctx other : Context σ}
  (h : ctx.CutOff front back j other) (inside : j < front.length)
include h inside

/-- A token that ends where a scan does. -/
theorem scan_spared {α : Type} (f : α → Char → Option α) (s : α) (kind : α → Kind) :
    Spared front back ctx other
      (Context.accept { ctx with cursor := (ctx.cursor.scan f s).cursor }
        (ctx.startToken (kind (ctx.cursor.scan f s).state)))
      (Context.accept { other with cursor := (other.cursor.scan f s).cursor }
        (other.startToken (kind (other.cursor.scan f s).state))) := by
  obtain ⟨taken, -, -, left, -⟩ := h.here.scan f s (lt_length_append back inside)
  by_cases fits : j + 1 + taken.length ≤ front.length
  · obtain ⟨leftToo, state⟩ := h.here.scan_front f s h.there inside left fits
    rw [state]
    exact .accept ⟨left, leftToo, h.symbols⟩
  · exact .beyond left (Nat.lt_of_not_le fits)

theorem identifierToken_spared :
    Spared front back ctx other (identifierToken ch ctx) (identifierToken ch other) := by
  unfold identifierToken
  dsimp only
  split
  · exact .decline _
  · split
    · exact scan_spared h inside _ () fun _ => .ident
    · exact .accept h

theorem whitespaceToken_spared :
    Spared front back ctx other (whitespaceToken ch ctx) (whitespaceToken ch other) := by
  unfold whitespaceToken
  dsimp only
  split
  · exact scan_spared h inside _ () fun _ => .whitespace
  · exact .accept h

theorem numberToken_spared :
    Spared front back ctx other (numberToken ch ctx) (numberToken ch other) := by
  unfold numberToken
  dsimp only
  split
  · exact scan_spared h inside numberStep .number id
  · exact .accept h

/-- A literal that closes on the character that stops a scan. -/
theorem closed_spared {α : Type} (f : α → Char → Option α) (s : α) {kind : Kind} {q : Char}
    {outcome : Outcome σ} (stopper : (ctx.cursor.scan f s).stopper = some q)
    (closes : (other.cursor.scan f s).stopper = some q → outcome =
      (Context.next { other with cursor := (other.cursor.scan f s).cursor }).2.accept
        (other.startToken kind)) :
    Spared front back ctx other
      ((Context.next { ctx with cursor := (ctx.cursor.scan f s).cursor }).2.accept
        (ctx.startToken kind)) outcome := by
  obtain ⟨taken, -, -, left, on, -⟩ := h.here.scan f s (lt_length_append back inside)
  have further := (List.getElem?_eq_some_iff.mp (on.symm.trans stopper)).1
  by_cases fits : j + 1 + taken.length < front.length
  · obtain ⟨leftToo, -⟩ := h.here.scan_front f s h.there inside left fits.le
    have same := h.here.stopper_front f s h.there inside left fits
    rw [closes (same.trans stopper)]
    exact .accept ⟨left.next further, leftToo.next fits, h.symbols⟩
  · exact .beyond (left.next further) (by omega)

theorem stringToken_spared : Spared front back ctx other (stringToken ctx) (stringToken other) := by
  cases stopper : (ctx.cursor.scan stringStep false).stopper with
  | none =>
    rw [stringToken, stopper]
    exact .fail
  | some q =>
    by_cases newline : isNewline q = true
    · rw [stringToken, stopper]
      dsimp only
      rw [if_pos newline]
      exact .fail
    · rw [stringToken, stopper]
      dsimp only
      rw [if_neg newline]
      refine closed_spared h inside stringStep false stopper ?_
      intro same
      rw [stringToken, same]
      exact if_neg newline

theorem rawStringToken_spared :
    Spared front back ctx other (rawStringToken ctx) (rawStringToken other) := by
  let step : Unit → Char → Option Unit := fun _ ch => if isBackQuote ch then none else some ()
  cases stopper : (ctx.cursor.scan step ()).stopper with
  | none =>
    rw [rawStringToken, stopper]
    exact .fail
  | some q =>
    rw [rawStringToken, stopper]
    refine closed_spared h inside step () stopper ?_
    intro same
    rw [rawStringToken, same]

theorem charToken_spared : Spared front back ctx other (charToken ctx) (charToken other) := by
  obtain ⟨onto, there⟩ := Context.next_at h.here (lt_length_append back inside)
  rw [charToken]
  split
  · exact .fail
  · rename_i first moved stepped
    rw [stepped] at onto there
    split
    · exact .fail
    · rename_i content
      have further := (List.getElem?_eq_some_iff.mp onto.symm).1
      obtain ⟨onto', there'⟩ := Context.next_at there further
      split
      · exact .fail
      · rename_i second last stepped'
        rw [stepped'] at onto' there'
        split
        · rename_i closes
          have steps : last = ctx.next.2.next.2 := by rw [stepped, stepped']
          have inner := (List.getElem?_eq_some_iff.mp onto'.symm).1
          by_cases fits : j + 1 + 1 < front.length
          · obtain ⟨ontoToo, thereToo⟩ := Context.next_at h.there inside
            obtain ⟨ontoToo', thereToo'⟩ := Context.next_at thereToo (by omega)
            rw [List.getElem?_append_left (by omega), ← ontoToo] at onto
            rw [List.getElem?_append_left fits, ← ontoToo'] at onto'
            have one : other.next = (some first, other.next.2) := Prod.ext onto.symm rfl
            have two : other.next.2.next = (some second, other.next.2.next.2) :=
              Prod.ext onto'.symm rfl
            rw [charToken, one]
            dsimp only
            rw [if_neg content, two]
            dsimp only
            rw [if_pos closes]
            refine .accept ⟨there'.next inner, thereToo'.next fits, ?_⟩
            rw [steps]
            exact h.symbols
          · exact .beyond (there'.next inner) (by omega)
        · exact .fail

/-- An operator within `front` is found without `back` as well, and no longer one can be. -/
theorem operatorToken_spared :
    Spared front back ctx other (operatorToken ch ctx) (operatorToken ch other) := by
  have ahead : ctx.cursor.here.ahead = front.drop j ++ back := by
    rw [h.here.here, Place.ahead_nth, List.drop_append_of_le_length inside.le]
  have aheadToo : other.cursor.here.ahead = front.drop j := by
    rw [h.there.here, Place.ahead_nth]
  have nonempty : front.drop j ≠ [] := by
    rw [Ne, List.drop_eq_nil_iff]
    omega
  match search : ctx.symbols.operatorWithin? (front.drop j ++ back) ctx.symbols.longest with
  | none =>
    rw [operatorToken, ahead, search]
    exact .fail
  | some (found, kind) =>
    obtain ⟨longest, known⟩ := Symbols.operatorWithin?_longest (by simp [nonempty]) search
    have length := longest.starts.length_le
    have left : (ctx.move (·.skip found.length)).cursor.At (front ++ back) (j + found.length) := by
      refine h.here.skip_of_le ?_
      rw [List.length_append, List.length_drop, String.length_toList] at length
      rw [List.length_append]
      omega
    rw [operatorToken, ahead, search]
    dsimp only
    by_cases fits : j + found.length ≤ front.length
    · have short : found.toList.length ≤ (front.drop j).length := by
        rw [String.length_toList, List.length_drop]
        omega
      have searchToo := (Symbols.operatorWithin?_eq_some_iff nonempty).mpr
        ⟨longest.of_append short, known⟩
      rw [operatorToken, aheadToo, h.symbols, searchToo]
      exact .accept ⟨left, h.there.skip_of_le fits, h.symbols⟩
    · exact .beyond left (Nat.lt_of_not_le fits)

theorem run_spared (b : Builtin) : Spared front back ctx other (b.run ch ctx) (b.run ch other) := by
  cases b with
  | identifier => exact identifierToken_spared ch h inside
  | charLiteral => exact charToken_spared h inside
  | string => exact stringToken_spared h inside
  | rawString => exact rawStringToken_spared h inside
  | number => exact numberToken_spared ch h inside
  | operator => exact operatorToken_spared ch h inside
  | whitespace => exact whitespaceToken_spared ch h inside

end Builtin

/-! ### Dispatches -/

namespace Context.CutOff

variable {front back : List Char} {j k : Nat} {ctx other out outToo : Context σ}

theorem bound (h : ctx.CutOff front back j other) : j ≤ front.length := h.there.bound

/-- A token that ends within `front` covers the same characters with and without `back`. -/
theorem endToken (h : ctx.CutOff front back j other) (left : out.CutOff front back k outToo)
    (ordered : j ≤ k) (kind : Kind) :
    ∃ got, out.endToken (ctx.startToken kind) = .covering (front ++ back) j k got ∧
      outToo.endToken (other.startToken kind) = .covering front j k got := by
  refine ⟨out.classify kind (String.ofList ((front.take k).drop j)), ?_, ?_⟩
  · rw [endToken_startToken h.here.here left.here.here ordered,
      List.take_append_of_le_length left.bound]
  · rw [endToken_startToken h.there.here left.there.here ordered, classify, left.symbols]
    rfl

/-- If it passes the checks, it passes them also without `back`. -/
theorem checkToken (h : ctx.CutOff front back j other) (left : out.CutOff front back k outToo)
    (ordered : j ≤ k) {rule : String} {started startedToo : Position} {kind : Kind} {token : Token}
    (ok : Lexing.checkToken rule started (out.endToken (ctx.startToken kind)) = .ok token) :
    ∃ tokenToo, Lexing.checkToken rule startedToo (outToo.endToken (other.startToken kind)) =
      .ok tokenToo ∧ tokenToo.Kept (byteLength front) token := by
  obtain ⟨got, covers, coversToo⟩ := h.endToken left ordered kind
  obtain ⟨rfl, -, nonempty, legal⟩ := checkToken_eq_ok.mp ok
  rw [covers] at nonempty legal ⊢
  have apart : j ≠ k := by
    rintro rfl
    exact Nat.lt_irrefl _ nonempty
  have more : j < k := Nat.lt_of_le_of_ne ordered apart
  rw [coversToo]
  exact ⟨_, checkToken_covering more left.bound legal,
    Token.kept_covering back got more left.bound⟩

end Context.CutOff

section Dispatches

variable {front back : List Char} {j k : Nat} {ch : Char} {ctx other : Context σ}

/-- A built-in rule leaves the cursor on its text, not before the place where it was started. -/
theorem Rule.IsBuiltin.left_at {rule : Rule σ} (builtin : rule.IsBuiltin) (ch : Char)
    {text : List Char} (h : ctx.cursor.At text j) :
    ∃ e, j ≤ e ∧ (rule.run ch ctx).2.cursor.At text e := by
  obtain ⟨b, name, accepts, rfl⟩ := builtin
  obtain ⟨n, moved⟩ := (b.run_direct ch ctx).exists_skip
  have := h.bound
  refine ⟨min (j + n) text.length, by omega, ?_⟩
  change (b.run ch ctx).2.cursor.At text _
  rw [moved]
  exact h.skip n

theorem Rule.IsBuiltin.run_spared {rule : Rule σ} (builtin : rule.IsBuiltin) (ch : Char)
    (h : ctx.CutOff front back j other) (inside : j < front.length) :
    Spared front back ctx other (rule.run ch ctx) (rule.run ch other) := by
  obtain ⟨b, name, _, rfl⟩ := builtin
  exact b.run_spared ch h inside

/-- A dispatch that makes a token within `front` makes it without `back` as well. -/
theorem dispatch_spared (watch : Watch) {rules : List (Rule σ)}
    (builtin : ∀ rule ∈ rules, rule.IsBuiltin) (h : ctx.CutOff front back j other)
    (on : front[j]? = some ch) {token : Token}
    (ok : (dispatch watch rules ch ctx).result = .ok token)
    (left : (dispatch watch rules ch ctx).context.cursor.At (front ++ back) k)
    (fits : k ≤ front.length) :
    (∃ tokenToo, (dispatch watch rules ch other).result = .ok tokenToo ∧
      tokenToo.Kept (byteLength front) token) ∧
    (dispatch watch rules ch ctx).context.CutOff front back k
      (dispatch watch rules ch other).context := by
  have inside : j < front.length := (List.getElem?_eq_some_iff.mp on).1
  induction rules generalizing ctx other with
  | nil => cases ok
  | cons rule rest ih =>
    obtain ⟨first, later⟩ := List.forall_mem_cons.mp builtin
    cases accepts : rule.accepts ch with
    | false =>
      rw [dispatch_passed accepts] at ok left ⊢
      rw [dispatch_passed accepts]
      exact ih later h ok left
    | true =>
      have spared := first.run_spared ch h inside
      obtain ⟨e, after, ended⟩ := first.left_at ch h.here
      have quiet := Context.look_at ended
      generalize ran : rule.run ch ctx = outcome, ranToo : rule.run ch other = outcomeToo
        at spared ended quiet
      cases spared with
      | fail =>
        rw [dispatch_failed accepts ran (by rw [quiet])] at ok
        cases ok
      | beyond stops past =>
        have quiet := Context.look_at stops
        rw [dispatch_made accepts ran (by rw [quiet]), Dispatch.context_after, quiet] at left
        have := left.index_eq stops
        omega
      | decline message =>
        have onWhole : (front ++ back)[j]? = some ch := by
          rw [List.getElem?_append_left inside, on]
        obtain ⟨goesOn, again, rewound, there, kept⟩ := Context.On.undo_next ⟨h.here, onWhole⟩
        obtain ⟨goesOnToo, againToo, rewoundToo, thereToo, keptToo⟩ :=
          Context.On.undo_next ⟨h.there, on⟩
        have cutOff : again.CutOff front back j againToo :=
          ⟨there.cursor, thereToo.cursor, by rw [keptToo, h.symbols, kept]⟩
        rw [dispatch_declined accepts ran goesOn rewound] at ok left ⊢
        rw [dispatch_declined accepts ranToo goesOnToo rewoundToo]
        exact ih later cutOff ok left
      | accept stops =>
        have quiet := Context.look_at stops.here
        have quietToo := Context.look_at stops.there
        rw [dispatch_made accepts ran (by rw [quiet]), quiet] at ok left ⊢
        rw [dispatch_made accepts ranToo (by rw [quietToo]), quietToo]
        obtain rfl := ended.index_eq left
        obtain rfl := stops.here.index_eq left
        exact ⟨h.checkToken stops after ok, stops⟩

end Dispatches

/-! ### Calls -/

section Calls

variable {cfg : Config σ} (builtin : ∀ rule ∈ cfg.rules, rule.IsBuiltin) {n j k : Nat}
  {first firstToo call : Call σ}

/-- A gap ends where it did, unless it is cut off before. -/
theorem gapEnd_front (cfg : Config σ) {front : List Char} (back : List Char)
    (bound : j ≤ front.length) :
    cfg.gapEnd front j = min front.length (cfg.gapEnd (front ++ back) j) := by
  unfold Config.gapEnd
  split
  · rw [List.drop_append_of_le_length bound, List.takeWhile_append]
    split
    · rename_i blank
      rw [List.length_append, blank, List.length_drop]
      omega
    · have := (List.takeWhile_prefix isWhitespace (l := front.drop j)).length_le
      rw [List.length_drop] at this
      omega
  · omega

/-- Before the end of `front`, the same character is offered without `back`. -/
theorem Context.CutOff.turn_offer {front back : List Char} {ctx other : Context σ}
    (h : ctx.CutOff front back j other) {offer : Offer σ}
    (turn : cfg.turn ctx = .offer offer.ch offer.context)
    (inside : cfg.gapEnd (front ++ back) j < front.length) :
    ∃ offered : Context σ, cfg.turn other = .offer offer.ch offered ∧
      offer.context.CutOff front back (cfg.gapEnd front j) offered ∧
      front[cfg.gapEnd front j]? = some offer.ch := by
  obtain ⟨skipped, on⟩ := Config.turn_at_offer h.here turn
  have gap : cfg.gapEnd front j = cfg.gapEnd (front ++ back) j := by
    rw [gapEnd_front cfg back h.bound, Nat.min_eq_right inside.le]
  have char : front[cfg.gapEnd front j]? = some offer.ch := by
    rw [gap, ← List.getElem?_append_left inside, on.char]
  have turnToo := cfg.turn_at h.there
  rw [char] at turnToo
  refine ⟨cfg.skipGap other, turnToo, ⟨?_, Config.skipGap_at h.there, ?_⟩, char⟩
  · rw [gap]
    exact on.cursor
  · rw [skipped, symbols_skipGap, symbols_skipGap, h.symbols]

include builtin in
/-- With every dispatch a call comes further on, and it is left at the end of its last token. -/
theorem Config.Reaches.left_at {text : List Char} (start : first.context.cursor.At text j)
    (fresh : first.tokens = #[]) (reached : cfg.Reaches first n call) :
    ∃ k, j + n ≤ k ∧ call.context.cursor.At text k ∧
      ∀ token ∈ call.tokens.back?, token.stop = .derived text k := by
  induction reached with
  | start => exact ⟨j, le_rfl, start, by simp [fresh]⟩
  | step _ turn made ih =>
    obtain ⟨i, far, there, -⟩ := ih
    obtain ⟨-, on⟩ := Config.turn_at_offer there turn
    obtain ⟨k, kind, ordered, rfl, ends⟩ := dispatch_builtin builtin on made
    have := cfg.le_gapEnd text i
    refine ⟨k, by omega, ends, ?_⟩
    rw [Array.back?_push]
    rintro _ ⟨⟩
    rfl

include builtin in
/-- As long as a call has not left `front`, it comes as far without `back`, with the same tokens.
Before a token that ends within `front` it was there too, and so was the gap. -/
theorem Config.Reaches.cut {front back : List Char}
    (start : first.context.CutOff front back j firstToo.context) (fresh : first.tokens = #[])
    (freshToo : firstToo.tokens = #[]) (reached : cfg.Reaches first n call)
    (there : call.context.cursor.At (front ++ back) k) (fits : k ≤ front.length) :
    ∃ callToo, cfg.Reaches firstToo n callToo ∧
      call.context.CutOff front back k callToo.context ∧
      List.Forall₂ (Token.Kept (byteLength front)) callToo.tokens.toList call.tokens.toList := by
  induction reached generalizing k with
  | start =>
    obtain rfl := start.here.index_eq there
    exact ⟨firstToo, .start, start, by simp [fresh, freshToo]⟩
  | @step n call offer token reached turn made ih =>
    obtain ⟨i, -, before, -⟩ := reached.left_at builtin start.here fresh
    obtain ⟨-, on⟩ := Config.turn_at_offer before turn
    obtain ⟨e, -, ordered, -, ends⟩ := dispatch_builtin builtin on made
    obtain rfl := ends.index_eq there
    have gap := cfg.le_gapEnd (front ++ back) i
    obtain ⟨callToo, reachedToo, cutOff, kept⟩ := ih before (by omega)
    obtain ⟨offered, turnToo, cutOffer, char⟩ := cutOff.turn_offer turn (by omega)
    let offerToo : Offer σ := ⟨offer.ch, offered⟩
    have offers : cfg.turn callToo.context = .offer offerToo.ch offerToo.context := turnToo
    obtain ⟨⟨tokenToo, madeToo, same⟩, left⟩ :=
      dispatch_spared cfg.watch builtin cutOffer char made ends fits
    refine ⟨_, .step reachedToo offers madeToo, left, ?_⟩
    rw [Array.toList_push, Array.toList_push]
    exact List.rel_append kept (.cons same .nil)

include builtin in
/-- A call that has come to the last gap of its input succeeds with the tokens it has. -/
theorem Config.Reaches.lex_eq {memory : σ} {input : String}
    (reached : cfg.Reaches { context := cfg.context memory input {} } n call)
    (there : call.context.cursor.At input.toList k)
    (ended : cfg.gapEnd input.toList k = input.toList.length) :
    (cfg.lex memory input).result = .ok call.tokens.toList := by
  have start : (cfg.context memory input {}).cursor.At input.toList 0 := .ofText input
  obtain ⟨i, far, here, -⟩ := reached.left_at builtin start rfl
  have bound := here.bound
  rw [String.length_toList] at bound
  have turn := cfg.turn_at there
  rw [ended, List.getElem?_length] at turn
  obtain ⟨offers, run, length⟩ := reached.leadsTo _ _ (.finish turn)
  rw [List.length_nil] at length
  have lexed : cfg.lex memory input = _ := run.proceed_eq (by omega)
  rw [lexed]
  rfl

include builtin in
/-- Where a call has come to a gap, its input may be cut off anywhere in the gap. -/
theorem Config.Reaches.lex_take {memory : σ} {input : String} {g : Nat}
    (reached : cfg.Reaches { context := cfg.context memory input {} } n call)
    (there : call.context.cursor.At input.toList k) (least : k ≤ g)
    (most : g ≤ cfg.gapEnd input.toList k) :
    ∃ tokens, (cfg.lex memory (.ofList (input.toList.take g))).result = .ok tokens ∧
      List.Forall₂ (Token.Kept (byteLength (input.toList.take g))) tokens call.tokens.toList := by
  let front := input.toList.take g
  let back := input.toList.drop g
  have split : input.toList = front ++ back := (List.take_append_drop g _).symm
  have text : (String.ofList front).toList = front := String.toList_ofList
  have skipped : (cfg.skipGap call.context).cursor.At input.toList _ := Config.skipGap_at there
  have length : front.length = g := by
    rw [List.length_take]
    exact Nat.min_eq_left (most.trans skipped.bound)
  let first : Call σ := { context := cfg.context memory input {} }
  let firstToo : Call σ := { context := cfg.context memory (.ofList front) {} }
  have start : first.context.CutOff front back 0 firstToo.context := by
    refine ⟨?_, ?_, rfl⟩
    · rw [← split]
      exact .ofText input
    · rw [← text]
      exact .ofText (.ofList front)
  rw [split] at there most
  obtain ⟨callToo, reachedToo, cutOff, kept⟩ :=
    reached.cut builtin start rfl rfl there (by omega)
  have ended : cfg.gapEnd front k = front.length := by
    rw [gapEnd_front cfg back cutOff.bound, length, Nat.min_eq_left most]
  have thereToo := cutOff.there
  rw [← text] at thereToo ended
  exact ⟨_, reachedToo.lex_eq builtin thereToo ended, kept⟩

end Calls

/-! ### Characters that no rule is for -/

/-- A rule that makes identifiers in the built-in way. -/
def Rule.IsIdentifier (rule : Rule σ) : Prop :=
  ∃ (name : String) (accepts : Char → Bool), rule = Builtin.identifier.rule name accepts

/-- An outcome that leaves nothing to the rules behind: a token or a failure. -/
inductive Decides : Outcome σ → Prop
  | accept (ctx : Context σ) (token : Token) : Decides (ctx.accept token)
  | fail (ctx : Context σ) (message : String) : Decides (ctx.fail message)

theorem Decides.ne_decline {outcome : Outcome σ} (decides : Decides outcome) {message : String}
    {position : Position} {out : Context σ} :
    outcome ≠ (.error (.decline message position), out) := by
  intro declined
  cases decides with
  | accept => cases declined
  | fail => cases declined

namespace Builtin

variable (ch : Char) (ctx : Context σ)

theorem identifierToken_decides (notNumber : isNumber ch = false) :
    Decides (identifierToken ch ctx) := by
  unfold identifierToken
  dsimp only
  rw [if_neg (by simp [notNumber])]
  split
  · exact .accept _ _
  · exact .accept _ _

theorem charToken_decides : Decides (charToken ctx) := by
  unfold charToken
  split
  · exact .fail _ _
  · split
    · exact .fail _ _
    · split
      · exact .fail _ _
      · split
        · exact .accept _ _
        · exact .fail _ _

theorem stringToken_decides : Decides (stringToken ctx) := by
  unfold stringToken
  dsimp only
  split
  · exact .fail _ _
  · split
    · exact .fail _ _
    · exact .accept _ _

theorem rawStringToken_decides : Decides (rawStringToken ctx) := by
  unfold rawStringToken
  dsimp only
  split
  · exact .fail _ _
  · exact .accept _ _

theorem numberToken_decides : Decides (numberToken ch ctx) := by
  unfold numberToken
  dsimp only
  split
  · exact .accept _ _
  · exact .accept _ _

theorem operatorToken_decides : Decides (operatorToken ch ctx) := by
  unfold operatorToken
  split
  · exact .fail _ _
  · exact .accept _ _

theorem whitespaceToken_decides : Decides (whitespaceToken ch ctx) := by
  unfold whitespaceToken
  dsimp only
  split
  · exact .accept _ _
  · exact .accept _ _

/-- Of the built-in rules, only identifiers decline, and only numeric characters. -/
theorem declines {b : Builtin} {ch : Char} {ctx out : Context σ} {message : String}
    {position : Position} (ran : b.run ch ctx = (.error (.decline message position), out)) :
    b = .identifier ∧ isNumber ch = true := by
  cases b with
  | identifier =>
    refine ⟨rfl, ?_⟩
    by_contra notNumber
    exact (identifierToken_decides ch ctx (by simpa using notNumber)).ne_decline ran
  | charLiteral => exact absurd ran (charToken_decides ctx).ne_decline
  | string => exact absurd ran (stringToken_decides ctx).ne_decline
  | rawString => exact absurd ran (rawStringToken_decides ctx).ne_decline
  | number => exact absurd ran (numberToken_decides ch ctx).ne_decline
  | operator => exact absurd ran (operatorToken_decides ch ctx).ne_decline
  | whitespace => exact absurd ran (whitespaceToken_decides ch ctx).ne_decline

end Builtin

/-- The checks of a token complain of the token, never of a character. -/
theorem checkToken_ne_noMatch {rule : String} {started position : Position} {token : Token}
    {ch : Char} : checkToken rule started token ≠ .error (.noMatch ch position) := by
  intro unmatched
  unfold checkToken at unmatched
  split at unmatched
  · cases unmatched
  · split at unmatched
    · cases unmatched
    · split at unmatched
      · cases unmatched
      · cases unmatched

theorem dispatch_noMatch {watch : Watch} {rules : List (Rule σ)}
    (builtin : ∀ rule ∈ rules, rule.IsBuiltin) {text : List Char} {j : Nat} {ch found : Char}
    {ctx : Context σ} {position : Position} (h : ctx.On text j ch)
    (unmatched : (dispatch watch rules ch ctx).result = .error (.noMatch found position)) :
    found = ch ∧ position = .derived text j ∧
      ∀ rule ∈ rules, rule.accepts ch = false ∨ rule.IsIdentifier ∧ isNumber ch = true := by
  induction rules generalizing ctx with
  | nil =>
    cases unmatched
    exact ⟨rfl, h.position, by simp⟩
  | cons rule rest ih =>
    obtain ⟨first, later⟩ := List.forall_mem_cons.mp builtin
    cases accepts : rule.accepts ch with
    | false =>
      rw [dispatch_passed accepts] at unmatched
      obtain ⟨same, place, others⟩ := ih later h unmatched
      exact ⟨same, place, List.forall_mem_cons.mpr ⟨.inl accepts, others⟩⟩
    | true =>
      obtain ⟨b, name, _, rfl⟩ := first
      have direct := b.run_direct ch ctx
      generalize ran : b.run ch ctx = outcome at direct
      cases direct with
      | fail n message =>
        have left : (ctx.move (·.skip n)).cursor.At text _ := h.cursor.skip n
        rw [dispatch_failed accepts ran (by rw [Context.look_at left])] at unmatched
        cases unmatched
      | decline message =>
        obtain ⟨identifier, number⟩ := Builtin.declines ran
        obtain ⟨goesOn, back, rewound, there, -⟩ := h.undo_next
        rw [dispatch_declined accepts ran goesOn rewound] at unmatched
        obtain ⟨same, place, others⟩ := ih later there unmatched
        subst identifier
        exact ⟨same, place, List.forall_mem_cons.mpr ⟨.inr ⟨⟨_, _, rfl⟩, number⟩, others⟩⟩
      | accept n kind =>
        have left : (ctx.move (·.skip n)).cursor.At text _ := h.cursor.skip n
        rw [dispatch_made accepts ran (by rw [Context.look_at left])] at unmatched
        exact absurd unmatched checkToken_ne_noMatch

section Cuts

variable {cfg : Config σ} (builtin : ∀ rule ∈ cfg.rules, rule.IsBuiltin) {memory : σ}
  {input : String}
include builtin

theorem exists_run_lex (memory : σ) (input : String) :
    ∃ offers, cfg.Run offers { context := cfg.context memory input {} }
      (cfg.lex memory input) := by
  let call : Call σ := { context := cfg.context memory input {} }
  have start : call.context.cursor.At input.toList 0 := .ofText input
  obtain ⟨offers, report, run, few, -⟩ :=
    exists_run (fun rule member => (builtin rule member).goesForward) start
  rw [String.length_toList, Nat.sub_zero] at few
  have lexed : cfg.lex memory input = report := run.proceed_eq (by omega)
  exact ⟨offers, lexed ▸ run⟩

theorem lex_take_noMatch {ch : Char} {position : Position}
    (failed : (cfg.lex memory input).result = .error (.noMatch ch position)) :
    ∃ g, input.toList[g]? = some ch ∧ position = .derived input.toList g ∧
      (∀ rule ∈ cfg.rules, rule.accepts ch = false ∨ rule.IsIdentifier ∧ isNumber ch = true) ∧
      ∃ tokens, (cfg.lex memory (.ofList (input.toList.take g))).result = .ok tokens := by
  obtain ⟨offers, run⟩ := exists_run_lex builtin memory input
  obtain ⟨n, last, offer, reached, turn, unmatched⟩ :=
    run.failed_dispatch .start failed fun p => by simp
  obtain ⟨k, -, there, -⟩ := reached.left_at builtin (.ofText input) rfl
  obtain ⟨-, on⟩ := Config.turn_at_offer there turn
  obtain ⟨rfl, rfl, refused⟩ := dispatch_noMatch builtin on unmatched
  obtain ⟨tokens, ok, -⟩ := reached.lex_take builtin there (cfg.le_gapEnd _ k) le_rfl
  exact ⟨_, on.char, rfl, refused, tokens, ok⟩

theorem lex_take_token {tokens : List Token} (ok : (cfg.lex memory input).result = .ok tokens)
    {i : Nat} {token : Token} (member : tokens[i]? = some token) :
    ∃ g kept, token.stop = .derived input.toList g ∧
      (cfg.lex memory (.ofList (input.toList.take g))).result = .ok kept ∧
      List.Forall₂ (Token.Kept (byteLength (input.toList.take g))) kept (tokens.take (i + 1)) := by
  obtain ⟨inside, found⟩ := List.getElem?_eq_some_iff.mp member
  obtain ⟨offers, run⟩ := exists_run_lex builtin memory input
  obtain ⟨n, last, reached, made⟩ := (run.reaches_take .start ok).2 (i + 1) (Nat.zero_le _) inside
  obtain ⟨k, -, there, stop⟩ := reached.left_at builtin (.ofText input) rfl
  have final : last.tokens.back? = some token := by
    rw [← Array.getLast?_toList, made, List.getLast?_take]
    simp [member]
  obtain ⟨kept, okToo, same⟩ := reached.lex_take builtin there le_rfl (cfg.le_gapEnd _ k)
  exact ⟨k, kept, stop token final, okToo, made ▸ same⟩

end Cuts

/-- A character that no rule is for is the first with which the input cannot be lexed: it stands
where the failure says, and the input before it can be lexed.  An input that can be lexed can also
be cut off at the end of any token, and gives the same tokens up to that one. -/
theorem lex_cut_off (cfg : Config σ) (builtin : ∀ rule ∈ cfg.rules, rule.IsBuiltin) (memory : σ)
    (input : String) :
    (∀ ch position, (cfg.lex memory input).result = .error (.noMatch ch position) →
      ∃ before after, input = before ++ String.singleton ch ++ after ∧
        before.utf8ByteSize = position.offset ∧
        (∀ rule ∈ cfg.rules,
          rule.accepts ch = false ∨ rule.IsIdentifier ∧ isNumber ch = true) ∧
        ∃ tokens, (cfg.lex memory before).result = .ok tokens) ∧
    ∀ tokens, (cfg.lex memory input).result = .ok tokens → ∀ i token, tokens[i]? = some token →
      ∃ before after kept, input = before ++ after ∧ before.utf8ByteSize = token.stop.offset ∧
        (cfg.lex memory before).result = .ok kept ∧
        List.Forall₂ (Token.Kept before.utf8ByteSize) kept (tokens.take (i + 1)) := by
  refine ⟨?_, ?_⟩
  · intro ch position failed
    obtain ⟨g, char, rfl, refused, succeeds⟩ := lex_take_noMatch builtin failed
    refine ⟨.ofList (input.toList.take g), .ofList (input.toList.drop (g + 1)), ?_, rfl, refused,
      succeeds⟩
    obtain ⟨inside, rfl⟩ := List.getElem?_eq_some_iff.mp char
    rw [String.singleton_eq_ofList, ← String.ofList_append, ← String.ofList_append,
      List.append_assoc, List.singleton_append, List.getElem_cons_drop, List.take_append_drop,
      String.ofList_toList]
  · intro tokens ok i token member
    obtain ⟨g, kept, stop, succeeds, same⟩ := lex_take_token builtin ok member
    refine ⟨.ofList (input.toList.take g), .ofList (input.toList.drop g), kept, ?_, ?_, succeeds,
      same⟩
    · rw [← String.ofList_append, List.take_append_drop, String.ofList_toList]
    · rw [stop]
      rfl

/-- Identifiers are offered numbers too, and nothing else takes them. -/
def numberless : Config Unit where
  skipsWhitespace := true
  rules :=
    [Builtin.identifier.rule "Identifier" isLetterOrNumber,
      Builtin.operator.rule "Operator" isOperator]
  symbols := Symbols.addOperators {} [("-", ⟨2001⟩), ("->", ⟨2002⟩), ("->>", ⟨2003⟩)]

/-- The tokens of `é ->` at the end of a line. -/
def arrowTokens : List Token :=
  [⟨.ident, ⟨1, 1, 0⟩, ⟨1, 2, 2⟩, "é"⟩, ⟨⟨2002⟩, ⟨1, 3, 3⟩, ⟨2, 1, 5⟩, "->"⟩]

/-- A number on the second line is declined and left over.  Without it the input can be lexed, and
also without the line break, only that the arrow then ends on the first line. -/
theorem lex_cut_off_numberless :
    (∀ rule ∈ numberless.rules, rule.IsBuiltin) ∧
    (numberless.lex () "é ->\n9").result = .error (.noMatch '9' ⟨2, 2, 6⟩) ∧
    (∃ before after, "é ->\n9" = before ++ String.singleton '9' ++ after ∧
      before.utf8ByteSize = 6 ∧
      (∀ rule ∈ numberless.rules,
        rule.accepts '9' = false ∨ rule.IsIdentifier ∧ isNumber '9' = true) ∧
      ∃ tokens, (numberless.lex () before).result = .ok tokens) ∧
    (numberless.lex () "é ->\n").result = .ok arrowTokens ∧
    ∃ before after kept, "é ->\n" = before ++ after ∧ before.utf8ByteSize = 5 ∧
      (numberless.lex () before).result = .ok kept ∧
      List.Forall₂ (Token.Kept before.utf8ByteSize) kept arrowTokens := by
  have builtin : ∀ rule ∈ numberless.rules, rule.IsBuiltin := by
    intro rule member
    rcases List.mem_cons.mp member with rfl | member
    · exact ⟨_, _, _, rfl⟩
    · rw [List.mem_singleton.mp member]
      exact ⟨_, _, _, rfl⟩
  have failed : (numberless.lex () "é ->\n9").result = .error (.noMatch '9' ⟨2, 2, 6⟩) := by
    decide +kernel
  have ok : (numberless.lex () "é ->\n").result = .ok arrowTokens := by decide +kernel
  exact ⟨builtin, failed, (lex_cut_off numberless builtin () _).1 _ _ failed, ok,
    (lex_cut_off numberless builtin () _).2 _ ok 1 _ rfl⟩

end Lexing

end FirstMatch
