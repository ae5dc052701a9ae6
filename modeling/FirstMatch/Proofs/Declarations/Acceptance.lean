import FirstMatch.Declarations.Language
import FirstMatch.Proofs.Declarations.Grammar
import FirstMatch.Proofs.Parsing.Trace

/-! The rules of the declaration language accept its grammar.  Reading a form gives the node of a
phrase, or breaks off at the first token that is not of the kind awaited; a parse call reads one
phrase after another until the tokens end or a `Fault` stops it. -/

namespace FirstMatch.Declarations

open Parsing

/-! ### Reading a form -/

/-- What a failure says of `last` and the unexpected tokens after it: it is about the first of them,
or about the end of `last` if there are none. -/
structure Complaint (last : Token) (after : List Token) (message : String)
    (position : Position) : Prop where
  found : ∀ token ∈ after.head?, token.isValid = true → position = token.start
  ended : after = [] →
    position = last.stop ∧ ∃ expected, message = expected ++ ", got end of input"

/-- How reading a form from `tokens` ends: the cursor is left on the last token of a phrase, or what
has been read awaits a kind that does not come. -/
inductive Reading (f : Form) (tokens : List Token) : Outcome Node → Prop
  | phrase {p : Phrase} {rest moved} (spelled : tokens = p.tokens ++ rest)
      (left : moved.next.rest = rest) : Reading f tokens (.ok p.node, moved)
  | broken {read last after kind message position moved} (split : tokens = read ++ last :: after)
      (awaits : f.Awaits ((read ++ [last]).map (·.kind)) kind)
      (other : ∀ token ∈ after.head?, token.kind ≠ kind)
      (complaint : Complaint last after message position) :
      Reading f tokens (.error (.fail message position), moved)

section Reading

variable {f : Form} {s : TokenStream} {tokens : List Token} {last : Token} {kind : Kind}

theorem exists_complaint (s : TokenStream) (last : Token) (expected : String) :
    ∃ message position, Form.unexpected s last expected = (.error (.fail message position), s) ∧
      Complaint last s.rest message position := by
  have current := s.current_eq
  rw [Form.unexpected]
  split
  · rename_i valid
    refine ⟨_, _, rfl, ?_, ?_⟩
    · intro token head _
      rw [current, List.headD_eq_head?_getD, head, Option.getD_some]
    · intro ended
      rw [current, ended] at valid
      cases valid
  · rename_i invalid
    refine ⟨_, _, rfl, ?_, ?_⟩
    · intro token head valid
      rw [current, List.headD_eq_head?_getD, head, Option.getD_some] at invalid
      exact absurd valid invalid
    · intro _
      exact ⟨rfl, expected, rfl⟩

theorem Reading.unexpected (read : List Token) {expected : String}
    (split : tokens = read ++ last :: s.rest)
    (awaits : f.Awaits ((read ++ [last]).map (·.kind)) kind) (other : s.current.kind ≠ kind) :
    Reading f tokens (Form.unexpected s last expected) := by
  obtain ⟨message, position, failed, complaint⟩ := exists_complaint s last expected
  rw [failed]
  refine .broken split awaits ?_ complaint
  intro token head
  rw [s.current_eq, List.headD_eq_head?_getD, head] at other
  exact other

/-- A token with a kind is there. -/
theorem rest_of_kind (legal : kind ≠ .illegal) (on : s.current.kind = kind) :
    s.rest = s.current :: s.next.rest := by
  have current := s.current_eq
  rw [TokenStream.rest_next]
  cases tokens : s.rest with
  | nil =>
    rw [current, tokens] at on
    exact absurd on.symm legal
  | cons first later =>
    rw [current, tokens]
    rfl

theorem readPackage_reading {first : Token} {later : List Token} (here : s.rest = first :: later)
    (begun : first.kind = packageKind) : Reading .package s.rest (Form.readPackage first s) := by
  have behind : s.rest = first :: s.next.rest := by simp [here]
  rw [Form.readPackage]
  split
  · rename_i other
    refine .unexpected [] behind ⟨by simp, [], ?_⟩ other
    simp [Form.kinds, begun]
  · rename_i same
    have named := Decidable.not_not.mp same
    have onName := rest_of_kind (by decide) named
    refine .phrase (p := .package first s.next.current begun named) ?_ rfl
    rw [behind, onName]
    rfl

theorem readStruct_reading {first : Token} {later : List Token} (here : s.rest = first :: later)
    (begun : first.kind = structKind) : Reading .struct s.rest (Form.readStruct first s) := by
  have behind : s.rest = first :: s.next.rest := by simp [here]
  rw [Form.readStruct, if_neg (by simp [begun])]
  dsimp only
  split
  · rename_i other
    refine .unexpected [] behind ⟨by simp, [.leftBrace, .rightBrace], ?_⟩ other
    simp [Form.kinds, begun]
  · rename_i same
    have named := Decidable.not_not.mp same
    have onName := rest_of_kind (by decide) named
    rw [onName] at behind
    split
    · rename_i other
      refine .unexpected [first] behind ⟨by simp, [.rightBrace], ?_⟩ other
      simp [Form.kinds, begun, named]
    · rename_i same
      have opened := Decidable.not_not.mp same
      have onLeft := rest_of_kind (by decide) opened
      rw [onLeft] at behind
      split
      · rename_i other
        refine .unexpected [first, s.next.current] behind ⟨by simp, [], ?_⟩ other
        simp [Form.kinds, begun, named, opened]
      · rename_i same
        have closed := Decidable.not_not.mp same
        have onRight := rest_of_kind (by decide) closed
        refine .phrase (p := .struct first s.next.current s.next.next.current
          s.next.next.next.current begun named opened closed) ?_ rfl
        rw [behind, onRight]
        rfl

theorem read_reading {first : Token} {later : List Token} (here : s.rest = first :: later)
    (begins : f.kinds.head? = some first.kind) : Reading f s.rest (f.read first s) := by
  cases f with
  | identifier =>
    have named : first.kind = .ident := (Option.some.inj begins).symm
    refine .phrase (p := .identifier first named) here ?_
    rw [TokenStream.rest_next, here]
    rfl
  | package => exact readPackage_reading here (Option.some.inj begins).symm
  | struct => exact readStruct_reading here (Option.some.inj begins).symm

end Reading

/-! ### One dispatch -/

/-- Tokens from which no phrase can be read, and the error they give. -/
inductive Fault (tokens : List Token) : Error → Prop
  | stray {token later} (here : tokens = token :: later)
      (none : ∀ f : Form, f.kinds.head? ≠ some token.kind) :
      Fault tokens (.noMatch token.literal token.span)
  | broken {f : Form} {read last after kind rule message position}
      (split : tokens = read ++ last :: after)
      (awaits : f.Awaits ((read ++ [last]).map (·.kind)) kind)
      (other : ∀ token ∈ after.head?, token.kind ≠ kind)
      (complaint : Complaint last after message position) :
      Fault tokens (.refused rule (.fail message position))

section Dispatches

variable {s : TokenStream} {first : Token} {later : List Token}

/-- A token that begins a form comes to the rule for it. -/
theorem dispatch_form {f : Form} (begins : f.kinds.head? = some first.kind) :
    ∃ name accepts others, accepts first = true ∧
      (dispatch first rules s).result =
        (dispatch first (f.rule name accepts :: others) s).result ∧
      (dispatch first rules s).stream =
        (dispatch first (f.rule name accepts :: others) s).stream := by
  rw [rules]
  cases f with
  | package =>
    have kind : first.kind = packageKind := (Option.some.inj begins).symm
    exact ⟨_, (TokenClass.package.holds ·), _, beq_iff_eq.mpr kind, rfl, rfl⟩
  | struct =>
    have kind : first.kind = structKind := (Option.some.inj begins).symm
    rw [dispatch_passed (beq_false_of_ne (by rw [kind]; decide))]
    exact ⟨_, (TokenClass.struct.holds ·), _, beq_iff_eq.mpr kind, rfl, rfl⟩
  | identifier =>
    have kind : first.kind = .ident := (Option.some.inj begins).symm
    rw [dispatch_passed (beq_false_of_ne (by rw [kind]; decide)),
      dispatch_passed (beq_false_of_ne (by rw [kind]; decide))]
    exact ⟨_, (TokenClass.identifier.holds ·), _, beq_iff_eq.mpr kind, rfl, rfl⟩

theorem dispatch_stray (none : ∀ f : Form, f.kinds.head? ≠ some first.kind) :
    (dispatch first rules s).result = .error (.noMatch first.literal first.span) := by
  have refuses (kind : Kind) (f : Form) (head : f.kinds.head? = some kind) :
      (first.kind == kind) = false := by
    apply beq_false_of_ne
    rintro rfl
    exact none f head
  rw [rules, dispatch_passed (refuses packageKind .package rfl),
    dispatch_passed (refuses structKind .struct rfl),
    dispatch_passed (refuses .ident .identifier rfl)]
  rfl

/-- A dispatch reads the phrase that comes next, or there is a fault. -/
theorem dispatch_phrase_or_fault (here : s.rest = first :: later) :
    (∃ (p : Phrase) (rest : List Token), s.rest = p.tokens ++ rest ∧
      (dispatch first rules s).result = .ok p.node ∧
      (dispatch first rules s).stream.next.rest = rest) ∨
    ∃ error, Fault s.rest error ∧ (dispatch first rules s).result = .error error := by
  by_cases begins : ∃ f : Form, f.kinds.head? = some first.kind
  · obtain ⟨f, begins⟩ := begins
    obtain ⟨name, accepts, others, accepted, result, stream⟩ := dispatch_form (s := s) begins
    have reading := read_reading here begins
    generalize ran : f.read first s = outcome at reading
    cases reading with
    | @phrase p rest moved spelled left =>
      rw [dispatch_made accepted ran] at result stream
      exact .inl ⟨p, rest, spelled, result, by rw [stream]; exact left⟩
    | broken split awaits other complaint =>
      rw [dispatch_failed accepted ran] at result
      exact .inr ⟨_, .broken split awaits other complaint, result⟩
  · have none : ∀ f : Form, f.kinds.head? ≠ some first.kind := fun f head => begins ⟨f, head⟩
    exact .inr ⟨_, .stray here none, dispatch_stray none⟩

end Dispatches

/-! ### Whole calls -/

/-- How a call ends after some phrases: there are no more tokens, or there is a fault. -/
inductive Ends (phrases : List Phrase) : List Token → Except Error (List Node) → Prop
  | all : Ends phrases [] (.ok (phrases.map Phrase.node))
  | fault {rest error} (fault : Fault rest error) : Ends phrases rest (.error error)

/-- A phrase takes at least one token, so a budget of one dispatch for each token is enough. -/
theorem proceed_ends (read : List Phrase) (call : Call Node) (budget : Nat)
    (sofar : call.nodes.toList = read.map Phrase.node)
    (enough : call.stream.rest.length ≤ budget) :
    ∃ phrases rest, phrases.flatMap Phrase.tokens ++ rest = call.stream.rest ∧
      Ends (read ++ phrases) rest (proceed rules budget call).result := by
  induction budget generalizing read call with
  | zero =>
    have ended := List.length_eq_zero_iff.mp (Nat.le_zero.mp enough)
    rw [proceed_done ended]
    refine ⟨[], [], ended.symm, ?_⟩
    rw [List.append_nil, Call.succeed, sofar]
    exact .all
  | succ budget ih =>
    cases here : call.stream.rest with
    | nil =>
      rw [proceed_done here]
      refine ⟨[], [], rfl, ?_⟩
      rw [List.append_nil, Call.succeed, sofar]
      exact .all
    | cons first later =>
      rcases dispatch_phrase_or_fault here with
        ⟨p, rest, spelled, made, left⟩ | ⟨error, fault, failed⟩
      · let call' : Call Node := ⟨(dispatch first rules call.stream).stream.next,
          call.nodes.push p.node, call.log ++ (dispatch first rules call.stream).log⟩
        have sofar' : call'.nodes.toList = (read ++ [p]).map Phrase.node := by simp [call', sofar]
        have unread : call'.stream.rest = rest := left
        have shorter : call'.stream.rest.length ≤ budget := by
          have positive := List.length_pos_iff.mpr (Phrase.tokens_isPrefixCode.nonempty p)
          rw [spelled, List.length_append] at enough
          rw [unread]
          omega
        obtain ⟨phrases, rest', split, ends⟩ := ih (read ++ [p]) call' sofar' shorter
        rw [proceed_made here made]
        refine ⟨p :: phrases, rest', ?_, ?_⟩
        · rw [List.flatMap_cons, List.append_assoc, split, unread, ← spelled, here]
        · rw [List.append_assoc] at ends
          exact ends
      · rw [proceed_failed here failed]
        exact ⟨[], first :: later, rfl, .fault (here ▸ fault)⟩

theorem parseTokens_ends (tokens : List Token) :
    ∃ phrases rest, phrases.flatMap Phrase.tokens ++ rest = tokens ∧
      Ends phrases rest (parseTokens rules tokens).result := by
  have start : (TokenStream.ofList tokens).rest = tokens := TokenStream.rest_ofList tokens
  obtain ⟨phrases, rest, split, ends⟩ :=
    proceed_ends [] { stream := .ofList tokens } tokens.length rfl (by rw [start])
  exact ⟨phrases, rest, split.trans start, ends⟩

theorem Fault.not_mem_grammar {tokens : List Token} {error : Error} (fault : Fault tokens error) :
    tokens.map (·.kind) ∉ grammar := by
  intro member
  have viable : Viable (tokens.map (·.kind)) := ⟨_, member, List.prefix_rfl⟩
  cases fault with
  | stray here none =>
    obtain ⟨f, -, -, head, -⟩ := exists_form_of_viable viable (by simp [here])
    rw [here] at head
    exact none f head
  | @broken f read last after kind rule message position split awaits other complaint =>
    cases after with
    | nil => exact awaits.not_mem_grammar (split ▸ member)
    | cons found after =>
      have whole : tokens.map (·.kind) =
          (read ++ [last]).map (·.kind) ++ [found.kind] ++ after.map (·.kind) := by simp [split]
      rw [whole] at viable
      exact other found rfl (awaits.eq_of_viable viable.of_append)

/-- Phrases are parsed into their nodes. -/
theorem parseTokens_phrases (phrases : List Phrase) :
    (parseTokens rules (phrases.flatMap Phrase.tokens)).result = .ok (phrases.map Phrase.node) := by
  obtain ⟨read, rest, split, ends⟩ := parseTokens_ends (phrases.flatMap Phrase.tokens)
  obtain ⟨later, rfl, spelled⟩ := Phrase.tokens_isPrefixCode.flatMap_cancel split
  generalize (parseTokens rules _).result = result at ends
  cases ends with
  | all =>
    have none : later = [] := Phrase.tokens_isPrefixCode.flatMap_inj spelled
    rw [none, List.append_nil]
  | fault fault =>
    rw [← spelled] at fault
    exact absurd (Phrase.kinds_mem_grammar later) fault.not_mem_grammar

/-- Nothing but phrases is parsed. -/
theorem exists_phrases_of_ok {tokens : List Token} {nodes : List Node}
    (ok : (parseTokens rules tokens).result = .ok nodes) :
    ∃ phrases : List Phrase, phrases.flatMap Phrase.tokens = tokens ∧
      phrases.map Phrase.node = nodes := by
  obtain ⟨phrases, rest, split, ends⟩ := parseTokens_ends tokens
  rw [ok] at ends
  cases ends with
  | all => exact ⟨phrases, (List.append_nil _).symm.trans split, rfl⟩

/-- Tokens are parsed exactly if their kinds are a word of the grammar.  They are then taken apart
into phrases in one way only, and the nodes are those of the phrases. -/
theorem parseTokens_iff_grammar (tokens : List Token) :
    ((∃ nodes, (parseTokens rules tokens).result = .ok nodes) ↔
      tokens.map (·.kind) ∈ grammar) ∧
    (∀ nodes, (parseTokens rules tokens).result = .ok nodes ↔
      ∃ phrases : List Phrase, phrases.flatMap Phrase.tokens = tokens ∧
        phrases.map Phrase.node = nodes) ∧
    ∀ a b : List Phrase, a.flatMap Phrase.tokens = tokens → b.flatMap Phrase.tokens = tokens →
      a = b := by
  refine ⟨⟨?_, ?_⟩, ?_, ?_⟩
  · rintro ⟨nodes, ok⟩
    obtain ⟨phrases, rfl, -⟩ := exists_phrases_of_ok ok
    exact Phrase.kinds_mem_grammar phrases
  · intro member
    obtain ⟨phrases, rest, rfl, ends⟩ := parseTokens_ends tokens
    generalize (parseTokens rules _).result = result at ends
    cases ends with
    | all => exact ⟨_, rfl⟩
    | fault fault =>
      rw [List.map_append, Phrase.kinds_flatMap, append_mem_grammar] at member
      exact absurd member fault.not_mem_grammar
  · intro nodes
    constructor
    · exact exists_phrases_of_ok
    · rintro ⟨phrases, rfl, rfl⟩
      exact parseTokens_phrases phrases
  · intro a b ofA ofB
    exact Phrase.tokens_isPrefixCode.flatMap_inj (ofA.trans ofB.symm)

end FirstMatch.Declarations
