import FirstMatch.Proofs.Lexing.Trace
import FirstMatch.Proofs.Source.Advance

/-! Tokens by the stretch of text they cover.  `Token.covering text i k kind` covers the
characters from index `i` up to index `k`; starting a token at one place and ending it at a later
one makes such a token, and it passes the checks if it is not empty and has a kind. -/

namespace FirstMatch

/-- The token over the characters from index `i` up to index `k`. -/
def Token.covering (text : List Char) (i k : Nat) (kind : Kind) : Token :=
  ⟨kind, .derived text i, .derived text k, String.ofList ((text.take k).drop i)⟩

theorem Token.covering_of_prefix {text l : List Char} {j : Nat} (starts : l <+: text.drop j)
    (kind : Kind) : covering text j (j + l.length) kind =
      ⟨kind, .derived text j, .derived text (j + l.length), .ofList l⟩ := by
  rw [covering, slice_eq_of_prefix starts]

theorem Token.isValid_covering (text : List Char) (i k : Nat) (kind : Kind) :
    (covering text i k kind).isValid = true := by
  simp [covering, isValid, Position.isValid_derived]

/-- The bytes of a token are those of the text from its start to its stop. -/
theorem Token.toUTF8_covering (text : List Char) {i k : Nat} (kind : Kind) (ordered : i ≤ k) :
    (covering text i k kind).literal.toUTF8 =
      (String.ofList text).toUTF8.extract (covering text i k kind).start.offset
        (covering text i k kind).stop.offset := by
  have before := take_split text ordered
  have split : String.ofList text = String.ofList (text.take i) ++
      (String.ofList ((text.take k).drop i) ++ String.ofList (text.drop k)) := by
    rw [← String.ofList_append, ← String.ofList_append, ← List.append_assoc, ← before,
      List.take_append_drop]
  have stop : (covering text i k kind).stop.offset =
      (String.ofList (text.take i)).toByteArray.size +
        (String.ofList ((text.take k).drop i)).toByteArray.size := by
    change byteLength (text.take k) = byteLength (text.take i) + byteLength ((text.take k).drop i)
    rw [← byteLength_append, ← before]
  have start : (covering text i k kind).start.offset =
      (String.ofList (text.take i)).toByteArray.size + 0 := rfl
  rw [String.toUTF8_eq_toByteArray, String.toUTF8_eq_toByteArray, split, String.toByteArray_append,
    String.toByteArray_append, start, stop, ByteArray.extract_append_size_add,
    ByteArray.extract_append_eq_left rfl]
  rfl

end FirstMatch

namespace FirstMatch.Lexing

open Text

variable {σ : Type}

namespace Context

variable {text : List Char} {i k : Nat} {opened closed : Context σ}

/-- The kind that a finished literal gets. -/
def classify (ctx : Context σ) (kind : Kind) (literal : String) : Kind :=
  if kind.isReclassifiable then (ctx.symbols.lookup literal).getD kind else kind

/-- A token started on index `i` and ended on index `k`. -/
theorem endToken_startToken (start : opened.cursor.here = .nth text i)
    (stop : closed.cursor.here = .nth text k) (ordered : i ≤ k) (kind : Kind) :
    closed.endToken (opened.startToken kind) =
      .covering text i k (closed.classify kind (String.ofList ((text.take k).drop i))) := by
  have began : opened.position = .derived text i := by
    rw [position, Cursor.position, start, Place.position_nth]
  have ended : closed.position = .derived text k := by
    rw [position, Cursor.position, stop, Place.position_nth]
  have literal := Cursor.sliceFrom_nth stop ordered
  simp [endToken, startToken, Token.covering, classify, began, ended, literal]

end Context

section Checks

variable {text : List Char} {i k : Nat} {kind : Kind} {rule : String} {started : Position}

theorem checkToken_covering (ordered : i < k) (bound : k ≤ text.length) (legal : kind ≠ .illegal) :
    checkToken rule started (.covering text i k kind) = .ok (.covering text i k kind) := by
  exact checkToken_eq_ok.mpr
    ⟨rfl, Token.isValid_covering text i k kind, byteLength_take_lt ordered bound, legal⟩

end Checks

end FirstMatch.Lexing
