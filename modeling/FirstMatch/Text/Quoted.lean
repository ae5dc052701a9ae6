import FirstMatch.Text.ExtendingMark
import FirstMatch.Text.Ranges
import FirstMatch.Text.Unprintable

/-! Quoted text: strings and characters written so that every character can be seen. -/

namespace FirstMatch.Text

/-- A character that does not show up when written alone: one without a glyph of its own or one
that joins the glyph before it. -/
def isHidden (c : Char) : Bool := covers unprintable c.toNat || covers extendingMark c.toNat

/-- A character as its code point in hexadecimal. -/
def escapeCodePoint (c : Char) : String :=
  "\\u\x7b" ++ String.ofList (Nat.toDigits 16 c.toNat) ++ "\x7d"

/-- One character inside the given quotes.  Only the quote in use is escaped. -/
def escape (quote c : Char) : String :=
  match c with
  | '\x00' => "\\0"
  | '\t' => "\\t"
  | '\r' => "\\r"
  | '\n' => "\\n"
  | '\\' => "\\\\"
  | _ =>
    if c = quote then String.ofList ['\\', c]
    else if isHidden c then escapeCodePoint c
    else c.toString

def quoteString (text : String) : String :=
  "\"" ++ String.join (text.toList.map (escape '"')) ++ "\""

def quoteChar (c : Char) : String := "'" ++ escape '\'' c ++ "'"

end FirstMatch.Text
