import FirstMatch.Text.Quoted

/-! Outlines: the shape of a structured value as it is shown to a reader, on one line or indented
over several. -/

namespace FirstMatch.Text

inductive Outline where
  | atom (text : String)
  | record (name : String) (fields : List (String × Outline))
  | tuple (name : String) (items : List Outline)
  | list (items : List Outline)
  | table (entries : List (String × Outline))

namespace Outline

def nat (n : Nat) : Outline := atom (toString n)

def bool (b : Bool) : Outline := atom (if b then "true" else "false")

def quoted (text : String) : Outline := atom (quoteString text)

mutual

/-- The value on one line. -/
def compact : Outline → String
  | atom text => text
  | record name fields => name ++ " \x7b " ++ ", ".intercalate (compactFields fields) ++ " \x7d"
  | tuple name items => name ++ "(" ++ ", ".intercalate (compactItems items) ++ ")"
  | list items => "[" ++ ", ".intercalate (compactItems items) ++ "]"
  | table entries => "\x7b" ++ ", ".intercalate (compactFields entries) ++ "\x7d"

def compactItems : List Outline → List String
  | [] => []
  | item :: rest => compact item :: compactItems rest

def compactFields : List (String × Outline) → List String
  | [] => []
  | (key, value) :: rest => (key ++ ": " ++ compact value) :: compactFields rest

end

def margin (depth : Nat) : String := String.ofList (List.replicate (4 * depth) ' ')

/-- Brackets around one line per part; nothing stands between the brackets of an empty body. -/
def block (opening closing : String) (depth : Nat) : List String → String
  | [] => opening ++ closing
  | parts =>
    opening ++ "\n" ++ String.join (parts.map fun part => margin (depth + 1) ++ part ++ ",\n") ++
      margin depth ++ closing

mutual

/-- The value with each part on a line of its own, indented below `depth` levels. -/
def indented (depth : Nat) : Outline → String
  | atom text => text
  | record name fields => block (name ++ " \x7b") "\x7d" depth (indentedFields (depth + 1) fields)
  | tuple name items => block (name ++ "(") ")" depth (indentedItems (depth + 1) items)
  | list items => block "[" "]" depth (indentedItems (depth + 1) items)
  | table entries => block "\x7b" "\x7d" depth (indentedFields (depth + 1) entries)

def indentedItems (depth : Nat) : List Outline → List String
  | [] => []
  | item :: rest => indented depth item :: indentedItems depth rest

def indentedFields (depth : Nat) : List (String × Outline) → List String
  | [] => []
  | (key, value) :: rest => (key ++ ": " ++ indented depth value) :: indentedFields depth rest

end

end Outline

end FirstMatch.Text
