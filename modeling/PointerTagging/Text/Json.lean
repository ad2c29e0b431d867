import PointerTagging.Text.Numeral
/-!
# JSON text

JSON values with whole numbers, and their layout over several lines: two spaces for each level,
one entry a line, and nothing between the brackets of an empty list or record. A second layout has
no blanks at all.
-/

namespace PointerTagging.Text

/-- A JSON value whose numbers are natural. -/
inductive Json where
  | null
  | bool (b : Bool)
  | number (n : Nat)
  | string (s : String)
  | list (items : List Json)
  | record (fields : List (String × Json))

namespace Json

/-- The text of one character inside quotation marks: a quotation mark, a backslash and the
control characters below U+0020 are escaped, all else stands for itself. -/
def escape (c : Char) : List Char :=
  match c with
  | '"' => ['\\', '"']
  | '\\' => ['\\', '\\']
  | '\n' => ['\\', 'n']
  | '\t' => ['\\', 't']
  | '\r' => ['\\', 'r']
  | '\x08' => ['\\', 'b']
  | '\x0c' => ['\\', 'f']
  | c => if c.toNat < 0x20 then '\\' :: 'u' :: Numeral.padded 16 4 c.toNat else [c]

/-- A string in quotation marks. -/
def quote (s : String) : String := "\"" ++ String.ofList (s.toList.flatMap escape) ++ "\""

/-- The start of a line at the given level. -/
def margin (level : Nat) : String := "\n" ++ String.ofList (List.replicate (2 * level) ' ')

/-- Entries between two brackets, one a line, the brackets at the given level. -/
def block (level : Nat) (opening closing : String) : List String → String
  | [] => opening ++ closing
  | entries =>
    opening ++ margin (level + 1) ++ String.intercalate ("," ++ margin (level + 1)) entries ++
      margin level ++ closing

mutual

/-- The text of a value whose brackets stand at the given level. -/
def layout (level : Nat) : Json → String
  | .null => "null"
  | .bool true => "true"
  | .bool false => "false"
  | .number n => Numeral.decimal n
  | .string s => quote s
  | .list items => block level "[" "]" (layoutItems (level + 1) items)
  | .record fields => block level "\x7b" "\x7d" (layoutFields (level + 1) fields)

/-- The texts of the values of a list. -/
def layoutItems (level : Nat) : List Json → List String
  | [] => []
  | item :: items => layout level item :: layoutItems level items

/-- The texts of the fields of a record, each behind its name. -/
def layoutFields (level : Nat) : List (String × Json) → List String
  | [] => []
  | (name, value) :: fields =>
    (quote name ++ ": " ++ layout level value) :: layoutFields level fields

end

mutual

/-- The text of a value on one line, without blanks. -/
def compact : Json → String
  | .null => "null"
  | .bool true => "true"
  | .bool false => "false"
  | .number n => Numeral.decimal n
  | .string s => quote s
  | .list items => "[" ++ String.intercalate "," (compactItems items) ++ "]"
  | .record fields => "\x7b" ++ String.intercalate "," (compactFields fields) ++ "\x7d"

/-- The texts of the values of a list, each on one line. -/
def compactItems : List Json → List String
  | [] => []
  | item :: items => compact item :: compactItems items

/-- The texts of the fields of a record, each on one line. -/
def compactFields : List (String × Json) → List String
  | [] => []
  | (name, value) :: fields => (quote name ++ ":" ++ compact value) :: compactFields fields

end

/-- The text of a value over several lines. -/
def pretty (value : Json) : String := layout 0 value

end Json

end PointerTagging.Text
