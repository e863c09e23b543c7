import VectorIndex.Json.Value
import VectorIndex.Text.Hex

/-!
# Writing JSON text

Compact text: no blanks, members in the order of the value.  Only what a string must not
hold is escaped.
-/

set_option autoImplicit false

namespace VectorIndex.Json

/-- One character inside a JSON string. -/
def escapedChar (c : Char) : List Char :=
  match c with
  | '"' => ['\\', '"']
  | '\\' => ['\\', '\\']
  | '\n' => ['\\', 'n']
  | '\r' => ['\\', 'r']
  | '\t' => ['\\', 't']
  | '\x08' => ['\\', 'b']
  | '\x0c' => ['\\', 'f']
  | c => if c.toNat < 0x20 then "\\u".toList ++ (Text.Hex.padded 4 c.toNat).toList else [c]

/-- A string between quotes. -/
def stringText (s : String) : String :=
  "\"" ++ String.ofList (s.toList.flatMap escapedChar) ++ "\""

mutual

/-- The compact text of a value; `number` writes the floats. -/
def Value.text (number : Double → String) : Value → String
  | .null => "null"
  | .unreadable => "null"
  | .bool b => if b then "true" else "false"
  | .int n => toString n
  | .float d => number d
  | .string s => stringText s
  | .array items => "[" ++ itemsText number items ++ "]"
  | .object members => "\x7b" ++ membersText number members ++ "\x7d"

/-- Items between commas. -/
def itemsText (number : Double → String) : List Value → String
  | [] => ""
  | [v] => v.text number
  | v :: w :: vs => v.text number ++ "," ++ itemsText number (w :: vs)

/-- Members between commas. -/
def membersText (number : Double → String) : List (String × Value) → String
  | [] => ""
  | [(n, v)] => stringText n ++ ":" ++ v.text number
  | (n, v) :: m :: ms => stringText n ++ ":" ++ v.text number ++ "," ++ membersText number (m :: ms)

end

end VectorIndex.Json
