import VectorIndex.Json.Value
import VectorIndex.Text.Hex

/-!
# Reading JSON text

`Value.ofText?` reads one value and nothing else but blanks around it.  The reader is
strict: no comments, no trailing commas, no leading zeros, no control characters in
strings.  The recursion is bounded by the length of the text, because every two nested
calls consume at least one character.
-/

set_option autoImplicit false

namespace VectorIndex.Json

/-- Drops the four blank characters of JSON. -/
def skipBlank : List Char → List Char
  | c :: cs => if c = ' ' ∨ c = '\t' ∨ c = '\n' ∨ c = '\r' then skipBlank cs else c :: cs
  | [] => []

/-- The number that decimal digits spell. -/
def decimal (digits : List Char) : Nat :=
  digits.foldl (fun n c => 10 * n + (c.toNat - 48)) 0

/-- The leading decimal digits and the rest. -/
def spanDigits (cs : List Char) : List Char × List Char :=
  (cs.takeWhile Char.isDigit, cs.dropWhile Char.isDigit)

/-- The digits after a decimal point, if there is one. -/
def readFraction : List Char → Option (List Char × List Char)
  | '.' :: cs =>
    match spanDigits cs with
    | ([], _) => none
    | (ds, rest) => some (ds, rest)
  | cs => some ([], cs)

/-- The exponent, if there is one. -/
def readExponent (cs : List Char) : Option (Option Int × List Char) :=
  let digits (negative : Bool) (cs : List Char) : Option (Option Int × List Char) :=
    match spanDigits cs with
    | ([], _) => none
    | (ds, rest) => some (some (if negative then -(decimal ds : Int) else decimal ds), rest)
  match cs with
  | c :: rest =>
    if c = 'e' ∨ c = 'E' then
      match rest with
      | '-' :: rest => digits true rest
      | '+' :: rest => digits false rest
      | rest => digits false rest
    else some (none, cs)
  | [] => some (none, [])

/-- The value of a number: an integer literal that fits 64 bits stays an integer, except that
negative zero is a float. -/
def numberValue (negative : Bool) (whole fraction : List Char) (exponent : Option Int) : Value :=
  let n := decimal whole
  let asFloat : Value :=
    let d := Double.ofDecimal negative (decimal (whole ++ fraction))
      (exponent.getD 0 - fraction.length)
    if d.isFinite then .float d else .unreadable
  if fraction.isEmpty && exponent.isNone then
    if negative then
      if 0 < n ∧ n ≤ 0x8000000000000000 then .int (-(n : Int)) else asFloat
    else if n < 0x10000000000000000 then .int n else asFloat
  else asFloat

/-- Reads a number after its sign. -/
def readNumber (negative : Bool) (cs : List Char) : Option (Value × List Char) := do
  let (whole, rest) := spanDigits cs
  if whole.isEmpty then none
  else if whole.head? = some '0' ∧ whole.length ≠ 1 then none
  else
    let (fraction, rest) ← readFraction rest
    let (exponent, rest) ← readExponent rest
    return (numberValue negative whole fraction exponent, rest)

/-- The four hexadecimal digits of an escaped code unit. -/
def readUnit : List Char → Option (Nat × List Char)
  | a :: b :: c :: d :: rest => do
    let a ← Text.Hex.value? a
    let b ← Text.Hex.value? b
    let c ← Text.Hex.value? c
    let d ← Text.Hex.value? d
    return (4096 * a + 256 * b + 16 * c + d, rest)
  | _ => none

/-- The characters of a string up to its closing quote.  The text is `none` when an escape is
half of a surrogate pair. -/
def readString : Nat → List Char → List Char → Bool → Option (Option String × List Char)
  | 0, _, _, _ => none
  | fuel + 1, acc, cs, readable =>
    match cs with
    | [] => none
    | '"' :: rest => some (if readable then some (String.ofList acc.reverse) else none, rest)
    | '\\' :: rest =>
      match rest with
      | '"' :: rest => readString fuel ('"' :: acc) rest readable
      | '\\' :: rest => readString fuel ('\\' :: acc) rest readable
      | '/' :: rest => readString fuel ('/' :: acc) rest readable
      | 'b' :: rest => readString fuel ('\x08' :: acc) rest readable
      | 'f' :: rest => readString fuel ('\x0c' :: acc) rest readable
      | 'n' :: rest => readString fuel ('\n' :: acc) rest readable
      | 'r' :: rest => readString fuel ('\r' :: acc) rest readable
      | 't' :: rest => readString fuel ('\t' :: acc) rest readable
      | 'u' :: rest => do
        let (u, rest) ← readUnit rest
        if 0xD800 ≤ u ∧ u < 0xDC00 then
          match rest with
          | '\\' :: 'u' :: after => do
            let (l, afterPair) ← readUnit after
            if 0xDC00 ≤ l ∧ l < 0xE000 then
              let c := Char.ofNat (0x10000 + (u - 0xD800) * 0x400 + (l - 0xDC00))
              readString fuel (c :: acc) afterPair readable
            else readString fuel acc rest false
          | _ => readString fuel acc rest false
        else if 0xDC00 ≤ u ∧ u < 0xE000 then readString fuel acc rest false
        else readString fuel (Char.ofNat u :: acc) rest readable
      | _ => none
    | c :: rest => if c.toNat < 0x20 then none else readString fuel (c :: acc) rest readable

/-- Reads a string after its opening quote. -/
def readText (cs : List Char) : Option (Option String × List Char) :=
  readString (cs.length + 1) [] cs true

mutual

/-- Reads one value. -/
def readValue : Nat → List Char → Option (Value × List Char)
  | 0, _ => none
  | fuel + 1, cs =>
    match skipBlank cs with
    | 'n' :: 'u' :: 'l' :: 'l' :: rest => some (.null, rest)
    | 't' :: 'r' :: 'u' :: 'e' :: rest => some (.bool true, rest)
    | 'f' :: 'a' :: 'l' :: 's' :: 'e' :: rest => some (.bool false, rest)
    | '"' :: rest => do
      let (s, rest) ← readText rest
      return (match s with | some s => .string s | none => .unreadable, rest)
    | '-' :: rest => readNumber true rest
    | '[' :: rest =>
      match skipBlank rest with
      | ']' :: rest => some (.array [], rest)
      | rest => do
        let (items, rest) ← readItems fuel rest
        return (.array items, rest)
    | '{' :: rest =>
      match skipBlank rest with
      | '}' :: rest => some (.object [], rest)
      | rest => do
        let (members, rest) ← readMembers fuel rest
        return (match members with | some ms => .object ms | none => .unreadable, rest)
    | cs => readNumber false cs

/-- Reads the items of an array up to its closing bracket. -/
def readItems : Nat → List Char → Option (List Value × List Char)
  | 0, _ => none
  | fuel + 1, cs => do
    let (v, rest) ← readValue fuel cs
    match skipBlank rest with
    | ',' :: rest => do
      let (vs, rest) ← readItems fuel rest
      return (v :: vs, rest)
    | ']' :: rest => some ([v], rest)
    | _ => none

/-- Reads the members of an object up to its closing brace; `none` inside when a name has no
value. -/
def readMembers : Nat → List Char → Option (Option (List (String × Value)) × List Char)
  | 0, _ => none
  | fuel + 1, cs =>
    match skipBlank cs with
    | '"' :: rest => do
      let (name, rest) ← readText rest
      match skipBlank rest with
      | ':' :: rest => do
        let (v, rest) ← readValue fuel rest
        let add (more : Option (List (String × Value))) : Option (List (String × Value)) :=
          match name, more with
          | some name, some more => some ((name, v) :: more)
          | _, _ => none
        match skipBlank rest with
        | ',' :: rest => do
          let (more, rest) ← readMembers fuel rest
          return (add more, rest)
        | '}' :: rest => some (add (some []), rest)
        | _ => none
      | _ => none
    | _ => none

end

/-- The value that a text spells. -/
def Value.ofText? (text : String) : Option Value :=
  let cs := text.toList
  match readValue (2 * cs.length + 2) cs with
  | some (v, rest) => if (skipBlank rest).isEmpty then some v else none
  | none => none

end VectorIndex.Json
