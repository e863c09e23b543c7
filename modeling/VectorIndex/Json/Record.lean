import VectorIndex.Json.Value

/-!
# Reading typed data from JSON

A `Decoder` reads one type and refuses every value of another shape.  A record is read
from an object, whose members may come in any order, or from an array that lists its
fields from the first on.  `Fields` is what was found under each of the record's names;
a name that occurs twice, or an array that is too long, is refused.
-/

set_option autoImplicit false

namespace VectorIndex.Json

/-- Reads a value of one type, or refuses. -/
abbrev Decoder (α : Type) := Value → Option α

namespace Decoder

/-- Reads a text. -/
def string : Decoder String
  | .string s => some s
  | _ => none

/-- Reads a truth value. -/
def bool : Decoder Bool
  | .bool b => some b
  | _ => none

/-- A signed 64-bit integer. -/
def int64 : Decoder Int64
  | .int n => if -0x8000000000000000 ≤ n ∧ n < 0x8000000000000000 then some (Int64.ofInt n) else none
  | _ => none

/-- An unsigned 64-bit integer. -/
def word : Decoder UInt64
  | .int n => if 0 ≤ n ∧ n < 0x10000000000000000 then some (UInt64.ofNat n.toNat) else none
  | _ => none

/-- An unsigned 32-bit integer. -/
def word32 : Decoder UInt32
  | .int n => if 0 ≤ n ∧ n < 0x100000000 then some (UInt32.ofNat n.toNat) else none
  | _ => none

/-- Any number, rounded to the nearest double. -/
def double : Decoder Double
  | .float d => some d
  | .int n => some (Double.ofInt n)
  | _ => none

/-- A value or nothing, which is written `null`. -/
def optional {α : Type} (decode : Decoder α) : Decoder (Option α)
  | .null => some none
  | v => (decode v).map some

/-- A choice, written as its name or as an object with that name over `null`. -/
def choice {α : Type} (table : List (String × α)) : Decoder α
  | .string name => table.lookup name
  | .object [(name, .null)] => table.lookup name
  | _ => none

end Decoder

/-- What was found under the names of a record. -/
abbrev Fields := List (String × Value)

/-- Whether some name occurs twice. -/
def repeats (names : List String) : Bool :=
  match names with
  | [] => false
  | n :: ns => ns.contains n || repeats ns

/-- The members of a record with the given names.  A strict record has no other members. -/
def fields? (names : List String) (strict : Bool) : Value → Option Fields
  | .object members =>
    let known := members.filter fun m => names.contains m.1
    if repeats (known.map Prod.fst) then none
    else if strict && known.length != members.length then none
    else some known
  | .array items => if names.length < items.length then none else some (names.zip items)
  | _ => none

namespace Fields

variable {α : Type}

/-- A field that has to be there. -/
def required (fields : Fields) (name : String) (decode : Decoder α) : Option α :=
  match fields.lookup name with
  | some v => decode v
  | none => none

/-- A field that has a default when it is not there. -/
def orElse (fields : Fields) (name : String) (decode : Decoder α) (default : α) : Option α :=
  match fields.lookup name with
  | some v => decode v
  | none => some default

/-- A field that may be missing or `null`. -/
def option (fields : Fields) (name : String) (decode : Decoder α) : Option (Option α) :=
  fields.orElse name (Decoder.optional decode) none

end Fields

/-- An optional member of an encoded record, left out when there is nothing to say. -/
def member? {α : Type} (name : String) (encode : α → Value) : Option α → List (String × Value)
  | some a => [(name, encode a)]
  | none => []

end VectorIndex.Json
