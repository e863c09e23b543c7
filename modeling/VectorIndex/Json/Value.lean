import VectorIndex.Number.Double

/-!
# JSON values

Members of an object keep their order and may repeat, because whether a repeated
member matters depends on who reads the object.  `unreadable` stands for text that
is well formed but has no value: half of a surrogate pair, or a number beyond the
range of doubles.  A reader that skips a member accepts it, one that needs the value
does not.
-/

set_option autoImplicit false

namespace VectorIndex.Json

/-- A JSON value as it stands in a text. -/
inductive Value where
  | null
  | bool (b : Bool)
  /-- A number written as an integer that fits 64 bits, signed or unsigned. -/
  | int (n : Int)
  /-- Any other number. -/
  | float (d : Double)
  | string (s : String)
  | array (items : List Value)
  | object (members : List (String × Value))
  | unreadable
  deriving Repr, Inhabited

/-- A 64-bit word as a number. -/
def Value.word (n : UInt64) : Value := .int n.toNat

end VectorIndex.Json
