import VectorIndex.Number.Double

/-!
# TOML values

What a TOML document says.  A date or time is kept as it is written.
-/

set_option autoImplicit false

namespace VectorIndex.Toml

/-- A value of a document. -/
inductive Value where
  | string (s : String)
  | integer (n : Int)
  | float (d : Double)
  | boolean (b : Bool)
  | datetime (text : String)
  | array (items : List Value)
  | table (entries : List (String × Value))

/-- The name of a value's type. -/
def Value.typeName : Value → String
  | .string _ => "string"
  | .integer _ => "integer"
  | .float _ => "float"
  | .boolean _ => "boolean"
  | .datetime _ => "datetime"
  | .array _ => "array"
  | .table _ => "table"

end VectorIndex.Toml
