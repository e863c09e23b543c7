import VectorIndex.Error
import VectorIndex.Json.Reader
import VectorIndex.Json.Record

/-!
# Documents

A document is a text that holds one record.  It is refused as a whole: neither a text
that is no JSON nor one that spells something else says what was wrong with it.
-/

set_option autoImplicit false

namespace VectorIndex.Json

/-- What a document holds. -/
def readDocument {α : Type} (decode : Decoder α) (text : String) : Except BuildError α :=
  match (Value.ofText? text).bind decode with
  | some a => .ok a
  | none => .error .json

end VectorIndex.Json
