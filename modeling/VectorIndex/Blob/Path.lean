import VectorIndex.Error
import VectorIndex.Text.Affix
import VectorIndex.Text.Percent

/-!
# Object paths

An object is named by segments.  In a text they stand between slashes; one slash in
front and one behind are ignored.  No segment is empty, a relative step, or holds a
control character.
-/

set_option autoImplicit false

namespace VectorIndex

/-- The name of an object. -/
structure ObjectPath where
  segments : List String
  deriving DecidableEq, Repr, Hashable

namespace ObjectPath

/-- The text of a path. -/
def text (p : ObjectPath) : String :=
  String.intercalate "/" p.segments

/-- Whether a character may not occur in a segment. -/
def isControl (c : Char) : Bool :=
  c.toNat < 0x20 || c.toNat == 0x7F

/-- Checks one segment of a path. -/
def checkSegment (path : String) (segment : List Char) : Except PathError String :=
  let s := String.ofList segment
  if segment.isEmpty then .error (.emptySegment path)
  else if s = "." ∨ s = ".." then .error (.badSegment path s s)
  else match segment.find? isControl with
    | some c => .error (.badSegment path s (String.singleton c))
    | none => .ok s

/-- The path that a text spells. -/
def parse (text : String) : Except PathError ObjectPath :=
  let cs := text.toList
  let cs := match cs with
    | '/' :: rest => rest
    | cs => cs
  if cs.isEmpty then .ok ⟨[]⟩
  else
    let cs := if cs.getLast? = some '/' then cs.dropLast else cs
    ObjectPath.mk <$> (Text.splitAt '/' cs).mapM (checkSegment text)

/-- Characters that are trouble in the names of objects. -/
def troublesome : List Char :=
  ['/', '\\', '{', '^', '}', '%', '\u0060', ']', '"', '>', '[', '~', '<', '#', '|', '*', '?']

/-- One segment with everything percent-encoded that is trouble. -/
def escapeSegment (segment : List Char) : String :=
  if segment = ['.'] then "%2E"
  else if segment = ['.', '.'] then "%2E%2E"
  else Text.Percent.encode troublesome (String.ofList segment)

/-- The path of a text with everything percent-encoded that is trouble; empty segments are left
out. -/
def escaped (text : String) : ObjectPath :=
  ⟨((Text.splitAt '/' text.toList).filter fun s => !s.isEmpty).map escapeSegment⟩

end ObjectPath

end VectorIndex
