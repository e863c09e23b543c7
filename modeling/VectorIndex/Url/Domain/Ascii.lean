import VectorIndex.Text.Affix
import VectorIndex.Url.Domain.Direction
import VectorIndex.Url.Domain.Joiner
import VectorIndex.Url.Domain.Table
import VectorIndex.Url.Punycode

/-!
# Domain names in ASCII

The form in ASCII of a domain name is the same for all spellings of the name: the
characters are spelled alike, the text is composed, and every label with characters
beyond ASCII is written as `xn--` and the label's form in ASCII.  A label that already has
this form is read back, and the label it stands for has to be spelled properly.
-/

set_option autoImplicit false

namespace VectorIndex.Domain

/-! ## Characters -/

/-- Characters of ASCII that no domain name may have. -/
def isForbidden (c : Char) : Bool :=
  c.toNat ≤ 0x20 || c.toNat = 0x7F || "#/:<>?@[\\]^|%".toList.contains c

/-- How a character is spelled; nothing if it is refused. -/
def spelling? (c : Char) : Option (List Char) :=
  if c.toNat < 0x80 then some [c.toLower]
  else if ignored.contains c then some []
  else match spellings.find? c with
    | some cs => some cs
    | none =>
      if refused.contains c || (Text.isHidden c && c != joiner && c != nonJoiner) then none
      else some [c]

/-- The composed spelling of a text; nothing if a character is refused. -/
def spelled? (text : List Char) : Option (List Char) := do
  let cs ← text.mapM spelling?
  let cs := Text.composed cs.flatten
  if cs.any isForbidden then none else some cs

/-! ## Labels -/

/-- The start of a label that was brought into ASCII. -/
def mark : List Char := "xn--".toList

/-- The largest number of characters in a label in ASCII that is read back. -/
def maxRead : Nat := 2000

/-- The largest number of characters in a label that is brought into ASCII. -/
def maxWritten : Nat := 1000

/-- Whether all characters are those of ASCII. -/
def isAscii (label : List Char) : Bool :=
  label.all fun c => c.toNat < 0x80

/-- The label that a form in ASCII stands for.  It has other characters than those of ASCII and is
spelled as it should be. -/
def read? (digits : List Char) : Option (List Char) := do
  if digits.isEmpty || digits.getLast? == some '-' || maxRead < digits.length then none
  else
    let label ← Punycode.decode? digits
    let proper ← spelled? label
    if proper = label && !label.contains '.' then some label else none

/-- The label that a spelled text stands for. -/
def label? (text : List Char) : Option (List Char) :=
  match Text.rest? mark text with
  | some digits => read? digits
  | none => some text

/-- Whether a label may stand in a domain name. -/
def isLabel (label : List Char) : Bool :=
  !(label.head?.any Text.isMark) && joinersFit [] label &&
    (isAscii label || label.length ≤ maxWritten)

/-- The form of a label in ASCII. -/
def labelText (label : List Char) : List Char :=
  if isAscii label then label else mark ++ Punycode.encode label

/-! ## Names -/

/-- The form of a domain name in ASCII; nothing if it is no domain name. -/
def toAscii? (text : List Char) : Option (List Char) := do
  let cs ← spelled? text
  let labels ← (Text.splitAt '.' cs).mapM label?
  if labels.all isLabel &&
      (!(labels.any fun l => l.any asksForDirection) || labels.all hasDirection) then
    some (List.intercalate ['.'] (labels.map labelText))
  else none

end VectorIndex.Domain
