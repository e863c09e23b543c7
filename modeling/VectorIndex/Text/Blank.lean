/-!
# Blank text

`isBlank` is the Unicode property `White_Space`; a text is blank when all its
characters are.  The zero-width space and the byte-order mark are not blank.
-/

set_option autoImplicit false

namespace VectorIndex.Text

/-- Whether a character has the property `White_Space`. -/
def isBlank (c : Char) : Bool :=
  let n := c.toNat
  (0x09 ≤ n && n ≤ 0x0D) || n == 0x20 || n == 0x85 || n == 0xA0 || n == 0x1680 ||
  (0x2000 ≤ n && n ≤ 0x200A) || n == 0x2028 || n == 0x2029 || n == 0x202F ||
  n == 0x205F || n == 0x3000

/-- Whether a text holds nothing but white space. -/
def isBlankText (s : String) : Bool :=
  s.toList.all isBlank

/-- Characters without the white space on both sides. -/
def withoutMargins (cs : List Char) : List Char :=
  ((cs.dropWhile isBlank).reverse.dropWhile isBlank).reverse

end VectorIndex.Text
