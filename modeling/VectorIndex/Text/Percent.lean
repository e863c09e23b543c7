import VectorIndex.Bytes
import VectorIndex.Text.Hex

/-!
# Percent-encoding

An octet that may not stand for itself is written as a percent sign and two upper-case
hexadecimal digits.  Octets beyond the ASCII range are always written so.
-/

set_option autoImplicit false

namespace VectorIndex.Text.Percent

/-- The written form of one octet. -/
def escape (b : UInt8) : List Char :=
  ['%', Hex.upperDigit (b.toNat / 16), Hex.upperDigit (b.toNat % 16)]

/-- Whether an octet is a control character of ASCII. -/
def isControl (b : UInt8) : Bool :=
  b < 0x20 || b == 0x7F

/-- Whether an octet has to be written in hexadecimal: controls, octets beyond ASCII, and the
characters of a set. -/
def needsEscape (special : List Char) (b : UInt8) : Bool :=
  isControl b || 0x80 ≤ b || special.contains (Char.ofNat b.toNat)

/-- Encodes octets. -/
def encodeBytes (special : List Char) (bytes : Bytes) : List Char :=
  bytes.flatMap fun b => if needsEscape special b then escape b else [Char.ofNat b.toNat]

/-- Encodes a text. -/
def encode (special : List Char) (s : String) : String :=
  String.ofList (encodeBytes special (Bytes.ofText s))

end VectorIndex.Text.Percent
