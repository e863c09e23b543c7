import VectorIndex.Number.Word

/-!
# Decimal numbers in texts

A number of 64 bits is written with decimal digits, any number of leading zeros and at
most one plus sign.
-/

set_option autoImplicit false

namespace VectorIndex.Text.Decimal

/-- The number that decimal digits spell. -/
def ofDigits (cs : List Char) : Nat :=
  cs.foldl (fun n c => 10 * n + (c.toNat - 48)) 0

/-- The number that a text spells, if it has fewer than 65 bits. -/
def word? (text : String) : Option UInt64 :=
  let digits := match text.toList with
    | '+' :: rest => rest
    | cs => cs
  if !digits.isEmpty && digits.all Char.isDigit && ofDigits digits < 0x10000000000000000 then
    some (UInt64.ofNat (ofDigits digits))
  else none

end VectorIndex.Text.Decimal
