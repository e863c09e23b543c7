import VectorIndex.Bytes

/-!
# Hexadecimal text

Numbers are written with lower-case digits and no leading zero, octets with two
digits each.
-/

set_option autoImplicit false

namespace VectorIndex.Text.Hex

/-- The lower-case digit of a value below sixteen. -/
def digit (n : Nat) : Char :=
  if n < 10 then Char.ofNat (48 + n) else Char.ofNat (87 + n)

/-- The upper-case digit of a value below sixteen. -/
def upperDigit (n : Nat) : Char :=
  if n < 10 then Char.ofNat (48 + n) else Char.ofNat (55 + n)

/-- The value of a digit of either case. -/
def value? (c : Char) : Option Nat :=
  let n := c.toNat
  if 48 ≤ n ∧ n ≤ 57 then some (n - 48)
  else if 97 ≤ n ∧ n ≤ 102 then some (n - 87)
  else if 65 ≤ n ∧ n ≤ 70 then some (n - 55)
  else none

/-- The digits of a number, most significant first. -/
def ofNat (n : Nat) : String :=
  String.ofList (Nat.toDigits 16 n)

/-- The last `w` digits of a number, with leading zeros. -/
def padded (w n : Nat) : String :=
  String.ofList ((List.range w).reverse.map fun i => digit (n / Nat.pow 16 i % 16))

/-- A number behind the marker `0x`. -/
def marked (n : Nat) : String :=
  "0x" ++ ofNat n

/-- Two digits for each octet. -/
def ofBytes (bytes : Bytes) : String :=
  String.ofList (bytes.flatMap fun b => [digit (b.toNat / 16), digit (b.toNat % 16)])

/-- The octets that pairs of digits spell. -/
def bytes? : List Char → Option Bytes
  | [] => some []
  | h :: l :: rest => do
    let h ← value? h
    let l ← value? l
    let rest ← bytes? rest
    return UInt8.ofNat (16 * h + l) :: rest
  | [_] => none

end VectorIndex.Text.Hex
