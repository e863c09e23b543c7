/-!
# Single-precision numbers as bit patterns

Small integers are widened exactly, the total order on patterns is an order on integer
keys, and the arithmetic rounds to nearest as the format prescribes.
-/

set_option autoImplicit false

namespace VectorIndex.Single

/-- The pattern of an integer of at most 24 bits: the leading bit gives the exponent and the
others fill the significand from the top. -/
def ofInt (n : Int) : UInt32 :=
  let m := n.natAbs
  let sign := if n < 0 then 0x80000000 else 0
  if m = 0 then 0
  else
    let rest := (m - Nat.pow 2 m.log2) * Nat.pow 2 (23 - m.log2)
    UInt32.ofNat (sign + (127 + m.log2) * 0x800000 + rest)

/-- A key that grows with the total order on patterns: negative zero comes before zero, and the
NaNs lie beyond the infinities of their sign. -/
def orderKey (x : UInt32) : Int :=
  let n : Int := x.toNat
  if n < 0x80000000 then n else 0x80000000 - 1 - n

/-- The total order on patterns. -/
def totalLe (x y : UInt32) : Bool :=
  orderKey x ≤ orderKey y

/-- Negative zero, from which a sum starts. -/
def negativeZero : Float32 := Float32.ofBits 0x80000000

/-- The sum of a list, from left to right. -/
def sum (xs : List Float32) : Float32 :=
  xs.foldl (· + ·) negativeZero

end VectorIndex.Single
