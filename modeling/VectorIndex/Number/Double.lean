/-!
# Double-precision numbers as bit patterns

A double is its 64 bits.  Rounding an exact ratio to the nearest double, ties to the
even significand, is done in natural numbers; so is the test that a number lies in
the half-open unit interval, which on bit patterns is a comparison of words.
-/

set_option autoImplicit false

namespace VectorIndex

/-- A double-precision number, given by its bit pattern. -/
structure Double where
  bits : UInt64
  deriving DecidableEq, Repr

namespace Double

/-- The pattern of positive infinity. -/
def infinityBits : Nat := 0x7FF0000000000000

/-- The integer nearest to `num / den`, ties to the even one. -/
def nearest (num den : Nat) : Nat :=
  let q := num / den
  let r := num % den
  if 2 * r < den then q
  else if den < 2 * r then q + 1
  else q + q % 2

/-- The pattern of the nonnegative double nearest to `num / den`: a significand `m` in units of
`2 ^ q` has the pattern `(q + 1074) * 2 ^ 52 + m`, whatever its exponent, and a pattern at
or above infinity is infinity. -/
def ratioBits (num den : Nat) : Nat :=
  if num = 0 then 0
  else
    let e : Int := (num.log2 : Int) - (den.log2 : Int)
    let inUnits (q : Int) : Nat × Nat :=
      if 0 ≤ q then (num, den * Nat.pow 2 q.toNat) else (num * Nat.pow 2 (-q).toNat, den)
    let wide := inUnits (e - 53)
    let q := if 0x20000000000000 ≤ wide.1 / wide.2 then e - 52 else e - 53
    let q := max q (-1074)
    let u := inUnits q
    min ((q + 1074).toNat * 0x10000000000000 + nearest u.1 u.2) infinityBits

/-- Sets the sign bit. -/
def signed (negative : Bool) (magnitude : Nat) : Double :=
  ⟨UInt64.ofNat (if negative then 0x8000000000000000 + magnitude else magnitude)⟩

/-- The double nearest to `± digits * 10 ^ exponent`.  An exponent far outside the range of
doubles is decided by the number of digits alone. -/
def ofDecimal (negative : Bool) (digits : Nat) (exponent : Int) : Double :=
  let places : Int := (Nat.toDigits 10 digits).length
  signed negative <|
    if digits = 0 then 0
    else if 320 < places + exponent then infinityBits
    else if places + exponent < -350 then 0
    else if 0 ≤ exponent then ratioBits (digits * Nat.pow 10 exponent.toNat) 1
    else ratioBits digits (Nat.pow 10 (-exponent).toNat)

/-- The double nearest to an integer. -/
def ofInt (n : Int) : Double :=
  signed (decide (n < 0)) (ratioBits n.natAbs 1)

/-- Whether a pattern is neither an infinity nor a NaN. -/
def isFinite (d : Double) : Bool :=
  d.bits.toNat % 0x8000000000000000 < infinityBits

/-- Whether a number lies in `(0, 1]`: the patterns of positive numbers grow with the number, and
`1` has the pattern `0x3FF0000000000000`.  A NaN and a negative number have larger patterns. -/
def inUnitInterval (d : Double) : Bool :=
  0 < d.bits.toNat && d.bits.toNat ≤ 0x3FF0000000000000

end Double

end VectorIndex
