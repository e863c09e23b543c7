import VectorIndex.Number.Double

/-!
# Half-precision numbers as bit patterns

`Half.ofSingle` narrows a single-precision pattern to the nearest half-precision one,
ties to the even significand; a NaN keeps the top bits of its payload and becomes
quiet.  `Half.toSingle` widens, which is exact on numbers and makes a NaN quiet.
-/

set_option autoImplicit false

namespace VectorIndex.Half

/-- The magnitude of the half nearest to a finite single-precision magnitude.  Both formats order
magnitudes as their patterns, so a normal number is its pattern with the exponent rebased and
thirteen bits rounded away; below that range the significand itself is rounded. -/
def narrowMagnitude (m : Nat) : Nat :=
  let exponent := m / 0x800000
  let significand := m % 0x800000
  if 113 ≤ exponent then min (Double.nearest (m - 112 * 0x800000) (0x2000)) 0x7C00
  else Double.nearest (0x800000 + significand) (Nat.pow 2 (126 - exponent))

/-- The half-precision pattern nearest to a single-precision one. -/
def ofSingle (x : UInt32) : UInt16 :=
  let sign := x.toNat / 0x80000000 * 0x8000
  let m := x.toNat % 0x80000000
  UInt16.ofNat <| sign +
    if m < 0x7F800000 then narrowMagnitude m
    else if m = 0x7F800000 then 0x7C00
    else 0x7C00 + (0x200 ||| (m % 0x800000 / 0x2000))

/-- The single-precision pattern of the same value. -/
def toSingle (h : UInt16) : UInt32 :=
  let sign := h.toNat / 0x8000 * 0x80000000
  let exponent := h.toNat / 0x400 % 0x20
  let significand := h.toNat % 0x400
  UInt32.ofNat <| sign +
    if exponent = 31 then
      if significand = 0 then 0x7F800000 else 0x7FC00000 ||| (significand * 0x2000)
    else if 0 < exponent then (exponent + 112) * 0x800000 + significand * 0x2000
    else if significand = 0 then 0
    else
      let e := significand.log2
      (e + 103) * 0x800000 + (significand - Nat.pow 2 e) * Nat.pow 2 (23 - e)

end VectorIndex.Half
