import Mathlib.Algebra.Order.Field.Basic
import Mathlib.Algebra.Order.Field.Rat
import Mathlib.Tactic.Linarith
import Mathlib.Tactic.Positivity
import VectorIndex.Number.Shortest

/-!
# The numbers that patterns stand for

A finite pattern of a double stands for a rational number, `Double.value?`: its sign, times a
significand of at most 53 bits, times a power of two.  Comparing patterns is comparing numbers as
far as the range `(0, 1]` goes (`Double.inUnitInterval_iff`): the patterns of the numbers in it are
those from `1` up to that of the number one, and no infinity and no NaN is among them.
-/

set_option autoImplicit false

namespace VectorIndex.Double

/-- The biased exponent of a pattern.  The smallest one is written in two ways. -/
def biasedExponent (d : Double) : Nat :=
  max (d.bits.toNat % 0x8000000000000000 / 0x10000000000000) 1

/-- The number that a finite pattern stands for, apart from its sign. -/
def absoluteValue (d : Double) : ℚ :=
  d.significand * (2 : ℚ) ^ d.unitExponent

/-- The number that a pattern stands for.  An infinity and a NaN stand for none. -/
def value? (d : Double) : Option ℚ :=
  if d.isFinite then
    some (if d.bits.toNat < 0x8000000000000000 then d.absoluteValue else -d.absoluteValue)
  else none

variable {d : Double}

/-- An absolute value is the significand, shifted by the exponent. -/
theorem absoluteValue_eq : d.absoluteValue = d.significand * 2 ^ d.biasedExponent / 2 ^ 1075 := by
  have hexponent : d.unitExponent = (d.biasedExponent : Int) - (1075 : Nat) := rfl
  unfold absoluteValue
  rw [hexponent, zpow_sub₀ two_ne_zero, zpow_natCast, zpow_natCast, mul_div_assoc]

/-- Absolute values are not negative. -/
theorem absoluteValue_nonneg : 0 ≤ d.absoluteValue :=
  mul_nonneg (Nat.cast_nonneg _) (zpow_pos two_pos _).le

/-- Only the two zeros have the absolute value zero. -/
theorem absoluteValue_pos_iff :
    0 < d.absoluteValue ↔ 0 < d.bits.toNat % 0x8000000000000000 := by
  have hsignificand : 0 < d.significand ↔ 0 < d.bits.toNat % 0x8000000000000000 := by
    unfold significand
    dsimp only
    split <;> omega
  have hpower : (0 : ℚ) < 2 ^ d.unitExponent := zpow_pos two_pos _
  unfold absoluteValue
  rw [mul_pos_iff_of_pos_right hpower, Nat.cast_pos, hsignificand]

/-- The number one has the pattern `0x3FF0000000000000`, and smaller numbers have smaller
patterns. -/
theorem absoluteValue_le_one_iff :
    d.absoluteValue ≤ 1 ↔ d.bits.toNat % 0x8000000000000000 ≤ 0x3FF0000000000000 := by
  have hwhole : d.absoluteValue ≤ 1 ↔ d.significand * 2 ^ d.biasedExponent ≤ 2 ^ 1075 := by
    rw [absoluteValue_eq, div_le_one (by positivity)]
    exact_mod_cast Iff.rfl
  have hbound : d.significand < 2 ^ 53 := by
    unfold significand
    dsimp only
    split <;> omega
  rw [hwhole]
  obtain hsmall | hone | hlarge : d.biasedExponent ≤ 1022 ∨ d.biasedExponent = 1023 ∨
      1024 ≤ d.biasedExponent := by omega
  · -- every significand is small enough
    have hpower : 2 ^ d.biasedExponent ≤ 2 ^ 1022 := pow_le_pow_right₀ one_le_two hsmall
    have hle : d.significand * 2 ^ d.biasedExponent ≤ 2 ^ 1075 := by
      rw [show (2 : Nat) ^ 1075 = 2 ^ 53 * 2 ^ 1022 by rw [← pow_add]]
      exact Nat.mul_le_mul hbound.le hpower
    have hpattern : d.bits.toNat % 0x8000000000000000 ≤ 0x3FF0000000000000 := by
      unfold biasedExponent at hsmall
      omega
    exact ⟨fun _ => hpattern, fun _ => hle⟩
  · -- only the smallest significand is
    rw [hone, show (2 : Nat) ^ 1075 = 2 ^ 52 * 2 ^ 1023 by rw [← pow_add],
      Nat.mul_le_mul_right_iff (Nat.two_pow_pos 1023)]
    unfold biasedExponent at hone
    unfold significand
    dsimp only
    rw [if_neg (by omega)]
    omega
  · -- none is
    have hpower : 2 ^ 1024 ≤ 2 ^ d.biasedExponent := pow_le_pow_right₀ one_le_two hlarge
    have hle : 2 ^ 52 * 2 ^ 1024 ≤ d.significand * 2 ^ d.biasedExponent := by
      refine Nat.mul_le_mul ?_ hpower
      unfold biasedExponent at hlarge
      unfold significand
      dsimp only
      rw [if_neg (by omega)]
      omega
    have hless : (2 : Nat) ^ 1075 < 2 ^ 52 * 2 ^ 1024 := by
      rw [← pow_add]
      exact pow_lt_pow_right₀ one_lt_two (by decide)
    have hpattern : ¬ d.bits.toNat % 0x8000000000000000 ≤ 0x3FF0000000000000 := by
      unfold biasedExponent at hlarge
      omega
    exact iff_of_false (Nat.not_le.2 (hless.trans_le hle)) hpattern

/-- The comparison of patterns says whether a pattern stands for a number in `(0, 1]`. -/
theorem inUnitInterval_iff :
    d.inUnitInterval = true ↔ ∃ q, d.value? = some q ∧ 0 < q ∧ q ≤ 1 := by
  have hbits : d.inUnitInterval = true ↔
      0 < d.bits.toNat ∧ d.bits.toNat ≤ 0x3FF0000000000000 := by
    simp [inUnitInterval]
  rw [hbits]
  unfold value? isFinite infinityBits
  constructor
  · rintro ⟨hpos, hle⟩
    refine ⟨d.absoluteValue, ?_, absoluteValue_pos_iff.2 (by omega),
      absoluteValue_le_one_iff.2 (by omega)⟩
    rw [if_pos (decide_eq_true (by omega)), if_pos (by omega)]
  · rintro ⟨q, hq, hpos, hle⟩
    split at hq
    · split at hq
      · next hsign =>
        obtain rfl := Option.some.inj hq
        rw [absoluteValue_pos_iff] at hpos
        rw [absoluteValue_le_one_iff] at hle
        omega
      · obtain rfl := Option.some.inj hq
        linarith [d.absoluteValue_nonneg]
    · cases hq

end VectorIndex.Double
