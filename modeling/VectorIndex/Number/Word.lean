/-!
# Checked products and sums of 64-bit words

Sizes of buffers are 64-bit words.  A product or a sum that leaves the range is reported
instead of wrapped: `Word.mul? a b` is `some` of the mathematical product exactly
when that product has at most 64 bits, and so is `Word.add? a b` of the sum.
-/

set_option autoImplicit false

namespace VectorIndex.Word

/-- The product of two words, unless it needs more than 64 bits. -/
def mul? (a b : UInt64) : Option UInt64 :=
  if a.toNat * b.toNat < 0x10000000000000000 then some (UInt64.ofNat (a.toNat * b.toNat)) else none

/-- A checked product is the mathematical one, and is refused exactly when it does not fit. -/
theorem mul?_eq_some_iff {a b c : UInt64} : mul? a b = some c ↔ a.toNat * b.toNat = c.toNat := by
  unfold mul?
  constructor
  · intro h
    split at h
    · next hlt =>
      cases h
      exact (UInt64.toNat_ofNat_of_lt' hlt).symm
    · cases h
  · intro h
    have hc : c.toNat < 0x10000000000000000 := UInt64.toNat_lt c
    rw [h, if_pos hc, UInt64.ofNat_toNat]

/-- A product is refused exactly when it needs more than 64 bits. -/
theorem mul?_eq_none_iff {a b : UInt64} :
    mul? a b = none ↔ 0x10000000000000000 ≤ a.toNat * b.toNat := by
  unfold mul?
  split <;> simp_all

/-- A product of three words is made in two steps.  The first step fits when the whole does. -/
theorem mul?_bind_mul?_eq_some_iff {a b c d : UInt64} (hc : 0 < c.toNat) :
    (mul? a b).bind (mul? · c) = some d ↔ a.toNat * b.toNat * c.toNat = d.toNat := by
  rw [Option.bind_eq_some_iff]
  constructor
  · rintro ⟨ab, hab, habc⟩
    rw [mul?_eq_some_iff.1 hab]
    exact mul?_eq_some_iff.1 habc
  · intro h
    have hle : a.toNat * b.toNat ≤ d.toNat := h ▸ Nat.le_mul_of_pos_right _ hc
    have hab : a.toNat * b.toNat = (UInt64.ofNat (a.toNat * b.toNat)).toNat :=
      (UInt64.toNat_ofNat_of_lt' (Nat.lt_of_le_of_lt hle (UInt64.toNat_lt d))).symm
    exact ⟨_, mul?_eq_some_iff.2 hab, mul?_eq_some_iff.2 (hab ▸ h)⟩

/-- The sum of two words, unless it needs more than 64 bits. -/
def add? (a b : UInt64) : Option UInt64 :=
  if a.toNat + b.toNat < 0x10000000000000000 then some (a + b) else none

/-- A checked sum is the mathematical one, and is refused exactly when it does not fit. -/
theorem add?_eq_some_iff {a b c : UInt64} : add? a b = some c ↔ a.toNat + b.toNat = c.toNat := by
  unfold add?
  constructor
  · intro h
    split at h
    · next hlt =>
      cases h
      rw [UInt64.toNat_add, Nat.mod_eq_of_lt hlt]
    · cases h
  · intro h
    have hc : c.toNat < 0x10000000000000000 := UInt64.toNat_lt c
    have hlt : a.toNat + b.toNat < 0x10000000000000000 := by omega
    rw [if_pos hlt]
    apply congrArg some
    apply UInt64.toNat_inj.1
    rw [UInt64.toNat_add, Nat.mod_eq_of_lt hlt, h]

/-- The sum of two words, at most the largest word. -/
def addCapped (a b : UInt64) : UInt64 :=
  if a.toNat + b.toNat < 0x10000000000000000 then a + b else UInt64.ofNat 0xFFFFFFFFFFFFFFFF

end VectorIndex.Word
