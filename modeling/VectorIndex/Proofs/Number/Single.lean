import Mathlib.Tactic.Common
import VectorIndex.Number.Single

/-!
# The order of single-precision patterns

Patterns are compared by their keys, so any two of them can be compared, and what comes before a
pattern comes before all that this one comes before.
-/

set_option autoImplicit false

namespace VectorIndex.Single

variable {x y z : UInt32}

/-- A pattern comes before another one exactly if its key is not the larger one. -/
theorem totalLe_iff : totalLe x y = true ↔ orderKey x ≤ orderKey y := by
  simp [totalLe]

/-- Any two patterns can be compared. -/
theorem totalLe_total (x y : UInt32) : (totalLe x y || totalLe y x) = true := by
  simp only [Bool.or_eq_true, totalLe_iff]
  omega

/-- What comes before a pattern comes before all that this one comes before. -/
theorem totalLe_trans (hxy : totalLe x y = true) (hyz : totalLe y z = true) :
    totalLe x z = true := by
  rw [totalLe_iff] at hxy hyz ⊢
  omega

/-- The zeros are told apart. -/
example : totalLe 0x80000000 0 = true ∧ totalLe 0 0x80000000 = false := by decide

end VectorIndex.Single
