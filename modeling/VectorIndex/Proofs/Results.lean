import Mathlib.Tactic.Common

/-!
# Computations that succeed

A computation that is put together from others succeeds when all of them do, and then only.
-/

set_option autoImplicit false

namespace VectorIndex

variable {α β ε : Type}

/-- A computation in two parts that succeeds does so in both. -/
theorem exists_ok_of_bind {x : Except ε α} {f : α → Except ε β} {b : β}
    (h : (x >>= f) = .ok b) : ∃ a, x = .ok a ∧ f a = .ok b := by
  cases x with
  | error e => cases h
  | ok a => exact ⟨a, rfl, h⟩

/-- A computation in two parts succeeds exactly when both do. -/
theorem bind_eq_ok_iff {x : Except ε α} {f : α → Except ε β} {b : β} :
    (x >>= f) = .ok b ↔ ∃ a, x = .ok a ∧ f a = .ok b :=
  ⟨exists_ok_of_bind, fun ⟨_, hx, hf⟩ => by rw [hx]; exact hf⟩

/-- A list of computations that all succeed gives the list of their results. -/
theorem mapM_eq_ok {f : α → Except ε β} {g : α → β} {xs : List α}
    (h : ∀ x ∈ xs, f x = .ok (g x)) : xs.mapM f = .ok (xs.map g) := by
  induction xs with
  | nil => rfl
  | cons x xs ih =>
    rw [List.mapM_cons, h x List.mem_cons_self, ih fun y hy => h y (List.mem_cons_of_mem x hy)]
    rfl

/-- In a list of computations that succeeds, all of them do. -/
theorem exists_ok_of_mapM {f : α → Except ε β} {xs : List α} {ys : List β}
    (h : xs.mapM f = .ok ys) : ∀ x ∈ xs, ∃ y, f x = .ok y := by
  induction xs generalizing ys with
  | nil => exact nofun
  | cons x xs ih =>
    rw [List.mapM_cons] at h
    obtain ⟨y, hy, h⟩ := exists_ok_of_bind h
    obtain ⟨rest, hrest, -⟩ := exists_ok_of_bind h
    intro x' hx'
    obtain rfl | hmem := List.mem_cons.1 hx'
    · exact ⟨y, hy⟩
    · exact ih hrest x' hmem

end VectorIndex
