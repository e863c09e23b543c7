/-!
# Cutting lists into pieces of one length

`groups n xs` are the full pieces of `n` entries, in order, and drops a shorter rest;
`pieces n xs` keeps the rest as a last, shorter piece.
-/

set_option autoImplicit false

namespace VectorIndex.Grouping

variable {α : Type}

/-- The full groups of `n` entries, in order; a shorter rest is dropped. -/
def groups (n : Nat) (xs : List α) : List (List α) :=
  if _h : 0 < n ∧ (xs.take n).length = n then
    xs.take n :: groups n (xs.drop n)
  else []
termination_by xs.length
decreasing_by
  have := List.length_take (i := n) (l := xs)
  simp only [List.length_drop]; omega

/-- Consecutive pieces of `n` entries, the last one possibly shorter; none of an empty list. -/
def pieces (n : Nat) (xs : List α) : List (List α) :=
  if _h : 0 < n ∧ !xs.isEmpty then
    xs.take n :: pieces n (xs.drop n)
  else []
termination_by xs.length
decreasing_by
  have : xs ≠ [] := by simpa using _h.2
  have : 0 < xs.length := List.length_pos_iff.2 this
  simp only [List.length_drop]; omega

/-- Groups of one length lose only the rest. -/
theorem groups_of_short {n : Nat} {xs : List α} (h : xs.length < n) : groups n xs = [] := by
  rw [groups, dif_neg]
  simp only [List.length_take]
  omega

/-- A full group in front is the first group. -/
theorem groups_append {n : Nat} {xs ys : List α} (hn : 0 < n) (h : xs.length = n) :
    groups n (xs ++ ys) = xs :: groups n ys := by
  have htake : (xs ++ ys).take n = xs := by rw [← h, List.take_left]
  have hdrop : (xs ++ ys).drop n = ys := by rw [← h, List.drop_left]
  rw [groups, dif_pos ⟨hn, by rw [htake, h]⟩, htake, hdrop]

/-- Every group has the asked length. -/
theorem length_of_mem_groups {n : Nat} {xs g : List α} (h : g ∈ groups n xs) : g.length = n := by
  fun_induction groups n xs with
  | case1 xs hx ih =>
    rcases List.mem_cons.1 h with rfl | h
    · exact hx.2
    · exact ih h
  | case2 => simp at h

/-- Pieces put together again give the list. -/
theorem flatten_pieces {n : Nat} (hn : 0 < n) (xs : List α) : (pieces n xs).flatten = xs := by
  fun_induction pieces n xs with
  | case1 xs _ ih => rw [List.flatten_cons, ih, List.take_append_drop]
  | case2 xs hx =>
    have : xs.isEmpty = true := by
      cases h : xs.isEmpty
      · exact absurd ⟨hn, by simp [h]⟩ hx
      · rfl
    simp [List.isEmpty_iff.1 this]

end VectorIndex.Grouping
