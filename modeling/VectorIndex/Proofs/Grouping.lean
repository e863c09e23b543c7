import Mathlib.Tactic.Common
import VectorIndex.Grouping

/-!
# Groups of entries

What a group is, how many there are, and how the groups of two lists in a row are put
together when the first list has no rest.
-/

set_option autoImplicit false

namespace VectorIndex.Grouping

variable {α : Type} {n : Nat}

/-- If there are enough values, the first group is the front, and the other ones come from the
rest. -/
theorem groups_of_le {xs : List α} (hn : 0 < n) (h : n ≤ xs.length) :
    groups n xs = xs.take n :: groups n (xs.drop n) := by
  conv_lhs => rw [← List.take_append_drop n xs]
  exact groups_append hn (List.length_take_of_le h)

/-- The groups of a list without a rest come before those of what follows. -/
theorem groups_append_of_dvd (hn : 0 < n) {xs : List α} (h : n ∣ xs.length) (ys : List α) :
    groups n (xs ++ ys) = groups n xs ++ groups n ys := by
  obtain ⟨k, hk⟩ := h
  induction k generalizing xs with
  | zero =>
    obtain rfl : xs = [] := List.eq_nil_of_length_eq_zero hk
    rw [groups_of_short (show ([] : List α).length < n from hn)]
    rfl
  | succ k ih =>
    have hle : n ≤ xs.length := by
      rw [hk, Nat.mul_succ]
      exact Nat.le_add_left ..
    have hrest : (xs.drop n).length = n * k := by
      rw [List.length_drop, hk, Nat.mul_succ, Nat.add_sub_cancel]
    have happend : n ≤ (xs ++ ys).length := by
      rw [List.length_append]
      exact Nat.le_trans hle (Nat.le_add_right ..)
    rw [groups_of_le hn happend, groups_of_le hn hle, List.take_append_of_le_length hle,
      List.drop_append_of_le_length hle, ih hrest, List.cons_append]

/-- There are as many groups as the length holds whole ones. -/
theorem length_groups (hn : 0 < n) (xs : List α) : (groups n xs).length = xs.length / n := by
  fun_induction groups n xs with
  | case1 xs h ih =>
    have hle : n ≤ xs.length := by
      have := List.length_take_le' n xs
      omega
    rw [List.length_cons, ih, List.length_drop, Nat.div_eq_sub_div hn hle]
  | case2 xs h =>
    have hlt : xs.length < n := by
      refine Nat.lt_of_not_le fun hle => h ⟨hn, List.length_take_of_le hle⟩
    rw [Nat.div_eq_of_lt hlt]
    rfl

/-- The group at a position is cut out at a multiple of the length. -/
theorem getElem?_groups (hn : 0 < n) {xs : List α} {i : Nat} (h : i < xs.length / n) :
    (groups n xs)[i]? = some ((xs.drop (i * n)).take n) := by
  induction i generalizing xs with
  | zero =>
    have hle : n ≤ xs.length := (Nat.div_pos_iff.1 h).2
    rw [groups_of_le hn hle, Nat.zero_mul]
    rfl
  | succ i ih =>
    have hle : n ≤ xs.length := (Nat.div_pos_iff.1 (Nat.lt_of_le_of_lt (Nat.zero_le _) h)).2
    have hrest : i < (xs.drop n).length / n := by
      rw [List.length_drop]
      rw [Nat.div_eq_sub_div hn hle] at h
      exact Nat.lt_of_succ_lt_succ h
    rw [groups_of_le hn hle, List.getElem?_cons_succ, ih hrest, List.drop_drop, Nat.succ_mul,
      Nat.add_comm n]

/-- The groups and the rest give the list again. -/
theorem flatten_groups_append_drop (n : Nat) (xs : List α) :
    (groups n xs).flatten ++ xs.drop ((groups n xs).length * n) = xs := by
  fun_induction groups n xs with
  | case1 xs h ih =>
    have hdrop : xs.drop (((groups n (xs.drop n)).length + 1) * n) =
        (xs.drop n).drop ((groups n (xs.drop n)).length * n) := by
      rw [List.drop_drop, Nat.succ_mul, Nat.add_comm n]
    rw [List.flatten_cons, List.length_cons, hdrop, List.append_assoc, ih,
      List.take_append_drop]
  | case2 xs h => simp

/-- No piece is empty. -/
theorem ne_nil_of_mem_pieces {xs : List α} : ∀ piece ∈ pieces n xs, piece ≠ [] := by
  fun_induction pieces n xs with
  | case1 xs h ih =>
    intro piece hpiece
    obtain rfl | hmem := List.mem_cons.1 hpiece
    · have hxs : xs ≠ [] := by simpa using h.2
      simp [hxs, Nat.ne_of_gt h.1]
    · exact ih piece hmem
  | case2 =>
    intro piece hpiece
    exact absurd hpiece List.not_mem_nil

/-- The groups of a list are those of its part without the rest. -/
theorem groups_take (hn : 0 < n) (xs : List α) :
    groups n (xs.take (xs.length / n * n)) = groups n xs := by
  have hle : xs.length / n * n ≤ xs.length := Nat.div_mul_le_self ..
  have hdvd : n ∣ (xs.take (xs.length / n * n)).length := by
    rw [List.length_take_of_le hle]
    exact Nat.dvd_mul_left ..
  have hshort : (xs.drop (xs.length / n * n)).length < n := by
    have hmod := Nat.mod_lt xs.length hn
    have hdiv := Nat.div_add_mod' xs.length n
    rw [List.length_drop]
    omega
  conv_rhs => rw [← List.take_append_drop (xs.length / n * n) xs]
  rw [groups_append_of_dvd hn hdvd, groups_of_short hshort, List.append_nil]

end VectorIndex.Grouping
