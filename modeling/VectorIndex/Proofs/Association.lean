import Mathlib.Tactic.Common

/-!
# Lists of entries under keys

What is found under a key after an entry was changed in place, and after other entries were
taken out.
-/

set_option autoImplicit false

namespace VectorIndex.Association

variable {α β : Type} [BEq α] [LawfulBEq α]

/-- What is found under a key stands in the list with it. -/
theorem mem_of_lookup {entries : List (α × β)} {k : α} {v : β} (h : entries.lookup k = some v) :
    (k, v) ∈ entries := by
  obtain ⟨front, back, rfl, -⟩ := List.lookup_eq_some_iff.1 h
  exact List.mem_append_right front List.mem_cons_self

/-- Among entries under different keys, each is found under its own. -/
theorem lookup_of_mem {entries : List (α × β)} {k : α} {v : β} (h : (k, v) ∈ entries)
    (hnodup : (entries.map Prod.fst).Nodup) : entries.lookup k = some v := by
  obtain ⟨front, back, rfl⟩ := List.append_of_mem h
  rw [List.map_append, List.map_cons] at hnodup
  refine List.lookup_eq_some_iff.2 ⟨front, back, rfl, fun x hx => bne_iff_ne.2 ?_⟩
  rintro rfl
  exact (List.nodup_append.1 hnodup).2.2 x.1 (List.mem_map_of_mem hx) x.1 List.mem_cons_self rfl

/-- Entries under different keys may change places. -/
theorem lookup_of_perm {entries entries' : List (α × β)} (h : entries.Perm entries')
    (hnodup : (entries.map Prod.fst).Nodup) (k : α) : entries'.lookup k = entries.lookup k := by
  cases hfound : entries.lookup k with
  | some v =>
    exact lookup_of_mem (h.mem_iff.1 (mem_of_lookup hfound)) ((h.map Prod.fst).nodup_iff.1 hnodup)
  | none =>
    rw [List.lookup_eq_none_iff] at hfound ⊢
    exact fun x hx => hfound x (h.mem_iff.2 hx)

/-- A value that is replaced is found under its key, if there was one. -/
theorem lookup_map_self [DecidableEq α] (entries : List (α × β)) (k : α) (v : β) :
    (entries.map fun x => if x.1 = k then (k, v) else x).lookup k =
      (entries.lookup k).map fun _ => v := by
  induction entries with
  | nil => rfl
  | cons x xs ih =>
    obtain ⟨k', v'⟩ := x
    rw [List.map_cons, List.lookup_cons]
    by_cases heq : k' = k
    · subst heq
      simp
    · have hne : (k == k') = false := beq_false_of_ne (Ne.symm heq)
      rw [if_neg heq, List.lookup_cons, hne]
      exact ih

/-- A change in place is not noticed under other keys. -/
theorem lookup_map_of_ne [DecidableEq α] (entries : List (α × β)) {k k' : α} (h : k' ≠ k) (v : β) :
    (entries.map fun x => if x.1 = k then (k, v) else x).lookup k' = entries.lookup k' := by
  induction entries with
  | nil => rfl
  | cons x xs ih =>
    obtain ⟨key, value⟩ := x
    rw [List.map_cons, List.lookup_cons]
    by_cases heq : key = k
    · subst heq
      have hne : (k' == key) = false := beq_false_of_ne h
      rw [if_pos rfl, List.lookup_cons, hne]
      exact ih
    · rw [if_neg heq, List.lookup_cons, ih]

/-- What is found under a key stays when only other entries are taken out. -/
theorem lookup_filter (entries : List (α × β)) {p : α × β → Bool} {k : α}
    (h : ∀ v, p (k, v) = true) : (entries.filter p).lookup k = entries.lookup k := by
  induction entries with
  | nil => rfl
  | cons x xs ih =>
    obtain ⟨key, value⟩ := x
    rw [List.lookup_cons]
    by_cases heq : k = key
    · subst heq
      rw [List.filter_cons_of_pos (h value), List.lookup_cons]
      simp
    · have hne : (k == key) = false := beq_false_of_ne heq
      rw [hne, List.filter_cons]
      split
      · rw [List.lookup_cons, hne]
        exact ih
      · exact ih

end VectorIndex.Association
