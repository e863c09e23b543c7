import Mathlib.Tactic.Common
import VectorIndex.Disk.Basic

/-!
# Where paths lead

Following an absolute path depends on the disk only in whether it succeeds: where it leads
is told by the path alone (`Disk.locate_unique`).  Therefore a directory that a path led to
once and that is removed later cannot be found again under the same path
(`Disk.isDirectory_removeDirectory`).
-/

set_option autoImplicit false

namespace VectorIndex

namespace Disk

variable {d d' : Disk} {path : String} {names names' : List String}

/-! ## Absolute paths -/

/-- An absolute path is absolute whatever is put behind it. -/
theorem isAbsolute_append {base : String} (h : isAbsolute base = true) (rest : String) :
    isAbsolute (base ++ rest) = true := by
  unfold isAbsolute at *
  obtain ⟨tail, htail⟩ := List.head?_eq_some_iff.1 (beq_iff_eq.1 h)
  rw [String.toList_append, htail]
  rfl

/-- What is joined to an absolute path is absolute. -/
theorem isAbsolute_join {base : String} (h : isAbsolute base = true) (path : String) :
    isAbsolute (join base path) = true := by
  have hne : base.isEmpty = false := by
    refine Bool.eq_false_iff.2 fun hempty => ?_
    rw [String.isEmpty_iff.1 hempty] at h
    cases h
  unfold join
  rw [hne, Bool.or_false]
  split
  · assumption
  · split
    · exact isAbsolute_append h path
    · exact isAbsolute_append (isAbsolute_append h "/") path

/-- Resolved against the working directory every path is absolute. -/
theorem isAbsolute_absolute (d : Disk) (path : String) : isAbsolute (d.absolute path) = true := by
  unfold absolute
  split
  · assumption
  · exact isAbsolute_join (isAbsolute_append rfl _) path

/-! ## Following names -/

/-- Where names lead, if they lead anywhere. -/
def follow : List String → List String → List String
  | here, [] => here
  | here, name :: rest =>
    if name = "." then follow here rest
    else if name = ".." then follow here.dropLast rest
    else follow (here ++ [name]) rest

/-- Names are followed one list after the other. -/
theorem follow_append (here names rest : List String) :
    follow here (names ++ rest) = follow (follow here names) rest := by
  induction names generalizing here with
  | nil => rfl
  | cons name names ih =>
    rw [List.cons_append, follow, follow]
    split_ifs
    · exact ih here
    · exact ih here.dropLast
    · exact ih (here ++ [name])

/-- A slash at the end stands for a dot, which leads nowhere else. -/
theorem follow_dot (here : List String) (path : String) :
    follow here (pathParts path ++ if Text.endsInSlash path then ["."] else []) =
      follow here (pathParts path) := by
  rw [follow_append]
  split <;> rfl

/-- A walk that arrives gets where its names lead. -/
theorem eq_follow_of_walk {here : List String} (h : d.walk here names = .ok names') :
    names' = follow here names := by
  induction names generalizing here with
  | nil =>
    unfold walk at h
    exact (Except.ok.inj h).symm
  | cons name rest ih =>
    unfold walk at h
    split at h
    · cases h
    · cases h
    · unfold follow
      split_ifs at h ⊢ with hdot hup hlong
      · exact ih h
      · exact ih h
      · exact ih h

/-- An absolute path leads to the same place on every disk. -/
theorem eq_follow_of_locate (habs : isAbsolute path = true) (h : d.locate path = .ok names) :
    names = follow [] (pathParts path ++ if Text.endsInSlash path then ["."] else []) := by
  unfold locate walkPath at h
  rw [if_pos habs] at h
  split at h
  · cases h
  · split at h
    · cases h
    · split at h
      · cases h
      · exact eq_follow_of_walk h

/-- An absolute path leads to the same place on all disks where it leads anywhere. -/
theorem locate_unique (habs : isAbsolute path = true) (h : d.locate path = .ok names)
    (h' : d'.locate path = .ok names') : names = names' :=
  (eq_follow_of_locate habs h).trans (eq_follow_of_locate habs h').symm

/-! ## Making and removing directories -/

/-- A directory that could be made is not the root. -/
theorem exists_locate_of_makeDirectory (h : d.makeDirectory path = .ok d') :
    ∃ names, d.locate path = .ok names ∧ d.node? names = none ∧
      d' = d.setNode names .directory := by
  unfold makeDirectory at h
  cases hlocate : d.locate path with
  | error e =>
    rw [hlocate] at h
    cases h
  | ok names =>
    rw [hlocate] at h
    cases hnode : d.node? names with
    | some node =>
      simp only [bind, Except.bind, hnode] at h
      cases h
    | none =>
      simp only [bind, Except.bind, hnode, Except.ok.injEq] at h
      exact ⟨names, rfl, hnode, h.symm⟩

/-- The root is always there. -/
theorem ne_nil_of_node?_eq_none (h : d.node? names = none) : names ≠ [] := by
  rintro rfl
  cases h

/-- A tree that was removed is not there. -/
theorem node?_removeTree_self (d : Disk) (h : names ≠ []) :
    (d.removeTree names).node? names = none := by
  have hempty : names.isEmpty = false := by simpa using h
  unfold node? removeTree
  rw [hempty, if_neg Bool.false_ne_true, List.lookup_eq_none_iff]
  rintro ⟨other, node⟩ hmem
  have hkept := (List.mem_filter.1 hmem).2
  refine bne_iff_ne.2 fun heq => ?_
  subst heq
  have hself : names.isPrefixOf names = true := List.isPrefixOf_iff_prefix.2 List.prefix_rfl
  rw [hself] at hkept
  cases hkept

/-- A removed directory is gone. -/
theorem isDirectory_removeDirectory (habs : isAbsolute path = true)
    (h : ∃ d₀ : Disk, ∃ names, d₀.locate path = .ok names ∧ names ≠ []) (d : Disk) :
    (d.removeDirectory path).isDirectory path = false := by
  obtain ⟨d₀, names, h₀, hne⟩ := h
  unfold isDirectory
  cases hafter : (d.removeDirectory path).locate path with
  | error e => rfl
  | ok after =>
    obtain rfl := locate_unique habs h₀ hafter
    unfold removeDirectory at hafter ⊢
    cases hbefore : d.locate path with
    | error e =>
      rw [hbefore] at hafter
      cases hbefore.symm.trans hafter
    | ok before =>
      obtain rfl := locate_unique habs h₀ hbefore
      simp only
      split
      · rw [node?_removeTree_self d hne]
        rfl
      · next hnode => exact beq_eq_false_iff_ne.2 hnode

end Disk

end VectorIndex
