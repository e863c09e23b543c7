import VectorIndex.Proofs.Disk.Following
import VectorIndex.Proofs.Text.Affix

/-!
# The parts of a path

A path that was put together from others leads along their parts one after the other.
-/

set_option autoImplicit false

namespace VectorIndex

namespace Disk

variable {base name : String}

/-- A text that is one part of a path, and stands for an entry of a directory. -/
structure IsName (name : String) : Prop where
  ne_empty : name ≠ ""
  no_slash : '/' ∉ name.toList
  ne_dot : name ≠ "."
  ne_up : name ≠ ".."

/-- A plain name leads one directory down. -/
theorem follow_name (h : IsName name) (here : List String) :
    follow here [name] = here ++ [name] := by
  rw [follow, if_neg h.ne_dot, if_neg h.ne_up]
  rfl

/-- A slash divides the parts of a path. -/
theorem pathParts_append_cons {path base rest : String}
    (h : path.toList = base.toList ++ '/' :: rest.toList) :
    pathParts path = pathParts base ++ pathParts rest := by
  unfold pathParts
  rw [h, Text.splitAt_append_cons, List.map_append, List.filter_append]

/-- The empty path has no parts. -/
theorem pathParts_empty : pathParts "" = [] := by
  decide

/-- A name without a slash is the only part of its path. -/
theorem pathParts_of_no_slash (hslash : '/' ∉ name.toList) (hne : name ≠ "") :
    pathParts name = [name] := by
  have hfull : (!name.isEmpty) = true := by
    rw [Bool.not_eq_true', Bool.eq_false_iff, ne_eq, String.isEmpty_iff]
    exact hne
  unfold pathParts
  rw [Text.splitAt_of_notMem hslash, List.map_singleton, String.ofList_toList]
  exact List.filter_cons_of_pos hfull

/-- A slash at the end adds no part. -/
theorem pathParts_append_of_endsInSlash (h : Text.endsInSlash base = true) (rest : String) :
    pathParts (base ++ rest) = pathParts base ++ pathParts rest := by
  have hlast : base.toList.getLast? = some '/' := beq_iff_eq.1 h
  obtain ⟨front, hfront⟩ := List.getLast?_eq_some_iff.1 hlast
  have hbase : pathParts base = pathParts (String.ofList front) ++ pathParts "" := by
    refine pathParts_append_cons ?_
    rw [String.toList_ofList, hfront]
    rfl
  rw [hbase, pathParts_empty, List.append_nil]
  refine pathParts_append_cons ?_
  rw [String.toList_append, String.toList_ofList, hfront, List.append_assoc]
  rfl

/-- A joined path has the parts of its base and then those of the name. -/
theorem pathParts_join (hbase : base ≠ "") (hname : isAbsolute name = false) :
    pathParts (join base name) = pathParts base ++ pathParts name := by
  have hfull : base.isEmpty = false := by
    rw [Bool.eq_false_iff, ne_eq, String.isEmpty_iff]
    exact hbase
  unfold join
  rw [hname, hfull, Bool.or_false, if_neg Bool.false_ne_true]
  split
  · next hslash => exact pathParts_append_of_endsInSlash hslash name
  · refine pathParts_append_cons ?_
    rw [String.toList_append, String.toList_append, List.append_assoc]
    rfl

/-- A name without a slash is no absolute path. -/
theorem isAbsolute_eq_false_of_no_slash (h : '/' ∉ name.toList) : isAbsolute name = false := by
  unfold isAbsolute
  refine beq_eq_false_iff_ne.2 fun hhead => h ?_
  exact List.mem_of_mem_head? (by rw [hhead]; rfl)

/-- A text whose last part has no slash does not end in one. -/
theorem endsInSlash_append (front : String) {last : String} (hne : last ≠ "")
    (hslash : '/' ∉ last.toList) : Text.endsInSlash (front ++ last) = false := by
  unfold Text.endsInSlash
  refine beq_eq_false_iff_ne.2 fun hlast => hslash ?_
  have hcs : last.toList ≠ [] := fun h => hne (String.toList_eq_nil_iff.1 h)
  rw [String.toList_append, List.getLast?_append, List.getLast?_eq_some_getLast hcs] at hlast
  exact Option.some.inj hlast ▸ List.getLast_mem hcs

/-- A path to which a name was joined does not end in a slash. -/
theorem endsInSlash_join (hne : name ≠ "") (hslash : '/' ∉ name.toList) :
    Text.endsInSlash (join base name) = false := by
  unfold join
  split
  · have hname := endsInSlash_append "" hne hslash
    rwa [String.empty_append] at hname
  · split
    · exact endsInSlash_append base hne hslash
    · exact endsInSlash_append (base ++ "/") hne hslash

/-- Names that are put together with slashes are the parts of the path. -/
theorem pathParts_intercalate {names : List String}
    (h : ∀ name ∈ names, name ≠ "" ∧ '/' ∉ name.toList) :
    pathParts (String.intercalate "/" names) = names := by
  induction names with
  | nil => exact pathParts_empty
  | cons name names ih =>
    obtain ⟨hne, hslash⟩ := h name List.mem_cons_self
    cases names with
    | nil =>
      rw [String.intercalate_singleton]
      exact pathParts_of_no_slash hslash hne
    | cons next names =>
      have hrest := ih fun name hname => h name (List.mem_cons_of_mem _ hname)
      have hparts : pathParts (String.intercalate "/" (name :: next :: names)) =
          pathParts name ++ pathParts (String.intercalate "/" (next :: names)) := by
        refine pathParts_append_cons ?_
        simp [String.toList_intercalate]
      rw [hparts, hrest, pathParts_of_no_slash hslash hne]
      rfl

/-- The absolute path of names has these names as its parts. -/
theorem pathParts_absoluteText {names : List String}
    (h : ∀ name ∈ names, name ≠ "" ∧ '/' ∉ name.toList) :
    pathParts (absoluteText names) = names := by
  unfold absoluteText
  have hroot : pathParts "/" = [] := by decide
  rw [pathParts_append_of_endsInSlash rfl, pathParts_intercalate h, hroot]
  rfl

/-- Every part of a path is a text between slashes. -/
theorem of_mem_pathParts {path : String} (h : name ∈ pathParts path) :
    name ≠ "" ∧ '/' ∉ name.toList := by
  obtain ⟨hmem, hfull⟩ := List.mem_filter.1 h
  obtain ⟨piece, hpiece, rfl⟩ := List.mem_map.1 hmem
  refine ⟨?_, ?_⟩
  · intro hempty
    rw [hempty] at hfull
    exact absurd hfull (by decide)
  · rw [String.toList_ofList]
    exact Text.notMem_of_mem_splitAt hpiece

end Disk

end VectorIndex
