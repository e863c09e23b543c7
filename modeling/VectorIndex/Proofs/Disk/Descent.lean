import Mathlib.Data.Set.Finite.Basic
import VectorIndex.Proofs.Disk.Rooms

/-!
# Paths that stay below where they start

Names that are followed from a directory may lead out of it.  They do not if none of the steps up
among them leads higher than the names in front of it lead down (`Disk.staysBelow`).  For a path
that is put behind another one there is no other way to stay below it: a path leads to the inside of
every directory that it is put behind exactly if it is relative and its parts never lead out
(`Disk.forall_hall_prefix_hall_join_iff`).
-/

set_option autoImplicit false

namespace VectorIndex

namespace Disk

variable {d : Disk} {name path : String} {here names start : List String}

/-! ## Names that are followed -/

/-- Where names lead is spelled by names. -/
theorem of_mem_follow (h : name ∈ follow here names) :
    name ∈ here ∨ name ∈ names ∧ name ≠ "." ∧ name ≠ ".." := by
  induction names generalizing here with
  | nil => exact .inl h
  | cons first rest ih =>
    have hrest : name ∈ rest ∧ name ≠ "." ∧ name ≠ ".." →
        name ∈ first :: rest ∧ name ≠ "." ∧ name ≠ ".." :=
      fun ⟨hmem, hname⟩ => ⟨List.mem_cons_of_mem _ hmem, hname⟩
    unfold follow at h
    split_ifs at h with hdot hup
    · exact (ih h).imp_right hrest
    · obtain hmem | hmem := ih h
      · exact .inl (List.mem_of_mem_dropLast hmem)
      · exact .inr (hrest hmem)
    · obtain hmem | hmem := ih h
      · obtain hhere | hfirst := List.mem_append.1 hmem
        · exact .inl hhere
        · obtain rfl := List.mem_singleton.1 hfirst
          exact .inr ⟨List.mem_cons_self, hdot, hup⟩
      · exact .inr (hrest hmem)

/-- Plain names lead further down, one after the other. -/
theorem follow_of_isName (h : ∀ name ∈ names, IsName name) (here : List String) :
    follow here names = here ++ names := by
  induction names generalizing here with
  | nil => exact (List.append_nil here).symm
  | cons first rest ih =>
    have hfirst : IsName first := h first List.mem_cons_self
    unfold follow
    rw [if_neg hfirst.ne_dot, if_neg hfirst.ne_up,
      ih fun name hname => h name (List.mem_cons_of_mem _ hname), List.append_assoc]
    rfl

/-- The parts of a path lead along entries of directories. -/
theorem isName_of_mem_follow (hhere : ∀ name ∈ here, IsName name)
    (h : name ∈ follow here (pathParts path)) : IsName name := by
  obtain hmem | ⟨hmem, hdot, hup⟩ := of_mem_follow h
  · exact hhere name hmem
  · obtain ⟨hne, hslash⟩ := of_mem_pathParts hmem
    exact ⟨hne, hslash, hdot, hup⟩

/-- A path leads along names, if the working directory does. -/
theorem isName_of_mem_hall (hwork : ∀ name ∈ d.workingDirectory, IsName name)
    (h : name ∈ d.hall path) : IsName name := by
  refine isName_of_mem_follow ?_ h
  unfold origin
  split
  · exact nofun
  · exact hwork

/-- An absolute path leads to the same place on every disk. -/
theorem hall_of_isAbsolute (habs : isAbsolute path = true) (d : Disk) :
    d.hall path = follow [] (pathParts path) := by
  unfold hall origin
  rw [if_pos habs]

/-- The absolute path of a place leads there. -/
theorem hall_absoluteText (hnames : ∀ name ∈ names, IsName name) (d : Disk) :
    d.hall (absoluteText names) = names := by
  have hparts : ∀ name ∈ names, name ≠ "" ∧ '/' ∉ name.toList :=
    fun name hname => ⟨(hnames name hname).ne_empty, (hnames name hname).no_slash⟩
  have habs : isAbsolute (absoluteText names) = true := isAbsolute_append rfl _
  rw [hall_of_isAbsolute habs, pathParts_absoluteText hparts, follow_of_isName hnames]
  rfl

/-- An absolute path is joined to nothing. -/
theorem join_of_isAbsolute (habs : isAbsolute path = true) (base : String) :
    join base path = path := by
  unfold join
  rw [habs, Bool.true_or, if_pos rfl]

/-- A joined path is absolute exactly if its base is. -/
theorem isAbsolute_join_of_ne_empty {base : String} (hbase : base ≠ "")
    (hrelative : isAbsolute path = false) : isAbsolute (join base path) = isAbsolute base := by
  have hcs : base.toList ≠ [] := fun h => hbase (String.toList_eq_nil_iff.1 h)
  have hfull : base.isEmpty = false := by
    rw [Bool.eq_false_iff, ne_eq, String.isEmpty_iff]
    exact hbase
  unfold join
  rw [hrelative, hfull, Bool.or_false, if_neg Bool.false_ne_true]
  obtain ⟨c, cs, heq⟩ := List.exists_cons_of_ne_nil hcs
  unfold isAbsolute
  split
  · rw [String.toList_append, heq]
    rfl
  · rw [String.toList_append, String.toList_append, heq]
    rfl

/-- A relative path behind another one leads on from where that one leads. -/
theorem hall_join (hrelative : isAbsolute path = false) (base : String) (d : Disk) :
    d.hall (join base path) = follow (d.hall base) (pathParts path) := by
  by_cases hempty : base = ""
  · subst hempty
    have hbase : d.hall "" = d.workingDirectory := by
      unfold hall origin
      rw [pathParts_empty]
      rfl
    have hjoin : join "" path = path := by
      unfold join
      rw [if_pos]
      exact Bool.or_true _
    rw [hbase, hjoin]
    unfold hall origin
    rw [hrelative, if_neg Bool.false_ne_true]
  · have horigin : d.origin (join base path) = d.origin base := by
      unfold origin
      rw [isAbsolute_join_of_ne_empty hempty hrelative]
    unfold hall
    rw [horigin, pathParts_join hempty hrelative, follow_append]

/-! ## Paths with the same steps -/

/-- A dot leads nowhere else. -/
theorem follow_filter_ne_dot (here names : List String) :
    follow here (names.filter fun name => name != ".") = follow here names := by
  induction names generalizing here with
  | nil => rfl
  | cons name rest ih =>
    by_cases hdot : name = "."
    · subst hdot
      rw [List.filter_cons_of_neg (by decide), ih, follow, if_pos rfl]
    · have hkept : (name != ".") = true := bne_iff_ne.2 hdot
      rw [List.filter_cons, if_pos hkept, follow, follow, if_neg hdot, if_neg hdot]
      split_ifs
      · exact ih _
      · exact ih _

/-- The steps of an absolute path start at the root. -/
theorem steps_of_isAbsolute (habs : isAbsolute path = true) :
    steps path = "/" :: (pathParts path).filter fun name => name != "." := by
  unfold steps
  dsimp only
  rw [habs, if_pos rfl]
  rfl

/-- The steps of a relative path lead where its parts lead. -/
theorem follow_steps (hrelative : isAbsolute path = false) (here : List String) :
    follow here (steps path) = follow here (pathParts path) := by
  unfold steps
  dsimp only
  rw [hrelative, if_neg Bool.false_ne_true]
  split
  · exact follow_filter_ne_dot here _
  · exact follow_filter_ne_dot here _

/-- No step of a relative path is the root. -/
theorem notMem_steps (hrelative : isAbsolute path = false) : "/" ∉ steps path := by
  have hparts : "/" ∉ (pathParts path).filter fun name => name != "." := by
    intro hmem
    exact (of_mem_pathParts (List.mem_of_mem_filter hmem)).2 List.mem_cons_self
  unfold steps
  dsimp only
  rw [hrelative, if_neg Bool.false_ne_true]
  split
  · intro hmem
    obtain hmem | hmem := List.mem_append.1 hmem
    · exact absurd hmem (by decide)
    · exact hparts hmem
  · exact hparts

/-- Bases with the same steps are both absolute, or neither is. -/
theorem isAbsolute_of_steps {base base' : String} (h : steps base = steps base')
    (habs : isAbsolute base = true) : isAbsolute base' = true := by
  by_contra hrelative
  refine notMem_steps (Bool.eq_false_of_not_eq_true hrelative) ?_
  rw [← h, steps_of_isAbsolute habs]
  exact List.mem_cons_self

/-- Paths with the same steps lead to the same place. -/
theorem hall_of_steps {base base' : String} (h : steps base = steps base') (d : Disk) :
    d.hall base = d.hall base' := by
  by_cases habs : isAbsolute base = true
  · have habs' := isAbsolute_of_steps h habs
    rw [steps_of_isAbsolute habs, steps_of_isAbsolute habs'] at h
    rw [hall_of_isAbsolute habs, hall_of_isAbsolute habs', ← follow_filter_ne_dot,
      (List.cons.inj h).2, follow_filter_ne_dot]
  · have hrelative := Bool.eq_false_of_not_eq_true habs
    have hrelative' : isAbsolute base' = false :=
      Bool.eq_false_of_not_eq_true fun habs' => habs (isAbsolute_of_steps h.symm habs')
    unfold hall origin
    rw [hrelative, hrelative', ← follow_steps hrelative, h, follow_steps hrelative']

/-- Bases with the same steps lead to the same place, whatever is joined to them. -/
theorem hall_join_of_steps {base base' : String} (h : steps base = steps base') (path : String)
    (d : Disk) : d.hall (join base path) = d.hall (join base' path) := by
  by_cases habs : isAbsolute path = true
  · rw [join_of_isAbsolute habs, join_of_isAbsolute habs]
  · have hrelative := Bool.eq_false_of_not_eq_true habs
    rw [hall_join hrelative, hall_join hrelative, hall_of_steps h]

/-! ## Steps up -/

/-- Names that are followed from so many directories below another one never lead out of the
latter. -/
def staysBelow : Nat → List String → Bool
  | _, [] => true
  | depth, name :: rest =>
    if name = "." then staysBelow depth rest
    else if name = ".." then
      match depth with
      | 0 => false
      | up + 1 => staysBelow up rest
    else staysBelow (depth + 1) rest

/-- Names that never lead out of a directory lead to the same place in every directory. -/
theorem follow_append_of_staysBelow (h : staysBelow here.length names = true) :
    follow (start ++ here) names = start ++ follow here names := by
  induction names generalizing here with
  | nil => rfl
  | cons name rest ih =>
    unfold staysBelow at h
    unfold follow
    split_ifs at h ⊢ with hdot hup
    · exact ih h
    · split at h
      · cases h
      · next up hlength =>
        have hne : here ≠ [] := by
          rintro rfl
          cases hlength
        rw [List.dropLast_append_of_ne_nil hne]
        refine ih ?_
        rwa [List.length_dropLast, hlength]
    · rw [List.append_assoc]
      refine ih ?_
      rwa [List.length_append]

/-- Names that lead out of a directory never lead into it again, unless they say so. -/
theorem notMem_follow_of_not_staysBelow (hnew : name ∉ names) (hhere : name ∉ here)
    (h : staysBelow here.length names = false) : name ∉ follow (name :: here) names := by
  induction names generalizing here with
  | nil => cases h
  | cons first rest ih =>
    have hrest : name ∉ rest := fun hmem => hnew (List.mem_cons_of_mem _ hmem)
    unfold staysBelow at h
    unfold follow
    split_ifs at h ⊢ with hdot hup
    · exact ih hrest hhere h
    · cases here with
      | nil =>
        intro hmem
        obtain hmem | ⟨hmem, -⟩ := of_mem_follow hmem
        · exact absurd hmem List.not_mem_nil
        · exact hrest hmem
      | cons next here =>
        refine ih hrest (fun hmem => hhere (List.mem_of_mem_dropLast hmem)) ?_
        rwa [List.length_dropLast]
    · have hnext : name ∉ here ++ [first] := by
        intro hmem
        obtain hmem | hmem := List.mem_append.1 hmem
        · exact hhere hmem
        · exact hnew (List.mem_singleton.1 hmem ▸ List.mem_cons_self)
      rw [List.cons_append]
      refine ih hrest hnext ?_
      rwa [List.length_append]

/-- There are more names than there are in a list. -/
theorem exists_isName_notMem (names : List String) : ∃ name, IsName name ∧ name ∉ names := by
  let nth (k : Nat) : String := String.ofList (List.replicate (k + 1) 'n')
  have hinj : Function.Injective nth := by
    intro k k' heq
    have hlength := congrArg List.length (String.ofList_inj.1 heq)
    rw [List.length_replicate, List.length_replicate] at hlength
    exact Nat.succ.inj hlength
  obtain ⟨name, ⟨k, rfl⟩, hnew⟩ :=
    (Set.infinite_range_of_injective hinj).exists_notMem_finset names.toFinset
  refine ⟨nth k, ?_, fun hmem => hnew (List.mem_toFinset.2 hmem)⟩
  have hhead : (nth k).toList.head? = some 'n' := by
    rw [String.toList_ofList]
    rfl
  refine ⟨?_, ?_, ?_, ?_⟩
  · intro heq
    rw [heq] at hhead
    cases hhead
  · rw [String.toList_ofList]
    intro hmem
    exact absurd (List.eq_of_mem_replicate hmem) (by decide)
  · intro heq
    rw [heq] at hhead
    exact absurd hhead (by decide)
  · intro heq
    rw [heq] at hhead
    exact absurd hhead (by decide)

/-- A path stays below whatever path it is put behind exactly if it is relative and its parts never
lead out of where they start. -/
theorem forall_hall_prefix_hall_join_iff (path : String) :
    (∀ (d : Disk) (base : String), d.hall base <+: d.hall (join base path)) ↔
      isAbsolute path = false ∧ staysBelow 0 (pathParts path) = true := by
  constructor
  · intro h
    have hrelative : isAbsolute path = false := by
      -- an absolute path does not lead into a directory below the place that it leads to
      by_contra habs
      have habs' : isAbsolute path = true := Bool.eq_true_of_not_eq_false habs
      obtain ⟨name, hname, -⟩ := exists_isName_notMem []
      have hnames : ∀ other ∈ follow [] (pathParts path) ++ [name], IsName other := by
        intro other hmem
        obtain hmem | hmem := List.mem_append.1 hmem
        · exact isName_of_mem_follow (fun _ hin => absurd hin List.not_mem_nil) hmem
        · exact List.mem_singleton.1 hmem ▸ hname
      have hbelow := h {} (absoluteText (follow [] (pathParts path) ++ [name]))
      rw [hall_absoluteText hnames, join_of_isAbsolute habs', hall_of_isAbsolute habs'] at hbelow
      have hlength := hbelow.length_le
      rw [List.length_append] at hlength
      exact absurd hlength (Nat.not_succ_le_self _)
    refine ⟨hrelative, ?_⟩
    -- a directory whose name the path does not spell is lost as soon as the path leads out of it
    by_contra hout
    obtain ⟨name, hname, hnew⟩ := exists_isName_notMem (pathParts path)
    have hbelow := h {} (absoluteText [name])
    rw [hall_join hrelative, hall_absoluteText fun other hmem => List.mem_singleton.1 hmem ▸ hname]
      at hbelow
    have hmem : name ∈ follow [name] (pathParts path) := hbelow.subset List.mem_cons_self
    exact notMem_follow_of_not_staysBelow hnew List.not_mem_nil (Bool.eq_false_of_not_eq_true hout)
      hmem
  · rintro ⟨hrelative, hbelow⟩ d base
    rw [hall_join hrelative]
    have hfollow : follow (d.hall base ++ []) (pathParts path) =
        d.hall base ++ follow [] (pathParts path) := follow_append_of_staysBelow hbelow
    rw [List.append_nil] at hfollow
    rw [hfollow]
    exact List.prefix_append _ _

end Disk

end VectorIndex
