import VectorIndex.Proofs.Association
import VectorIndex.Proofs.Disk.Following

/-!
# Files that were written

What is written to a file is read from it (`Disk.readFile_writeFile`).  Following the path
again visits directories only, and a file that could be written is none of them.
-/

set_option autoImplicit false

namespace VectorIndex

namespace Disk

variable {d d' : Disk} {path : String} {names names' : List String} {node : DiskNode}

/-! ## Nodes -/

/-- A node that is set is there. -/
theorem node?_setNode_self (d : Disk) (h : names ≠ []) (node : DiskNode) :
    (d.setNode names node).node? names = some node := by
  have hempty : names.isEmpty = false := by simpa using h
  unfold node? setNode
  rw [hempty, if_neg Bool.false_ne_true]
  split
  · next hany =>
    obtain ⟨n, hn, heq⟩ := List.any_eq_true.1 hany
    have hsome : (d.nodes.lookup names).isSome = true :=
      List.lookup_isSome_iff.2 ⟨n, hn, beq_iff_eq.2 (of_decide_eq_true heq).symm⟩
    obtain ⟨old, hold⟩ := Option.isSome_iff_exists.1 hsome
    refine (Association.lookup_map_self d.nodes names node).trans ?_
    rw [hold]
    rfl
  · next hnone =>
    have hnot : d.nodes.lookup names = none := by
      refine List.lookup_eq_none_iff.2 fun n hn => ?_
      refine bne_iff_ne.2 fun heq => hnone ?_
      exact List.any_eq_true.2 ⟨n, hn, decide_eq_true heq.symm⟩
    rw [List.lookup_append, hnot]
    exact List.lookup_cons_self

/-- A node that is set leaves all others alone. -/
theorem node?_setNode_of_ne (d : Disk) (h : names' ≠ names) (node : DiskNode) :
    (d.setNode names node).node? names' = d.node? names' := by
  unfold node? setNode
  split
  · rfl
  · split
    · exact Association.lookup_map_of_ne d.nodes h node
    · have hother : [(names, node)].lookup names' = none := by simpa using h
      rw [List.lookup_append, hother, Option.or_none]

/-! ## Following names -/

/-- Names can be followed as long as the directories are there. -/
theorem walk_of_directories (h : ∀ here, d.node? here = some .directory →
      d'.node? here = some .directory) {here : List String}
    (hwalk : d.walk here names = .ok names') : d'.walk here names = .ok names' := by
  induction names generalizing here with
  | nil =>
    unfold walk at hwalk ⊢
    exact hwalk
  | cons name rest ih =>
    unfold walk at hwalk ⊢
    split at hwalk
    · cases hwalk
    · cases hwalk
    · next hnode =>
      rw [h here hnode]
      dsimp only
      split_ifs at hwalk ⊢ with hdot hup hlong
      · exact ih hwalk
      · exact ih hwalk
      · exact ih hwalk

/-- A path that can be located still can on a disk that has the same directories. -/
theorem locate_of_directories (h : ∀ here, d.node? here = some .directory →
      d'.node? here = some .directory) (hwork : d'.workingDirectory = d.workingDirectory)
    (hlocate : d.locate path = .ok names) : d'.locate path = .ok names := by
  unfold locate walkPath at hlocate ⊢
  rw [hwork]
  split at hlocate
  · cases hlocate
  · split at hlocate
    · cases hlocate
    · split at hlocate
      · cases hlocate
      · next hvalid hempty hshort =>
        rw [if_neg hvalid, if_neg hempty, if_neg hshort]
        exact walk_of_directories h hlocate

/-! ## Files -/

/-- A path that is located as a file is located. -/
theorem locate_of_locateFile (h : d.locateFile path = .ok names) : d.locate path = .ok names := by
  unfold locateFile at h
  dsimp only at h
  split at h
  · exact h
  · exact h
  · exact h
  · split at h
    · cases hwalk : d.walkPath path ((pathParts path).dropLast ++ ["."]) with
      | error e =>
        rw [hwalk] at h
        cases h
      | ok around =>
        rw [hwalk] at h
        cases h
    · exact h

/-- Where a file is that could be written. -/
theorem exists_locate_of_writeFile {content : Bytes} (h : d.writeFile path content = .ok d') :
    ∃ names, d.locateFile path = .ok names ∧ d.node? names ≠ some .directory ∧
      d' = d.setNode names (.file content) := by
  unfold writeFile at h
  cases hlocate : d.locateFile path with
  | error e =>
    rw [hlocate] at h
    cases h
  | ok names =>
    rw [hlocate] at h
    simp only [bind, Except.bind] at h
    split at h
    · cases h
    · next hnode => exact ⟨names, rfl, hnode, (Except.ok.inj h).symm⟩

/-- Whether a file can be written does not depend on its content. -/
theorem exists_writeFile {content : Bytes} (h : d.writeFile path content = .ok d')
    (content' : Bytes) : ∃ d'', d.writeFile path content' = .ok d'' := by
  obtain ⟨names, hlocate, hnode, -⟩ := exists_locate_of_writeFile h
  refine ⟨d.setNode names (.file content'), ?_⟩
  unfold writeFile
  rw [hlocate]
  simp only [bind, Except.bind]

/-- A file that was written is read as it was written. -/
theorem readFile_writeFile {content : Bytes} (h : d.writeFile path content = .ok d') :
    d'.readFile path = .ok content := by
  obtain ⟨names, hlocate, hnode, rfl⟩ := exists_locate_of_writeFile h
  have hne : names ≠ [] := by
    rintro rfl
    exact hnode rfl
  -- A file never takes the place of a directory, so that the path leads there as before.
  have hdirectories : ∀ here, d.node? here = some .directory →
      (d.setNode names (.file content)).node? here = some .directory := by
    intro here hhere
    rw [node?_setNode_of_ne d _ _, hhere]
    rintro rfl
    exact hnode hhere
  have hwork : (d.setNode names (.file content)).workingDirectory = d.workingDirectory := by
    unfold setNode
    split <;> rfl
  have hagain := locate_of_directories hdirectories hwork (locate_of_locateFile hlocate)
  unfold readFile
  rw [hagain]
  simp only [bind, Except.bind, node?_setNode_self d hne]

/-- The size of a file is the length of its content. -/
theorem sizeAt_of_readFile {content : Bytes} (h : d.readFile path = .ok content) :
    d.sizeAt path = .ok content.length := by
  unfold readFile at h
  unfold sizeAt
  cases hlocate : d.locate path with
  | error e =>
    rw [hlocate] at h
    cases h
  | ok names =>
    rw [hlocate] at h
    simp only [bind, Except.bind] at h ⊢
    split at h
    · cases h
    · cases h
    · obtain rfl := Except.ok.inj h
      rfl

end Disk

end VectorIndex
