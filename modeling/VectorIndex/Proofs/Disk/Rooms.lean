import VectorIndex.Proofs.Disk.Parts
import VectorIndex.Proofs.Disk.Writing
import VectorIndex.Proofs.Results

/-!
# Directories below a common one

Making a directory with its missing parents adds directories and nothing else, and where the
directory is there already, nothing happens (`Disk.Houses`).  In a directory that is there, a name
leads to an entry of it, whatever else is on the disk (`Disk.locate_join`).
-/

set_option autoImplicit false

namespace VectorIndex

namespace Disk

variable {d d' d'' : Disk} {root base name path : String} {names here : List String}

/-! ## Disks with more directories -/

/-- Every directory of one disk is a directory of another. -/
structure Grows (d d' : Disk) : Prop where
  work : d'.workingDirectory = d.workingDirectory
  directories : ∀ here, d.node? here = some .directory → d'.node? here = some .directory

/-- A disk has all its own directories. -/
theorem Grows.refl (d : Disk) : d.Grows d :=
  ⟨rfl, fun _ h => h⟩

/-- Directories that stay twice stay. -/
theorem Grows.trans (h : d.Grows d') (h' : d'.Grows d'') : d.Grows d'' :=
  ⟨h'.work.trans h.work, fun here hnode => h'.directories here (h.directories here hnode)⟩

/-- The path of a directory still leads to one when directories are added. -/
theorem isDirectory_of_grows (h : d.Grows d') (hdirectory : d.isDirectory path = true) :
    d'.isDirectory path = true := by
  unfold isDirectory at hdirectory ⊢
  split at hdirectory
  · next names hlocate =>
    rw [locate_of_directories h.directories h.work hlocate]
    have hnode := h.directories names (beq_iff_eq.1 hdirectory)
    exact beq_iff_eq.2 hnode
  · cases hdirectory

/-- A node that is set leaves the working directory alone. -/
theorem workingDirectory_setNode (d : Disk) (names : List String) (node : DiskNode) :
    (d.setNode names node).workingDirectory = d.workingDirectory := by
  unfold setNode
  split <;> rfl

/-- Directories were made, and nothing else has changed. -/
structure AddsDirectories (d d' : Disk) : Prop where
  work : d'.workingDirectory = d.workingDirectory
  node : ∀ here, d'.node? here = d.node? here ∨
    d.node? here = none ∧ d'.node? here = some .directory

/-- To do nothing makes no directories. -/
theorem AddsDirectories.refl (d : Disk) : d.AddsDirectories d :=
  ⟨rfl, fun _ => .inl rfl⟩

/-- Directories can be made in several steps. -/
theorem AddsDirectories.trans (h : d.AddsDirectories d') (h' : d'.AddsDirectories d'') :
    d.AddsDirectories d'' := by
  refine ⟨h'.work.trans h.work, fun here => ?_⟩
  obtain hsame' | ⟨hnone', hmade'⟩ := h'.node here
  · rw [hsame']
    exact h.node here
  · obtain hsame | ⟨-, hmade⟩ := h.node here
    · exact .inr ⟨hsame.symm.trans hnone', hmade'⟩
    · cases hnone'.symm.trans hmade

/-- Where directories are made, those that were there stay. -/
theorem AddsDirectories.grows (h : d.AddsDirectories d') : d.Grows d' := by
  refine ⟨h.work, fun here hnode => ?_⟩
  obtain hsame | ⟨hnone, -⟩ := h.node here
  · exact hsame.trans hnode
  · cases hnone.symm.trans hnode

/-- To make a directory adds one at most. -/
theorem addsDirectories_of_makeDirectory (h : d.makeDirectory path = .ok d') :
    d.AddsDirectories d' := by
  obtain ⟨names, -, hnone, rfl⟩ := exists_locate_of_makeDirectory h
  refine ⟨workingDirectory_setNode .., fun here => ?_⟩
  by_cases hhere : here = names
  · subst hhere
    exact .inr ⟨hnone, node?_setNode_self d (ne_nil_of_node?_eq_none hnone) _⟩
  · exact .inl (node?_setNode_of_ne d hhere _)

/-- A directory that was made is there. -/
theorem isDirectory_of_makeDirectory (h : d.makeDirectory path = .ok d') :
    d'.isDirectory path = true := by
  have hgrows := (addsDirectories_of_makeDirectory h).grows
  obtain ⟨names, hlocate, hnone, rfl⟩ := exists_locate_of_makeDirectory h
  unfold isDirectory
  rw [locate_of_directories hgrows.directories hgrows.work hlocate]
  exact beq_iff_eq.2 (node?_setNode_self d (ne_nil_of_node?_eq_none hnone) _)

/-- A directory that is there is not made again. -/
theorem makeDirectory_of_isDirectory (h : d.isDirectory path = true) :
    d.makeDirectory path = .error .alreadyExists := by
  unfold isDirectory at h
  unfold makeDirectory
  cases hlocate : d.locate path with
  | error e =>
    rw [hlocate] at h
    cases h
  | ok names =>
    rw [hlocate] at h
    have hnode : d.node? names = some .directory := beq_iff_eq.1 h
    simp only [bind, Except.bind, hnode]

/-! ## Directories with their parents -/

/-- The path of names, the last one first. -/
def upText (absolute : Bool) (up : List String) : String :=
  (if absolute then "/" else "") ++ String.intercalate "/" up.reverse

/-- Directories that are there are not made again. -/
theorem makeDirectoriesUp_of_isDirectory {absolute : Bool} {up : List String}
    (h : d.isDirectory (upText absolute up) = true) : d.makeDirectoriesUp absolute up = .ok d := by
  cases up with
  | nil =>
    unfold makeDirectoriesUp
    rfl
  | cons name up =>
    have hmake := makeDirectory_of_isDirectory h
    unfold makeDirectoriesUp
    unfold upText at h hmake
    simp only [hmake, h, if_true]

/-- The directories along a path are made, and then the path leads to one. -/
theorem makeDirectoriesUp_spec {d d' : Disk} {absolute : Bool} {up : List String}
    (h : d.makeDirectoriesUp absolute up = .ok d') :
    d.AddsDirectories d' ∧ (up ≠ [] → d'.isDirectory (upText absolute up) = true) := by
  match up with
  | [] =>
    unfold makeDirectoriesUp at h
    cases h
    exact ⟨.refl d, fun hne => absurd rfl hne⟩
  | name :: up =>
    have hparents : ∀ {d₁}, d.makeDirectoriesUp absolute (around (name :: up)) = .ok d₁ →
        d.AddsDirectories d₁ := fun h₁ => (makeDirectoriesUp_spec h₁).1
    unfold makeDirectoriesUp at h
    dsimp only at h
    change _ ∧ (_ → d'.isDirectory ((if absolute = true then "/" else "") ++
      String.intercalate "/" (name :: up).reverse) = true)
    generalize (if absolute = true then "/" else "") ++
      String.intercalate "/" (name :: up).reverse = path at h ⊢
    have horDirectory : ∀ {d₁ : Disk} {e : OsError}, d.AddsDirectories d₁ →
        (if d₁.isDirectory path = true then Except.ok d₁ else .error e) = .ok d' →
        d.AddsDirectories d' ∧ (name :: up ≠ [] → d'.isDirectory path = true) := by
      intro d₁ e hadds heq
      split at heq
      · next hdirectory =>
        cases heq
        exact ⟨hadds, fun _ => hdirectory⟩
      · cases heq
    split at h
    · next made hmake =>
      cases h
      exact ⟨addsDirectories_of_makeDirectory hmake, fun _ => isDirectory_of_makeDirectory hmake⟩
    · obtain ⟨d₁, hmade, hrest⟩ := exists_ok_of_bind h
      have hadds := hparents hmade
      split at hrest
      · next made hmake =>
        cases hrest
        exact ⟨hadds.trans (addsDirectories_of_makeDirectory hmake),
          fun _ => isDirectory_of_makeDirectory hmake⟩
      · exact horDirectory hadds hrest
    · exact horDirectory (.refl d) h
termination_by up.length
decreasing_by exact length_around_lt name up

/-! ## Directories that are there -/

/-- A directory and its parents are there: making them changes nothing. -/
def Houses (d : Disk) (root : String) : Prop :=
  d.makeDirectories root = .ok d

/-- Where following a path begins. -/
def origin (d : Disk) (path : String) : List String :=
  if isAbsolute path then [] else d.workingDirectory

/-- Where a path leads, if it leads anywhere. -/
def hall (d : Disk) (root : String) : List String :=
  follow (d.origin root) (pathParts root)

/-- Where a path leads depends on nothing but the working directory. -/
theorem hall_of_work (h : d'.workingDirectory = d.workingDirectory) (root : String) :
    d'.hall root = d.hall root := by
  unfold hall origin
  rw [h]

/-- Directories are made along the parts of a valid path. -/
theorem makeDirectories_eq_ok (h : d.makeDirectories root = .ok d') :
    (root.toList.any fun c => c.toNat = 0) = false ∧
      d.makeDirectoriesUp (isAbsolute root) (pathParts root).reverse = .ok d' := by
  unfold makeDirectories at h
  split at h
  · cases h
  · next hvalid => exact ⟨Bool.eq_false_iff.2 hvalid, h⟩

/-- To make a directory with its parents adds directories and nothing else. -/
theorem addsDirectories_of_makeDirectories (h : d.makeDirectories root = .ok d') :
    d.AddsDirectories d' :=
  (makeDirectoriesUp_spec (makeDirectories_eq_ok h).2).1

/-- What was made is there from then on. -/
theorem Houses.of_grows (h : d.makeDirectories root = .ok d') (hgrows : d'.Grows d'') :
    d''.Houses root := by
  obtain ⟨hvalid, hup⟩ := makeDirectories_eq_ok h
  obtain ⟨-, hdirectory⟩ := makeDirectoriesUp_spec hup
  unfold Houses makeDirectories
  rw [hvalid, if_neg Bool.false_ne_true]
  by_cases hparts : (pathParts root).reverse = []
  · rw [hparts]
    unfold makeDirectoriesUp
    rfl
  · exact makeDirectoriesUp_of_isDirectory (isDirectory_of_grows hgrows (hdirectory hparts))

/-- The working directory is there, with all directories around it. -/
structure Rooted (d : Disk) : Prop where
  names : ∀ name ∈ d.workingDirectory, IsName name ∧ name.utf8ByteSize ≤ 255
  directories : ∀ here, here <+: d.workingDirectory → d.node? here = some .directory

/-- A disk that only gets more directories stays rooted. -/
theorem Rooted.of_grows (h : d.Rooted) (hgrows : d.Grows d') : d'.Rooted := by
  refine ⟨fun name hname => ?_, fun here hhere => ?_⟩
  · rw [hgrows.work] at hname
    exact h.names name hname
  · rw [hgrows.work] at hhere
    exact hgrows.directories here (h.directories here hhere)

/-- A name leads from a directory to its entry. -/
theorem walk_cons_of_isName (hname : IsName name) (hnode : d.node? here = some .directory)
    (rest : List String) :
    d.walk here (name :: rest) =
      if 255 < name.utf8ByteSize then .error .nameTooLong else d.walk (here ++ [name]) rest := by
  rw [walk, hnode]
  dsimp only
  rw [if_neg hname.ne_dot, if_neg hname.ne_up]

/-- A walk goes one list of names after the other. -/
theorem walk_append (here names rest : List String) :
    d.walk here (names ++ rest) = d.walk here names >>= fun there => d.walk there rest := by
  induction names generalizing here with
  | nil => rfl
  | cons name names ih =>
    rw [List.cons_append, walk, walk]
    cases d.node? here with
    | none => rfl
    | some node =>
      cases node with
      | file content => rfl
      | directory =>
        dsimp only
        split_ifs
        · exact ih here
        · exact ih here.dropLast
        · rfl
        · exact ih (here ++ [name])

/-- Names of directories are followed one after the other. -/
theorem walk_of_prefixes (hnames : ∀ name ∈ names, IsName name ∧ name.utf8ByteSize ≤ 255)
    (hnodes : ∀ inner, inner <+: names → d.node? (here ++ inner) = some .directory) :
    d.walk here names = .ok (here ++ names) := by
  induction names generalizing here with
  | nil =>
    rw [List.append_nil]
    rfl
  | cons name names ih =>
    obtain ⟨hname, hsize⟩ := hnames name List.mem_cons_self
    have hhere := hnodes [] (List.nil_prefix)
    rw [List.append_nil] at hhere
    rw [walk_cons_of_isName hname hhere, if_neg (Nat.not_lt.2 hsize), ih]
    · rw [List.append_assoc]
      rfl
    · exact fun other hother => hnames other (List.mem_cons_of_mem _ hother)
    · intro inner hinner
      rw [List.append_assoc]
      exact hnodes (name :: inner) (List.cons_prefix_cons.2 ⟨rfl, hinner⟩)

/-- The path of a directory can be walked to its end. -/
theorem walk_eq_ok_of_isDirectory (h : d.isDirectory path = true) :
    ∃ there, d.walk (d.origin path) (pathParts path) = .ok there ∧
      d.node? there = some .directory := by
  unfold isDirectory at h
  split at h
  · next there hlocate =>
    refine ⟨there, ?_, beq_iff_eq.1 h⟩
    have hwalk : d.walk (d.origin path)
        (pathParts path ++ if Text.endsInSlash path then ["."] else []) = .ok there := by
      unfold locate walkPath at hlocate
      split at hlocate
      · cases hlocate
      split at hlocate
      · cases hlocate
      split at hlocate
      · cases hlocate
      · exact hlocate
    rw [walk_append] at hwalk
    obtain ⟨before, hparts, hend⟩ := exists_ok_of_bind hwalk
    -- the dot behind a slash at the end stays where it is
    have hfollow := eq_follow_of_walk hend
    have hsame : follow before (if Text.endsInSlash path then ["."] else []) = before := by
      split <;> rfl
    rw [hparts, hfollow, hsame]
  · cases h

/-- The text of all parts of a path leads along the same parts. -/
theorem upText_spec (root : String) :
    pathParts (upText (isAbsolute root) (pathParts root).reverse) = pathParts root ∧
      (pathParts root ≠ [] →
        isAbsolute (upText (isAbsolute root) (pathParts root).reverse) = isAbsolute root) := by
  have hparts : ∀ name ∈ pathParts root, name ≠ "" ∧ '/' ∉ name.toList :=
    fun name hname => of_mem_pathParts hname
  unfold upText
  rw [List.reverse_reverse]
  generalize pathParts root = parts at hparts ⊢
  cases isAbsolute root with
  | true => exact ⟨pathParts_absoluteText hparts, fun _ => isAbsolute_append rfl _⟩
  | false =>
    rw [if_neg Bool.false_ne_true, String.empty_append]
    refine ⟨pathParts_intercalate hparts, fun hne => ?_⟩
    obtain ⟨first, rest, rfl⟩ := List.exists_cons_of_ne_nil hne
    obtain ⟨hfirst, hslash⟩ := hparts first List.mem_cons_self
    obtain ⟨c, cs, hcs⟩ := List.exists_cons_of_ne_nil
      (fun h => hfirst (String.toList_eq_nil_iff.1 h) : first.toList ≠ [])
    rw [hcs] at hslash
    have hc : c ≠ '/' := fun heq => hslash (heq ▸ List.mem_cons_self)
    unfold isAbsolute
    cases rest <;> simp [String.toList_intercalate, hcs, hc]

/-- Following the path of a directory that is there leads to it. -/
theorem Houses.walk (h : d.Houses root) (hrooted : d.Rooted) :
    d.walk (d.origin root) (pathParts root) = .ok (d.hall root) ∧
      d.node? (d.hall root) = some .directory := by
  by_cases hparts : pathParts root = []
  · unfold hall
    rw [hparts]
    refine ⟨rfl, ?_⟩
    change d.node? (d.origin root) = _
    unfold origin
    split
    · rfl
    · exact hrooted.directories _ List.prefix_rfl
  · obtain ⟨-, hup⟩ := makeDirectories_eq_ok h
    have hdirectory := (makeDirectoriesUp_spec hup).2 (by simpa using hparts)
    obtain ⟨hsame, habs⟩ := upText_spec root
    obtain ⟨there, hwalk, hnode⟩ := walk_eq_ok_of_isDirectory hdirectory
    unfold origin at hwalk
    rw [hsame, habs hparts] at hwalk
    obtain rfl := eq_follow_of_walk hwalk
    exact ⟨hwalk, hnode⟩

/-- The absolute path of a directory that is there leads to it. -/
theorem Houses.walk_absolute (h : d.Houses root) (hrooted : d.Rooted) :
    d.walk [] (pathParts (d.absolute root)) = .ok (d.hall root) := by
  have hwalk := (h.walk hrooted).1
  unfold origin at hwalk
  unfold absolute
  split
  · next habs =>
    rw [if_pos habs] at hwalk
    exact hwalk
  · next habs =>
    rw [if_neg habs] at hwalk
    have hnames : ∀ name ∈ d.workingDirectory, name ≠ "" ∧ '/' ∉ name.toList := fun name hname =>
      ⟨(hrooted.names name hname).1.ne_empty, (hrooted.names name hname).1.no_slash⟩
    have hne : absoluteText d.workingDirectory ≠ "" := by
      simp [absoluteText]
    have hstart : d.walk [] d.workingDirectory = .ok ([] ++ d.workingDirectory) :=
      walk_of_prefixes hrooted.names fun inner hinner => hrooted.directories inner hinner
    rw [pathParts_join hne (Bool.eq_false_iff.2 habs), pathParts_absoluteText hnames, walk_append,
      hstart]
    exact hwalk

/-! ## Entries -/

/-- Where the path of a directory with a name behind it leads, given where the directory is. -/
def entry (path name : String) (here : List String) : Except OsError (List String) :=
  if path.toList.any fun c => c.toNat = 0 then .error .invalidName
  else if 4096 ≤ path.utf8ByteSize then .error .nameTooLong
  else if 255 < name.utf8ByteSize then .error .nameTooLong
  else .ok (here ++ [name])

/-- The place of a name is below the directory, and the name is not too long. -/
theorem entry_eq_ok {there : List String} (h : entry path name here = .ok there) :
    there = here ++ [name] ∧ name.utf8ByteSize ≤ 255 := by
  unfold entry at h
  split at h
  · cases h
  split at h
  · cases h
  split at h
  · cases h
  · next hsize => exact ⟨(Except.ok.inj h).symm, Nat.not_lt.1 hsize⟩

/-- An absolute path is not empty. -/
theorem ne_empty_of_isAbsolute (h : isAbsolute base = true) : base ≠ "" := by
  rintro rfl
  cases h

/-- A walk to a joined name goes to the directory first, and there fails only for a name that is too
long. -/
theorem walk_join (habs : isAbsolute base = true) (hname : IsName name)
    (hwalk : d.walk [] (pathParts base) = .ok here) (hnode : d.node? here = some .directory) :
    d.walk [] (pathParts (join base name)) =
      if 255 < name.utf8ByteSize then .error .nameTooLong else .ok (here ++ [name]) := by
  rw [pathParts_join (ne_empty_of_isAbsolute habs) (isAbsolute_eq_false_of_no_slash hname.no_slash),
    pathParts_of_no_slash hname.no_slash hname.ne_empty, walk_append, hwalk]
  exact walk_cons_of_isName hname hnode []

/-- A joined name is located below its directory. -/
theorem locate_join (habs : isAbsolute base = true) (hname : IsName name)
    (hwalk : d.walk [] (pathParts base) = .ok here) (hnode : d.node? here = some .directory) :
    d.locate (join base name) = entry (join base name) name here := by
  have hjoin := isAbsolute_join habs name
  have hfull : (join base name).isEmpty = false := by
    rw [Bool.eq_false_iff, ne_eq, String.isEmpty_iff]
    exact ne_empty_of_isAbsolute hjoin
  unfold locate walkPath entry
  rw [endsInSlash_join hname.ne_empty hname.no_slash, if_neg Bool.false_ne_true, List.append_nil,
    hfull, if_neg Bool.false_ne_true, hjoin, if_pos rfl, walk_join habs hname hwalk hnode]

/-- The path of a joined name is that of a file, as it does not end in a slash. -/
theorem locateFile_join (habs : isAbsolute base = true) (hname : IsName name) (d : Disk) :
    d.locateFile (join base name) = d.locate (join base name) := by
  unfold locateFile
  rw [pathParts_join (ne_empty_of_isAbsolute habs) (isAbsolute_eq_false_of_no_slash hname.no_slash),
    pathParts_of_no_slash hname.no_slash hname.ne_empty]
  dsimp only
  rw [List.getLast?_concat]
  split
  · rfl
  · rfl
  · rfl
  · rw [endsInSlash_join hname.ne_empty hname.no_slash, if_neg Bool.false_ne_true]

/-- A file in a directory that is there gets its content, if its path can be followed and no
directory is in its place. -/
theorem writeFile_join (habs : isAbsolute base = true) (hname : IsName name)
    (hwalk : d.walk [] (pathParts base) = .ok here) (hnode : d.node? here = some .directory)
    (hfree : d.node? (here ++ [name]) ≠ some .directory) (content : Bytes) :
    d.writeFile (join base name) content =
      (entry (join base name) name here).map fun there => d.setNode there (.file content) := by
  unfold writeFile
  rw [locateFile_join habs hname, locate_join habs hname hwalk hnode]
  cases hentry : entry (join base name) name here with
  | error e => rfl
  | ok there =>
    obtain ⟨rfl, -⟩ := entry_eq_ok hentry
    simp only [bind, Except.bind, Except.map]

end Disk

end VectorIndex
