import VectorIndex.Proofs.Disk.Rooms
import VectorIndex.Proofs.Run.Outcome

/-!
# Workspaces beside each other

Several runs have their workspaces below one staging root, each in a directory of its own.
`Disk.Awaits` says that the directory of a run can still be made and `Disk.Lodges` that it is
there.  What a run makes, writes and removes there is told by `Workspace.create_foreseen`,
`Disk.Lodges.writeFile` and `Disk.Lodges.remove`, whatever else is on the disk; and it is all within
the directory of the run (`Disk.Spares`), so that other runs do not notice it
(`Disk.Awaits.of_spares`, `Disk.Lodges.of_spares`).
-/

set_option autoImplicit false

namespace VectorIndex

namespace Disk

variable {d d' d'' start : Disk} {root suffix : String} {mine : List String → Prop}
  {names here : List String}

/-! ## Rooms -/

/-- The name of the directory of a run. -/
def roomName (suffix : String) : String :=
  Workspace.directoryPrefix ++ suffix

/-- Where the directory of a run is. -/
def room (d : Disk) (root suffix : String) : List String :=
  d.hall root ++ [roomName suffix]

/-- The path of the directory of a run. -/
def roomPath (d : Disk) (root suffix : String) : String :=
  join (d.absolute root) (roomName suffix)

/-- The name of a room is a name. -/
theorem isName_roomName (h : '/' ∉ suffix.toList) : IsName (roomName suffix) := by
  have hhead : (roomName suffix).toList.head? = some 'i' := by
    unfold roomName Workspace.directoryPrefix
    rw [String.toList_append]
    rfl
  refine ⟨?_, ?_, ?_, ?_⟩
  · intro heq
    rw [heq] at hhead
    cases hhead
  · unfold roomName
    rw [String.toList_append]
    intro hmem
    obtain hprefix | hsuffix := List.mem_append.1 hmem
    · exact absurd hprefix (by decide)
    · exact h hsuffix
  · intro heq
    rw [heq] at hhead
    cases hhead
  · intro heq
    rw [heq] at hhead
    cases hhead

/-- Different suffixes name different rooms. -/
theorem roomName_inj {suffix suffix' : String} (h : roomName suffix = roomName suffix') :
    suffix = suffix' := by
  have hlist := congrArg String.toList h
  unfold roomName at hlist
  rw [String.toList_append, String.toList_append] at hlist
  exact String.toList_inj.1 (List.append_cancel_left hlist)

/-- Nothing is in two rooms. -/
theorem not_prefix_room {suffix suffix' : String} (h : suffix ≠ suffix')
    (hnames : d.room root suffix <+: names) : ¬ d.room root suffix' <+: names := by
  intro hnames'
  have hlength : (d.room root suffix').length = (d.room root suffix).length := by
    simp [room]
  have heq := (List.prefix_of_prefix_length_le hnames hnames' (Nat.le_of_eq hlength.symm)).eq_of_length
    hlength.symm
  unfold room at heq
  exact h (roomName_inj (List.singleton_inj.1 (List.append_cancel_left heq)))

/-- Where a room is depends on the disk through its working directory only. -/
theorem roomPath_of_work (h : d'.workingDirectory = d.workingDirectory) (root suffix : String) :
    d'.roomPath root suffix = d.roomPath root suffix := by
  unfold roomPath absolute
  rw [h]

/-! ## What is spared -/

/-- A change of the disk that is noticed in some places only, as far as directories below a root go:
outside of these places every directory stays, and making the root has the same result. -/
structure Spares (root : String) (mine : List String → Prop) (d d' : Disk) : Prop where
  work : d'.workingDirectory = d.workingDirectory
  directories : ∀ here, ¬ mine here → d.node? here = some .directory →
    d'.node? here = some .directory
  refused : ∀ e, d.makeDirectories root = .error e → d'.makeDirectories root = .error e
  made : ∀ d₁, d.makeDirectories root = .ok d₁ → ∃ d₁', d'.makeDirectories root = .ok d₁' ∧
    (∀ here, ¬ mine here → d₁.node? here = some .directory → d₁'.node? here = some .directory) ∧
    ∀ names, d.hall root <+: names → names ≠ d.hall root → ¬ mine names →
      d₁'.node? names = d₁.node? names

/-- To do nothing spares everything. -/
theorem Spares.refl (root : String) (mine : List String → Prop) (d : Disk) :
    d.Spares root mine d where
  work := rfl
  directories _ _ h := h
  refused _ h := h
  made d₁ h := ⟨d₁, h, fun _ _ h => h, fun _ _ _ _ => rfl⟩

/-- What is spared twice is spared. -/
theorem Spares.trans (h : d.Spares root mine d') (h' : d'.Spares root mine d'') :
    d.Spares root mine d'' where
  work := h'.work.trans h.work
  directories here hmine hnode := h'.directories here hmine (h.directories here hmine hnode)
  refused e he := h'.refused e (h.refused e he)
  made := by
    intro d₁ h₁
    obtain ⟨d₂, h₂, hdirectories, hbelow⟩ := h.made d₁ h₁
    obtain ⟨d₃, h₃, hdirectories', hbelow'⟩ := h'.made d₂ h₂
    rw [hall_of_work h.work] at hbelow'
    refine ⟨d₃, h₃, fun here hmine hnode => ?_, fun names hhall hne hmine => ?_⟩
    · exact hdirectories' here hmine (hdirectories here hmine hnode)
    · exact (hbelow' names hhall hne hmine).trans (hbelow names hhall hne hmine)

/-- To call more one's own promises less. -/
theorem Spares.mono {mine' : List String → Prop} (h : d.Spares root mine d')
    (hsub : ∀ names, mine names → mine' names) : d.Spares root mine' d' where
  work := h.work
  directories here hmine := h.directories here fun hin => hmine (hsub here hin)
  refused := h.refused
  made := by
    intro d₁ h₁
    obtain ⟨d₂, h₂, hdirectories, hbelow⟩ := h.made d₁ h₁
    exact ⟨d₂, h₂, fun here hmine => hdirectories here fun hin => hmine (hsub here hin),
      fun names hhall hne hmine => hbelow names hhall hne fun hin => hmine (hsub names hin)⟩

/-! ## Before and after a room is made -/

/-- Below a root that can be made as at the start, or cannot be made as at the start, nothing stands
where the directory of a run will be. -/
structure Awaits (root suffix : String) (start d : Disk) : Prop where
  work : d.workingDirectory = start.workingDirectory
  refused : ∀ e, start.makeDirectories root = .error e → d.makeDirectories root = .error e
  made : ∀ d₁, start.makeDirectories root = .ok d₁ →
    ∃ d₂, d.makeDirectories root = .ok d₂ ∧ d₁.Grows d₂ ∧
      ∀ names, start.room root suffix <+: names → d₂.node? names = none

/-- The directory of a run is there. -/
structure Lodges (root suffix : String) (start d : Disk) : Prop where
  grown : ∃ d₁, start.makeDirectories root = .ok d₁ ∧ d₁.Grows d
  entered : entry (start.roomPath root suffix) (roomName suffix) (start.hall root) =
    .ok (start.room root suffix)
  directory : d.node? (start.room root suffix) = some .directory

/-- What is in a room is below the staging root, and is not the root itself. -/
theorem room_prefix_hall (hnames : start.room root suffix <+: names) :
    start.hall root <+: names ∧ names ≠ start.hall root := by
  have hhall : start.hall root <+: start.room root suffix := List.prefix_append _ _
  refine ⟨hhall.trans hnames, ?_⟩
  rintro rfl
  have hlength := hnames.length_le
  unfold room at hlength
  rw [List.length_append] at hlength
  exact absurd hlength (Nat.not_succ_le_self _)

/-- A change in other places is not noticed before the room is made. -/
theorem Awaits.of_spares (h : start.Awaits root suffix d) (hspares : d.Spares root mine d')
    (hroom : ∀ names, start.room root suffix <+: names → ¬ mine names)
    (hvacant : ∀ d₁ here, start.makeDirectories root = .ok d₁ → mine here → d₁.node? here = none) :
    start.Awaits root suffix d' where
  work := hspares.work.trans h.work
  refused e he := hspares.refused e (h.refused e he)
  made := by
    intro d₁ h₁
    obtain ⟨d₂, h₂, hgrows, hfree⟩ := h.made d₁ h₁
    obtain ⟨d₃, h₃, hdirectories, hbelow⟩ := hspares.made d₂ h₂
    have hwork := (addsDirectories_of_makeDirectories h₃).work
    have hwork₁ := (addsDirectories_of_makeDirectories h₁).work
    refine ⟨d₃, h₃, ⟨?_, fun here hnode => ?_⟩, fun names hnames => ?_⟩
    · rw [hwork, hspares.work, h.work, hwork₁]
    · refine hdirectories here (fun hmine => ?_) (hgrows.directories here hnode)
      cases (hvacant d₁ here h₁ hmine).symm.trans hnode
    · obtain ⟨hhall, hbelow'⟩ := room_prefix_hall hnames
      rw [← hall_of_work h.work] at hhall hbelow'
      rw [hbelow names hhall hbelow' (hroom names hnames)]
      exact hfree names hnames

/-- A change in other places is not noticed in the room either. -/
theorem Lodges.of_spares (h : start.Lodges root suffix d) (hspares : d.Spares root mine d')
    (hroom : ∀ names, start.room root suffix <+: names → ¬ mine names)
    (hvacant : ∀ d₁ here, start.makeDirectories root = .ok d₁ → mine here → d₁.node? here = none) :
    start.Lodges root suffix d' ∧
      ∀ names, start.room root suffix <+: names → d'.node? names = d.node? names := by
  obtain ⟨⟨d₁, h₁, hgrows⟩, hentered, hdirectory⟩ := h
  have hgrows' : d₁.Grows d' := by
    refine ⟨hspares.work.trans hgrows.work, fun here hnode => ?_⟩
    refine hspares.directories here (fun hmine => ?_) (hgrows.directories here hnode)
    cases (hvacant d₁ here h₁ hmine).symm.trans hnode
  have hwork : d.workingDirectory = start.workingDirectory :=
    hgrows.work.trans (addsDirectories_of_makeDirectories h₁).work
  have hkept : ∀ names, start.room root suffix <+: names → d'.node? names = d.node? names := by
    intro names hnames
    obtain ⟨d₂, h₂, -, hbelow⟩ := hspares.made d (Houses.of_grows h₁ hgrows)
    obtain rfl := Except.ok.inj (h₂.symm.trans (Houses.of_grows h₁ hgrows'))
    obtain ⟨hhall, hbelow'⟩ := room_prefix_hall hnames
    rw [← hall_of_work hwork] at hhall hbelow'
    exact hbelow names hhall hbelow' (hroom names hnames)
  exact ⟨⟨⟨d₁, h₁, hgrows'⟩, hentered, (hkept _ List.prefix_rfl).trans hdirectory⟩, hkept⟩

/-- What changes in a room only is spared elsewhere. -/
theorem spares_of_within {d₁ : Disk} (h₁ : start.makeDirectories root = .ok d₁)
    (hgrows : d₁.Grows d) (hvacant : start.Awaits root suffix start)
    (hwork : d'.workingDirectory = d.workingDirectory)
    (hkept : ∀ names, ¬ start.room root suffix <+: names → d'.node? names = d.node? names) :
    d.Spares root (start.room root suffix <+: ·) d' ∧ d₁.Grows d' := by
  have hgrows' : d₁.Grows d' := by
    refine ⟨hwork.trans hgrows.work, fun here hnode => ?_⟩
    obtain ⟨d₂, h₂, -, hfree⟩ := hvacant.made d₁ h₁
    obtain rfl := Except.ok.inj (h₂.symm.trans h₁)
    rw [hkept here fun hroom => nomatch (hfree here hroom).symm.trans hnode]
    exact hgrows.directories here hnode
  have hhouses := Houses.of_grows h₁ hgrows
  refine ⟨⟨hwork, fun here hmine hnode => (hkept here hmine).trans hnode, fun e he => ?_,
    fun d₂ h₂ => ?_⟩, hgrows'⟩
  · cases hhouses.symm.trans he
  · obtain rfl := Except.ok.inj (hhouses.symm.trans h₂)
    exact ⟨d', Houses.of_grows h₁ hgrows', fun here hmine hnode => (hkept here hmine).trans hnode,
      fun names _ _ hmine => hkept names hmine⟩

/-- Making the root is noticed nowhere. -/
theorem spares_of_makeDirectories (h : d.makeDirectories root = .ok d') :
    d.Spares root mine d' where
  work := (addsDirectories_of_makeDirectories h).work
  directories here _ hnode := (addsDirectories_of_makeDirectories h).grows.directories here hnode
  refused e he := nomatch h.symm.trans he
  made d₁ h₁ := by
    obtain rfl := Except.ok.inj (h.symm.trans h₁)
    exact ⟨d', Houses.of_grows h (.refl d'), fun _ _ hnode => hnode, fun _ _ _ _ => rfl⟩

/-! ## Paths of rooms -/

section

variable {d₁ : Disk}

/-- The staging root can be walked to, since it was made. -/
theorem walk_root (hrooted : start.Rooted) (h₁ : start.makeDirectories root = .ok d₁)
    (hgrows : d₁.Grows d) :
    d.walk [] (pathParts (start.absolute root)) = .ok (start.hall root) ∧
      d.node? (start.hall root) = some .directory := by
  have hadds := addsDirectories_of_makeDirectories h₁
  have hwork : d.workingDirectory = start.workingDirectory := hgrows.work.trans hadds.work
  have hhouses := Houses.of_grows h₁ hgrows
  have hd : d.Rooted := hrooted.of_grows (hadds.grows.trans hgrows)
  have habsolute : d.absolute root = start.absolute root := by
    unfold absolute
    rw [hwork]
  rw [← habsolute, ← hall_of_work hwork]
  exact ⟨hhouses.walk_absolute hd, (hhouses.walk hd).2⟩

/-- A room is located below the staging root. -/
theorem locate_roomPath (hrooted : start.Rooted) (hslash : '/' ∉ suffix.toList)
    (h₁ : start.makeDirectories root = .ok d₁) (hgrows : d₁.Grows d) :
    d.locate (start.roomPath root suffix) =
      entry (start.roomPath root suffix) (roomName suffix) (start.hall root) := by
  obtain ⟨hwalk, hnode⟩ := walk_root hrooted h₁ hgrows
  exact locate_join (isAbsolute_absolute ..) (isName_roomName hslash) hwalk hnode

end

/-- The room of a lodger can be located. -/
theorem Lodges.locate (h : start.Lodges root suffix d) (hrooted : start.Rooted)
    (hslash : '/' ∉ suffix.toList) :
    d.locate (start.roomPath root suffix) = .ok (start.room root suffix) := by
  obtain ⟨⟨d₁, h₁, hgrows⟩, hentered, -⟩ := h
  exact (locate_roomPath hrooted hslash h₁ hgrows).trans hentered

/-- The room of a lodger can be walked to. -/
theorem Lodges.walk (h : start.Lodges root suffix d) (hrooted : start.Rooted)
    (hslash : '/' ∉ suffix.toList) :
    d.walk [] (pathParts (start.roomPath root suffix)) = .ok (start.room root suffix) := by
  obtain ⟨⟨d₁, h₁, hgrows⟩, hentered, -⟩ := h
  obtain ⟨hwalk, hnode⟩ := walk_root hrooted h₁ hgrows
  have hshort : ¬ 255 < (roomName suffix).utf8ByteSize := Nat.not_lt.2 (entry_eq_ok hentered).2
  exact (walk_join (isAbsolute_absolute ..) (isName_roomName hslash) hwalk hnode).trans
    (if_neg hshort)

/-! ## Staged files -/

/-- Nothing is in the room yet. -/
def Vacant (root suffix : String) (start d : Disk) : Prop :=
  ∀ names, start.room root suffix <+: names → names ≠ start.room root suffix →
    d.node? names = none

/-- The file of this name in the room. -/
def fileIn (root suffix : String) (start : Disk) (name : String) : String :=
  join (start.roomPath root suffix) name

/-- The path of a room is absolute. -/
theorem isAbsolute_roomPath (d : Disk) (root suffix : String) :
    isAbsolute (d.roomPath root suffix) = true :=
  isAbsolute_join (isAbsolute_absolute ..) _

/-- A file is written into the room of a lodger, unless its name is too long. -/
theorem Lodges.writeFile (h : start.Lodges root suffix d) (hrooted : start.Rooted)
    (hslash : '/' ∉ suffix.toList) (hvacant : start.Vacant root suffix d) {name : String}
    (hname : IsName name) (content : Bytes) :
    d.writeFile (start.fileIn root suffix name) content =
      (entry (start.fileIn root suffix name) name (start.room root suffix)).map fun there =>
        d.setNode there (.file content) := by
  refine writeFile_join (isAbsolute_roomPath ..) hname (h.walk hrooted hslash) h.directory ?_ content
  rw [hvacant _ (List.prefix_append ..) (by simp)]
  exact nofun

/-- A file in the room of a lodger can be read. -/
theorem Lodges.readFile (h : start.Lodges root suffix d) (hrooted : start.Rooted)
    (hslash : '/' ∉ suffix.toList) {name : String} (hname : IsName name)
    (hentry : entry (start.fileIn root suffix name) name (start.room root suffix) =
      .ok (start.room root suffix ++ [name])) {content : Bytes}
    (hnode : d.node? (start.room root suffix ++ [name]) = some (.file content)) :
    d.readFile (start.fileIn root suffix name) = .ok content := by
  have hlocate : d.locate (start.fileIn root suffix name) = _ :=
    locate_join (isAbsolute_roomPath ..) hname (h.walk hrooted hslash) h.directory
  unfold Disk.readFile
  rw [hlocate, show entry (join _ name) name _ = _ from hentry]
  simp only [bind, Except.bind, hnode]

/-- A file in the room is put there and nowhere else. -/
theorem Lodges.setNode (h : start.Lodges root suffix d) (hvacant : start.Awaits root suffix start)
    (name : String) (content : Bytes) :
    start.Lodges root suffix (d.setNode (start.room root suffix ++ [name]) (.file content)) ∧
      d.Spares root (start.room root suffix <+: ·)
        (d.setNode (start.room root suffix ++ [name]) (.file content)) := by
  obtain ⟨⟨d₁, h₁, hgrows⟩, hentered, hdirectory⟩ := h
  obtain ⟨hspares, hgrows'⟩ := spares_of_within h₁ hgrows hvacant
    (workingDirectory_setNode d (start.room root suffix ++ [name]) (.file content))
    (fun names hnames => node?_setNode_of_ne d
      (by rintro rfl; exact hnames (List.prefix_append ..)) _)
  refine ⟨⟨⟨d₁, h₁, hgrows'⟩, hentered, ?_⟩, hspares⟩
  rw [node?_setNode_of_ne d (by simp), hdirectory]

/-- To remove a tree leaves alone what is not below it. -/
theorem node?_removeTree_of_not_prefix (d : Disk) (h : ¬ here <+: names) :
    (d.removeTree here).node? names = d.node? names := by
  unfold node? removeTree
  split
  · rfl
  · refine Association.lookup_filter d.nodes fun node => ?_
    rw [Bool.not_eq_true', Bool.eq_false_iff, ne_eq, List.isPrefixOf_iff_prefix]
    exact h

/-- A room is removed with what is in it, and nothing else is. -/
theorem Lodges.remove (h : start.Lodges root suffix d) (hrooted : start.Rooted)
    (hslash : '/' ∉ suffix.toList) (hvacant : start.Awaits root suffix start) :
    d.Spares root (start.room root suffix <+: ·)
      (d.removeDirectory (start.roomPath root suffix)) := by
  have hlocate := h.locate hrooted hslash
  obtain ⟨⟨d₁, h₁, hgrows⟩, hentered, hdirectory⟩ := h
  have hremove : d.removeDirectory (start.roomPath root suffix) =
      d.removeTree (start.room root suffix) := by
    unfold removeDirectory
    simp only [hlocate, hdirectory, if_true]
  rw [hremove]
  refine (spares_of_within h₁ hgrows hvacant ?_ fun names hnames => ?_).1
  · rfl
  · exact node?_removeTree_of_not_prefix d hnames

/-! ## Making a room -/

/-- A path is located in its hall. -/
theorem eq_hall_of_locate (h : d.locate root = .ok names) : names = d.hall root := by
  unfold Disk.locate walkPath at h
  split at h
  · cases h
  split at h
  · cases h
  split at h
  · cases h
  · rw [eq_follow_of_walk h, follow_dot]
    rfl

/-- A name that is not there is not listed. -/
theorem notMem_entries {name : String} (h : d.node? (here ++ [name]) = none) :
    name ∉ d.entries here := by
  intro hmem
  obtain ⟨node, hnode, hname⟩ := List.mem_filterMap.1 hmem
  split at hname
  · next hlast =>
    obtain ⟨front, hfront⟩ := List.getLast?_eq_some_iff.1 hname
    rw [hfront, List.dropLast_concat] at hlast
    rw [hlast] at hfront
    have hempty : (here ++ [name]).isEmpty = false := by simp
    unfold node? at h
    rw [hempty, if_neg Bool.false_ne_true, List.lookup_eq_none_iff] at h
    exact absurd (h node hnode) (by simp [hfront])
  · cases hname

end Disk

namespace Workspace

open Disk

variable {d start : Disk} {root suffix : String}

/-- A name that is not taken is fresh as it is. -/
theorem freshName_of_notMem {taken : List String} {name : String} (h : name ∉ taken) (fuel : Nat) :
    freshName taken fuel name = name := by
  cases fuel with
  | zero => rfl
  | succ fuel =>
    unfold freshName
    rw [if_neg (by simpa using h)]

/-- What a run gets as its workspace, as far as this can be told from the disk at the start. -/
def foreseen (start : Disk) (root : String) (mode : StagingMode) (artifactPath suffix : String) :
    Except BuildError Workspace :=
  match start.makeDirectories root with
  | .error e => .error (.io e.message)
  | .ok _ =>
    match entry (start.roomPath root suffix) (roomName suffix) (start.hall root) with
    | .error e =>
      .error (.io (e.message ++ " at path " ++ Text.quoted (start.roomPath root suffix)))
    | .ok _ => .ok {
        directory := start.roomPath root suffix
        content := .inMode mode (start.fileIn root suffix (Text.lastSegment artifactPath)) }

/-- The directory of a workspace can be foreseen. -/
theorem directory_of_foreseen {mode : StagingMode} {artifactPath : String} {space : Workspace}
    (h : foreseen start root mode artifactPath suffix = .ok space) :
    space.directory = start.roomPath root suffix := by
  unfold foreseen at h
  split at h
  · cases h
  split at h
  · cases h
  · cases h
    rfl

/-- What a workspace is going to hold can be foreseen. -/
theorem content_of_foreseen {mode : StagingMode} {artifactPath : String} {space : Workspace}
    (h : foreseen start root mode artifactPath suffix = .ok space) :
    space.content =
      .inMode mode (start.fileIn root suffix (Text.lastSegment artifactPath)) := by
  unfold foreseen at h
  split at h
  · cases h
  split at h
  · cases h
  · cases h
    rfl

/-- Below a root that can be made, making a workspace means making its directory. -/
theorem create_eq {d₁ d₂ : Disk} (hrooted : start.Rooted) (hslash : '/' ∉ suffix.toList)
    (h₁ : start.makeDirectories root = .ok d₁) (h₂ : d.makeDirectories root = .ok d₂)
    (hgrows : d₁.Grows d₂) (hfree : d₂.node? (start.room root suffix) = none)
    (mode : StagingMode) (artifactPath : String) :
    create d root mode artifactPath suffix =
      match entry (start.roomPath root suffix) (roomName suffix) (start.hall root) with
      | .error e =>
        .error (.io (e.message ++ " at path " ++ Text.quoted (start.roomPath root suffix)))
      | .ok there => .ok ({
          directory := start.roomPath root suffix
          content := .inMode mode (start.fileIn root suffix (Text.lastSegment artifactPath)) },
        d₂.setNode there .directory) := by
  have hwork : d₂.workingDirectory = start.workingDirectory :=
    hgrows.work.trans (addsDirectories_of_makeDirectories h₁).work
  have hpath : join (d₂.absolute root) (roomName suffix) = start.roomPath root suffix :=
    roomPath_of_work hwork root suffix
  have hmake : d₂.makeDirectory (start.roomPath root suffix) =
      (entry (start.roomPath root suffix) (roomName suffix) (start.hall root)).map fun there =>
        d₂.setNode there .directory := by
    unfold makeDirectory
    rw [locate_roomPath hrooted hslash h₁ hgrows]
    cases hentry : entry (start.roomPath root suffix) (roomName suffix) (start.hall root) with
    | error e => rfl
    | ok there =>
      obtain ⟨rfl, -⟩ := entry_eq_ok hentry
      have hfree : d₂.node? (start.hall root ++ [roomName suffix]) = none := hfree
      simp only [bind, Except.bind, Except.map, hfree]
  unfold create
  rw [h₂]
  dsimp -zeta only
  extract_lets taken directory content
  have hname : freshName taken taken.length (directoryPrefix ++ suffix) = roomName suffix := by
    refine freshName_of_notMem (fun hmem => ?_) _
    unfold taken at hmem
    split at hmem
    · next names hlocate =>
      refine notMem_entries ?_ hmem
      rw [eq_hall_of_locate hlocate, hall_of_work hwork]
      exact hfree
    · cases hmem
  have hdirectory : directory = start.roomPath root suffix := by
    unfold directory
    rw [hname, hpath]
  have hcontent : content =
      .inMode mode (start.fileIn root suffix (Text.lastSegment artifactPath)) := by
    unfold content
    rw [hdirectory]
    split <;> rfl
  rw [hdirectory, hmake, hcontent]
  cases entry (start.roomPath root suffix) (roomName suffix) (start.hall root) with
  | error e => rfl
  | ok there => rfl

/-- A run whose room is awaited gets the workspace that could be foreseen. -/
theorem create_foreseen (hrooted : start.Rooted) (hslash : '/' ∉ suffix.toList)
    (hvacant : start.Awaits root suffix start) (h : start.Awaits root suffix d)
    (mode : StagingMode) (artifactPath : String) :
    (∃ e, foreseen start root mode artifactPath suffix = .error e ∧
      create d root mode artifactPath suffix = .error e) ∨
    ∃ space d', foreseen start root mode artifactPath suffix = .ok space ∧
      create d root mode artifactPath suffix = .ok (space, d') ∧
      start.Lodges root suffix d' ∧ start.Vacant root suffix d' ∧
      d.Spares root (start.room root suffix <+: ·) d' := by
  unfold foreseen
  cases h₁ : start.makeDirectories root with
  | error e =>
    refine .inl ⟨_, rfl, ?_⟩
    unfold create
    simp only [h.refused e h₁]
  | ok d₁ =>
    obtain ⟨d₂, h₂, hgrows, hfree⟩ := h.made d₁ h₁
    rw [create_eq hrooted hslash h₁ h₂ hgrows (hfree _ List.prefix_rfl) mode artifactPath]
    cases hentry : entry (start.roomPath root suffix) (roomName suffix) (start.hall root) with
    | error e => exact .inl ⟨_, rfl, rfl⟩
    | ok there =>
      obtain ⟨hthere, -⟩ := entry_eq_ok hentry
      obtain rfl : there = start.room root suffix := hthere
      have hself : (d₂.setNode (start.room root suffix) .directory).node?
          (start.room root suffix) = some .directory :=
        node?_setNode_self d₂ (ne_nil_of_node?_eq_none (hfree _ List.prefix_rfl)) _
      obtain ⟨hspares, hgrows'⟩ := spares_of_within h₁ hgrows hvacant
        (workingDirectory_setNode d₂ (start.room root suffix) .directory)
        (fun names hnames => node?_setNode_of_ne d₂
          (by rintro rfl; exact hnames List.prefix_rfl) _)
      refine .inr ⟨_, _, rfl, rfl, ⟨⟨d₁, h₁, hgrows'⟩, hentry, hself⟩, ?_, ?_⟩
      · intro names hnames hne
        rw [node?_setNode_of_ne d₂ hne]
        exact hfree names hnames
      · exact (spares_of_makeDirectories h₂).trans hspares

end Workspace

end VectorIndex
