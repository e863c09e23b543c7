import VectorIndex.Blob.Directory
import VectorIndex.Proofs.Blob.Keeping
import VectorIndex.Proofs.Disk.Descent
import VectorIndex.Proofs.Request.Acceptance
import VectorIndex.Proofs.Run.Lodgings

/-!
# What a directory of objects encloses

The backend over a directory puts files below it and nowhere else, and everything else on the disk
stays as it is, except that missing directories are made (`Disk.KeepsOutside`).  An object is staged
and put in its place there because no segment of its path is a step up
(`ObjectPath.isName_of_parse`); the parts of an upload go to the file that was staged when it was
started, and so all uploads that were started since some moment stay there
(`DirectoryStore.keeps_enclosed`).
-/

set_option autoImplicit false

namespace VectorIndex

/-! ## Segments -/

/-- The segments of a path that was accepted are names of entries. -/
theorem ObjectPath.isName_of_parse {text : String} {location : ObjectPath}
    (h : ObjectPath.parse text = .ok location) :
    ∀ segment ∈ location.segments, Disk.IsName segment := by
  have hchecked : ∀ cs : List Char,
      ObjectPath.mk <$> (Text.splitAt '/' cs).mapM (checkSegment text) = .ok location →
      ∀ segment ∈ location.segments, Disk.IsName segment := by
    intro cs hmap
    cases hsegments : (Text.splitAt '/' cs).mapM (checkSegment text) with
    | error e =>
      rw [hsegments] at hmap
      cases hmap
    | ok segments =>
      have hall : ∀ piece ∈ Text.splitAt '/' cs,
          checkSegment text piece = .ok (String.ofList piece) := by
        intro piece hpiece
        obtain ⟨s, hs⟩ := exists_ok_of_mapM hsegments piece hpiece
        exact hs.trans (congrArg Except.ok (checkSegment_eq_ok_iff.1 hs).1)
      rw [mapM_eq_ok hall] at hmap
      obtain rfl := Except.ok.inj hmap
      intro segment hsegment
      obtain ⟨piece, hpiece, rfl⟩ := List.mem_map.1 hsegment
      obtain ⟨-, hne, hdot, hup, -⟩ := checkSegment_eq_ok_iff.1 (hall piece hpiece)
      refine ⟨?_, ?_, hdot, hup⟩
      · intro hempty
        refine hne ?_
        rw [← String.toList_ofList (l := piece), hempty]
        rfl
      · rw [String.toList_ofList]
        exact Text.notMem_of_mem_splitAt hpiece
  unfold parse at h
  dsimp only at h
  split at h
  · split at h
    · cases h
      exact nofun
    · exact hchecked _ h
  · split at h
    · cases h
      exact nofun
    · exact hchecked _ h

namespace Disk

variable {d d' d'' : Disk} {root names there : List String}

/-! ## Outside of a directory -/

/-- Outside of a directory nothing has changed, except that directories were made. -/
structure KeepsOutside (root : List String) (d d' : Disk) : Prop where
  work : d'.workingDirectory = d.workingDirectory
  node : ∀ here, ¬ root <+: here → d'.node? here = d.node? here ∨
    d.node? here = none ∧ d'.node? here = some .directory

/-- To change nothing is to keep the outside. -/
theorem KeepsOutside.refl (root : List String) (d : Disk) : d.KeepsOutside root d :=
  ⟨rfl, fun _ _ => .inl rfl⟩

/-- Changes that keep the outside can follow on each other. -/
theorem KeepsOutside.trans (h : d.KeepsOutside root d') (h' : d'.KeepsOutside root d'') :
    d.KeepsOutside root d'' := by
  refine ⟨h'.work.trans h.work, fun here houtside => ?_⟩
  obtain hsame' | ⟨hnone', hmade'⟩ := h'.node here houtside
  · rw [hsame']
    exact h.node here houtside
  · obtain hsame | ⟨-, hmade⟩ := h.node here houtside
    · exact .inr ⟨hsame.symm.trans hnone', hmade'⟩
    · cases hnone'.symm.trans hmade

/-- To make directories keeps the outside of every directory. -/
theorem AddsDirectories.keepsOutside (h : d.AddsDirectories d') (root : List String) :
    d.KeepsOutside root d' :=
  ⟨h.work, fun here _ => h.node here⟩

/-- A node that is set below a directory keeps its outside. -/
theorem keepsOutside_setNode (d : Disk) (h : root <+: names) (node : DiskNode) :
    d.KeepsOutside root (d.setNode names node) := by
  refine ⟨workingDirectory_setNode .., fun here houtside => .inl ?_⟩
  refine node?_setNode_of_ne d ?_ node
  rintro rfl
  exact houtside h

/-- A tree that is removed below a directory keeps its outside. -/
theorem keepsOutside_removeTree (d : Disk) (h : root <+: names) :
    d.KeepsOutside root (d.removeTree names) := by
  refine ⟨rfl, fun here houtside => .inl ?_⟩
  exact node?_removeTree_of_not_prefix d fun hbelow => houtside (h.trans hbelow)

/-- The absolute path of a place leads there and nowhere else. -/
theorem eq_of_locate_absoluteText (hnames : ∀ name ∈ names, IsName name)
    (h : d.locate (absoluteText names) = .ok there) : there = names :=
  (eq_hall_of_locate h).trans (hall_absoluteText hnames d)

/-- A file that is written below a directory keeps its outside. -/
theorem keepsOutside_writeFile {content : Bytes} (hnames : ∀ name ∈ names, IsName name)
    (hbelow : root <+: names) (h : d.writeFile (absoluteText names) content = .ok d') :
    d.KeepsOutside root d' := by
  obtain ⟨there, hlocate, -, rfl⟩ := exists_locate_of_writeFile h
  obtain rfl := eq_of_locate_absoluteText hnames (locate_of_locateFile hlocate)
  exact keepsOutside_setNode d hbelow _

end Disk

namespace DirectoryStore

variable {d d' : Disk} {root names segments staged : List String} {path : ObjectPath}

/-! ## Staging -/

/-- The file of an object is found by its segments below the root. -/
theorem fileOf_eq_ok (h : fileOf root path = .ok names) :
    names = root ++ path.segments ∧ path.segments ≠ [] := by
  unfold fileOf at h
  split at h
  · next name hlast =>
    split at h
    · cases h
    · refine ⟨(Except.ok.inj h).symm, ?_⟩
      intro hnil
      rw [hnil] at hlast
      cases hlast
  · cases h

/-- A staged file is beside the place of its object, under another name. -/
theorem stagedName_append (root : List String) (hne : segments ≠ []) (k : Nat) :
    stagedName (root ++ segments) k =
      root ++ (segments.dropLast ++ [segments.getLast hne ++ "#" ++ toString k]) := by
  have hlast : (root ++ segments).getLast? = some (segments.getLast hne) := by
    rw [List.getLast?_append, List.getLast?_eq_some_getLast hne]
    rfl
  unfold stagedName
  rw [hlast, List.dropLast_append_of_ne_nil hne, List.append_assoc]
  rfl

/-- The name of a staged file is a name. -/
theorem isName_staged {name : String} (h : Disk.IsName name) (k : Nat) :
    Disk.IsName (name ++ "#" ++ toString k) := by
  have hmark : '#' ∈ (name ++ "#" ++ toString k).toList := by
    rw [String.toList_append, String.toList_append]
    exact List.mem_append_left _ (List.mem_append_right _ List.mem_cons_self)
  have hne : ∀ other : String, '#' ∉ other.toList → name ++ "#" ++ toString k ≠ other := by
    rintro other hother rfl
    exact hother hmark
  have hdigits : '/' ∉ (toString k).toList := by
    rw [Nat.toString_eq_ofList_toDigits, String.toList_ofList]
    intro hmem
    exact absurd (Nat.isDigit_of_mem_toDigits (by decide) (by decide) hmem) (by decide)
  refine ⟨hne "" (by decide), ?_, hne "." (by decide), hne ".." (by decide)⟩
  rw [String.toList_append, String.toList_append]
  intro hmem
  obtain hmem | hmem := List.mem_append.1 hmem
  · obtain hmem | hmem := List.mem_append.1 hmem
    · exact h.no_slash hmem
    · exact absurd hmem (by decide)
  · exact hdigits hmem

/-- What staging comes to: missing directories are made, and then an empty file. -/
theorem stage_spec {fuel k : Nat} {mayMake : Bool}
    (h : stage names fuel k mayMake d = .ok (staged, d')) :
    ∃ k' d₁, staged = stagedName names k' ∧ d.AddsDirectories d₁ ∧
      d₁.writeFile (Disk.absoluteText staged) [] = .ok d' := by
  induction fuel generalizing k mayMake d with
  | zero => cases h
  | succ fuel ih =>
    unfold stage at h
    dsimp only at h
    split at h
    · exact ih h
    split at h
    · next written hwrite =>
      cases h
      exact ⟨k, d, rfl, .refl d, hwrite⟩
    · split at h
      · split at h
        · next made hmake =>
          obtain ⟨k', d₁, hstaged, hadds, hwrite⟩ := ih h
          have hmade := Disk.addsDirectories_of_makeDirectories hmake
          exact ⟨k', d₁, hstaged, hmade.trans hadds, hwrite⟩
        · cases h
      · cases h
    · cases h

/-- To stage an object is to change nothing outside of a directory. -/
def StagesBelow (outer root : List String) (path : ObjectPath) : Prop :=
  ∀ {d staged d'}, stageObject root path d = .ok (staged, d') →
    outer <+: staged ∧ d.KeepsOutside outer d'

/-- Objects are staged below the root of their store. -/
theorem stagesBelow_root (hroot : ∀ name ∈ root, Disk.IsName name)
    (hsegments : ∀ segment ∈ path.segments, Disk.IsName segment) : StagesBelow root root path := by
  intro d staged d' h
  unfold stageObject at h
  split at h
  · cases h
  next names hfile =>
  obtain ⟨rfl, hne⟩ := fileOf_eq_ok hfile
  obtain ⟨k, d₁, hstaged, hadds, hwrite⟩ := stage_spec h
  rw [stagedName_append root hne] at hstaged
  have hbelow : root <+: staged := hstaged ▸ List.prefix_append _ _
  have hnames : ∀ name ∈ staged, Disk.IsName name := by
    rw [hstaged]
    intro name hname
    obtain hname | hname := List.mem_append.1 hname
    · exact hroot name hname
    · obtain hname | hname := List.mem_append.1 hname
      · exact hsegments name (List.mem_of_mem_dropLast hname)
      · obtain rfl := List.mem_singleton.1 hname
        exact isName_staged (hsegments _ (List.getLast_mem hne)) k
  have hwritten := Disk.keepsOutside_writeFile hnames hbelow hwrite
  exact ⟨hbelow, (hadds.keepsOutside root).trans hwritten⟩

/-- Nothing is outside of the root directory. -/
theorem stagesBelow_nil (root : List String) (path : ObjectPath) : StagesBelow [] root path := by
  intro d staged d' h
  unfold stageObject at h
  split at h
  · cases h
  obtain ⟨k, d₁, -, hadds, hwrite⟩ := stage_spec h
  obtain ⟨there, -, -, rfl⟩ := Disk.exists_locate_of_writeFile hwrite
  have hwritten := Disk.keepsOutside_setNode d₁ (List.nil_prefix (l := there)) (.file [])
  exact ⟨List.nil_prefix, (hadds.keepsOutside []).trans hwritten⟩

/-! ## Staged files and their places -/

/-- To extend a staged file keeps the outside. -/
theorem keepsOutside_extend (d : Disk) (h : root <+: staged) (part : Bytes) :
    d.KeepsOutside root (extend staged part d) := by
  unfold extend
  split
  · exact Disk.keepsOutside_setNode d h _
  · exact Disk.keepsOutside_setNode d h _

/-- To put a staged file in its place keeps the outside. -/
theorem keepsOutside_commit {outer : List String} (d : Disk) (hroot : outer <+: root)
    (h : outer <+: staged) (path : ObjectPath) :
    d.KeepsOutside outer (commit root path staged d).2 := by
  unfold commit
  dsimp only
  split
  · exact .refl outer d
  · exact (Disk.keepsOutside_removeTree d h).trans
      (Disk.keepsOutside_setNode _ (hroot.trans (List.prefix_append _ _)) _)
  · exact .refl outer d

/-- What is read from an object is the content of a file below the directory. -/
theorem node?_of_get {chunks : List Bytes} (hroot : ∀ name ∈ root, Disk.IsName name)
    (hsegments : ∀ segment ∈ path.segments, Disk.IsName segment)
    (h : get root path d = .ok chunks) :
    ∃ content, d.node? (root ++ path.segments) = some (.file content) ∧
      chunks = Grouping.pieces readChunk content := by
  unfold get at h
  split at h
  · cases h
  next names hfile =>
  obtain ⟨rfl, -⟩ := fileOf_eq_ok hfile
  have hnames : ∀ name ∈ root ++ path.segments, Disk.IsName name := by
    intro name hname
    exact (List.mem_append.1 hname).elim (hroot name) (hsegments name)
  split at h
  · next content hread =>
    refine ⟨content, ?_, (Except.ok.inj h).symm⟩
    unfold Disk.readFile at hread
    obtain ⟨there, hlocate, hnode⟩ := exists_ok_of_bind hread
    obtain rfl := Disk.eq_of_locate_absoluteText hnames hlocate
    split at hnode
    · cases hnode
    · cases hnode
    · next hfound =>
      cases hnode
      exact hfound
  · cases h
  · cases h
  · cases h

/-- What a store of a directory reads is a file below its root. -/
theorem node?_of_store_get {σ : Type} {lens : σ → DirectoryUploads}
    {update : DirectoryUploads → σ → σ} {m : Medium σ} {fetched : Fetched}
    (hroot : ∀ name ∈ root, Disk.IsName name)
    (hsegments : ∀ segment ∈ path.segments, Disk.IsName segment)
    (h : ((store root lens update).get path m).1 = .ok fetched) :
    ∃ content, m.disk.node? (root ++ path.segments) = some (.file content) ∧
      fetched.chunks = Grouping.pieces readChunk content := by
  unfold store at h
  dsimp only at h
  split at h
  · next chunks hread =>
    obtain rfl := Except.ok.inj h
    exact node?_of_get hroot hsegments hread
  · cases h

/-! ## Uploads -/

/-- The uploads that were started since there were so many are staged below the directory, and
outside of it nothing has changed. -/
structure Enclosed (root : List String) (n : Nat) (start : Disk) (uploads : DirectoryUploads)
    (d : Disk) : Prop where
  outside : start.KeepsOutside root d
  counted : n ≤ uploads.staged.length
  staged : ∀ ticket : UploadTicket, n ≤ ticket.id → ∀ names, uploads.find? ticket = some names →
    root <+: names

variable {n : Nat} {start : Disk} {uploads : DirectoryUploads}

/-- Before an upload is started nothing is staged. -/
theorem enclosed_start (root : List String) (uploads : DirectoryUploads) (d : Disk) :
    Enclosed root uploads.staged.length d uploads d := by
  refine ⟨.refl root d, le_rfl, ?_⟩
  intro ticket hticket names hfind
  unfold DirectoryUploads.find? at hfind
  rw [List.getElem?_eq_none hticket] at hfind
  cases hfind

/-- What keeps the outside of the directory leaves the uploads enclosed. -/
theorem Enclosed.of_keepsOutside (h : Enclosed root n start uploads d)
    (hkeeps : d.KeepsOutside root d') : Enclosed root n start uploads d' :=
  ⟨h.outside.trans hkeeps, h.counted, h.staged⟩

/-- An upload that is started below the directory is enclosed. -/
theorem Enclosed.start_upload (h : Enclosed root n start uploads d) (hbelow : root <+: staged) :
    Enclosed root n start { staged := uploads.staged ++ [some staged] } d := by
  refine ⟨h.outside, ?_, ?_⟩
  · rw [List.length_append]
    exact Nat.le_add_right_of_le h.counted
  · intro ticket hticket names hfind
    unfold DirectoryUploads.find? at hfind
    dsimp only at hfind
    by_cases hold : ticket.id < uploads.staged.length
    · rw [List.getElem?_append_left hold] at hfind
      exact h.staged ticket hticket names hfind
    · rw [List.getElem?_append_right (Nat.le_of_not_lt hold)] at hfind
      cases hindex : ticket.id - uploads.staged.length with
      | zero =>
        rw [hindex] at hfind
        cases hfind
        exact hbelow
      | succ more =>
        rw [hindex] at hfind
        cases hfind

/-- An upload that is closed leaves the others enclosed. -/
theorem Enclosed.close (h : Enclosed root n start uploads d) (ticket : UploadTicket) :
    Enclosed root n start (uploads.close ticket) d := by
  refine ⟨h.outside, ?_, ?_⟩
  · unfold DirectoryUploads.close
    rw [List.length_set]
    exact h.counted
  · intro other hother names hfind
    unfold DirectoryUploads.find? DirectoryUploads.close at hfind
    dsimp only at hfind
    by_cases heq : ticket.id = other.id
    · rw [heq, List.getElem?_set_self'] at hfind
      cases hlast : uploads.staged[other.id]? with
      | none =>
        rw [hlast] at hfind
        cases hfind
      | some last =>
        rw [hlast] at hfind
        cases hfind
    · rw [List.getElem?_set_ne heq] at hfind
      exact h.staged other hother names hfind

/-- Whatever is stored where it can be staged below a directory, at once or by uploads that were
started since, changes nothing outside of it. -/
theorem keeps_enclosed {σ : Type} {lens : σ → DirectoryUploads}
    {update : DirectoryUploads → σ → σ} {Q : σ → Prop} {outer : List String}
    {admits : ObjectPath → Prop} (hlens : ∀ uploads s, lens (update uploads s) = uploads)
    (hupdate : ∀ uploads s, Q s → Q (update uploads s)) (houter : outer <+: root)
    (hstages : ∀ location, admits location → StagesBelow outer root location) (n : Nat)
    (start : Disk) :
    (store root lens update).KeepsAt
      (fun m => Q m.store ∧ Enclosed outer n start (lens m.store) m.disk) admits
      (fun ticket => n ≤ ticket.id) := by
  -- storing at once, then the four operations of an upload in parts
  refine ⟨?_, ?_, ?_, ?_, ?_⟩
  · rintro m location content hlocation ⟨hQ, h⟩
    unfold store
    dsimp only
    split
    · exact ⟨hQ, h⟩
    next staged d hstage =>
    obtain ⟨hbelow, hstaged⟩ := hstages location hlocation hstage
    have hextended := hstaged.trans (keepsOutside_extend d hbelow content)
    have hcommit := keepsOutside_commit (extend staged content d) houter hbelow location
    split
    · next committed heq =>
      rw [heq] at hcommit
      exact ⟨hQ, h.of_keepsOutside (hextended.trans hcommit)⟩
    · next e committed heq =>
      rw [heq] at hcommit
      have hremoved := Disk.keepsOutside_removeTree committed hbelow
      exact ⟨hQ, h.of_keepsOutside ((hextended.trans hcommit).trans hremoved)⟩
  · rintro m location hlocation ⟨hQ, h⟩
    unfold store
    dsimp only
    split
    · exact ⟨⟨hQ, h⟩, nofun⟩
    next staged d hstage =>
    obtain ⟨hbelow, hstaged⟩ := hstages location hlocation hstage
    dsimp only
    rw [hlens]
    refine ⟨⟨hupdate _ _ hQ, (h.of_keepsOutside hstaged).start_upload hbelow⟩, ?_⟩
    rintro ticket heq
    cases heq
    exact h.counted
  · rintro m ticket k part hticket ⟨hQ, h⟩
    unfold store
    dsimp only
    split
    · exact ⟨hQ, h⟩
    next staged hfind =>
    have hextended := keepsOutside_extend m.disk (h.staged ticket hticket staged hfind) part
    exact ⟨hQ, h.of_keepsOutside hextended⟩
  · rintro m ticket hticket ⟨hQ, h⟩
    unfold store
    dsimp only
    split
    · exact ⟨hQ, h⟩
    next staged hfind =>
    dsimp only
    rw [hlens]
    have hbelow := h.staged ticket hticket staged hfind
    have hcommit := keepsOutside_commit m.disk houter hbelow ticket.path
    exact ⟨hupdate _ _ hQ, (h.of_keepsOutside hcommit).close ticket⟩
  · rintro m ticket hticket ⟨hQ, h⟩
    unfold store
    dsimp only
    split
    · exact ⟨hQ, h⟩
    next staged hfind =>
    dsimp only
    rw [hlens]
    have hremoved := Disk.keepsOutside_removeTree m.disk (h.staged ticket hticket staged hfind)
    exact ⟨hupdate _ _ hQ, (h.of_keepsOutside hremoved).close ticket⟩

end DirectoryStore

end VectorIndex
