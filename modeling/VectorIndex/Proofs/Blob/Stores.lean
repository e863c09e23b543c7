import VectorIndex.Blob.Faulty
import VectorIndex.Blob.Memory
import VectorIndex.Run.Workspace
import VectorIndex.Proofs.Association
import VectorIndex.Proofs.Grouping

/-!
# Stores that work

`ObjectStore.Works` is what a run may expect of a store that nothing is wrong with: objects are
delivered as they are, in whatever chunks, and what is put at the target of the run is there
afterwards, whether it comes at once or in parts.  The store and the workspace of the run do not
get in each other's way, although both may be on the same disk.

Objects in memory are such a store (`MemoryObjects.works`), and so is every such store when its
deliveries are cut up anew (`ObjectStore.Works.chunked`).
-/

set_option autoImplicit false

namespace VectorIndex

/-! ## Workspaces on a shared disk -/

namespace Workspace

/-- A workspace that was made below a staging root, whatever is staged there by now. -/
def MadeIn (root : String) (space : Workspace) : Prop :=
  ∃ d d' mode artifactPath suffix made,
    Workspace.create d root mode artifactPath suffix = .ok (made, d') ∧
      space.directory = made.directory ∧
      ∀ path, space.content = .file path → made.content = .file path

/-- What a run does to the disk. -/
inductive Change (root : String) : Disk → Disk → Prop where
  | make {d d' : Disk} {mode : StagingMode} {artifactPath suffix : String} {space : Workspace}
    (made : Workspace.create d root mode artifactPath suffix = .ok (space, d')) : Change root d d'
  | stage {d d' : Disk} {bytes : Bytes} {space space' : Workspace} (made : space.MadeIn root)
    (written : space.write d bytes = .ok (space', d')) : Change root d d'
  | remove {d : Disk} {space : Workspace} (made : space.MadeIn root) :
    Change root d (space.remove d)

/-- The staged files of all workspaces below a staging root have kept their sizes. -/
def Kept (root : String) (d d' : Disk) : Prop :=
  ∀ space : Workspace, space.MadeIn root → ∀ path, space.content = .file path →
    d'.sizeAt path = d.sizeAt path

/-- A disk on which nothing has changed is kept. -/
theorem Kept.refl (root : String) (d : Disk) : Kept root d d :=
  fun _ _ _ _ => rfl

/-- What is kept twice is kept. -/
theorem Kept.trans {root : String} {d d' d'' : Disk} (h : Kept root d d') (h' : Kept root d' d'') :
    Kept root d d'' :=
  fun space hspace path hpath => (h' space hspace path hpath).trans (h space hspace path hpath)

end Workspace

/-! ## Stores -/

/-- Objects together with one more, which takes the place of what was at its path. -/
def withObject (objects : ObjectPath → Option Bytes) (path : ObjectPath) (content : Bytes) :
    ObjectPath → Option Bytes :=
  fun p => if p = path then some content else objects p

/-- What can be said about the state of a store. -/
structure StoreView (σ : Type) where
  /-- Nothing is wrong with the store. -/
  ready : Medium σ → Prop
  objects : Medium σ → ObjectPath → Option Bytes
  /-- The parts that an upload under way has got. -/
  parts : Medium σ → UploadTicket → Option (List Bytes)

/-- A store works for a run that has its staging root and its target. -/
structure ObjectStore.Works {σ : Type} (store : ObjectStore σ) (view : StoreView σ) (root : String)
    (target : ObjectPath) : Prop where
  get : ∀ {m : Medium σ} {path : ObjectPath} {blob : Bytes}, view.ready m →
    view.objects m path = some blob → ∃ f m', store.get path m = (.ok f, m') ∧
      f.size = UInt64.ofNat blob.length ∧ f.chunks.flatten = blob ∧ f.fault = none ∧
      m'.disk = m.disk ∧ view.ready m' ∧ view.objects m' = view.objects m
  put : ∀ {m : Medium σ} (content : Bytes), view.ready m →
    ∃ m', store.put target content m = (.ok (), m') ∧ Workspace.Kept root m.disk m'.disk ∧
      view.objects m' = withObject (view.objects m) target content
  startUpload : ∀ {m : Medium σ}, view.ready m →
    ∃ ticket m', store.startUpload target m = (.ok ticket, m') ∧ ticket.path = target ∧
      view.parts m' ticket = some [] ∧ Workspace.Kept root m.disk m'.disk ∧ view.ready m' ∧
      view.objects m' = view.objects m
  putPart : ∀ {m : Medium σ} {ticket : UploadTicket} {parts : List Bytes} (part : Bytes),
    view.ready m → ticket.path = target → view.parts m ticket = some parts →
    ∃ m', store.putPart ticket (parts.length + 1) part m = (.ok (), m') ∧
      view.parts m' ticket = some (parts ++ [part]) ∧ Workspace.Kept root m.disk m'.disk ∧
      view.ready m' ∧ view.objects m' = view.objects m
  complete : ∀ {m : Medium σ} {ticket : UploadTicket} {parts : List Bytes}, view.ready m →
    ticket.path = target → view.parts m ticket = some parts →
    ∃ m', store.complete ticket m = (.ok (), m') ∧ Workspace.Kept root m.disk m'.disk ∧
      view.objects m' = withObject (view.objects m) target parts.flatten
  apart : ∀ {m : Medium σ} {disk : Disk}, Workspace.Change root m.disk disk →
    view.objects { m with disk } = view.objects m ∧ (view.ready m → view.ready { m with disk })

variable {σ : Type}

/-- A store that works does so however its deliveries are cut up. -/
theorem ObjectStore.Works.chunked {store : ObjectStore σ} {view : StoreView σ} {root : String}
    {target : ObjectPath} (h : store.Works view root target) (size : Nat) :
    (store.chunked size).Works view root target where
  get := by
    intro m path blob hready hblob
    obtain ⟨f, m', hget, hsize, hchunks, hfault, hrest⟩ := h.get hready hblob
    let full := Grouping.groups size f.chunks.flatten
    let rest := f.chunks.flatten.drop (full.length * size)
    refine ⟨{ f with chunks := full ++ [rest] }, m', ?_, hsize, ?_, hfault, hrest⟩
    · unfold ObjectStore.chunked
      simp only [hget]
      rfl
    · change (full ++ [rest]).flatten = blob
      rw [List.flatten_append, List.flatten_singleton, Grouping.flatten_groups_append_drop, hchunks]
  put := h.put
  startUpload := h.startUpload
  putPart := h.putPart
  complete := h.complete
  apart := h.apart

namespace MemoryObjects

/-- Objects in memory as a store. -/
def view : StoreView MemoryObjects where
  ready _ := True
  objects m := m.store.find?
  parts m ticket := (m.store.uploads[ticket.id]?).map UploadRecord.parts

/-- An object is found where it was put, and the others are found where they were. -/
theorem find?_insert (m : MemoryObjects) (path : ObjectPath) (content : Bytes) :
    (m.insert path content).find? = withObject m.find? path content := by
  funext p
  unfold insert withObject
  split
  · next hsome =>
    obtain ⟨old, hold⟩ := Option.isSome_iff_exists.1 hsome
    unfold find? at hold ⊢
    split
    · next heq =>
      subst heq
      exact (Association.lookup_map_self m.objects p content).trans (by rw [hold]; rfl)
    · next hne => exact Association.lookup_map_of_ne m.objects hne content
  · next hnone =>
    have hnone : m.objects.lookup path = none := Option.not_isSome_iff_eq_none.1 hnone
    unfold find?
    rw [List.lookup_append]
    split
    · next heq =>
      subst heq
      rw [hnone]
      exact List.lookup_cons_self
    · next hne =>
      have hother : [(path, content)].lookup p = none := by simpa using hne
      rw [hother, Option.or_none]

/-- The store in memory works as a store should. -/
theorem works (root : String) (target : ObjectPath) : store.Works view root target where
  get := by
    intro m path blob _ hblob
    refine ⟨{ size := UInt64.ofNat blob.length, chunks := [blob] }, m, ?_, rfl,
      List.flatten_singleton, rfl, rfl, trivial, rfl⟩
    unfold store
    simp only [show m.store.find? path = some blob from hblob]
  put content _ := ⟨_, rfl, .refl _ _, find?_insert ..⟩
  startUpload := by
    intro m _
    refine ⟨_, _, rfl, rfl, ?_, .refl _ _, trivial, rfl⟩
    simp [view]
  putPart := by
    intro m ticket parts part _ _ hparts
    refine ⟨_, rfl, ?_, .refl _ _, trivial, rfl⟩
    obtain ⟨u, hu, rfl⟩ := Option.map_eq_some_iff.1 hparts
    simp [view, updateUpload, hu]
  complete := by
    intro m ticket parts _ htarget hparts
    refine ⟨_, rfl, .refl _ _, ?_⟩
    obtain ⟨u, hu, rfl⟩ := Option.map_eq_some_iff.1 hparts
    refine (find?_insert ..).trans ?_
    rw [htarget]
    simp only [hu]
    rfl
  apart _ := ⟨rfl, id⟩

end MemoryObjects

end VectorIndex
