import VectorIndex.Proofs.Blob.Keeping
import VectorIndex.Proofs.Blob.Uploads
import VectorIndex.Proofs.Run.Lodgings

/-!
# Stores that several runs share

`BlobClient.Keyed` is what runs that share a store may expect of it, whether or not anything is
wrong with the store: what it says about a location depends on nothing but what is to be seen there,
and an upload is noticed only at locations that its target touches.  In a flat store a location
touches no other one (`ObjectStore.Flat.keyed`); where objects are files in directories, an object
can be in the way of others.  Objects in memory are a flat store (`MemoryObjects.flat`).
-/

set_option autoImplicit false

namespace VectorIndex

variable {σ κ : Type}

/-- What is to be seen at the location of a path, if the path has one. -/
def peek (look : Medium σ → ObjectPath → κ) (m : Medium σ) (path : String) : Option κ :=
  (ObjectPath.parse path).toOption.map (look m)

/-- A client of a store that several runs share. -/
structure BlobClient.Keyed (client : BlobClient σ) (root : String)
    (look : Medium σ → ObjectPath → κ) (touches : ObjectPath → ObjectPath → Prop) : Prop where
  /-- Opening a blob changes nothing. -/
  opened : ∀ (path : String) (m : Medium σ), (client.openBlob path m).2 = m
  /-- What is opened depends on what is to be seen there. -/
  opens : ∀ (path : String) {m m' : Medium σ}, peek look m path = peek look m' path →
    (client.openBlob path m).1 = (client.openBlob path m').1
  /-- What comes of an upload depends on the octets and on what is to be seen at its target. -/
  uploads : ∀ (path : String) {m m' : Medium σ} {source source' : ArtifactSource} {content : Bytes},
    source.Delivers root m.disk content → source'.Delivers root m'.disk content →
    peek look m path = peek look m' path →
    (client.upload source path m).1 = (client.upload source' path m').1 ∧
      peek look (client.upload source path m).2 path =
        peek look (client.upload source' path m').2 path
  /-- An upload is not noticed at other locations. -/
  beside : ∀ (path : String) {m : Medium σ} {source : ArtifactSource} {content : Bytes},
    source.Delivers root m.disk content → ∀ q,
    (∀ target, ObjectPath.parse path = .ok target → ¬ touches target q) →
    look (client.upload source path m).2 q = look m q
  /-- Workspaces do not notice an upload. -/
  spared : ∀ (path : String) {m : Medium σ} {source : ArtifactSource} {content : Bytes},
    source.Delivers root m.disk content →
    m.disk.Spares root (fun _ => False) (client.upload source path m).2.disk
  /-- The store does not notice workspaces. -/
  apart : ∀ {m : Medium σ} {disk : Disk}, Workspace.Change root m.disk disk →
    look { m with disk } = look m

/-! ## What all operations of a store keep -/

/-- The operations of a store keep something. -/
structure ObjectStore.Keeps (store : ObjectStore σ) (P : Medium σ → Prop) : Prop where
  put : ∀ {m} location content, P m → P (store.put location content m).2
  startUpload : ∀ {m} location, P m → P (store.startUpload location m).2
  putPart : ∀ {m} ticket n part, P m → P (store.putPart ticket n part m).2
  complete : ∀ {m} ticket, P m → P (store.complete ticket m).2
  abort : ∀ {m} ticket, P m → P (store.abort ticket m).2

/-- What is kept everywhere is kept at all locations, and by all uploads in parts. -/
theorem ObjectStore.Keeps.keepsAt {store : ObjectStore σ} {P : Medium σ → Prop}
    (h : store.Keeps P) : store.KeepsAt P (fun _ => True) (fun _ => True) where
  put location content _ := h.put location content
  startUpload location _ hP := ⟨h.startUpload location hP, fun _ _ => trivial⟩
  putPart ticket n part _ := h.putPart ticket n part
  complete ticket _ := h.complete ticket
  abort ticket _ := h.abort ticket

/-! ## Flat stores -/

/-- A store that works, is not on the disk, and delivers what is at a location in one way. -/
structure ObjectStore.Flat (store : ObjectStore σ) (view : StoreView σ) (root : String) : Prop where
  works : ∀ target, store.Works view root target
  ready : ∀ m, view.ready m
  got : ∀ (path : ObjectPath) (m : Medium σ), (store.get path m).2 = m
  gets : ∀ {path : ObjectPath} {m m' : Medium σ}, view.objects m path = view.objects m' path →
    (store.get path m).1 = (store.get path m').1
  keeps : ∀ d : Disk, store.Keeps fun m => m.disk = d

namespace ObjectStore.Flat

variable {t : Transport σ} {store : ObjectStore σ} {view : StoreView σ} {root : String}

/-- A flat store is flat however its deliveries are cut up. -/
theorem chunked (h : store.Flat view root) (size : Nat) : (store.chunked size).Flat view root where
  works target := (h.works target).chunked size
  ready := h.ready
  got path m := by
    have hgot := h.got path m
    unfold ObjectStore.chunked
    dsimp only
    generalize store.get path m = answer at hgot
    obtain ⟨answer, m'⟩ := answer
    cases answer <;> exact hgot
  gets := by
    intro path m m' hsame
    have hgets := h.gets hsame
    unfold ObjectStore.chunked
    dsimp only
    generalize store.get path m = answer at hgets
    generalize store.get path m' = answer' at hgets
    obtain ⟨answer, m₁⟩ := answer
    obtain ⟨answer', m₁'⟩ := answer'
    obtain rfl : answer = answer' := hgets
    cases answer <;> rfl
  keeps d := by
    obtain ⟨hput, hstart, hpart, hcomplete, habort⟩ := h.keeps d
    exact ⟨hput, hstart, hpart, hcomplete, habort⟩

/-- In a flat store a location touches no other one. -/
theorem keyed (h : t.store.Flat view root) (hio : 0 < t.transfer.ioChunk.toNat) :
    t.client.Keyed root view.objects Eq where
  opened path m := by
    change (t.openBlob path m).2 = m
    unfold Transport.openBlob
    cases ObjectPath.parse path with
    | error e => rfl
    | ok location =>
      have hgot := h.got location m
      dsimp only
      generalize t.store.get location m = answer at hgot
      obtain ⟨answer, m'⟩ := answer
      obtain e | f := answer
      · cases e <;> exact hgot
      · exact hgot
  opens := by
    intro path m m' hpeek
    change (t.openBlob path m).1 = (t.openBlob path m').1
    unfold peek at hpeek
    unfold Transport.openBlob
    cases hparse : ObjectPath.parse path with
    | error e => rfl
    | ok location =>
      rw [hparse] at hpeek
      have hgets := h.gets (Option.some.inj hpeek)
      dsimp only
      generalize t.store.get location m = answer at hgets
      generalize t.store.get location m' = answer' at hgets
      obtain ⟨answer, m₁⟩ := answer
      obtain ⟨answer', m₁'⟩ := answer'
      obtain rfl : answer = answer' := hgets
      obtain e | f := answer
      · cases e <;> rfl
      · rfl
  uploads := by
    intro path m m' source source' content hsource hsource' hpeek
    change (t.upload source path m).1 = (t.upload source' path m').1 ∧
      peek _ (t.upload source path m).2 path = peek _ (t.upload source' path m').2 path
    unfold peek at hpeek ⊢
    cases hparse : ObjectPath.parse path with
    | error e =>
      unfold Transport.upload Transport.uploadWith
      rw [hparse]
      exact ⟨rfl, rfl⟩
    | ok target =>
      obtain ⟨m₁, hupload, hobjects⟩ :=
        Transport.upload_spec (h.works target) hio hparse hsource (h.ready m)
      obtain ⟨m₁', hupload', hobjects'⟩ :=
        Transport.upload_spec (h.works target) hio hparse hsource' (h.ready m')
      rw [hupload, hupload']
      refine ⟨rfl, congrArg some ?_⟩
      rw [hobjects, hobjects']
      unfold withObject
      rw [if_pos rfl, if_pos rfl]
  beside := by
    intro path m source content hsource q hbeside
    change view.objects (t.upload source path m).2 q = view.objects m q
    cases hparse : ObjectPath.parse path with
    | error e =>
      unfold Transport.upload Transport.uploadWith
      rw [hparse]
    | ok target =>
      obtain ⟨m₁, hupload, hobjects⟩ :=
        Transport.upload_spec (h.works target) hio hparse hsource (h.ready m)
      rw [hupload, hobjects]
      unfold withObject
      exact if_neg fun heq => hbeside target hparse heq.symm
  spared := by
    intro path m source content hsource
    have hdisk : (t.upload source path m).2.disk = m.disk :=
      t.kept_upload (h.keeps m.disk).keepsAt source path (fun _ _ => trivial) rfl
    change m.disk.Spares root _ (t.upload source path m).2.disk
    rw [hdisk]
    exact .refl root _ _
  apart hchange := ((h.works ⟨[]⟩).apart hchange).1

end ObjectStore.Flat

end VectorIndex
