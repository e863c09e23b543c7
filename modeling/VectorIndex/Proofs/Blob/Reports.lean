import VectorIndex.Proofs.Blob.Overlays
import VectorIndex.Proofs.Blob.Stores

/-!
# Failures that a store reports

`ObjectStore.Atomic` is what an upload may expect of a store on which any call can fail: to put an
object and to complete an upload is all or nothing, and until then the object at the target is as it
was.  `ObjectStore.noting` is a store that writes down every failure of a call on which an upload
depends.  Apart from the notes it is the store itself, so that an upload goes as it would have gone
without them (`Transport.writeBlob_bare`); what was written down are the reports of the upload
(`Transport.reports`).

Objects in memory are such a store (`MemoryObjects.atomic`), and so is every such store when chosen
calls of it are made to fail (`ObjectStore.Atomic.faulty`).
-/

set_option autoImplicit false

namespace VectorIndex

variable {σ α : Type}

/-! ## All or nothing -/

/-- What is at a location after an attempt to store octets there. -/
def stored (content : Bytes) (before : Option Bytes) : Except StoreError Unit → Option Bytes
  | .ok () => some content
  | .error _ => before

/-- A store of which every call may fail, but none of them halfway. -/
structure ObjectStore.Atomic (store : ObjectStore σ) (view : StoreView σ) (target : ObjectPath) :
    Prop where
  put : ∀ {m : Medium σ} (content : Bytes), view.ready m →
    view.ready (store.put target content m).2 ∧
      view.objects (store.put target content m).2 target =
        stored content (view.objects m target) (store.put target content m).1
  startUpload : ∀ {m : Medium σ}, view.ready m →
    view.ready (store.startUpload target m).2 ∧
      view.objects (store.startUpload target m).2 target = view.objects m target ∧
      ∀ ticket, (store.startUpload target m).1 = .ok ticket →
        ticket.path = target ∧ view.parts (store.startUpload target m).2 ticket = some []
  putPart : ∀ {m : Medium σ} {ticket : UploadTicket} (n : Nat) (part : Bytes), view.ready m →
    ticket.path = target →
    view.ready (store.putPart ticket n part m).2 ∧
      view.objects (store.putPart ticket n part m).2 target = view.objects m target ∧
      ∀ parts, view.parts m ticket = some parts → n = parts.length + 1 →
        (store.putPart ticket n part m).1 = .ok () →
        view.parts (store.putPart ticket n part m).2 ticket = some (parts ++ [part])
  complete : ∀ {m : Medium σ} {ticket : UploadTicket} {parts : List Bytes}, view.ready m →
    ticket.path = target → view.parts m ticket = some parts →
    view.ready (store.complete ticket m).2 ∧
      view.objects (store.complete ticket m).2 target =
        stored parts.flatten (view.objects m target) (store.complete ticket m).1
  abort : ∀ {m : Medium σ} {ticket : UploadTicket}, view.ready m → ticket.path = target →
    view.objects (store.abort ticket m).2 target = view.objects m target

namespace ObjectStore.Atomic

variable {store : ObjectStore σ} {view : StoreView σ} {target : ObjectPath}

/-- A call that is made to fail does nothing. -/
theorem faulty (h : store.Atomic view target) (faults : Faults) :
    (store.faulty faults).Atomic view target where
  put := by
    intro m content hready
    simp only [ObjectStore.faulty]
    split
    · exact ⟨hready, rfl⟩
    · exact h.put content hready
  startUpload := by
    intro m hready
    simp only [ObjectStore.faulty]
    split
    · exact ⟨hready, rfl, nofun⟩
    · exact h.startUpload hready
  putPart := by
    intro m ticket n part hready hpath
    simp only [ObjectStore.faulty]
    split
    · exact ⟨hready, rfl, nofun⟩
    · exact h.putPart n part hready hpath
  complete := by
    intro m ticket parts hready hpath hparts
    simp only [ObjectStore.faulty]
    split
    · exact ⟨hready, rfl⟩
    · exact h.complete hready hpath hparts
  abort := h.abort

end ObjectStore.Atomic

/-- Objects in memory as a store beside a disk of which something is known. -/
def MemoryObjects.viewBeside (known : Disk → Prop) : StoreView MemoryObjects :=
  { view with ready := fun m => known m.disk }

/-- No call of a store in memory fails halfway, beside any disk. -/
theorem MemoryObjects.atomic (known : Disk → Prop) (target : ObjectPath) :
    store.Atomic (viewBeside known) target where
  put := by
    intro m content hready
    refine ⟨hready, ?_⟩
    simp [store, viewBeside, view, find?_insert, withObject, stored]
  startUpload := by
    intro m hready
    refine ⟨hready, rfl, ?_⟩
    intro ticket hticket
    obtain rfl := Except.ok.inj hticket
    simp [store, viewBeside, view]
  putPart := by
    intro m ticket n part hready _
    refine ⟨hready, rfl, ?_⟩
    intro parts hparts _ _
    obtain ⟨u, hu, rfl⟩ := Option.map_eq_some_iff.1 hparts
    simp [store, viewBeside, view, updateUpload, hu]
  complete := by
    intro m ticket parts hready hpath hparts
    refine ⟨hready, ?_⟩
    obtain ⟨u, hu, rfl⟩ := Option.map_eq_some_iff.1 hparts
    simp [store, viewBeside, view, find?_insert, withObject, stored, hpath, hu]
  abort _ _ := rfl

/-! ## Failures on record -/

/-- The state of a store together with the failures that it has reported, the oldest first. -/
structure Noted (σ : Type) where
  inner : σ
  notes : List StoreError := []

/-- A medium without the notes. -/
def Medium.bare (m : Medium (Noted σ)) : Medium σ :=
  { store := m.store.inner, disk := m.disk }

/-- A medium with notes. -/
def Medium.noting (m : Medium σ) (notes : List StoreError) : Medium (Noted σ) :=
  { store := { inner := m.store, notes }, disk := m.disk }

/-- An answer without the notes. -/
def withoutNotes (answer : α × Medium (Noted σ)) : α × Medium σ :=
  (answer.1, answer.2.bare)

/-- A call of which a failure is written down. -/
def noted (call : Medium σ → Except StoreError α × Medium σ) (m : Medium (Noted σ)) :
    Except StoreError α × Medium (Noted σ) :=
  match call m.bare with
  | (.ok a, m') => (.ok a, m'.noting m.store.notes)
  | (.error e, m') => (.error e, m'.noting (m.store.notes ++ [e]))

/-- A call of which nothing is written down. -/
def unnoted (call : Medium σ → α × Medium σ) (m : Medium (Noted σ)) : α × Medium (Noted σ) :=
  ((call m.bare).1, (call m.bare).2.noting m.store.notes)

/-- The same store, which also writes down its failures.  Those of a delivery and of an attempt to
abort an upload do not count. -/
def ObjectStore.noting (store : ObjectStore σ) : ObjectStore (Noted σ) where
  name := store.name
  get path := unnoted (store.get path)
  put location content := noted (store.put location content)
  startUpload location := noted (store.startUpload location)
  putPart ticket n part := noted (store.putPart ticket n part)
  complete ticket := noted (store.complete ticket)
  abort ticket := unnoted (store.abort ticket)

/-- A call does the same when its failure is written down. -/
theorem noted_bare (call : Medium σ → Except StoreError α × Medium σ) (m : Medium (Noted σ)) :
    call m.bare = withoutNotes (noted call m) := by
  unfold noted
  split
  · next heq => exact heq
  · next heq => exact heq

/-- There are notes after a call exactly if there were some or the call has failed. -/
theorem notes_noted (call : Medium σ → Except StoreError α × Medium σ) (m : Medium (Noted σ)) :
    (noted call m).2.store.notes ≠ [] ↔
      m.store.notes ≠ [] ∨ ∃ e, (noted call m).1 = .error e := by
  unfold noted
  split
  · simp [Medium.noting]
  · simp [Medium.noting]

/-- What can be said about a store can be said about it when it notes its failures. -/
def StoreView.noting (view : StoreView σ) : StoreView (Noted σ) where
  ready m := view.ready m.bare
  objects m := view.objects m.bare
  parts m := view.parts m.bare

/-- A store that notes its failures fails no more halfway than the store does. -/
theorem ObjectStore.Atomic.noting {store : ObjectStore σ} {view : StoreView σ}
    {target : ObjectPath} (h : store.Atomic view target) :
    store.noting.Atomic view.noting target where
  put := by
    intro m content hready
    have hput := h.put content hready
    rw [noted_bare (store.put target content)] at hput
    exact hput
  startUpload := by
    intro m hready
    have hstart := h.startUpload hready
    rw [noted_bare (store.startUpload target)] at hstart
    exact hstart
  putPart := by
    intro m ticket n part hready hpath
    have hpart := h.putPart n part hready hpath
    rw [noted_bare (store.putPart ticket n part)] at hpart
    exact hpart
  complete := by
    intro m ticket parts hready hpath hparts
    have hcomplete := h.complete hready hpath hparts
    rw [noted_bare (store.complete ticket)] at hcomplete
    exact hcomplete
  abort hready hpath := h.abort hready hpath

/-- Whether anything has failed so far can be told from the state of the store. -/
structure ObjectStore.Tells (store : ObjectStore σ) (failed : Medium σ → Prop) : Prop where
  put : ∀ (location : ObjectPath) (content : Bytes) (m : Medium σ),
    failed (store.put location content m).2 ↔
      failed m ∨ ∃ e, (store.put location content m).1 = .error e
  startUpload : ∀ (location : ObjectPath) (m : Medium σ),
    failed (store.startUpload location m).2 ↔
      failed m ∨ ∃ e, (store.startUpload location m).1 = .error e
  putPart : ∀ (ticket : UploadTicket) (n : Nat) (part : Bytes) (m : Medium σ),
    failed (store.putPart ticket n part m).2 ↔
      failed m ∨ ∃ e, (store.putPart ticket n part m).1 = .error e
  complete : ∀ (ticket : UploadTicket) (m : Medium σ),
    failed (store.complete ticket m).2 ↔ failed m ∨ ∃ e, (store.complete ticket m).1 = .error e
  abort : ∀ (ticket : UploadTicket) (m : Medium σ), failed (store.abort ticket m).2 ↔ failed m

/-- The notes tell whether anything has failed. -/
theorem ObjectStore.tells_noting (store : ObjectStore σ) :
    store.noting.Tells fun m => m.store.notes ≠ [] where
  put location content := notes_noted (store.put location content)
  startUpload location := notes_noted (store.startUpload location)
  putPart ticket n part := notes_noted (store.putPart ticket n part)
  complete ticket := notes_noted (store.complete ticket)
  abort _ _ := Iff.rfl

/-! ## Notes change nothing -/

/-- A store that notes its failures does what the store does. -/
theorem ObjectStore.overlays_noting (store : ObjectStore σ) :
    store.noting.Overlays store Noted.inner where
  put location content := noted_bare (store.put location content)
  startUpload location := noted_bare (store.startUpload location)
  putPart ticket n part := noted_bare (store.putPart ticket n part)
  complete ticket := noted_bare (store.complete ticket)
  abort _ _ := rfl

/-- The same transport, with a store that notes its failures. -/
def Transport.noting (t : Transport σ) : Transport (Noted σ) where
  store := t.store.noting
  transfer := t.transfer
  debug := t.debug

/-- A site whose store notes its failures. -/
def Site.noting (s : Site σ) : Site (Noted σ) :=
  { s.toMedium.noting [] with log := s.log }

/-- A site without the notes. -/
def Site.bare (s : Site (Noted σ)) : Site σ :=
  { s.toMedium.bare with log := s.log }

/-- An upload goes as it would have gone without notes. -/
theorem Transport.writeBlob_bare (t : Transport σ) (files : FileAccess) (source : ArtifactSource)
    (path : String) (s : Site (Noted σ)) :
    (t.clientWith files).writeBlob source path s.bare =
      (((t.noting.clientWith files).writeBlob source path s).1,
        ((t.noting.clientWith files).writeBlob source path s).2.bare) :=
  writeBlob_over t.store.overlays_noting files source path s

/-- The failures that the store reports during an upload. -/
def Transport.reports (t : Transport σ) (files : FileAccess) (source : ArtifactSource)
    (path : String) (s : Site σ) : List StoreError :=
  ((t.noting.clientWith files).writeBlob source path s.noting).2.store.notes

end VectorIndex
