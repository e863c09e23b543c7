import VectorIndex.Blob.Store

/-!
# Objects in memory

The simplest backend: a list of objects, and the uploads that were started.  An upload
stays on record after its end, so that one that was neither completed nor aborted can be
told from the others.
-/

set_option autoImplicit false

namespace VectorIndex

/-- How far an upload in parts has come. -/
inductive UploadPhase where
  | pending
  | completed
  | aborted
  deriving DecidableEq, Repr

/-- An upload in parts on record. -/
structure UploadRecord where
  path : ObjectPath
  parts : List Bytes := []
  phase : UploadPhase := .pending
  deriving DecidableEq, Repr

/-- Objects and uploads; the number of an upload is its place in the list. -/
structure MemoryObjects where
  objects : List (ObjectPath × Bytes) := []
  uploads : List UploadRecord := []
  deriving DecidableEq, Repr

namespace MemoryObjects

/-- The object at a path. -/
def find? (m : MemoryObjects) (path : ObjectPath) : Option Bytes :=
  m.objects.lookup path

/-- Puts an object at a path. -/
def insert (m : MemoryObjects) (path : ObjectPath) (content : Bytes) : MemoryObjects :=
  if (m.find? path).isSome then
    { m with objects := m.objects.map fun o => if o.1 = path then (path, content) else o }
  else { m with objects := m.objects ++ [(path, content)] }

/-- Changes the record of an upload. -/
def updateUpload (m : MemoryObjects) (id : Nat) (f : UploadRecord → UploadRecord) : MemoryObjects :=
  { m with uploads := m.uploads.modify id f }

/-- The backend. -/
def store : ObjectStore MemoryObjects where
  name := "InMemory"
  get path m :=
    match m.store.find? path with
    | some content =>
      (.ok { size := UInt64.ofNat content.length, chunks := [content] }, m)
    | none => (.error (.notFound path.text "no data in memory"), m)
  put path content m := (.ok (), { m with store := m.store.insert path content })
  startUpload path m :=
    (.ok ⟨m.store.uploads.length, path⟩,
      { m with store := { m.store with uploads := m.store.uploads ++ [{ path }] } })
  putPart ticket _ part m :=
    (.ok (), { m with store := m.store.updateUpload ticket.id fun u =>
      { u with parts := u.parts ++ [part] } })
  complete ticket m :=
    let content := match m.store.uploads[ticket.id]? with
      | some u => u.parts.flatten
      | none => []
    let closed := m.store.updateUpload ticket.id fun u => { u with phase := .completed }
    (.ok (), { m with store := closed.insert ticket.path content })
  abort ticket m :=
    (.ok (), { m with store := m.store.updateUpload ticket.id fun u => { u with phase := .aborted } })

end MemoryObjects

end VectorIndex
