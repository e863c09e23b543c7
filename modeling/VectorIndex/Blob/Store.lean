import VectorIndex.Blob.Path
import VectorIndex.Disk.Basic

/-!
# Object stores

An object store keeps octets under paths.  `ObjectStore σ` is the interface to a backend
whose own state is a value of `σ` and which may also use the disk: every operation takes
the medium and gives it back.  An upload in parts is started, gets its parts, and is
then completed or aborted; nothing is stored before it is completed.
-/

set_option autoImplicit false

namespace VectorIndex

/-- What a backend works on. -/
structure Medium (σ : Type) where
  store : σ
  disk : Disk

/-- An object that is being delivered. -/
structure Fetched where
  /-- The size that is announced before the first chunk. -/
  size : UInt64
  chunks : List Bytes
  /-- A failure after the last chunk. -/
  fault : Option StoreError := none

/-- An upload in parts that was started. -/
structure UploadTicket where
  id : Nat
  path : ObjectPath
  deriving DecidableEq, Repr

/-- The interface to a backend. -/
structure ObjectStore (σ : Type) where
  /-- What the backend calls itself. -/
  name : String
  get : ObjectPath → Medium σ → Except StoreError Fetched × Medium σ
  /-- Stores an object at once. -/
  put : ObjectPath → Bytes → Medium σ → Except StoreError Unit × Medium σ
  /-- Starts an upload in parts. -/
  startUpload : ObjectPath → Medium σ → Except StoreError UploadTicket × Medium σ
  /-- Takes a part; the parts of an upload are counted from one. -/
  putPart : UploadTicket → Nat → Bytes → Medium σ → Except StoreError Unit × Medium σ
  /-- Stores the parts as one object. -/
  complete : UploadTicket → Medium σ → Except StoreError Unit × Medium σ
  /-- Forgets the parts. -/
  abort : UploadTicket → Medium σ → Except StoreError Unit × Medium σ

end VectorIndex
