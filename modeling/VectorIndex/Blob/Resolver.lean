import VectorIndex.Blob.Bucket
import VectorIndex.Blob.Client
import VectorIndex.Blob.Directory
import VectorIndex.Request.Plan

/-!
# Finding the store of a request

A request names a type of repository and a container.  Clients are made once for each
combination of settings that they depend on, and kept in a cache for the whole process.
How blobs are cut up is not among these settings, so requests that differ only in it
share a client.  Environment variables are not among them either: they stay the same for as
long as the process lives.
-/

set_option autoImplicit false

namespace VectorIndex

/-- Settings of the transport, shared by all runs of a process. -/
structure StorageSettings where
  /-- Attempts before a request to the store fails. -/
  retries : UInt64 := 3
  region : String := "us-west-2"
  /-- Address of the service, if it is not the usual one. -/
  endpoint : Option String := none
  allowHttp : Bool := false
  /-- The directory that holds the containers of repositories on disk. -/
  localRoot : String := "./data"
  /-- Log the progress of transfers. -/
  debug : Bool := false
  transfer : TransferSettings := {}
  deriving DecidableEq, Repr

/-- Everything a client is configured with. -/
structure ClientKey where
  repositoryType : String
  container : String
  region : String
  retries : UInt64
  endpoint : Option String
  allowHttp : Bool
  /-- The steps of the path. -/
  localRoot : List String
  deriving DecidableEq, Repr

/-- What a client talks to. -/
inductive Backend where
  /-- A bucket of a remote service. -/
  | bucket (name : String)
  /-- The directory that names lead to. -/
  | directory (root : List String)
  deriving DecidableEq, Repr

/-- A client; no two clients of a process have the same number. -/
structure StoreClient where
  number : Nat
  backend : Backend
  deriving DecidableEq, Repr

/-- The clients of a process, and the uploads that are under way. -/
structure ClientCache where
  clients : List (ClientKey × StoreClient) := []
  uploads : DirectoryUploads := {}
  deriving DecidableEq, Repr

namespace ClientCache

/-- The repository type of buckets. -/
def bucketType : String := "s3"

/-- The repository type of directories. -/
def directoryType : String := "fs"

/-- The key of a client. -/
def keyOf (settings : StorageSettings) (repositoryType container : String) : ClientKey :=
  { repositoryType, container
    region := settings.region
    retries := settings.retries
    endpoint := settings.endpoint
    allowHttp := settings.allowHttp
    localRoot := Disk.steps settings.localRoot }

/-- Makes the backend of a client.  The options for a bucket are checked, and the directory of a
container is made where it is missing. -/
def connect (settings : StorageSettings) (options : BucketOptions)
    (repositoryType container : String) (disk : Disk) : Except BuildError (Backend × Disk) :=
  if repositoryType = bucketType then
    match options.validate container with
    | .ok () => .ok (.bucket container, disk)
    | .error e => .error (.storage e)
  else
    let path := Disk.join settings.localRoot container
    match disk.makeDirectories path with
    | .error e => .error (.io e.message)
    | .ok disk =>
      match disk.canonical path with
      | .ok root => .ok (.directory root, disk)
      | .error e => .error (.io e.message)

/-- The client for a container, from the cache or made now.  A failure leaves the cache as it
was. -/
def resolve (settings : StorageSettings) (options : BucketOptions)
    (repositoryType container : String) (m : Medium ClientCache) :
    Except BuildError StoreClient × Medium ClientCache :=
  if repositoryType ≠ bucketType ∧ repositoryType ≠ directoryType then
    (.error (.unsupportedRepository repositoryType), m)
  else
    let key := keyOf settings repositoryType container
    match m.store.clients.lookup key with
    | some client => (.ok client, m)
    | none =>
      match connect settings options repositoryType container m.disk with
      | .error e => (.error e, m)
      | .ok (backend, disk) =>
        let client : StoreClient := { number := m.store.clients.length, backend }
        (.ok client,
          { store := { m.store with clients := m.store.clients ++ [(key, client)] }, disk })

/-- A bucket whose service cannot be reached. -/
def unreachable (name : String) : ObjectStore ClientCache :=
  let failure : StoreError := .backend "S3" "service unreachable"
  { name := "AmazonS3(" ++ name ++ ")"
    get := fun _ m => (.error failure, m)
    put := fun _ _ m => (.error failure, m)
    startUpload := fun _ m => (.error failure, m)
    putPart := fun _ _ _ m => (.error failure, m)
    complete := fun _ m => (.error failure, m)
    abort := fun _ m => (.error failure, m) }

/-- The store behind a client. -/
def storeOf : Backend → ObjectStore ClientCache
  | .bucket name => unreachable name
  | .directory root =>
    DirectoryStore.store root ClientCache.uploads fun uploads cache => { cache with uploads }

end ClientCache

/-- Finds the store that a request reads from and writes to. -/
structure Provider (σ : Type) where
  resolve : Plan → Medium σ → Except BuildError (BlobClient σ) × Medium σ

namespace Provider

variable {σ : Type}

/-- The provider that knows a single client. -/
def always (client : BlobClient σ) : Provider σ where
  resolve _ m := (.ok client, m)

/-- The provider that follows the repository type and container of a request. -/
def cached (settings : StorageSettings) (options : BucketOptions := {}) :
    Provider ClientCache where
  resolve plan m :=
    match ClientCache.resolve settings options plan.repositoryType plan.containerName m with
    | (.error e, m) => (.error e, m)
    | (.ok found, m) =>
      (.ok (Transport.client
        { store := ClientCache.storeOf found.backend, transfer := settings.transfer
          debug := settings.debug }), m)

end Provider

end VectorIndex
