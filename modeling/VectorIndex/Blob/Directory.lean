import VectorIndex.Blob.Store
import VectorIndex.Grouping

/-!
# Objects in a directory

A backend that keeps every object in a file below a root directory, under the names that
its path spells.  An object is first written to a staged file beside its place, whose
name ends in `#` and a number, and then renamed; therefore no object may have such a
name.
-/

set_option autoImplicit false

namespace VectorIndex

/-- The staged files of uploads in parts; the number of an upload is its place in the list.  An
upload whose end was tried has none any more. -/
structure DirectoryUploads where
  staged : List (Option (List String)) := []
  deriving DecidableEq, Repr

/-- The staged file of an upload. -/
def DirectoryUploads.find? (u : DirectoryUploads) (ticket : UploadTicket) : Option (List String) :=
  (u.staged[ticket.id]?).join

/-- Notes that the end of an upload was tried. -/
def DirectoryUploads.close (u : DirectoryUploads) (ticket : UploadTicket) : DirectoryUploads :=
  { staged := u.staged.set ticket.id none }

namespace DirectoryStore

/-- A failure of this backend. -/
def failure (reason : String) : StoreError := .backend "LocalFileSystem" reason

/-- Whether a name may be confused with that of a staged file: only digits, and at least one, follow
the first `#`. -/
def looksStaged (name : String) : Bool :=
  match name.toList.dropWhile (· != '#') with
  | _ :: suffix => !suffix.isEmpty && suffix.all Char.isDigit
  | [] => false

/-- The names that lead to the file of an object. -/
def fileOf (root : List String) (path : ObjectPath) : Except StoreError (List String) :=
  match path.segments.getLast? with
  | some name =>
    if looksStaged name then .error (failure (unsupported path)) else .ok (root ++ path.segments)
  | none => .error (failure (unsupported path))
where
  unsupported (path : ObjectPath) : String :=
    "Filenames containing trailing '/#\\d+/' are not supported: " ++ path.text

/-- The wording of a failure to open a file. -/
def openFailure (names : List String) (e : OsError) : StoreError :=
  failure ("Unable to open file " ++ Disk.absoluteText names ++ ": " ++ e.message)

/-- Octets that are read from a file at once. -/
def readChunk : Nat := 8192

/-- Opens the file of an object. -/
def get (root : List String) (path : ObjectPath) (disk : Disk) : Except StoreError (List Bytes) :=
  match fileOf root path with
  | .error e => .error e
  | .ok names =>
    match disk.readFile (Disk.absoluteText names) with
    | .ok content => .ok (Grouping.pieces readChunk content)
    | .error .notFound => .error (.notFound path.text OsError.notFound.message)
    | .error .isDirectory => .error (.notFound path.text "is directory")
    | .error e => .error (openFailure names e)

/-- The names of the staged file with a number. -/
def stagedName (names : List String) (k : Nat) : List String :=
  names.dropLast ++ [names.getLast?.getD "" ++ "#" ++ toString k]

/-- Makes an empty staged file beside the place of an object, under the first number that is free.
Missing directories are made, once. -/
def stage (names : List String) : Nat → Nat → Bool → Disk → Except StoreError (List String × Disk)
  | 0, _, _, _ => .error (failure "no free name for a staged file")
  | fuel + 1, k, mayMake, disk =>
    let staged := stagedName names k
    let path := Disk.absoluteText staged
    if disk.pathExists path then stage names fuel (k + 1) mayMake disk
    else match disk.writeFile path [] with
      | .ok disk => .ok (staged, disk)
      | .error .notFound =>
        if mayMake then
          let parent := Disk.absoluteText names.dropLast
          match disk.makeDirectories parent with
          | .ok disk => stage names fuel k false disk
          | .error e =>
            .error (failure ("Unable to create dir " ++ parent ++ ": " ++ e.message))
        else .error (openFailure staged .notFound)
      | .error e => .error (openFailure staged e)

/-- Makes an empty staged file for an object. -/
def stageObject (root : List String) (path : ObjectPath) (disk : Disk) :
    Except StoreError (List String × Disk) :=
  match fileOf root path with
  | .error e => .error e
  | .ok names => stage names (disk.nodes.length + 3) 1 true disk

/-- Puts a staged file in the place of an object.  When a directory is there, it stays where it
is. -/
def commit (root : List String) (path : ObjectPath) (staged : List String) (disk : Disk) :
    Except StoreError Unit × Disk :=
  let place := root ++ path.segments
  match disk.node? staged, disk.node? place with
  | _, some .directory =>
    (.error (failure ("Unable to rename file: " ++ OsError.isDirectory.message)), disk)
  | some node, _ => (.ok (), (disk.removeTree staged).setNode place node)
  | none, _ => (.error (failure ("Unable to rename file: " ++ OsError.notFound.message)), disk)

/-- Appends octets to a staged file. -/
def extend (staged : List String) (part : Bytes) (disk : Disk) : Disk :=
  match disk.node? staged with
  | some (.file content) => disk.setNode staged (.file (content ++ part))
  | _ => disk.setNode staged (.file part)

/-- The failure of an upload whose end was already tried. -/
def closed : StoreError := failure "Upload aborted"

/-- The backend over the directory that names lead to. `lens` and `update` reach the staged files
inside of the state.  What is stored at once leaves no staged file behind; an upload in parts whose
completion failed keeps its own and cannot be aborted any more. -/
def store {σ : Type} (root : List String) (lens : σ → DirectoryUploads)
    (update : DirectoryUploads → σ → σ) : ObjectStore σ :=
  let ending (ticket : UploadTicket) (m : Medium σ)
      (act : List String → Disk → Except StoreError Unit × Disk) : Except StoreError Unit × Medium σ :=
    match (lens m.store).find? ticket with
    | none => (.error closed, m)
    | some staged =>
      let (r, disk) := act staged m.disk
      (r, { store := update ((lens m.store).close ticket) m.store, disk })
  { name := "LocalFileSystem(file://" ++ Disk.absoluteText root ++ ")"
    get := fun path m =>
      (match get root path m.disk with
        | .ok chunks => .ok { size := UInt64.ofNat chunks.flatten.length, chunks }
        | .error e => .error e, m)
    put := fun path content m =>
      match stageObject root path m.disk with
      | .error e => (.error e, m)
      | .ok (staged, disk) =>
        match commit root path staged (extend staged content disk) with
        | (.ok (), disk) => (.ok (), { m with disk })
        | (.error e, disk) => (.error e, { m with disk := disk.removeTree staged })
    startUpload := fun path m =>
      match stageObject root path m.disk with
      | .error e => (.error e, m)
      | .ok (staged, disk) =>
        let uploads := lens m.store
        (.ok ⟨uploads.staged.length, path⟩,
          { store := update { staged := uploads.staged ++ [some staged] } m.store, disk })
    putPart := fun ticket _ part m =>
      match (lens m.store).find? ticket with
      | none => (.error closed, m)
      | some staged => (.ok (), { m with disk := extend staged part m.disk })
    complete := fun ticket m => ending ticket m (commit root ticket.path)
    abort := fun ticket m => ending ticket m fun staged disk => (.ok (), disk.removeTree staged) }

end DirectoryStore

end VectorIndex
