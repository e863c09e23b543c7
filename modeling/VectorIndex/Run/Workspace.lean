import VectorIndex.Disk.Basic
import VectorIndex.Vocabulary
import VectorIndex.Text.Quoted

/-!
# Workspaces

A workspace is where one run keeps its host index between conversion and upload.  It
owns a fresh directory below the staging root for the whole run, also when the index is
kept in memory.  Removing the workspace removes the directory with everything in it.
-/

set_option autoImplicit false

namespace VectorIndex

/-- Where the octets of the index are. -/
inductive StagedContent where
  /-- In the file of this path. -/
  | file (path : String)
  | buffer (content : Bytes)
  deriving DecidableEq, Repr

/-- What is uploaded. -/
inductive ArtifactSource where
  | file (path : String)
  | buffer (content : Bytes)
  deriving DecidableEq, Repr

/-- A run's own directory and its staged index. -/
structure Workspace where
  directory : String
  content : StagedContent
  deriving DecidableEq, Repr

namespace Workspace

/-- How the names of these directories start. -/
def directoryPrefix : String := "index-build-"

/-- A name that is not taken: the first one asked for, or that name with enough zeros behind it. -/
def freshName (taken : List String) : Nat → String → String
  | 0, name => name
  | fuel + 1, name => if taken.contains name then freshName taken fuel (name ++ "0") else name

/-- Makes the staging root where it is missing, and in it a directory whose name ends in the given
text.  On disk the index gets the last segment of the artifact's path as its file name. -/
def create (d : Disk) (root : String) (mode : StagingMode) (artifactPath suffix : String) :
    Except BuildError (Workspace × Disk) :=
  match d.makeDirectories root with
  | .error e => .error (.io e.message)
  | .ok d =>
    let taken := match d.locate root with
      | .ok names => d.entries names
      | .error _ => []
    let directory := Disk.join (d.absolute root)
      (freshName taken taken.length (directoryPrefix ++ suffix))
    match d.makeDirectory directory with
    | .error e => .error (.io (e.message ++ " at path " ++ Text.quoted directory))
    | .ok d =>
      let content := match mode with
        | .disk => .file (Disk.join directory (Text.lastSegment artifactPath))
        | .memory => .buffer []
      .ok ({ directory, content }, d)

/-- The mode of a workspace. -/
def mode (w : Workspace) : StagingMode :=
  match w.content with
  | .file _ => .disk
  | .buffer _ => .memory

/-- Stages octets: a file gets them as its content, a buffer at its end. -/
def write (w : Workspace) (d : Disk) (bytes : Bytes) : Except OsError (Workspace × Disk) :=
  match w.content with
  | .file path => (w, ·) <$> d.writeFile path bytes
  | .buffer content => .ok ({ w with content := .buffer (content ++ bytes) }, d)

/-- Octets staged so far. -/
def size (w : Workspace) (d : Disk) : Nat :=
  match w.content with
  | .file path => d.fileSize path
  | .buffer content => content.length

/-- What to upload.  A buffer is handed over and leaves the workspace empty. -/
def takeSource (w : Workspace) : ArtifactSource × Workspace :=
  match w.content with
  | .file path => (.file path, w)
  | .buffer content => (.buffer content, { w with content := .buffer [] })

/-- Removes the directory and what is in it. -/
def remove (w : Workspace) (d : Disk) : Disk :=
  d.removeDirectory w.directory

/-- A description for logs. -/
def describe (w : Workspace) : String :=
  let target := match w.content with
    | .file path => "file " ++ path
    | .buffer content => "buffer of " ++ toString content.length ++ " bytes"
  "SerializationTarget \x7b dir: " ++ Text.quoted w.directory ++
    ", target: " ++ Text.quoted target ++ " \x7d"

/-- The wording of a failure to write the staged file. -/
def writeFailure (w : Workspace) (e : OsError) : String :=
  match w.content with
  | .file path => "writing " ++ path ++ ": " ++ e.message
  | .buffer _ => e.message

end Workspace

end VectorIndex
