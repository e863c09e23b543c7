import VectorIndex.Bytes
import VectorIndex.Text.Affix

/-!
# Files and directories

A `Disk` is a tree of files and directories together with a working directory.  Paths
are texts, as programs pass them to the operating system; `Disk.locate` follows one
component by component, and every operation refuses with the error that the operating
system reports.
-/

set_option autoImplicit false

namespace VectorIndex

/-- Why the operating system refuses a file operation. -/
inductive OsError where
  | notFound
  | alreadyExists
  | notDirectory
  | isDirectory
  | nameTooLong
  /-- The name holds a NUL character and never reaches the operating system. -/
  | invalidName
  deriving DecidableEq, Repr

/-- The wording of an error, with its number. -/
def OsError.message : OsError → String
  | .notFound => "No such file or directory (os error 2)"
  | .alreadyExists => "File exists (os error 17)"
  | .notDirectory => "Not a directory (os error 20)"
  | .isDirectory => "Is a directory (os error 21)"
  | .nameTooLong => "File name too long (os error 36)"
  | .invalidName => "file name contained an unexpected NUL byte"

/-- What a name stands for. -/
inductive DiskNode where
  | directory
  | file (content : Bytes)
  deriving DecidableEq, Repr

/-- A tree of named nodes under the root directory. -/
structure Disk where
  /-- The directory that relative paths start from. -/
  workingDirectory : List String := []
  /-- The nodes below the root, under the names that lead to them. -/
  nodes : List (List String × DiskNode) := []
  deriving Repr

namespace Disk

/-! ## Paths -/

/-- Whether a path starts at the root. -/
def isAbsolute (path : String) : Bool :=
  path.toList.head? == some '/'

/-- A path followed by another one, which wins when it is absolute. -/
def join (base path : String) : String :=
  if isAbsolute path || base.isEmpty then path
  else if Text.endsInSlash base then base ++ path
  else base ++ "/" ++ path

/-- The names between slashes. -/
def pathParts (path : String) : List String :=
  ((Text.splitAt '/' path.toList).map String.ofList).filter fun s => !s.isEmpty

/-- The steps that a path consists of.  Two paths with the same steps are the same path: repeated
slashes and dots inside change nothing, only a dot in front of a relative path is kept. -/
def steps (path : String) : List String :=
  let names := pathParts path
  let start := if isAbsolute path then ["/"] else if names.head? == some "." then ["."] else []
  start ++ names.filter fun name => name != "."

/-- The text of the absolute path that names lead along. -/
def absoluteText (names : List String) : String :=
  "/" ++ String.intercalate "/" names

/-! ## Nodes -/

/-- The node that names lead to. -/
def node? (d : Disk) (names : List String) : Option DiskNode :=
  if names.isEmpty then some .directory else d.nodes.lookup names

/-- Puts a node where the names lead. -/
def setNode (d : Disk) (names : List String) (node : DiskNode) : Disk :=
  if d.nodes.any fun n => n.1 = names then
    { d with nodes := d.nodes.map fun n => if n.1 = names then (names, node) else n }
  else { d with nodes := d.nodes ++ [(names, node)] }

/-- Removes a node and everything below it. -/
def removeTree (d : Disk) (names : List String) : Disk :=
  { d with nodes := d.nodes.filter fun n => !names.isPrefixOf n.1 }

/-- The names directly below a directory. -/
def entries (d : Disk) (names : List String) : List String :=
  d.nodes.filterMap fun n =>
    if n.1.dropLast = names then n.1.getLast? else none

/-! ## Following paths -/

/-- Follows names from a directory.  Everything but the last name has to lead to a directory; the
last one may be missing. -/
def walk (d : Disk) : List String → List String → Except OsError (List String)
  | here, [] => .ok here
  | here, name :: rest =>
    match d.node? here with
    | none => .error .notFound
    | some (.file _) => .error .notDirectory
    | some .directory =>
      if name = "." then walk d here rest
      else if name = ".." then walk d here.dropLast rest
      else if 255 < name.utf8ByteSize then .error .nameTooLong
      else walk d (here ++ [name]) rest

/-- Follows the names of a path from where it starts. -/
def walkPath (d : Disk) (path : String) (names : List String) : Except OsError (List String) :=
  if path.toList.any fun c => c.toNat = 0 then .error .invalidName
  else if path.isEmpty then .error .notFound
  else if 4096 ≤ path.utf8ByteSize then .error .nameTooLong
  else d.walk (if isAbsolute path then [] else d.workingDirectory) names

/-- The names that a path leads along.  A slash at the end asks for a directory. -/
def locate (d : Disk) (path : String) : Except OsError (List String) :=
  d.walkPath path (pathParts path ++ if Text.endsInSlash path then ["."] else [])

/-- The names that a path leads along to a file that may have to be made.  A slash at the end of a
name is refused once the directory around it is found. -/
def locateFile (d : Disk) (path : String) : Except OsError (List String) :=
  let names := pathParts path
  match names.getLast? with
  | none | some "." | some ".." => d.locate path
  | some _ =>
    if Text.endsInSlash path then do
      let _ ← d.walkPath path (names.dropLast ++ ["."])
      .error .isDirectory
    else d.locate path

/-- Whether a path leads to a directory. -/
def isDirectory (d : Disk) (path : String) : Bool :=
  match d.locate path with
  | .ok names => d.node? names == some .directory
  | .error _ => false

/-- Whether a path leads to anything. -/
def pathExists (d : Disk) (path : String) : Bool :=
  match d.locate path with
  | .ok names => (d.node? names).isSome
  | .error _ => false

/-- The absolute path without relative steps that a path leads to. -/
def canonical (d : Disk) (path : String) : Except OsError (List String) := do
  let names ← d.locate path
  if (d.node? names).isSome then .ok names else .error .notFound

/-- The path made absolute by putting the working directory in front. -/
def absolute (d : Disk) (path : String) : String :=
  if isAbsolute path then path else join (absoluteText d.workingDirectory) path

/-! ## Operations -/

/-- The content of a file. -/
def readFile (d : Disk) (path : String) : Except OsError Bytes := do
  let names ← d.locate path
  match d.node? names with
  | none => .error .notFound
  | some .directory => .error .isDirectory
  | some (.file content) => .ok content

/-- Gives a file a new content; the file is made if it is missing. -/
def writeFile (d : Disk) (path : String) (content : Bytes) : Except OsError Disk := do
  let names ← d.locateFile path
  match d.node? names with
  | some .directory => .error .isDirectory
  | _ => .ok (d.setNode names (.file content))

/-- Makes a directory, whose parent has to exist. -/
def makeDirectory (d : Disk) (path : String) : Except OsError Disk := do
  let names ← d.locate path
  match d.node? names with
  | some _ => .error .alreadyExists
  | none => .ok (d.setNode names .directory)

/-- The names of the directory around one, the last name first.  Dots at the end go with the name in
front of them. -/
def around : List String → List String
  | [] => []
  | name :: up => if name = "." then around up else up.dropWhile fun name => name = "."

/-- The directory around a name has fewer names, which is why resolving a path ends. -/
theorem length_around_lt (name : String) (up : List String) :
    (around (name :: up)).length < (name :: up).length := by
  induction up generalizing name with
  | nil => by_cases h : name = "." <;> simp [around, h]
  | cons next up ih =>
    by_cases h : name = "."
    · have := ih next
      simp only [around, h, if_true, List.length_cons] at this ⊢
      omega
    · have := (List.dropWhile_sublist (fun name => decide (name = "."))
        (l := next :: up)).length_le
      simp only [around, h, if_false, List.length_cons] at this ⊢
      omega

/-- Makes the directory of names, the last one first, and its missing parents. -/
def makeDirectoriesUp (d : Disk) (absolute : Bool) : List String → Except OsError Disk
  | [] => .ok d
  | name :: up =>
    let path := (if absolute then "/" else "") ++ String.intercalate "/" (name :: up).reverse
    let orDirectory (d : Disk) (e : OsError) : Except OsError Disk :=
      if d.isDirectory path then .ok d else .error e
    match d.makeDirectory path with
    | .ok d => .ok d
    | .error .notFound => do
      let d ← makeDirectoriesUp d absolute (around (name :: up))
      match d.makeDirectory path with
      | .ok d => .ok d
      | .error e => orDirectory d e
    | .error e => orDirectory d e
termination_by names => names.length
decreasing_by exact length_around_lt name up

/-- Makes a directory and its missing parents; nothing happens if it exists. -/
def makeDirectories (d : Disk) (path : String) : Except OsError Disk :=
  if path.toList.any fun c => c.toNat = 0 then .error .invalidName
  else d.makeDirectoriesUp (isAbsolute path) (pathParts path).reverse

/-- Removes the directory that a path leads to, with everything below it. -/
def removeDirectory (d : Disk) (path : String) : Disk :=
  match d.locate path with
  | .ok names => if d.node? names = some .directory then d.removeTree names else d
  | .error _ => d

/-- The size that the operating system reports for a directory. -/
def directorySize : Nat := 4096

/-- The size of what a path leads to. -/
def sizeAt (d : Disk) (path : String) : Except OsError Nat := do
  let names ← d.locate path
  match d.node? names with
  | none => .error .notFound
  | some .directory => .ok directorySize
  | some (.file content) => .ok content.length

/-- The size of a file; zero when there is none. -/
def fileSize (d : Disk) (path : String) : Nat :=
  match d.readFile path with
  | .ok content => content.length
  | .error _ => 0

end Disk

end VectorIndex
