import VectorIndex.CommandLine.Reach

/-!
# The program

The program gathers what an execution may read, executes, and puts down what is new.
-/

set_option autoImplicit false

namespace VectorIndex.Program

/-- What a path leads to at the moment. -/
def look (path : String) : IO (Option DiskNode) := do
  try
    let place ← IO.FS.realPath path
    if ← place.isDir then return some .directory
    return some (.file (← IO.FS.readBinFile place).data.toList)
  catch _ => return none

/-- Names without relative steps. -/
def withoutSteps (names : List String) : List String :=
  names.foldl (fun before name =>
    if name = "." then before
    else if name = ".." then before.dropLast
    else before ++ [name]) []

/-- Adds a path, and everything on the way to it, to a disk. -/
def gather (disk : Disk) (path : String) : IO Disk := do
  let names := withoutSteps (Disk.pathParts (disk.absolute path))
  let mut d := disk
  for here in Disk.ancestors names do
    if (d.node? here).isNone then
      if let some node ← look (Disk.absoluteText here) then
        d := d.setNode here node
  return d

/-- The variables of the process, as the operating system lists them. -/
def bindings : IO (List (String × String)) := do
  let listing ← IO.FS.readBinFile "/proc/self/environ"
  let entries := (String.fromUTF8? listing).getD ""
  return (Text.splitAt '\x00' entries.toList).filterMap fun entry =>
    match entry.span (· != '=') with
    | (name, _ :: value) => some (String.ofList name, String.ofList value)
    | _ => none

/-- The number of processors. -/
def processors : IO Nat := do
  try
    let lines := (← IO.FS.readFile "/proc/cpuinfo").splitOn "\n"
    return max 1 (lines.countP fun line => line.startsWith "processor")
  catch _ => return 1

/-- Six letters. -/
def suffix : IO String := do
  let letters ← (List.replicate 6 ()).mapM fun _ => IO.rand 0 25
  return String.ofList (letters.map fun n => Char.ofNat ('a'.toNat + n))

/-- Puts down what is new or changed. -/
def putDown (before after : Disk) : IO Unit := do
  for (names, node) in after.nodes do
    if before.node? names != some node then
      match node with
      | .directory => IO.FS.createDirAll (Disk.absoluteText names)
      | .file content =>
        IO.FS.createDirAll (Disk.absoluteText names.dropLast)
        IO.FS.writeBinFile (Disk.absoluteText names) ⟨content.toArray⟩

/-- Executes with the given arguments. -/
def execute (args : List String) : IO UInt32 := do
  let here := Disk.pathParts (← IO.currentDir).toString
  let environment : Environment := { bindings := ← bindings, processors := ← processors }
  let mut s : Surroundings :=
    { arguments := args, environment, disk := { workingDirectory := here }, suffix := ← suffix }
  for _ in List.range Surroundings.reachRounds do
    let mut disk := s.disk
    for path in Disk.absoluteText here :: s.reach do
      disk ← gather disk path
    s := { s with disk }
  let (ending, disk) := s.execute
  putDown s.disk disk
  (← IO.getStdout).putStr ending.output
  (← IO.getStderr).putStr ending.complaint
  return UInt32.ofNat ending.status

end VectorIndex.Program

/-- The program. -/
def main (args : List String) : IO UInt32 :=
  VectorIndex.Program.execute args
