import VectorIndex.CommandLine.Execution

/-!
# What an execution reaches

The paths that an execution may read are not known in advance: arguments name a settings
file and a request, and these name blobs.  `Surroundings.reach` tells the paths as far as
the files that are there already tell them; after files were added it may tell more.
-/

set_option autoImplicit false

namespace VectorIndex

/-- A directory and all directories above it. -/
def Disk.ancestors (names : List String) : List (List String) :=
  (List.range (names.length + 1)).map names.take

namespace Surroundings

/-- Files of variables that an execution looks for. -/
def variableFiles (s : Surroundings) : List String :=
  (Disk.ancestors s.disk.workingDirectory).map fun names =>
    Disk.join (Disk.absoluteText names) VariableFile.fileName

/-- Where a run with these settings reads and writes. -/
def runPaths (settings : Settings) (plan : Plan) : List String :=
  let container := Disk.join settings.storage.localRoot plan.containerName
  settings.runs.stagingDirectory ::
    [plan.vectorPath, plan.docIdPath, plan.artifactPath].map fun path => container ++ "/" ++ path

/-- Paths that an invocation leads to. -/
def invocationPaths (s : Surroundings) (invocation : Invocation) : List String :=
  let named := invocation.settings <|> s.environment.find? Settings.fileVariable
  let further := match Settings.load s.environment s.disk invocation.settings,
      plan s.disk invocation.request with
    | .ok settings, .ok plan => runPaths settings plan
    | _, _ => []
  invocation.request :: named.toList ++ further

/-- Paths that an execution may read. -/
def reach (s : Surroundings) : List String :=
  let further := match VariableFile.extendFromDisk s.environment s.disk,
      Invocation.ofArguments s.arguments with
    | .ok environment, .ok invocation => { s with environment }.invocationPaths invocation
    | _, _ => []
  s.variableFiles ++ further

/-- Rounds after which nothing more is found: variables, then settings and request, then blobs. -/
def reachRounds : Nat := 3

end Surroundings

end VectorIndex
