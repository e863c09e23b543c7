import VectorIndex.CommandLine.Invocation
import VectorIndex.Engine.Arena
import VectorIndex.Json.Document
import VectorIndex.Run.Step
import VectorIndex.Settings.Load
import VectorIndex.Settings.VariableFile

/-!
# One execution of the program

An execution reads its arguments, its settings and a request, makes the run that the
request asks for, and writes the result as one line.  It is a function of what it finds:
arguments, environment variables and files.  The status tells a result from a failure, and
both from an execution that could not start.
-/

set_option autoImplicit false

namespace VectorIndex

/-- What an execution finds. -/
structure Surroundings where
  arguments : List String
  environment : Environment
  disk : Disk
  /-- The end of the name of the workspace. -/
  suffix : String

/-- How an execution ends. -/
structure Ending where
  status : Nat
  /-- What was written to the standard output. -/
  output : String := ""
  /-- What was complained about. -/
  complaint : String := ""
  deriving DecidableEq, Repr

namespace Ending

/-- The end of an execution that could not start. -/
def refusal (complaint : String) : Ending :=
  { status := 2, complaint := complaint ++ "\n" }

/-- The end of an execution that broke off. -/
def broken : Ending :=
  { status := 101 }

/-- The end of an execution with a result. -/
def ofResult (r : TaskResult) : Ending :=
  { status := if r.isSuccess then 0 else 1, output := r.text ++ "\n" }

end Ending

namespace Surroundings

/-- The plan of the request in a file. -/
def plan (disk : Disk) (path : String) : Except BuildError Plan :=
  match Settings.readText disk path with
  | .error reason => .error (.invalidParameters ("failed to read " ++ path ++ ": " ++ reason))
  | .ok text => Json.readDocument BuildRequest.ofJson? text >>= BuildRequest.plan

/-- Makes a run; it has no report if it broke off. -/
def build (s : Surroundings) (settings : Settings) (plan : Plan) : Option RunReport × Disk :=
  let builder : Builder Arena ClientCache :=
    { engine := Arena.engine
      stores := Provider.cached settings.storage (.ofVariables s.environment.bindings)
      stagingRoot := settings.runs.stagingDirectory
      timeLimit := settings.runs.timeLimit }
  let (run, world) := builder.run { plan, suffix := s.suffix }
    { store := {}, disk := s.disk, memory := {} }
  (run.report?, world.disk)

/-- Does what an invocation asks for. -/
def carryOut (s : Surroundings) (invocation : Invocation) : Ending × Disk :=
  match Settings.load s.environment s.disk invocation.settings with
  | .error e => (.refusal ("failed to load config: " ++ e.message), s.disk)
  | .ok settings =>
    match plan s.disk invocation.request with
    | .error e => (.ofResult (.failure e.message), s.disk)
    | .ok plan =>
      match s.build settings plan with
      | (some report, disk) => (.ofResult report.result, disk)
      | (none, disk) => (.broken, disk)

/-- Executes the program: how it ends, and the files that it leaves. -/
def execute (s : Surroundings) : Ending × Disk :=
  match VariableFile.extendFromDisk s.environment s.disk with
  | .error _ => (.broken, s.disk)
  | .ok environment =>
    match Invocation.ofArguments s.arguments with
    | .error complaint => (.refusal complaint, s.disk)
    | .ok invocation => { s with environment }.carryOut invocation

end Surroundings

end VectorIndex
