import VectorIndex.Blob.Resolver
import VectorIndex.Custody.Custodian
import VectorIndex.Config.Assembly

/-!
# Runs and where they are

A `Builder` holds what all runs have in common, a `Commission` what one run was asked
for.  A `Run` is a run under way: its registry, its workspace and its phase.  The long
calls of the engine are made by tasks, which a pool of threads takes on: a task waits in
the queue, then it is inside the call, then it has returned, and some time later the run
takes notice.  A run that is cancelled leaves a task that was already queued behind.
-/

set_option autoImplicit false

namespace VectorIndex

/-- What builds indexes: an engine, a provider of stores, and where and for how long runs work. -/
structure Builder (ε σ : Type) where
  engine : Engine ε
  stores : Provider σ
  /-- The directory that holds the workspaces of all runs. -/
  stagingRoot : String
  /-- Seconds after which a run enters no further stage. -/
  timeLimit : Option UInt64 := none

/-- One run to be made. -/
structure Commission where
  plan : Plan
  /-- The end of the name of the workspace. -/
  suffix : String
  /-- Seconds on the clock of the system when the run starts; it counts from the start of the
  system. -/
  clock : Nat := 1
  /-- Nanoseconds from the start of the run until it is about to enter a stage. -/
  elapsed : Stage → Nat := fun _ => 0

/-- What a configured run works with. -/
structure Setup (σ : Type) where
  config : BuildConfig
  client : BlobClient σ

/-- A call that the pool makes for a run. -/
inductive Task where
  | build (dataset : Dataset)
  | convert (gpu : TrackedIndex)
  | persist (cpu : TrackedIndex)

namespace Task

/-- The stage that a task belongs to. -/
def stage : Task → Stage
  | .build _ => .building
  | .convert _ => .converting
  | .persist _ => .persisting

/-- What a task is called in messages. -/
def name : Task → String
  | .build _ => "build"
  | .convert _ => "conversion"
  | .persist _ => "persist"

/-- Whether the workspace goes along with the task. -/
def takesWorkspace : Task → Bool
  | .persist _ => true
  | _ => false

/-- The failure of a task that broke off. -/
def panic (t : Task) (message : String) : BuildError :=
  .internal (t.name ++ " task failed: task # panicked with message " ++ Text.quoted message)

end Task

/-- How far a task is. -/
inductive Progress where
  | queued
  /-- The engine is inside the call; a conversion or a persist call works on an index. -/
  | running (subject : Option NativeIndex)
  /-- The task ended with a claim on the index it was about. -/
  | returned (result : Except BuildError TrackedIndex)

/-- What is known about a run that has ended. -/
structure RunReport where
  result : TaskResult
  failedStage : Option Stage := none
  /-- Counts after the last structure was freed. -/
  handles : HandleTally
  deriving DecidableEq, Repr

/-- Where a run is. -/
inductive Phase (σ : Type) where
  | configuring
  /-- Both blobs are downloaded at the same time. -/
  | fetching (setup : Setup σ) (vectors : Download VectorSink) (ids : Download StagingBuffer)
  | working (setup : Setup σ) (task : Task) (progress : Progress)
  | uploading (setup : Setup σ)
  | ended (report : RunReport)
  /-- The run is cancelled, but its task is still with the pool. -/
  | detached (setup : Setup σ) (task : Task) (progress : Progress)
  | cancelled
  /-- The run broke off. -/
  | aborted (reason : Abort)

/-- A run under way. -/
structure Run (σ : Type) where
  registry : Registry := {}
  workspace : Option Workspace := none
  phase : Phase σ := .configuring

namespace Run

variable {σ : Type}

/-- The report of a run that came to its end. -/
def report? (r : Run σ) : Option RunReport :=
  match r.phase with
  | .ended report => some report
  | _ => none

/-- Whether the run will not move any more. -/
def isOver (r : Run σ) : Bool :=
  match r.phase with
  | .ended _ => true
  | .cancelled => true
  | .aborted _ => true
  | _ => false

/-- The task that is inside a call of the engine. -/
def callingStage? (r : Run σ) : Option Stage :=
  match r.phase with
  | .working _ task (.running _) => some task.stage
  | .detached _ task (.running _) => some task.stage
  | _ => none

end Run

end VectorIndex
