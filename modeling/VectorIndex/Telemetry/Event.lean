import VectorIndex.Run.Outcome
import VectorIndex.Engine.Basic

/-!
# Events

Everything that a run does and that someone may want to know later is an event: calls of
the engine, ends of stages, transferred octets and the life of native handles.  Events
are collected in a log, the oldest first; the process counters are counts over it.
-/

set_option autoImplicit false

namespace VectorIndex

/-- Turns in the life of a native handle. -/
inductive HandleEvent where
  | registered
  | released
  | transferred
  deriving DecidableEq, Repr

/-- The name of a turn. -/
def HandleEvent.name : HandleEvent → String
  | .registered => "registered"
  | .released => "released"
  | .transferred => "transferred"

/-- A long-running call of the engine with the arguments that matter. -/
inductive EngineCall where
  | build (config : BuildConfig) (docCount dimension : UInt64) (elementType : ElementType)
  | convert (gpu : NativeIndex)
  | persist (cpu : NativeIndex) (mode : StagingMode)
  deriving DecidableEq, Repr

/-- Something that happened. -/
inductive Event where
  /-- A run ended with a result. -/
  | runEnded (success : Bool)
  /-- A stage was completed, and its duration observed. -/
  | stageObserved (stage : Stage)
  /-- A blob was downloaded completely. -/
  | blobRead (size : Nat)
  /-- A blob was uploaded completely. -/
  | blobWritten (size : Nat)
  /-- A handle changed hands. -/
  | handle (turn : HandleEvent)
  /-- A structure could not be freed. -/
  | cleanupWarning
  /-- The engine was given a call. -/
  | callStarted (call : EngineCall)
  /-- The engine came back from a call. -/
  | callEnded (call : EngineCall)
  /-- The engine was asked to free a structure; it may have refused. -/
  | structureReleased (raw : RawHandle) (kind : StructureKind) (refusal : Option String)
  deriving DecidableEq, Repr

/-- Counts over a log. -/
structure Counters where
  runsSucceeded : Nat
  runsFailed : Nat
  /-- Observations of each stage. -/
  observed : Stage → Nat
  bytesRead : Nat
  bytesWritten : Nat
  handles : HandleEvent → Nat
  cleanupWarnings : Nat

/-- The sum of a measure over a log. -/
def totalOf (measure : Event → Nat) : List Event → Nat
  | [] => 0
  | e :: log => measure e + totalOf measure log

/-- Bytes that an event read. -/
def Event.bytesRead : Event → Nat
  | .blobRead n => n
  | _ => 0

/-- Bytes that an event wrote. -/
def Event.bytesWritten : Event → Nat
  | .blobWritten n => n
  | _ => 0

/-- What the counters show after a log. -/
def Counters.ofLog (log : List Event) : Counters where
  runsSucceeded := log.count (.runEnded true)
  runsFailed := log.count (.runEnded false)
  observed stage := log.count (.stageObserved stage)
  bytesRead := totalOf Event.bytesRead log
  bytesWritten := totalOf Event.bytesWritten log
  handles turn := log.count (.handle turn)
  cleanupWarnings := log.count .cleanupWarning

end VectorIndex
