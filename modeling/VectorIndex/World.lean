import VectorIndex.Blob.Client
import VectorIndex.Custody.Registry

/-!
# The surroundings of a run

A `World` is all that runs share: the store and the disk, the memory of the engine and the log of
events.  It also settles what is left open otherwise: in which order the structures are freed that
are left at an end.  Structures are freed here, so that every request to free one is on record
together with the engine's answer.
-/

set_option autoImplicit false

namespace VectorIndex

/-- A site together with the memory of an engine. -/
structure World (ε σ : Type) extends Site σ where
  memory : ε
  sweep : SweepOrder := .registration

namespace World

variable {ε σ : Type}

/-- Adds an event to the log. -/
def record (w : World ε σ) (e : Event) : World ε σ :=
  { w with log := w.log ++ [e] }

/-- Adds events to the log. -/
def recordAll (w : World ε σ) (es : List Event) : World ε σ :=
  { w with log := w.log ++ es }

/-- Asks the engine to free a structure.  A refusal is reported as a warning; nothing else
depends on it. -/
def free (engine : Engine ε) (raw : RawHandle) (kind : StructureKind) (w : World ε σ) :
    Option String × World ε σ :=
  let (refusal, memory) := engine.release raw kind w.memory
  let w := { w with memory }.record (.structureReleased raw kind refusal)
  (refusal, if refusal.isSome then w.record .cleanupWarning else w)

end World

end VectorIndex
