import VectorIndex.Error

/-!
# The vocabulary of a build

Closed sets of choices that requests and configurations are made of: element types,
metrics, engines, staging modes and graph algorithms.  Each has one spelling, which is
used on the wire, in messages and in file names.
-/

set_option autoImplicit false

namespace VectorIndex

/-- What one component of a vector is. -/
inductive ElementType where
  /-- Little-endian single precision. -/
  | float
  /-- Single precision in the remote blob, half precision once staged. -/
  | float16
  /-- Signed octets. -/
  | byte
  /-- Packed bits. -/
  | binary
  deriving DecidableEq, Repr, Inhabited

namespace ElementType

/-- The name on the wire. -/
def name : ElementType → String
  | .float => "float"
  | .float16 => "float16"
  | .byte => "byte"
  | .binary => "binary"

/-- Octets per component in the remote blob. -/
def sourceSize : ElementType → UInt64
  | .float | .float16 => 4
  | .byte | .binary => 1

/-- Octets per component once staged. -/
def stagedSize : ElementType → UInt64
  | .float => 4
  | .float16 => 2
  | .byte | .binary => 1

/-- All element types with their names. -/
def table : List (String × ElementType) :=
  [.float, .float16, .byte, .binary].map fun t => (t.name, t)

end ElementType

/-- How far apart two vectors are. -/
inductive Metric where
  | l2
  | innerProduct
  | cosine
  deriving DecidableEq, Repr, Inhabited

namespace Metric

/-- The name on the wire. -/
def name : Metric → String
  | .l2 => "l2"
  | .innerProduct => "innerproduct"
  | .cosine => "cosinesimil"

/-- All metrics with their names. -/
def table : List (String × Metric) :=
  [.l2, .innerProduct, .cosine].map fun m => (m.name, m)

/-- The metric of a name, which callers give for the knob `metric`. -/
def ofName (name : String) : Except BuildError Metric :=
  match table.lookup name with
  | some m => .ok m
  | none => .error (.configuration "metric" ("unknown space type '" ++ name ++ "'"))

end Metric

/-- Where a host index is kept between conversion and upload. -/
inductive StagingMode where
  /-- In a file of the run's own directory. -/
  | disk
  /-- In a buffer. -/
  | memory
  deriving DecidableEq, Repr, Inhabited

namespace StagingMode

/-- The name on the wire. -/
def name : StagingMode → String
  | .disk => "disk"
  | .memory => "memory"

/-- Both modes with their names. -/
def table : List (String × StagingMode) :=
  [.disk, .memory].map fun m => (m.name, m)

end StagingMode

/-- The engine that an artifact is built for. -/
inductive EngineKind where
  | faiss
  | nmslib
  deriving DecidableEq, Repr, Inhabited

namespace EngineKind

/-- The name on the wire, which is also the extension of the engine's artifacts. -/
def name : EngineKind → String
  | .faiss => "faiss"
  | .nmslib => "nmslib"

/-- All engines with their names. -/
def table : List (String × EngineKind) :=
  [.faiss, .nmslib].map fun e => (e.name, e)

end EngineKind

/-- How the intermediate neighbour graph is built. -/
inductive GraphAlgorithm where
  | ivfPq
  | nnDescent
  deriving DecidableEq, Repr, Inhabited

namespace GraphAlgorithm

/-- The name on the wire. -/
def name : GraphAlgorithm → String
  | .ivfPq => "IVF_PQ"
  | .nnDescent => "NN_DESCENT"

/-- All algorithms with their names. -/
def table : List (String × GraphAlgorithm) :=
  [.ivfPq, .nnDescent].map fun a => (a.name, a)

/-- The algorithm of a name, which callers give for the knob `gpu.graph_build_algo`. -/
def ofName (name : String) : Except BuildError GraphAlgorithm :=
  match table.lookup name with
  | some a => .ok a
  | none =>
    .error (.configuration "gpu.graph_build_algo" ("unknown graph build algorithm '" ++ name ++ "'"))

end GraphAlgorithm

end VectorIndex
