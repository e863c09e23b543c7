import VectorIndex.Dataset
import VectorIndex.Config.Knobs
import VectorIndex.Text.Hex

/-!
# Engines

An engine builds, converts, persists and frees index structures and names them by raw
handles, which mean nothing outside of it.  An index consists of a graph and of the id
map that wraps it.  Freeing a structure twice is an error of the engine's caller.

`Engine σ` is an engine whose memory is a value of `σ`: every call takes the memory
and gives it back.  A call may succeed, fail with a message and with what was allocated
before the failure, or break off with a panic.
-/

set_option autoImplicit false

namespace VectorIndex

/-- A reference to a structure in the memory of an engine. -/
structure RawHandle where
  number : Nat
  deriving DecidableEq, Repr, Hashable

/-- The text of a reference. -/
def RawHandle.text (h : RawHandle) : String :=
  Text.Hex.marked h.number

/-- What a reference points at. -/
inductive StructureKind where
  | gpuIndex
  | cpuIndex
  | idMap
  deriving DecidableEq, Repr

/-- The name of a kind. -/
def StructureKind.name : StructureKind → String
  | .gpuIndex => "gpu_index"
  | .cpuIndex => "cpu_index"
  | .idMap => "id_map"

/-- Where a graph lives. -/
inductive Residency where
  | gpu
  | cpu
  deriving DecidableEq, Repr

/-- The kind of a graph that lives there. -/
def Residency.graphKind : Residency → StructureKind
  | .gpu => .gpuIndex
  | .cpu => .cpuIndex

/-- A graph and the id map that wraps it.  Only a partial index has no id map. -/
structure NativeIndex where
  residency : Residency
  index : RawHandle
  idMap : Option RawHandle
  deriving DecidableEq, Repr

namespace NativeIndex

/-- An index on the device. -/
def gpu (index : RawHandle) (idMap : Option RawHandle) : NativeIndex :=
  ⟨.gpu, index, idMap⟩

/-- An index on the host. -/
def cpu (index : RawHandle) (idMap : Option RawHandle) : NativeIndex :=
  ⟨.cpu, index, idMap⟩

/-- The structures of an index in the order in which they are freed: the wrapper first. -/
def components (n : NativeIndex) : List (RawHandle × StructureKind) :=
  (n.idMap.toList.map fun raw => (raw, .idMap)) ++ [(n.index, n.residency.graphKind)]

end NativeIndex

/-- How a call of an engine ends. -/
inductive Reply (α : Type) where
  | ok (a : α)
  /-- A failure, with what the caller now has to free. -/
  | failed (message : String) (partialIndex : Option NativeIndex)
  /-- The call broke off. -/
  | panicked (message : String)
  deriving Repr

/-- An engine with its memory in `σ`. -/
structure Engine (σ : Type) where
  /-- The engine that can read the artifacts. -/
  kind : EngineKind
  /-- Builds an index on the device and wraps it in an id map. -/
  build : Dataset → BuildConfig → σ → Reply NativeIndex × σ
  /-- Copies the graph of a device index to the host and points the id map at the copy.  The device
  graph stays allocated. -/
  convert : NativeIndex → SearchConfig → σ → Reply RawHandle × σ
  /-- Serializes a host index with its id map. -/
  persist : NativeIndex → σ → Reply Bytes × σ
  /-- Frees one structure, or says why it cannot. -/
  release : RawHandle → StructureKind → σ → Option String × σ

/-- Serializes a host index at the end of a buffer, which a failure leaves as it was. -/
def Engine.persistInto {σ : Type} (engine : Engine σ) (cpu : NativeIndex) (buffer : Bytes) (s : σ) :
    Reply Unit × Bytes × σ :=
  match engine.persist cpu s with
  | (.ok bytes, s) => (.ok (), buffer ++ bytes, s)
  | (.failed message partialIndex, s) => (.failed message partialIndex, buffer, s)
  | (.panicked message, s) => (.panicked message, buffer, s)

end VectorIndex
