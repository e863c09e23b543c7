import VectorIndex.Engine.Basic
import VectorIndex.Artifact.Codec

/-!
# The flat engine

A host-only engine that keeps its structures in an arena.  Raw handles count up from
one and are never used again.  Its index is exact: building copies the rows, and the
persisted artifact holds them as they are.
-/

set_option autoImplicit false

namespace VectorIndex

/-- The rows of an index and its search parameters. -/
structure FlatGraph where
  metric : Metric
  dimension : UInt64
  vectors : List UInt32
  efSearch : UInt64
  efConstruction : UInt64
  deriving DecidableEq, Repr

/-- A structure in the arena. -/
inductive Structure where
  | gpu (graph : FlatGraph)
  | cpu (graph : FlatGraph)
  /-- The ids of the rows of the index that the map wraps. -/
  | idMap (ids : List Int64) (target : RawHandle)
  deriving DecidableEq, Repr

/-- The kind of a structure. -/
def Structure.kind : Structure → StructureKind
  | .gpu _ => .gpuIndex
  | .cpu _ => .cpuIndex
  | .idMap .. => .idMap

/-- Allocated structures under their raw handles. -/
structure Arena where
  /-- The number of the next raw handle. -/
  next : Nat := 1
  cells : List (RawHandle × Structure) := []
  deriving Repr

namespace Arena

/-- The structure under a raw handle. -/
def find? (a : Arena) (raw : RawHandle) : Option Structure :=
  a.cells.lookup raw

/-- Structures currently allocated. -/
def liveCount (a : Arena) : Nat :=
  a.cells.length

/-- Allocates a structure under a fresh raw handle. -/
def alloc (a : Arena) (s : Structure) : RawHandle × Arena :=
  (⟨a.next⟩, { next := a.next + 1, cells := a.cells ++ [(⟨a.next⟩, s)] })

/-- Puts a structure in the place of another. -/
def replace (a : Arena) (raw : RawHandle) (s : Structure) : Arena :=
  { a with cells := a.cells.map fun c => if c.1 = raw then (raw, s) else c }

/-- Frees a structure. -/
def erase (a : Arena) (raw : RawHandle) : Arena :=
  { a with cells := a.cells.filter fun c => c.1 ≠ raw }

/-- The graph under a raw handle, if it has the expected kind. -/
def graph (a : Arena) (raw : RawHandle) (kind : StructureKind) : Except String FlatGraph :=
  match a.find? raw with
  | none => .error (raw.text ++ " is not allocated")
  | some s =>
    match s, kind with
    | .gpu g, .gpuIndex => .ok g
    | .cpu g, .cpuIndex => .ok g
    | s, kind => .error (raw.text ++ " is a " ++ s.kind.name ++ ", expected a " ++ kind.name)

/-- The ids of a map that has to wrap the given index. -/
def idsWrapping (a : Arena) (idMap : Option RawHandle) (target : RawHandle) :
    Except String (List Int64) :=
  match idMap with
  | none => .error "index has no id map"
  | some raw =>
    match a.find? raw with
    | none => .error ("id map " ++ raw.text ++ " is not allocated")
    | some (.idMap ids t) =>
      if t = target then .ok ids
      else .error ("id map " ++ raw.text ++ " wraps " ++ t.text ++ ", not " ++ target.text)
    | some s => .error (raw.text ++ " is a " ++ s.kind.name ++ ", not an id map")

/-- Copies a dataset into a device index and an id map. -/
def build (dataset : Dataset) (config : BuildConfig) (a : Arena) : Reply NativeIndex × Arena :=
  match dataset.components, dataset.docIds with
  | .error e, _ => (.failed e.message none, a)
  | _, .error e => (.failed e.message none, a)
  | .ok vectors, .ok ids =>
    let (index, a) := a.alloc (.gpu {
      metric := config.metric
      dimension := dataset.dimension
      vectors
      efSearch := config.cpu.efSearch
      efConstruction := config.cpu.efConstruction })
    let (idMap, a) := a.alloc (.idMap ids index)
    (.ok (.gpu index (some idMap)), a)

/-- Points a map at another index, or says why it cannot. -/
def repoint (a : Arena) (idMap target : RawHandle) : Except String Arena :=
  match a.find? idMap with
  | none => .error ("id map " ++ idMap.text ++ " is not allocated")
  | some (.idMap ids _) => .ok (a.replace idMap (.idMap ids target))
  | some s => .error (idMap.text ++ " is a " ++ s.kind.name ++ ", not an id map")

/-- Copies a device graph to the host, with search parameters of its own, and points the id map at
the copy.  When the map turns out to be none, the copy is handed over with the failure. -/
def convert (gpu : NativeIndex) (config : SearchConfig) (a : Arena) : Reply RawHandle × Arena :=
  match a.graph gpu.index .gpuIndex with
  | .error message => (.failed message none, a)
  | .ok graph =>
    match gpu.idMap with
    | none => (.failed "GPU index has no id map" none, a)
    | some idMap =>
      let (cpu, a) := a.alloc (.cpu { graph with
        efSearch := config.efSearch, efConstruction := config.efConstruction })
      match a.repoint idMap cpu with
      | .ok a => (.ok cpu, a)
      | .error message => (.failed message (some (.cpu cpu none)), a)

/-- The artifact of a host index. -/
def artifact (cpu : NativeIndex) (a : Arena) : Except String Artifact := do
  let graph ← a.graph cpu.index .cpuIndex
  let ids ← a.idsWrapping cpu.idMap cpu.index
  return {
    metric := graph.metric
    dimension := graph.dimension
    efSearch := graph.efSearch
    efConstruction := graph.efConstruction
    ids
    vectors := graph.vectors }

/-- The file of a host index. -/
def persist (cpu : NativeIndex) (a : Arena) : Reply Bytes × Arena :=
  match a.artifact cpu with
  | .ok artifact => (.ok artifact.encode, a)
  | .error message => (.failed message none, a)

/-- Frees a structure of the stated kind. -/
def release (raw : RawHandle) (kind : StructureKind) (a : Arena) : Option String × Arena :=
  match a.find? raw with
  | none => (some ("double release of " ++ kind.name ++ " " ++ raw.text), a)
  | some s =>
    if s.kind = kind then (none, a.erase raw)
    else (some ("release of " ++ raw.text ++ " as " ++ kind.name ++ ", but it is a " ++ s.kind.name), a)

/-- The flat engine. -/
def engine : Engine Arena where
  kind := .faiss
  build := build
  convert := convert
  persist := persist
  release := release

end Arena

end VectorIndex
