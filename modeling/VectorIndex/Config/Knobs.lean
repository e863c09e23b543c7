import VectorIndex.Vocabulary
import VectorIndex.Json.Record

/-!
# The knobs of a build

`BuildConfig` is the complete configuration that an engine is given.  Its knobs have
built-in defaults, two of them can be derived from the shape of the dataset, and
`BuildConfig.requirements` lists, in the order in which they are checked, the
conditions that the knobs have to meet.
-/

set_option autoImplicit false

namespace VectorIndex

open Json (Value Decoder)

/-- Knobs of the inverted lists and of the compressed vectors in them. -/
structure ClusterConfig where
  /-- Number of inverted lists. -/
  listCount : UInt64 := 1000
  /-- Iterations of the search for cluster centres. -/
  iterations : UInt64 := 10
  /-- Fraction of the dataset that the centres are trained on; the default is one tenth. -/
  trainFraction : Double := ⟨0x3FB999999999999A⟩
  /-- Bits of one code element. -/
  codeBits : UInt32 := 8
  /-- Components of a compressed vector. -/
  codeDimension : UInt64 := 16
  /-- Allocate only what the present records need. -/
  conservativeMemory : Bool := true
  deriving DecidableEq, Repr

/-- Knobs of the search that runs while the graph is built. -/
structure ProbeConfig where
  /-- Lists that are probed. -/
  probeCount : UInt64 := 20
  deriving DecidableEq, Repr

/-- Knobs of the graph that the device builds. -/
structure GpuConfig where
  /-- Degree of the graph before it is pruned. -/
  intermediateDegree : UInt64 := 128
  /-- Degree of the pruned graph. -/
  graphDegree : UInt64 := 64
  algorithm : GraphAlgorithm := .ivfPq
  /-- Keep a copy of the dataset on the device. -/
  storeDataset : Bool := true
  /-- Ordinal of the device. -/
  device : UInt32 := 0
  clusters : ClusterConfig := {}
  probes : ProbeConfig := {}
  deriving DecidableEq, Repr

/-- Knobs of the host index that the graph is copied into. -/
structure SearchConfig where
  efSearch : UInt64 := 100
  efConstruction : UInt64 := 100
  /-- Copy the graph into the base level alone. -/
  baseLevelOnly : Bool := true
  deriving DecidableEq, Repr

/-- Everything an engine needs to know to build one index. -/
structure BuildConfig where
  metric : Metric := .l2
  gpu : GpuConfig := {}
  cpu : SearchConfig := {}
  deriving DecidableEq, Repr

/-- Inverted lists for a number of documents: one for a thousand, and at least one. -/
def derivedListCount (docCount : UInt64) : UInt64 :=
  max (docCount / 1000) 1

/-- Components of a compressed vector: a quarter of a large dimension or half of a middling one
where that divides it, else the dimension itself, and at least one. -/
def derivedCodeDimension (dimension : UInt64) : UInt64 :=
  if 32 ≤ dimension ∧ dimension % 4 = 0 then dimension / 4
  else if 16 ≤ dimension ∧ dimension % 2 = 0 then dimension / 2
  else max dimension 1

/-- A condition on a knob: the knob's name, what is said when the condition fails, and whether it
holds. -/
structure Requirement where
  field : String
  reason : String
  holds : Bool
  deriving DecidableEq, Repr

/-- The requirement that a knob is not zero. -/
def Requirement.positive (field : String) (value : UInt64) : Requirement :=
  ⟨field, "must be positive", 0 < value⟩

namespace BuildConfig

/-- The conditions on all knobs, in the order in which they are checked. -/
def requirements (c : BuildConfig) : List Requirement :=
  let clusters := c.gpu.clusters
  [ .positive "gpu.intermediate_graph_degree" c.gpu.intermediateDegree,
    .positive "gpu.graph_degree" c.gpu.graphDegree,
    ⟨"gpu.graph_degree",
      "must not exceed intermediate_graph_degree (" ++ toString c.gpu.intermediateDegree.toNat ++ ")",
      c.gpu.graphDegree ≤ c.gpu.intermediateDegree⟩,
    .positive "gpu.ivf_pq_build_params.n_lists" clusters.listCount,
    .positive "gpu.ivf_pq_build_params.kmeans_n_iters" clusters.iterations,
    .positive "gpu.ivf_pq_build_params.pq_dim" clusters.codeDimension,
    ⟨"gpu.ivf_pq_build_params.kmeans_trainset_fraction", "must be in (0, 1]",
      clusters.trainFraction.inUnitInterval⟩,
    ⟨"gpu.ivf_pq_build_params.pq_bits", "must be between 4 and 8",
      4 ≤ clusters.codeBits && clusters.codeBits ≤ 8⟩,
    .positive "gpu.ivf_pq_search_params.n_probes" c.gpu.probes.probeCount,
    .positive "cpu.ef_search" c.cpu.efSearch,
    .positive "cpu.ef_construction" c.cpu.efConstruction ]

/-- Accepts a configuration whose knobs meet every requirement, and blames the first knob that
does not. -/
def validate (c : BuildConfig) : Except BuildError Unit :=
  match c.requirements.find? fun r => !r.holds with
  | some r => .error (.configuration r.field r.reason)
  | none => .ok ()

end BuildConfig

/-! ## JSON -/

/-- A finite number, or `null` for one that JSON cannot write. -/
def Double.toJson (d : Double) : Value :=
  if d.isFinite then .float d else .null

namespace ClusterConfig

/-- The parameters of the clusters as a value. -/
def toJson (c : ClusterConfig) : Value :=
  .object
    [ ("n_lists", .word c.listCount),
      ("kmeans_n_iters", .word c.iterations),
      ("kmeans_trainset_fraction", c.trainFraction.toJson),
      ("pq_bits", .int c.codeBits.toNat),
      ("pq_dim", .word c.codeDimension),
      ("conservative_memory_allocation", .bool c.conservativeMemory) ]

/-- Reads the parameters of the clusters, all of which have to be there. -/
def ofJson? : Decoder ClusterConfig := fun v => do
  let fields ← Json.fields?
    ["n_lists", "kmeans_n_iters", "kmeans_trainset_fraction", "pq_bits", "pq_dim",
      "conservative_memory_allocation"] false v
  let listCount ← fields.required "n_lists" .word
  let iterations ← fields.required "kmeans_n_iters" .word
  let trainFraction ← fields.required "kmeans_trainset_fraction" .double
  let codeBits ← fields.required "pq_bits" .word32
  let codeDimension ← fields.required "pq_dim" .word
  let conservativeMemory ← fields.required "conservative_memory_allocation" .bool
  return { listCount, iterations, trainFraction, codeBits, codeDimension, conservativeMemory }

end ClusterConfig

namespace ProbeConfig

/-- The parameters of the probes as a value. -/
def toJson (c : ProbeConfig) : Value :=
  .object [("n_probes", .word c.probeCount)]

/-- Reads the parameters of the probes, all of which have to be there. -/
def ofJson? : Decoder ProbeConfig := fun v => do
  let fields ← Json.fields? ["n_probes"] false v
  let probeCount ← fields.required "n_probes" .word
  return { probeCount }

end ProbeConfig

namespace GpuConfig

/-- The part for the device as a value. -/
def toJson (c : GpuConfig) : Value :=
  .object
    [ ("intermediate_graph_degree", .word c.intermediateDegree),
      ("graph_degree", .word c.graphDegree),
      ("graph_build_algo", .string c.algorithm.name),
      ("store_dataset", .bool c.storeDataset),
      ("device", .int c.device.toNat),
      ("ivf_pq_build", c.clusters.toJson),
      ("ivf_pq_search", c.probes.toJson) ]

/-- Reads the part for the device, all of whose parameters have to be there. -/
def ofJson? : Decoder GpuConfig := fun v => do
  let fields ← Json.fields?
    ["intermediate_graph_degree", "graph_degree", "graph_build_algo", "store_dataset", "device",
      "ivf_pq_build", "ivf_pq_search"] false v
  let intermediateDegree ← fields.required "intermediate_graph_degree" .word
  let graphDegree ← fields.required "graph_degree" .word
  let algorithm ← fields.required "graph_build_algo" (.choice GraphAlgorithm.table)
  let storeDataset ← fields.required "store_dataset" .bool
  let device ← fields.required "device" .word32
  let clusters ← fields.required "ivf_pq_build" ClusterConfig.ofJson?
  let probes ← fields.required "ivf_pq_search" ProbeConfig.ofJson?
  return { intermediateDegree, graphDegree, algorithm, storeDataset, device, clusters, probes }

end GpuConfig

namespace SearchConfig

/-- The part for the host as a value. -/
def toJson (c : SearchConfig) : Value :=
  .object
    [ ("ef_search", .word c.efSearch),
      ("ef_construction", .word c.efConstruction),
      ("base_level_only", .bool c.baseLevelOnly) ]

/-- Reads the part for the host, all of whose parameters have to be there. -/
def ofJson? : Decoder SearchConfig := fun v => do
  let fields ← Json.fields? ["ef_search", "ef_construction", "base_level_only"] false v
  let efSearch ← fields.required "ef_search" .word
  let efConstruction ← fields.required "ef_construction" .word
  let baseLevelOnly ← fields.required "base_level_only" .bool
  return { efSearch, efConstruction, baseLevelOnly }

end SearchConfig

namespace BuildConfig

/-- A configuration as a value. -/
def toJson (c : BuildConfig) : Value :=
  .object
    [ ("metric", .string c.metric.name), ("gpu", c.gpu.toJson), ("cpu", c.cpu.toJson) ]

/-- Reads a configuration, all of whose parts have to be there. -/
def ofJson? : Decoder BuildConfig := fun v => do
  let fields ← Json.fields? ["metric", "gpu", "cpu"] false v
  let metric ← fields.required "metric" (.choice Metric.table)
  let gpu ← fields.required "gpu" GpuConfig.ofJson?
  let cpu ← fields.required "cpu" SearchConfig.ofJson?
  return { metric, gpu, cpu }

/-! ## Flat views -/

/-- The device knobs under the dotted names that overrides use. -/
def gpuFlat (c : BuildConfig) : List (String × Value) :=
  let clusters := c.gpu.clusters
  [ ("device", .int c.gpu.device.toNat),
    ("graph_build_algo", .string c.gpu.algorithm.name),
    ("graph_degree", .word c.gpu.graphDegree),
    ("intermediate_graph_degree", .word c.gpu.intermediateDegree),
    ("ivf_pq_build_params.conservative_memory_allocation", .bool clusters.conservativeMemory),
    ("ivf_pq_build_params.kmeans_n_iters", .word clusters.iterations),
    ("ivf_pq_build_params.kmeans_trainset_fraction", clusters.trainFraction.toJson),
    ("ivf_pq_build_params.n_lists", .word clusters.listCount),
    ("ivf_pq_build_params.pq_bits", .int clusters.codeBits.toNat),
    ("ivf_pq_build_params.pq_dim", .word clusters.codeDimension),
    ("ivf_pq_search_params.n_probes", .word c.gpu.probes.probeCount),
    ("store_dataset", .bool c.gpu.storeDataset) ]

/-- The host knobs under the names that overrides use. -/
def cpuFlat (c : BuildConfig) : List (String × Value) :=
  [ ("base_level_only", .bool c.cpu.baseLevelOnly),
    ("ef_construction", .word c.cpu.efConstruction),
    ("ef_search", .word c.cpu.efSearch) ]

end BuildConfig

end VectorIndex
