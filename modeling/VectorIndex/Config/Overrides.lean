import VectorIndex.Config.Knobs

/-!
# Overrides

A caller may set any knob and leave the others open.  The tree of overrides has the
shape of the configuration with every leaf and every subtree optional; names that are
no knob are refused when the tree is read.
-/

set_option autoImplicit false

namespace VectorIndex

open Json (Value Decoder)

/-- Chosen knobs of the inverted lists. -/
structure ClusterOverrides where
  listCount : Option UInt64 := none
  iterations : Option UInt64 := none
  trainFraction : Option Double := none
  codeBits : Option UInt32 := none
  codeDimension : Option UInt64 := none
  conservativeMemory : Option Bool := none
  deriving DecidableEq, Repr

/-- Chosen knobs of the probing search. -/
structure ProbeOverrides where
  probeCount : Option UInt64 := none
  deriving DecidableEq, Repr

/-- Chosen knobs of the device graph.  The algorithm stays a name and the ordinal a signed number,
so that a bad one is reported as a knob out of range. -/
structure GpuOverrides where
  intermediateDegree : Option UInt64 := none
  graphDegree : Option UInt64 := none
  algorithm : Option String := none
  storeDataset : Option Bool := none
  device : Option Int64 := none
  clusters : Option ClusterOverrides := none
  probes : Option ProbeOverrides := none
  deriving DecidableEq, Repr

/-- Chosen knobs of the host index. -/
structure CpuOverrides where
  efSearch : Option UInt64 := none
  efConstruction : Option UInt64 := none
  baseLevelOnly : Option Bool := none
  deriving DecidableEq, Repr

/-- A partial configuration. -/
structure Overrides where
  gpu : Option GpuOverrides := none
  cpu : Option CpuOverrides := none
  metric : Option String := none
  deriving DecidableEq, Repr

/-- Whether no subtree is present. -/
def Overrides.isEmpty (o : Overrides) : Bool :=
  o.gpu.isNone && o.cpu.isNone && o.metric.isNone

/-! ## JSON -/

namespace ClusterOverrides

/-- The overrides for the clusters as a value. -/
def toJson (o : ClusterOverrides) : Value :=
  .object <|
    Json.member? "n_lists" .word o.listCount ++
    Json.member? "kmeans_n_iters" .word o.iterations ++
    Json.member? "kmeans_trainset_fraction" Double.toJson o.trainFraction ++
    Json.member? "pq_bits" (fun n => .int n.toNat) o.codeBits ++
    Json.member? "pq_dim" .word o.codeDimension ++
    Json.member? "conservative_memory_allocation" .bool o.conservativeMemory

/-- Reads overrides for the clusters, each of which may be missing. -/
def ofJson? : Decoder ClusterOverrides := fun v => do
  let fields ← Json.fields?
    ["n_lists", "kmeans_n_iters", "kmeans_trainset_fraction", "pq_bits", "pq_dim",
      "conservative_memory_allocation"] true v
  let listCount ← fields.option "n_lists" .word
  let iterations ← fields.option "kmeans_n_iters" .word
  let trainFraction ← fields.option "kmeans_trainset_fraction" .double
  let codeBits ← fields.option "pq_bits" .word32
  let codeDimension ← fields.option "pq_dim" .word
  let conservativeMemory ← fields.option "conservative_memory_allocation" .bool
  return { listCount, iterations, trainFraction, codeBits, codeDimension, conservativeMemory }

end ClusterOverrides

namespace ProbeOverrides

/-- The overrides for the probes as a value. -/
def toJson (o : ProbeOverrides) : Value :=
  .object (Json.member? "n_probes" .word o.probeCount)

/-- Reads overrides for the probes, each of which may be missing. -/
def ofJson? : Decoder ProbeOverrides := fun v => do
  let fields ← Json.fields? ["n_probes"] true v
  let probeCount ← fields.option "n_probes" .word
  return { probeCount }

end ProbeOverrides

namespace GpuOverrides

/-- The overrides for the device as a value. -/
def toJson (o : GpuOverrides) : Value :=
  .object <|
    Json.member? "intermediate_graph_degree" .word o.intermediateDegree ++
    Json.member? "graph_degree" .word o.graphDegree ++
    Json.member? "graph_build_algo" .string o.algorithm ++
    Json.member? "store_dataset" .bool o.storeDataset ++
    Json.member? "device" (fun n => .int n.toInt) o.device ++
    Json.member? "ivf_pq_build_params" ClusterOverrides.toJson o.clusters ++
    Json.member? "ivf_pq_search_params" ProbeOverrides.toJson o.probes

/-- Reads overrides for the device, each of which may be missing. -/
def ofJson? : Decoder GpuOverrides := fun v => do
  let fields ← Json.fields?
    ["intermediate_graph_degree", "graph_degree", "graph_build_algo", "store_dataset", "device",
      "ivf_pq_build_params", "ivf_pq_search_params"] true v
  let intermediateDegree ← fields.option "intermediate_graph_degree" .word
  let graphDegree ← fields.option "graph_degree" .word
  let algorithm ← fields.option "graph_build_algo" .string
  let storeDataset ← fields.option "store_dataset" .bool
  let device ← fields.option "device" .int64
  let clusters ← fields.option "ivf_pq_build_params" ClusterOverrides.ofJson?
  let probes ← fields.option "ivf_pq_search_params" ProbeOverrides.ofJson?
  return { intermediateDegree, graphDegree, algorithm, storeDataset, device, clusters, probes }

end GpuOverrides

namespace CpuOverrides

/-- The overrides for the host as a value. -/
def toJson (o : CpuOverrides) : Value :=
  .object <|
    Json.member? "ef_search" .word o.efSearch ++
    Json.member? "ef_construction" .word o.efConstruction ++
    Json.member? "base_level_only" .bool o.baseLevelOnly

/-- Reads overrides for the host, each of which may be missing. -/
def ofJson? : Decoder CpuOverrides := fun v => do
  let fields ← Json.fields? ["ef_search", "ef_construction", "base_level_only"] true v
  let efSearch ← fields.option "ef_search" .word
  let efConstruction ← fields.option "ef_construction" .word
  let baseLevelOnly ← fields.option "base_level_only" .bool
  return { efSearch, efConstruction, baseLevelOnly }

end CpuOverrides

namespace Overrides

/-- Overrides as a value. -/
def toJson (o : Overrides) : Value :=
  .object <|
    Json.member? "gpu_config" GpuOverrides.toJson o.gpu ++
    Json.member? "hnsw_config" CpuOverrides.toJson o.cpu ++
    Json.member? "metric" .string o.metric

/-- Reads overrides, each part of which may be missing. -/
def ofJson? : Decoder Overrides := fun v => do
  let fields ← Json.fields? ["gpu_config", "hnsw_config", "metric"] true v
  let gpu ← fields.option "gpu_config" GpuOverrides.ofJson?
  let cpu ← fields.option "hnsw_config" CpuOverrides.ofJson?
  let metric ← fields.option "metric" .string
  return { gpu, cpu, metric }

end Overrides

end VectorIndex
