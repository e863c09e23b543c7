import VectorIndex.Config.Overrides

/-!
# Assembling a configuration

Every knob takes the caller's choice if there is one, else the value derived from the
dataset where there is such a rule, else its default.  An absent subtree counts as one
that chooses nothing.  The assembled configuration has passed validation.
-/

set_option autoImplicit false

namespace VectorIndex

/-- What the dataset and the request say about a build, apart from overrides. -/
structure BuildShape where
  docCount : UInt64
  dimension : UInt64
  metric : Metric
  deriving DecidableEq, Repr

namespace Overrides

/-- The knobs of the inverted lists; two of them follow the shape when they are left open. -/
def clusterConfig (o : ClusterOverrides) (shape : BuildShape) : ClusterConfig :=
  let default : ClusterConfig := {}
  { listCount := o.listCount.getD (derivedListCount shape.docCount)
    iterations := o.iterations.getD default.iterations
    trainFraction := o.trainFraction.getD default.trainFraction
    codeBits := o.codeBits.getD default.codeBits
    codeDimension := o.codeDimension.getD (derivedCodeDimension shape.dimension)
    conservativeMemory := o.conservativeMemory.getD default.conservativeMemory }

/-- The knobs of the host index. -/
def searchConfig (o : CpuOverrides) : SearchConfig :=
  let default : SearchConfig := {}
  { efSearch := o.efSearch.getD default.efSearch
    efConstruction := o.efConstruction.getD default.efConstruction
    baseLevelOnly := o.baseLevelOnly.getD default.baseLevelOnly }

/-- The device ordinal: not negative and within 32 bits. -/
def deviceOrdinal : Option Int64 → Except BuildError UInt32
  | none => .ok ({} : GpuConfig).device
  | some d =>
    if d.toInt < 0 then .error (.configuration "gpu.device" "must be non-negative")
    else if d.toInt < 0x100000000 then .ok (UInt32.ofNat d.toInt.toNat)
    else .error (.configuration "gpu.device" "out of range")

/-- The knobs of the device graph. -/
def gpuConfig (o : GpuOverrides) (shape : BuildShape) : Except BuildError GpuConfig := do
  let default : GpuConfig := {}
  let algorithm ← match o.algorithm with
    | some name => GraphAlgorithm.ofName name
    | none => .ok default.algorithm
  let device ← deviceOrdinal o.device
  return {
    intermediateDegree := o.intermediateDegree.getD default.intermediateDegree
    graphDegree := o.graphDegree.getD default.graphDegree
    algorithm
    storeDataset := o.storeDataset.getD default.storeDataset
    device
    clusters := clusterConfig (o.clusters.getD {}) shape
    probes := { probeCount := (o.probes.getD {}).probeCount.getD default.probes.probeCount } }

/-- The complete, validated configuration for a dataset of the given shape. -/
def assemble (o : Overrides) (shape : BuildShape) : Except BuildError BuildConfig := do
  let metric ← match o.metric with
    | some name => Metric.ofName name
    | none => .ok shape.metric
  let gpu ← gpuConfig (o.gpu.getD {}) shape
  let config : BuildConfig := { metric, gpu, cpu := searchConfig (o.cpu.getD {}) }
  config.validate
  return config

end Overrides

end VectorIndex
