import VectorIndex.Proofs.Config.Merging
import VectorIndex.Proofs.Vocabulary

/-!
# One knob at a time

`Knob` lists the knobs of a build.  Overrides choose some of them (`Overrides.choice`), an assembled
configuration has a value for each (`BuildConfig.value`), and the two differ in type where a choice
is a name or a signed number.  `Knob.Settled` is the rule that leads from one to the other: what was
chosen, else what the shape of the dataset suggests, else the default.

`Overrides.assemble_cases` says all that assembly does: either it blames a knob whose choice means
nothing, or every knob is settled and the configuration is checked.
-/

set_option autoImplicit false

namespace VectorIndex

/-- The knobs of a build. -/
inductive Knob where
  | metric
  | intermediateDegree
  | graphDegree
  | algorithm
  | storeDataset
  | device
  | listCount
  | iterations
  | trainFraction
  | codeBits
  | codeDimension
  | conservativeMemory
  | probeCount
  | efSearch
  | efConstruction
  | baseLevelOnly
  deriving DecidableEq, Repr

namespace Knob

/-- The name by which a knob is blamed. -/
def field : Knob → String
  | metric => "metric"
  | intermediateDegree => "gpu.intermediate_graph_degree"
  | graphDegree => "gpu.graph_degree"
  | algorithm => "gpu.graph_build_algo"
  | storeDataset => "gpu.store_dataset"
  | device => "gpu.device"
  | listCount => "gpu.ivf_pq_build_params.n_lists"
  | iterations => "gpu.ivf_pq_build_params.kmeans_n_iters"
  | trainFraction => "gpu.ivf_pq_build_params.kmeans_trainset_fraction"
  | codeBits => "gpu.ivf_pq_build_params.pq_bits"
  | codeDimension => "gpu.ivf_pq_build_params.pq_dim"
  | conservativeMemory => "gpu.ivf_pq_build_params.conservative_memory_allocation"
  | probeCount => "gpu.ivf_pq_search_params.n_probes"
  | efSearch => "cpu.ef_search"
  | efConstruction => "cpu.ef_construction"
  | baseLevelOnly => "cpu.base_level_only"

/-- What a caller gives to choose a knob. -/
abbrev Choice : Knob → Type
  | metric | algorithm => String
  | device => Int64
  | trainFraction => Double
  | codeBits => UInt32
  | storeDataset | conservativeMemory | baseLevelOnly => Bool
  | intermediateDegree | graphDegree | listCount | iterations | codeDimension | probeCount
  | efSearch | efConstruction => UInt64

/-- What an engine is given. -/
abbrev Value : Knob → Type
  | metric => Metric
  | algorithm => GraphAlgorithm
  | device => UInt32
  | trainFraction => Double
  | codeBits => UInt32
  | storeDataset | conservativeMemory | baseLevelOnly => Bool
  | intermediateDegree | graphDegree | listCount | iterations | codeDimension | probeCount
  | efSearch | efConstruction => UInt64

/-- A choice and the value that it means: a name stands for what has that name, a signed number for
the same number, and everything else for itself. -/
def Means : (k : Knob) → k.Choice → k.Value → Prop
  | metric, name, v => v.name = name
  | algorithm, name, v => v.name = name
  | device, number, v => (v.toNat : Int) = number.toInt
  | trainFraction, choice, v => v = choice
  | codeBits, choice, v => v = choice
  | storeDataset, choice, v | conservativeMemory, choice, v | baseLevelOnly, choice, v => v = choice
  | intermediateDegree, choice, v | graphDegree, choice, v | listCount, choice, v
  | iterations, choice, v | codeDimension, choice, v | probeCount, choice, v
  | efSearch, choice, v | efConstruction, choice, v => v = choice

end Knob

/-- What overrides choose for a knob.  A subtree that is absent chooses nothing. -/
def Overrides.choice (o : Overrides) : (k : Knob) → Option k.Choice
  | .metric => o.metric
  | .intermediateDegree => (o.gpu.getD {}).intermediateDegree
  | .graphDegree => (o.gpu.getD {}).graphDegree
  | .algorithm => (o.gpu.getD {}).algorithm
  | .storeDataset => (o.gpu.getD {}).storeDataset
  | .device => (o.gpu.getD {}).device
  | .listCount => ((o.gpu.getD {}).clusters.getD {}).listCount
  | .iterations => ((o.gpu.getD {}).clusters.getD {}).iterations
  | .trainFraction => ((o.gpu.getD {}).clusters.getD {}).trainFraction
  | .codeBits => ((o.gpu.getD {}).clusters.getD {}).codeBits
  | .codeDimension => ((o.gpu.getD {}).clusters.getD {}).codeDimension
  | .conservativeMemory => ((o.gpu.getD {}).clusters.getD {}).conservativeMemory
  | .probeCount => ((o.gpu.getD {}).probes.getD {}).probeCount
  | .efSearch => (o.cpu.getD {}).efSearch
  | .efConstruction => (o.cpu.getD {}).efConstruction
  | .baseLevelOnly => (o.cpu.getD {}).baseLevelOnly

/-- The value of a knob in a configuration. -/
def BuildConfig.value (c : BuildConfig) : (k : Knob) → k.Value
  | .metric => c.metric
  | .intermediateDegree => c.gpu.intermediateDegree
  | .graphDegree => c.gpu.graphDegree
  | .algorithm => c.gpu.algorithm
  | .storeDataset => c.gpu.storeDataset
  | .device => c.gpu.device
  | .listCount => c.gpu.clusters.listCount
  | .iterations => c.gpu.clusters.iterations
  | .trainFraction => c.gpu.clusters.trainFraction
  | .codeBits => c.gpu.clusters.codeBits
  | .codeDimension => c.gpu.clusters.codeDimension
  | .conservativeMemory => c.gpu.clusters.conservativeMemory
  | .probeCount => c.gpu.probes.probeCount
  | .efSearch => c.cpu.efSearch
  | .efConstruction => c.cpu.efConstruction
  | .baseLevelOnly => c.cpu.baseLevelOnly

/-- What the shape of a dataset suggests for a knob. -/
def BuildShape.derived (shape : BuildShape) : (k : Knob) → Option k.Value
  | .metric => some shape.metric
  | .listCount => some (derivedListCount shape.docCount)
  | .codeDimension => some (derivedCodeDimension shape.dimension)
  | _ => none

/-- The value of a knob is the one that was chosen, else the one that the shape suggests, else the
default. -/
def Knob.Settled (k : Knob) (shape : BuildShape) (choice : Option k.Choice) (v : k.Value) : Prop :=
  match choice with
  | some c => k.Means c v
  | none => v = (shape.derived k).getD (({} : BuildConfig).value k)

/-- The value that a knob takes under overrides. -/
def Overrides.Takes (o : Overrides) (shape : BuildShape) (k : Knob) (v : k.Value) : Prop :=
  k.Settled shape (o.choice k) v

/-! ## Settled knobs -/

/-- Metrics with the same name are the same. -/
theorem Metric.name_inj {m m' : Metric} (h : m.name = m'.name) : m = m' :=
  Option.some.inj (by rw [← Metric.lookup_name m, h, Metric.lookup_name])

/-- Graph algorithms with the same name are the same. -/
theorem GraphAlgorithm.name_inj {a a' : GraphAlgorithm} (h : a.name = a'.name) : a = a' :=
  Option.some.inj (by rw [← GraphAlgorithm.lookup_name a, h, GraphAlgorithm.lookup_name])

/-- A choice means one value at most. -/
theorem Knob.Means.unique {k : Knob} {choice : k.Choice} {v w : k.Value} (hv : k.Means choice v)
    (hw : k.Means choice w) : v = w := by
  cases k with
  | metric => exact Metric.name_inj (Eq.trans hv (Eq.symm hw))
  | algorithm => exact GraphAlgorithm.name_inj (Eq.trans hv (Eq.symm hw))
  | device => exact UInt32.toNat_inj.1 (Int.ofNat.inj (Eq.trans hv (Eq.symm hw)))
  | _ => exact Eq.trans hv (Eq.symm hw)

/-- A choice settles a knob on one value at most. -/
theorem Knob.Settled.unique {k : Knob} {shape : BuildShape} {choice : Option k.Choice}
    {v w : k.Value} (hv : k.Settled shape choice v) (hw : k.Settled shape choice w) : v = w := by
  cases choice with
  | none => exact Eq.trans hv (Eq.symm hw)
  | some c => exact Knob.Means.unique hv hw

/-! ## Assembly -/

/-- A choice is read: either the knob is settled, or the choice means nothing and the knob is
blamed. -/
def Knob.Read (k : Knob) (shape : BuildShape) (choice : Option k.Choice) :
    Except BuildError k.Value → Prop
  | .ok v => k.Settled shape choice v
  | .error e => ∃ c reason, choice = some c ∧ (∀ v, ¬ k.Means c v) ∧
      e = .configuration k.field reason

/-- A knob is settled by the derived or default value if nothing was chosen, and else by what the
choice means. -/
theorem Knob.Settled.intro {k : Knob} {shape : BuildShape} {choice : Option k.Choice} {v : k.Value}
    (hnone : choice = none → v = (shape.derived k).getD (({} : BuildConfig).value k))
    (hsome : ∀ c, choice = some c → k.Means c v) : k.Settled shape choice v := by
  cases choice with
  | none => exact hnone rfl
  | some c => exact hsome c rfl

namespace Overrides

variable (shape : BuildShape)

/-- The metric that a choice leads to. -/
def chosenMetric : Option String → Except BuildError Metric
  | some name => Metric.ofName name
  | none => .ok shape.metric

/-- The algorithm that a choice leads to. -/
def chosenAlgorithm : Option String → Except BuildError GraphAlgorithm
  | some name => GraphAlgorithm.ofName name
  | none => .ok .ivfPq

/-- The metric is read as the knob asks for. -/
theorem read_metric (choice : Option String) :
    Knob.metric.Read shape choice (chosenMetric shape choice) := by
  cases choice with
  | none => exact rfl
  | some name =>
    dsimp only [chosenMetric, Metric.ofName]
    cases hname : Metric.table.lookup name with
    | some m =>
      have hm : m.name = name := name_of_lookup hname
      exact hm
    | none =>
      suffices hmeans : ∀ m, ¬ Knob.metric.Means name m from ⟨name, _, rfl, hmeans, rfl⟩
      rintro m rfl
      cases hname.symm.trans (Metric.lookup_name m)

/-- The graph algorithm is read as the knob asks for. -/
theorem read_algorithm (choice : Option String) :
    Knob.algorithm.Read shape choice (chosenAlgorithm choice) := by
  cases choice with
  | none => exact rfl
  | some name =>
    dsimp only [chosenAlgorithm, GraphAlgorithm.ofName]
    cases hname : GraphAlgorithm.table.lookup name with
    | some a =>
      have ha : a.name = name := name_of_lookup hname
      exact ha
    | none =>
      suffices hmeans : ∀ a, ¬ Knob.algorithm.Means name a from ⟨name, _, rfl, hmeans, rfl⟩
      rintro a rfl
      cases hname.symm.trans (GraphAlgorithm.lookup_name a)

/-- Which signed numbers are ordinals. -/
theorem exists_means_device_iff (number : Int64) :
    (∃ v, Knob.device.Means number v) ↔ 0 ≤ number.toInt ∧ number.toInt < 0x100000000 := by
  constructor
  · rintro ⟨v, hv⟩
    have hv : (v.toNat : Int) = number.toInt := hv
    have hlt : v.toNat < 0x100000000 := v.toNat_lt
    omega
  · rintro ⟨hnonneg, hlt⟩
    refine ⟨UInt32.ofNat number.toInt.toNat, ?_⟩
    change ((UInt32.ofNat number.toInt.toNat).toNat : Int) = number.toInt
    have hsize : number.toInt.toNat < UInt32.size := by
      have hword : UInt32.size = 0x100000000 := rfl
      omega
    rw [UInt32.toNat_ofNat_of_lt' hsize]
    omega

/-- The device is read as the knob asks for. -/
theorem read_device (choice : Option Int64) :
    Knob.device.Read shape choice (deviceOrdinal choice) := by
  cases choice with
  | none => exact rfl
  | some number =>
    unfold deviceOrdinal
    have hordinal := exists_means_device_iff number
    dsimp only
    split
    · next hneg => exact ⟨number, _, rfl, not_exists.1 (by rw [hordinal]; omega), rfl⟩
    · next hneg =>
      split
      · next hlt =>
        obtain ⟨v, hv⟩ := hordinal.2 ⟨by omega, hlt⟩
        have hvalue : (v.toNat : Int) = number.toInt := hv
        have hread : UInt32.ofNat number.toInt.toNat = v := by
          rw [← hvalue, Int.toNat_natCast, UInt32.ofNat_toNat]
        rw [hread]
        exact hv
      · next hlarge => exact ⟨number, _, rfl, not_exists.1 (by rw [hordinal]; omega), rfl⟩

/-- Assembly reads the three knobs whose choices can be bad, merges everything and checks the
result. -/
theorem assemble_eq (o : Overrides) :
    o.assemble shape = (do
      let metric ← chosenMetric shape o.metric
      let algorithm ← chosenAlgorithm (o.gpu.getD {}).algorithm
      let device ← deviceOrdinal (o.gpu.getD {}).device
      (o.merged shape metric algorithm device).validate
      return o.merged shape metric algorithm device) := by
  unfold assemble gpuConfig chosenMetric chosenAlgorithm
  have hrest (metric : Metric) :
      (do
        let gpu ← gpuConfig (o.gpu.getD {}) shape
        let config : BuildConfig := { metric, gpu, cpu := searchConfig (o.cpu.getD {}) }
        config.validate
        return config : Except BuildError BuildConfig) = (do
        let algorithm ← chosenAlgorithm (o.gpu.getD {}).algorithm
        let device ← deviceOrdinal (o.gpu.getD {}).device
        (o.merged shape metric algorithm device).validate
        return o.merged shape metric algorithm device) := by
    unfold gpuConfig chosenAlgorithm
    generalize deviceOrdinal (o.gpu.getD {}).device = device
    cases (o.gpu.getD {}).algorithm with
    | none => cases device <;> rfl
    | some name =>
      dsimp only
      cases GraphAlgorithm.ofName name <;> cases device <;> rfl
  cases o.metric with
  | none => exact hrest shape.metric
  | some name => exact congrArg (Metric.ofName name >>= ·) (funext hrest)

/-- Assembly blames a knob whose choice means nothing, or settles every knob and checks the
configuration. -/
theorem assemble_cases (o : Overrides) :
    (∃ k c reason, o.choice k = some c ∧ (∀ v, ¬ k.Means c v) ∧
      o.assemble shape = .error (.configuration k.field reason)) ∨
    ∃ config, (∀ k, o.Takes shape k (config.value k)) ∧
      o.assemble shape = (do
        config.validate
        return config) := by
  have hmetric := read_metric shape o.metric
  have halgorithm := read_algorithm shape (o.gpu.getD {}).algorithm
  have hdevice := read_device shape (o.gpu.getD {}).device
  rw [assemble_eq]
  generalize chosenMetric shape o.metric = metric at hmetric
  generalize chosenAlgorithm (o.gpu.getD {}).algorithm = algorithm at halgorithm
  generalize deviceOrdinal (o.gpu.getD {}).device = device at hdevice
  obtain e | metric := metric
  · obtain ⟨c, reason, hc, hmeans, rfl⟩ := hmetric
    exact .inl ⟨.metric, c, reason, hc, hmeans, rfl⟩
  obtain e | algorithm := algorithm
  · obtain ⟨c, reason, hc, hmeans, rfl⟩ := halgorithm
    exact .inl ⟨.algorithm, c, reason, hc, hmeans, rfl⟩
  obtain e | device := device
  · obtain ⟨c, reason, hc, hmeans, rfl⟩ := hdevice
    exact .inl ⟨.device, c, reason, hc, hmeans, rfl⟩
  refine .inr ⟨o.merged shape metric algorithm device, ?_, rfl⟩
  intro k
  cases k with
  | metric => exact hmetric
  | algorithm => exact halgorithm
  | device => exact hdevice
  | _ =>
    -- the others have what was chosen or else what the merge puts in its place
    exact .intro (congrArg (Option.getD · _)) (fun _ => congrArg (Option.getD · _))

end Overrides

end VectorIndex
