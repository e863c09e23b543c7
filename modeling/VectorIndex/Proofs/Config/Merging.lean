import VectorIndex.Config.Assembly
import VectorIndex.Proofs.Results

/-!
# Merged configurations

`Overrides.merged` is the configuration that overrides leave, with derived values and defaults for
the knobs that are open.  Assembly gives it whenever the names and the ordinal among the overrides
mean something and all knobs are in their ranges (`Overrides.assemble_eq_ok`), and
`BuildConfig.validate_eq_ok_iff` lists the ranges.  The derived values are always within theirs.
-/

set_option autoImplicit false

namespace VectorIndex

/-! ## Ranges -/

/-- All knobs are in their ranges. -/
structure BuildConfig.InRange (c : BuildConfig) : Prop where
  graphDegree : 0 < c.gpu.graphDegree
  graphDegree_le : c.gpu.graphDegree ≤ c.gpu.intermediateDegree
  listCount : 0 < c.gpu.clusters.listCount
  iterations : 0 < c.gpu.clusters.iterations
  codeDimension : 0 < c.gpu.clusters.codeDimension
  trainFraction : c.gpu.clusters.trainFraction.inUnitInterval = true
  four_le_codeBits : 4 ≤ c.gpu.clusters.codeBits
  codeBits_le : c.gpu.clusters.codeBits ≤ 8
  probeCount : 0 < c.gpu.probes.probeCount
  efSearch : 0 < c.cpu.efSearch
  efConstruction : 0 < c.cpu.efConstruction

/-- A configuration is accepted when its knobs are in their ranges, and then only. -/
theorem BuildConfig.validate_eq_ok_iff {c : BuildConfig} : c.validate = .ok () ↔ c.InRange := by
  have hall : c.validate = .ok () ↔ ∀ q ∈ c.requirements, q.holds = true := by
    unfold validate
    split
    · next q hq =>
      refine ⟨nofun, fun hall => ?_⟩
      have hfails := List.find?_some hq
      rw [hall q (List.mem_of_find?_eq_some hq)] at hfails
      cases hfails
    · next hnone =>
      refine ⟨fun _ q hq => ?_, fun _ => rfl⟩
      simpa using List.find?_eq_none.1 hnone q hq
  rw [hall]
  simp only [requirements, Requirement.positive, List.forall_mem_cons, List.not_mem_nil,
    false_imp_iff, implies_true, and_true, decide_eq_true_eq, Bool.and_eq_true]
  constructor
  · rintro ⟨-, h₁, h₂, h₃, h₄, h₅, h₆, ⟨h₇, h₈⟩, h₉, h₁₀, h₁₁⟩
    exact ⟨h₁, h₂, h₃, h₄, h₅, h₆, h₇, h₈, h₉, h₁₀, h₁₁⟩
  · intro h
    have hwide : 0 < c.gpu.intermediateDegree := by
      have hpos := h.graphDegree
      have hle := h.graphDegree_le
      rw [UInt64.lt_iff_toNat_lt] at hpos ⊢
      rw [UInt64.le_iff_toNat_le] at hle
      omega
    exact ⟨hwide, h.graphDegree, h.graphDegree_le, h.listCount, h.iterations, h.codeDimension,
      h.trainFraction, ⟨h.four_le_codeBits, h.codeBits_le⟩, h.probeCount, h.efSearch,
      h.efConstruction⟩

/-! ## Derived values -/

/-- The larger of two machine numbers is the larger one as a number. -/
theorem toNat_max (a b : UInt64) : (max a b).toNat = max a.toNat b.toNat := by
  change (if a ≤ b then b else a).toNat = if a.toNat ≤ b.toNat then b.toNat else a.toNat
  by_cases h : a ≤ b
  · rw [if_pos h, if_pos (UInt64.le_iff_toNat_le.1 h)]
  · rw [if_neg h, if_neg (mt UInt64.le_iff_toNat_le.2 h)]

/-- The derived number of lists is positive and passes the number of documents at most for an empty
shape. -/
theorem derivedListCount_bounds (docCount : UInt64) :
    1 ≤ (derivedListCount docCount).toNat ∧
      (derivedListCount docCount).toNat ≤ max 1 docCount.toNat := by
  have hcount : (derivedListCount docCount).toNat = max (docCount.toNat / 1000) 1 := by
    unfold derivedListCount
    rw [toNat_max, UInt64.toNat_div]
    rfl
  rw [hcount]
  omega

/-- A word divides another one into a positive number of parts. -/
theorem toNat_div_of_mod_eq_zero {n k : UInt64} (hk : 0 < k.toNat) (hle : k.toNat ≤ n.toNat)
    (h : n % k = 0) : 1 ≤ (n / k).toNat ∧ (n / k).toNat ∣ n.toNat := by
  have hmod : n.toNat % k.toNat = 0 := by
    rw [← UInt64.toNat_mod, h]
    rfl
  rw [UInt64.toNat_div]
  exact ⟨Nat.div_pos hle hk, Nat.div_dvd_of_dvd (Nat.dvd_of_mod_eq_zero hmod)⟩

/-- The derived number of components divides the dimension, so that all parts of a vector have the
same length. -/
theorem derivedCodeDimension_spec (dimension : UInt64) :
    1 ≤ (derivedCodeDimension dimension).toNat ∧
      (derivedCodeDimension dimension).toNat ∣ dimension.toNat := by
  unfold derivedCodeDimension
  split
  · next h =>
    have hlarge : 32 ≤ dimension.toNat := UInt64.le_iff_toNat_le.1 h.1
    apply toNat_div_of_mod_eq_zero (by decide) _ h.2
    change 4 ≤ dimension.toNat
    omega
  · split
    · next h =>
      have hlarge : 16 ≤ dimension.toNat := UInt64.le_iff_toNat_le.1 h.1
      apply toNat_div_of_mod_eq_zero (by decide) _ h.2
      change 2 ≤ dimension.toNat
      omega
    · rw [toNat_max]
      change 1 ≤ max dimension.toNat 1 ∧ max dimension.toNat 1 ∣ dimension.toNat
      refine ⟨Nat.le_max_right .., ?_⟩
      cases hdimension : dimension.toNat with
      | zero => exact Nat.dvd_zero _
      | succ n =>
        have hmax : n + 1 = max (n + 1) 1 * 1 := by omega
        exact ⟨1, hmax⟩

/-! ## Open knobs -/

namespace Overrides

/-- What overrides make of the knobs, once the metric, the algorithm and the device are known. -/
def merged (o : Overrides) (shape : BuildShape) (metric : Metric) (algorithm : GraphAlgorithm)
    (device : UInt32) : BuildConfig :=
  let gpu := o.gpu.getD {}
  { metric
    gpu := {
      intermediateDegree := gpu.intermediateDegree.getD 128
      graphDegree := gpu.graphDegree.getD 64
      algorithm
      storeDataset := gpu.storeDataset.getD true
      device
      clusters := clusterConfig (gpu.clusters.getD {}) shape
      probes := { probeCount := (gpu.probes.getD {}).probeCount.getD 20 } }
    cpu := searchConfig (o.cpu.getD {}) }

variable {o : Overrides} {shape : BuildShape} {metric : Metric} {algorithm : GraphAlgorithm}
  {device : UInt32}

/-- The part for the device is what was merged, once its algorithm and its device are read. -/
theorem gpuConfig_eq_ok
    (halgorithm : (match (o.gpu.getD {}).algorithm with
      | some name => GraphAlgorithm.ofName name
      | none => .ok .ivfPq) = .ok algorithm)
    (hdevice : deviceOrdinal (o.gpu.getD {}).device = .ok device) :
    gpuConfig (o.gpu.getD {}) shape = .ok (o.merged shape metric algorithm device).gpu := by
  unfold gpuConfig
  cases hname : (o.gpu.getD {}).algorithm with
  | none =>
    rw [hname] at halgorithm
    cases halgorithm
    rw [hdevice]
    rfl
  | some name =>
    rw [hname] at halgorithm
    have hfound : GraphAlgorithm.ofName name = .ok algorithm := halgorithm
    rw [hdevice]
    dsimp only
    rw [hfound]
    rfl

/-- Assembly merges the overrides and checks the ranges. -/
theorem assemble_eq_ok
    (hmetric : (match o.metric with
      | some name => Metric.ofName name
      | none => .ok shape.metric) = .ok metric)
    (halgorithm : (match (o.gpu.getD {}).algorithm with
      | some name => GraphAlgorithm.ofName name
      | none => .ok .ivfPq) = .ok algorithm)
    (hdevice : deviceOrdinal (o.gpu.getD {}).device = .ok device)
    (hranges : (o.merged shape metric algorithm device).InRange) :
    o.assemble shape = .ok (o.merged shape metric algorithm device) := by
  have hgpu : gpuConfig (o.gpu.getD {}) shape = .ok (o.merged shape metric algorithm device).gpu :=
    gpuConfig_eq_ok halgorithm hdevice
  have hvalid := BuildConfig.validate_eq_ok_iff.2 hranges
  have hrest : (do
      let gpu ← gpuConfig (o.gpu.getD {}) shape
      let config : BuildConfig := { metric, gpu, cpu := searchConfig (o.cpu.getD {}) }
      config.validate
      return config) = Except.ok (ε := BuildError) (o.merged shape metric algorithm device) := by
    rw [hgpu]
    change ((o.merged shape metric algorithm device).validate >>= fun _ =>
      Except.ok (o.merged shape metric algorithm device)) = _
    rw [hvalid]
    rfl
  unfold assemble
  cases hname : o.metric with
  | none =>
    rw [hname] at hmetric
    cases hmetric
    exact hrest
  | some name =>
    rw [hname] at hmetric
    have hfound : Metric.ofName name = .ok metric := hmetric
    dsimp only
    rw [hfound]
    exact hrest

end Overrides

end VectorIndex
