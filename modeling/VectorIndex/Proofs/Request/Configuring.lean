import VectorIndex.Proofs.Config.Merging
import VectorIndex.Proofs.Request.Folding

/-!
# Requests without overrides

A request that brings no overrides is configured from its tuning, from the shape of its dataset and
from the defaults alone.  Such a configuration never fails a check
(`BuildRequest.configured_without_overrides`), provided that the degree that follows from the
connections and the one that follows from that degree are words.
-/

set_option autoImplicit false

namespace VectorIndex

/-! ## Overrides that choose degrees and search parameters alone -/

namespace Overrides

variable {o : Overrides} {shape : BuildShape}

/-- Overrides that say nothing are the empty ones. -/
theorem eq_of_isEmpty (h : o.isEmpty = true) : o = {} := by
  obtain ⟨gpu, cpu, metric⟩ := o
  cases gpu <;> cases cpu <;> cases metric <;> first | rfl | cases h

/-- Overrides of the degrees and of the effort assemble over every shape, if they are positive and
the degrees are in order. -/
theorem assemble_of_degrees {graph intermediate efSearch efConstruction : Option UInt64}
    (hgpu : o.gpu.getD {} = { graphDegree := graph, intermediateDegree := intermediate })
    (hcpu : o.cpu.getD {} = { efSearch, efConstruction }) (hmetric : o.metric = none)
    (hgraph : 0 < graph.getD 64) (hwide : graph.getD 64 ≤ intermediate.getD 128)
    (hefSearch : 0 < efSearch.getD 100) (hefConstruction : 0 < efConstruction.getD 100) :
    ∃ config, o.assemble shape = .ok config ∧ config.metric = shape.metric ∧
      config.gpu.graphDegree = graph.getD 64 ∧
      config.gpu.intermediateDegree = intermediate.getD 128 ∧
      config.gpu.clusters.codeDimension = derivedCodeDimension shape.dimension ∧
      config.gpu.clusters.listCount = derivedListCount shape.docCount ∧
      config.cpu.efSearch = efSearch.getD 100 ∧
      config.cpu.efConstruction = efConstruction.getD 100 := by
  have hclusters : (o.merged shape shape.metric .ivfPq 0).gpu.clusters = clusterConfig {} shape := by
    unfold merged
    rw [hgpu]
    rfl
  have hranges : (o.merged shape shape.metric .ivfPq 0).InRange := by
    obtain ⟨hlists, -⟩ := derivedListCount_bounds shape.docCount
    obtain ⟨hcode, -⟩ := derivedCodeDimension_spec shape.dimension
    unfold merged
    rw [hgpu, hcpu]
    exact {
      graphDegree := hgraph
      graphDegree_le := hwide
      listCount := UInt64.lt_iff_toNat_lt.2 hlists
      iterations := (by decide : (0 : UInt64) < 10)
      codeDimension := UInt64.lt_iff_toNat_lt.2 hcode
      trainFraction := (by decide : ({} : ClusterConfig).trainFraction.inUnitInterval = true)
      four_le_codeBits := (by decide : (4 : UInt32) ≤ 8)
      codeBits_le := (by decide : (8 : UInt32) ≤ 8)
      probeCount := (by decide : (0 : UInt64) < 20)
      efSearch := hefSearch
      efConstruction := hefConstruction }
  have hassemble : o.assemble shape = .ok (o.merged shape shape.metric .ivfPq 0) := by
    apply assemble_eq_ok
    · rw [hmetric]
    · rw [hgpu]
    · rw [hgpu]
      rfl
    · exact hranges
  refine ⟨_, hassemble, rfl, ?_⟩
  unfold merged
  rw [hgpu, hcpu]
  exact ⟨rfl, rfl, rfl, rfl, rfl, rfl⟩

end Overrides

/-! ## The tuning of a request -/

namespace Plan

variable {p : Plan}

/-- Without overrides the host is configured by the tuning alone. -/
theorem getD_foldedCpu (h : p.overrides = {}) :
    p.foldedCpu.getD {} =
      { efSearch := p.index.tuning.efSearch, efConstruction := p.index.tuning.efConstruction } := by
  unfold foldedCpu
  rw [h]
  generalize p.index.tuning = tuning
  obtain ⟨efConstruction, efSearch, m⟩ := tuning
  cases efConstruction <;> cases efSearch <;> rfl

/-- Degrees that are folded into no overrides suit each other. -/
theorem exists_foldedGpu (h : p.overrides = {})
    (hm : ∀ m, p.index.tuning.m = some m → 0 < m.toNat ∧ m.toNat < 0x4000000000000000) :
    ∃ gpu graph intermediate, p.foldedGpu = .ok gpu ∧
      gpu.getD {} = { graphDegree := graph, intermediateDegree := intermediate } ∧
      (∀ m, p.index.tuning.m = some m → (graph.getD 64).toNat = 2 * m.toNat) ∧
      (p.index.tuning.m = none → graph.getD 64 = 64) ∧
      0 < graph.getD 64 ∧ graph.getD 64 ≤ intermediate.getD 128 := by
  cases htuning : p.index.tuning.m with
  | none =>
    refine ⟨p.overrides.gpu, none, none, foldedGpu_of_none htuning, ?_, nofun, fun _ => rfl,
      by decide, by decide⟩
    rw [h]
    rfl
  | some m =>
    obtain ⟨hpos, hlt⟩ := hm m htuning
    have hgpu : p.overrides.gpu.getD {} = {} := by
      rw [h]
      rfl
    obtain ⟨hgrown, -⟩ | ⟨-, graph, intermediate, hfolded, hdegree, hwidened⟩ :=
      foldedGpu_spec htuning hgpu
    · exact absurd hlt (Nat.not_lt.2 hgrown)
    · have hdouble : graph.toNat = 2 * m.toNat := hdegree
      refine ⟨_, some graph, intermediate, hfolded, rfl, ?_, nofun, ?_, ?_⟩
      · rintro _ ⟨⟩
        exact hdouble
      · apply UInt64.lt_iff_toNat_lt.2
        change 0 < graph.toNat
        omega
      · apply UInt64.le_iff_toNat_le.2
        change graph.toNat ≤ (intermediate.getD 128).toNat
        have hwidened : intermediate.map UInt64.toNat =
            if 128 < 2 * m.toNat then some (2 * (2 * m.toNat)) else none := hwidened
        by_cases hnarrow : 128 < 2 * m.toNat
        · rw [if_pos hnarrow] at hwidened
          obtain ⟨wide, rfl, hwide⟩ := Option.map_eq_some_iff.1 hwidened
          change graph.toNat ≤ wide.toNat
          omega
        · rw [if_neg hnarrow] at hwidened
          rw [Option.map_eq_none_iff.1 hwidened]
          change graph.toNat ≤ 128
          omega

end Plan

namespace BuildRequest

/-- A choice that is not zero, or else a positive default, is positive. -/
theorem getD_pos {choice : Option UInt64} {default : UInt64} (hdefault : 0 < default)
    (h : choice ≠ some 0) : 0 < choice.getD default := by
  cases choice with
  | none => exact hdefault
  | some n =>
    apply UInt64.pos_iff_ne_zero.2
    rintro rfl
    exact h rfl

/-- Without overrides every dataset has a configuration, and so has every accepted request whose
connections can be quadrupled.  It follows the request and suits the dataset. -/
theorem configured_without_overrides :
    (∀ shape, ∃ config, ({} : Overrides).assemble shape = .ok config) ∧
    ∀ (r : BuildRequest) (p : Plan), r.plan = .ok p →
      (∀ o, r.overrides = some o → o.isEmpty = true) →
      (∀ m, r.index.tuning.m = some m → m.toNat < 0x4000000000000000) →
      ∃ o config, p.effectiveOverrides = .ok o ∧ o.assemble p.shape = .ok config ∧
        config.metric = r.index.metric ∧
        (∀ m, r.index.tuning.m = some m → config.gpu.graphDegree.toNat = 2 * m.toNat) ∧
        (r.index.tuning.m = none → config.gpu.graphDegree = 64) ∧
        config.gpu.graphDegree ≤ config.gpu.intermediateDegree ∧
        config.cpu.efSearch = r.index.tuning.efSearch.getD 100 ∧
        config.cpu.efConstruction = r.index.tuning.efConstruction.getD 100 ∧
        1 ≤ config.gpu.clusters.codeDimension.toNat ∧
        (config.gpu.clusters.codeDimension.toNat : Int) ∣ r.dimension.toInt ∧
        1 ≤ config.gpu.clusters.listCount.toNat ∧
        (config.gpu.clusters.listCount.toNat : Int) ≤ max 1 r.docCount.toInt := by
  constructor
  · intro shape
    obtain ⟨config, hconfig, -⟩ : ∃ config, ({} : Overrides).assemble shape = .ok config ∧ _ :=
      Overrides.assemble_of_degrees rfl rfl rfl (by decide) (by decide) (by decide) (by decide)
    exact ⟨config, hconfig⟩
  · intro r p h hempty hsmall
    have hr := accepted_of_plan h
    obtain ⟨hefConstruction, hefSearch, hm⟩ := tuned_of_plan h
    rw [← hr.index] at hefConstruction hefSearch hm hsmall ⊢
    have hnone : p.overrides = {} := by
      rw [hr.overrides]
      cases ho : r.overrides with
      | none => rfl
      | some o => exact Overrides.eq_of_isEmpty (hempty o ho)
    have hpos : ∀ m, p.index.tuning.m = some m → 0 < m.toNat ∧ m.toNat < 0x4000000000000000 := by
      intro m hsome
      refine ⟨UInt64.lt_iff_toNat_lt.1 (UInt64.pos_iff_ne_zero.2 ?_), hsmall m hsome⟩
      rintro rfl
      exact hm hsome
    obtain ⟨gpu, graph, intermediate, hfolded, hgpu, hdouble, hdefault, hgraph, hwide⟩ :=
      Plan.exists_foldedGpu hnone hpos
    obtain ⟨config, hassemble, hmetric, hdegree, hintermediate, hcode, hlists, hsearch,
        hconstruction⟩ :=
      Overrides.assemble_of_degrees (o := { p.overrides with gpu, cpu := p.foldedCpu })
        hgpu (Plan.getD_foldedCpu hnone) (by rw [hnone]) hgraph hwide
        (getD_pos (by decide) hefSearch) (getD_pos (by decide) hefConstruction)
    have hcodeDimension := derivedCodeDimension_spec p.dimension
    have hlistCount := derivedListCount_bounds p.docCount
    refine ⟨_, config, Plan.effectiveOverrides_of_foldedGpu hfolded, hassemble, hmetric, ?_, ?_, ?_,
      hsearch, hconstruction, ?_, ?_, ?_, ?_⟩
    · rw [hdegree]
      exact hdouble
    · rw [hdegree]
      exact hdefault
    · rw [hdegree, hintermediate]
      exact hwide
    · rw [hcode]
      exact hcodeDimension.1
    · rw [hcode, ← hr.dimension]
      exact Int.natCast_dvd_natCast.2 hcodeDimension.2
    · rw [hlists]
      exact hlistCount.1
    · rw [hlists, ← hr.docCount]
      have hle := hlistCount.2
      change ((derivedListCount p.docCount).toNat : Int) ≤ _
      omega

/-- The largest number of connections still makes a configuration. -/
theorem largest_connections_configured :
    ∃ p o config, (withConnections 0x3FFFFFFFFFFFFFFF none).plan = .ok p ∧
      p.effectiveOverrides = .ok o ∧ o.assemble p.shape = .ok config ∧
      config.gpu.graphDegree.toNat = 0x7FFFFFFFFFFFFFFE ∧
      config.gpu.graphDegree ≤ config.gpu.intermediateDegree := by
  have hplan : ∃ p, (withConnections 0x3FFFFFFFFFFFFFFF none).plan = .ok p := ⟨_, rfl⟩
  obtain ⟨p, hp⟩ := hplan
  have hempty : ∀ o, (withConnections 0x3FFFFFFFFFFFFFFF none).overrides = some o →
      o.isEmpty = true := by
    intro o ho
    cases ho
  have hsmall : ∀ m, (withConnections 0x3FFFFFFFFFFFFFFF none).index.tuning.m = some m →
      m.toNat < 0x4000000000000000 := by
    intro m hm
    rw [← Option.some.inj hm]
    decide
  obtain ⟨o, config, ho, hconfig, -, hdegree, -, hwide, -⟩ :=
    configured_without_overrides.2 _ p hp hempty hsmall
  exact ⟨p, o, config, hp, ho, hconfig, hdegree _ rfl, hwide⟩

end BuildRequest

end VectorIndex
