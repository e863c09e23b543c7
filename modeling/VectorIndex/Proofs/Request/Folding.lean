import VectorIndex.Proofs.Request.Acceptance

/-!
# Folding the tuning of a request into its overrides

The connections of a node, when a request gives them, are folded into the device overrides: the
degree of the pruned graph is twice their number, and the graph that is pruned gets twice that
degree when the default is too narrow.  `Plan.foldedGpu_spec` gives the folded knobs as natural
numbers, or says that a product has outgrown its word (`GpuOverrides.Outgrows`).

No check of a request keeps the connections small.  `BuildRequest.folds_unless_outgrown` says for
which accepted requests the computation breaks off, and `BuildRequest.chosen_degree_breaks_off`
shows one among them that has chosen its degree: twice the connections is computed and not used.
-/

set_option autoImplicit false

namespace VectorIndex

namespace Plan

/-- A number of the lower half can be doubled. -/
theorem double_of_lt {n : UInt64} (h : n.toNat < 0x8000000000000000) :
    ∃ d, double n = .ok d ∧ d.toNat = 2 * n.toNat := by
  have hfits : Word.mul? 2 n ≠ none := by
    intro hnone
    have hlarge : 0x10000000000000000 ≤ 2 * n.toNat := Word.mul?_eq_none_iff.1 hnone
    omega
  obtain ⟨d, hd⟩ := Option.ne_none_iff_exists'.1 hfits
  refine ⟨d, ?_, (Word.mul?_eq_some_iff.1 hd).symm⟩
  unfold double
  rw [hd]

/-- A number of the upper half cannot be doubled. -/
theorem double_of_le {n : UInt64} (h : 0x8000000000000000 ≤ n.toNat) :
    double n = .error .overflow := by
  have hnone : Word.mul? 2 n = none := by
    apply Word.mul?_eq_none_iff.2
    change 0x10000000000000000 ≤ 2 * n.toNat
    omega
  unfold double
  rw [hnone]

end Plan

/-! ## Folded degrees -/

namespace GpuOverrides

/-- The degree of the pruned graph: the chosen one, or twice the connections of a node. -/
def prunedDegree (gpu : GpuOverrides) (m : UInt64) : Nat :=
  match gpu.graphDegree with
  | some degree => degree.toNat
  | none => 2 * m.toNat

/-- The degree of the graph that is pruned, where it does not have its default: the chosen one, or
twice the degree of a pruned graph that would be wider than the default. -/
def widenedDegree? (gpu : GpuOverrides) (m : UInt64) : Option Nat :=
  match gpu.intermediateDegree with
  | some degree => some degree.toNat
  | none => if 128 < gpu.prunedDegree m then some (2 * gpu.prunedDegree m) else none

/-- A product that is computed for the folding needs more than 64 bits.  Twice the connections is
computed unless both degrees are chosen, and twice the degree of the pruned graph unless the degree
of the other graph is chosen. -/
def Outgrows (gpu : GpuOverrides) (m : UInt64) : Prop :=
  match gpu.graphDegree, gpu.intermediateDegree with
  | some _, some _ => False
  | none, some _ => 0x8000000000000000 ≤ m.toNat
  | some degree, none => 0x8000000000000000 ≤ m.toNat ∨ 0x8000000000000000 ≤ degree.toNat
  | none, none => 0x4000000000000000 ≤ m.toNat

/-- The overrides with both degrees put in. -/
def withDegrees (gpu : GpuOverrides) (graph : UInt64) (intermediate : Option UInt64) :
    GpuOverrides :=
  { gpu with graphDegree := some graph, intermediateDegree := intermediate }

end GpuOverrides

namespace Plan

/-- The degree of the graph that is pruned, when it is left open: twice the degree of a pruned graph
that would be wider than the default.  Twice the connections is computed as well. -/
def widen (m graph : UInt64) : Except Abort (Option UInt64) := do
  let _ ← double m
  if ({} : GpuConfig).intermediateDegree < graph then some <$> double graph else .ok none

/-- Widening breaks off as soon as one of its factors is in the upper half, even if the product is
not needed. -/
theorem widen_of_le {m graph : UInt64}
    (h : 0x8000000000000000 ≤ m.toNat ∨ 0x8000000000000000 ≤ graph.toNat) :
    widen m graph = .error .overflow := by
  unfold widen
  by_cases hm : 0x8000000000000000 ≤ m.toNat
  · rw [double_of_le hm]
    rfl
  · obtain ⟨d, hd, -⟩ := double_of_lt (n := m) (by omega)
    have hgraph : 0x8000000000000000 ≤ graph.toNat := h.resolve_left hm
    have hwide : (128 : UInt64) < graph := by
      rw [UInt64.lt_iff_toNat_lt]
      change 128 < graph.toNat
      omega
    rw [hd, double_of_le hgraph]
    exact if_pos hwide

/-- Widening a number of the lower half doubles the degree where that is above the default. -/
theorem exists_widen {m graph : UInt64} (hm : m.toNat < 0x8000000000000000)
    (hgraph : graph.toNat < 0x8000000000000000) :
    ∃ intermediate, widen m graph = .ok intermediate ∧
      intermediate.map UInt64.toNat =
        if 128 < graph.toNat then some (2 * graph.toNat) else none := by
  obtain ⟨d, hd, -⟩ := double_of_lt hm
  obtain ⟨wide, hwide, hvalue⟩ := double_of_lt hgraph
  have hless : ({} : GpuConfig).intermediateDegree < graph ↔ 128 < graph.toNat :=
    UInt64.lt_iff_toNat_lt
  unfold widen
  rw [hd, hwide]
  by_cases hnarrow : 128 < graph.toNat
  · refine ⟨some wide, if_pos (hless.2 hnarrow), ?_⟩
    rw [if_pos hnarrow, Option.map_some, hvalue]
  · refine ⟨none, if_neg (mt hless.1 hnarrow), ?_⟩
    rw [if_neg hnarrow, Option.map_none]

variable {p : Plan} {m : UInt64}

/-- Without connections nothing is folded into the device overrides. -/
theorem foldedGpu_of_none (hm : p.index.tuning.m = none) : p.foldedGpu = .ok p.overrides.gpu := by
  unfold foldedGpu
  rw [hm]

/-- The two degrees are found one after the other. -/
theorem foldedGpu_eq_bind (hm : p.index.tuning.m = some m) {gpu : GpuOverrides}
    (hgpu : p.overrides.gpu.getD {} = gpu) :
    p.foldedGpu = (do
      let graph ← match gpu.graphDegree with
        | some d => .ok d
        | none => double m
      let intermediate ← match gpu.intermediateDegree with
        | some d => .ok (some d)
        | none => widen m graph
      return some (gpu.withDegrees graph intermediate)) := by
  have hpass : ∀ graph : UInt64, (do
      let _ ← double m
      if ({} : GpuConfig).intermediateDegree < graph then
        let intermediate ← some <$> double graph
        return some (gpu.withDegrees graph intermediate)
      else return some (gpu.withDegrees graph none)) = (do
      let intermediate ← widen m graph
      return some (gpu.withDegrees graph intermediate)) := by
    intro graph
    unfold widen
    cases double m with
    | error reason => rfl
    | ok d =>
      simp only [bind, Except.bind]
      split <;> rfl
  unfold foldedGpu
  rw [hm]
  dsimp only
  rw [hgpu]
  cases hgraph : gpu.graphDegree with
  | some graph =>
    cases hintermediate : gpu.intermediateDegree with
    | some intermediate => rfl
    | none => exact hpass graph
  | none =>
    cases hintermediate : gpu.intermediateDegree with
    | some intermediate => rfl
    | none => exact congrArg (double m >>= ·) (funext hpass)

/-- The folded device overrides, unless a product outgrows its word. -/
theorem foldedGpu_spec (hm : p.index.tuning.m = some m) {gpu : GpuOverrides}
    (hgpu : p.overrides.gpu.getD {} = gpu) :
    (gpu.Outgrows m ∧ p.foldedGpu = .error .overflow) ∨
    (¬ gpu.Outgrows m ∧ ∃ graph intermediate,
      p.foldedGpu = .ok (some (gpu.withDegrees graph intermediate)) ∧
      graph.toNat = gpu.prunedDegree m ∧
      intermediate.map UInt64.toNat = gpu.widenedDegree? m) := by
  rw [foldedGpu_eq_bind hm hgpu]
  unfold GpuOverrides.Outgrows GpuOverrides.widenedDegree? GpuOverrides.prunedDegree
  cases hgraph : gpu.graphDegree with
  | some graph =>
    cases hintermediate : gpu.intermediateDegree with
    | some intermediate => exact .inr ⟨id, graph, some intermediate, rfl, rfl, rfl⟩
    | none =>
      by_cases hlarge : 0x8000000000000000 ≤ m.toNat ∨ 0x8000000000000000 ≤ graph.toNat
      · refine .inl ⟨hlarge, ?_⟩
        change (widen m graph >>= _) = _
        rw [widen_of_le hlarge]
        rfl
      · obtain ⟨hm, hgraph⟩ := not_or.1 hlarge
        obtain ⟨intermediate, hwiden, hvalue⟩ :=
          exists_widen (Nat.lt_of_not_le hm) (Nat.lt_of_not_le hgraph)
        refine .inr ⟨hlarge, graph, intermediate, ?_, rfl, hvalue⟩
        change (widen m graph >>= _) = _
        rw [hwiden]
        rfl
  | none =>
    by_cases hlarge : 0x8000000000000000 ≤ m.toNat
    · -- the first product is too large already
      refine .inl ⟨?_, ?_⟩
      · cases gpu.intermediateDegree with
        | some intermediate => exact hlarge
        | none =>
          change 0x4000000000000000 ≤ m.toNat
          omega
      · rw [double_of_le hlarge]
        rfl
    · obtain ⟨graph, hdouble, hvalue⟩ := double_of_lt (n := m) (by omega)
      rw [hdouble]
      cases hintermediate : gpu.intermediateDegree with
      | some intermediate => exact .inr ⟨hlarge, graph, some intermediate, rfl, hvalue, rfl⟩
      | none =>
        change (0x4000000000000000 ≤ m.toNat ∧ (widen m graph >>= _) = _) ∨
          (¬ 0x4000000000000000 ≤ m.toNat ∧ ∃ graph' intermediate,
            (widen m graph >>= _) = _ ∧ _ ∧ _)
        by_cases hlarger : 0x4000000000000000 ≤ m.toNat
        · refine .inl ⟨hlarger, ?_⟩
          rw [widen_of_le (.inr (by omega))]
          rfl
        · have hless : graph.toNat < 0x8000000000000000 := by omega
          obtain ⟨intermediate, hwiden, hnext⟩ := exists_widen (Nat.lt_of_not_le hlarge) hless
          rw [hvalue] at hnext
          refine .inr ⟨hlarger, graph, intermediate, ?_, hvalue, hnext⟩
          rw [hwiden]
          rfl

/-! ## Effective overrides -/

/-- Only folding the device overrides can break off. -/
theorem effectiveOverrides_of_foldedGpu {gpu : Option GpuOverrides} (h : p.foldedGpu = .ok gpu) :
    p.effectiveOverrides = .ok { p.overrides with gpu, cpu := p.foldedCpu } := by
  unfold effectiveOverrides
  rw [h]
  rfl

/-- Overrides that cannot be folded are not effective. -/
theorem effectiveOverrides_of_error {reason : Abort} (h : p.foldedGpu = .error reason) :
    p.effectiveOverrides = .error reason := by
  unfold effectiveOverrides
  rw [h]
  rfl

end Plan

namespace BuildRequest

/-- The device overrides of a request; without any, all knobs are left open. -/
def gpuOverrides (r : BuildRequest) : GpuOverrides :=
  (r.overrides.getD {}).gpu.getD {}

/-- An accepted request whose connections do not outgrow a word has effective overrides, in which
the degrees are the mathematical ones; any other one has none. -/
theorem folds_unless_outgrown {r : BuildRequest} {p : Plan} (h : r.plan = .ok p) :
    (p.effectiveOverrides = .error .overflow ↔
      ∃ m, r.index.tuning.m = some m ∧ r.gpuOverrides.Outgrows m) ∧
    ((∀ m, r.index.tuning.m = some m → ¬ r.gpuOverrides.Outgrows m) →
      ∃ o, p.effectiveOverrides = .ok o ∧ ∀ m, r.index.tuning.m = some m →
        ∃ gpu graph, o.gpu = some gpu ∧ gpu.graphDegree = some graph ∧
          (∀ chosen, r.gpuOverrides.graphDegree = some chosen → graph = chosen) ∧
          (r.gpuOverrides.graphDegree = none → graph.toNat = 2 * m.toNat) ∧
          gpu.intermediateDegree.map UInt64.toNat = r.gpuOverrides.widenedDegree? m) := by
  have hr := accepted_of_plan h
  have hgpu : p.overrides.gpu.getD {} = r.gpuOverrides := by
    unfold gpuOverrides
    rw [hr.overrides]
  rw [← hr.index]
  cases hm : p.index.tuning.m with
  | none =>
    rw [Plan.effectiveOverrides_of_foldedGpu (Plan.foldedGpu_of_none hm)]
    simp
  | some m =>
    obtain ⟨hgrown, hfolded⟩ | ⟨hfits, graph, intermediate, hfolded, hdegree, hwidened⟩ :=
      Plan.foldedGpu_spec hm hgpu
    · rw [Plan.effectiveOverrides_of_error hfolded]
      exact ⟨⟨fun _ => ⟨m, rfl, hgrown⟩, fun _ => rfl⟩, fun hall => absurd hgrown (hall m rfl)⟩
    · rw [Plan.effectiveOverrides_of_foldedGpu hfolded]
      unfold GpuOverrides.prunedDegree at hdegree
      refine ⟨⟨nofun, ?_⟩, fun _ => ⟨_, rfl, ?_⟩⟩
      · rintro ⟨_, ⟨⟩, hgrown⟩
        exact absurd hgrown hfits
      · rintro _ ⟨⟩
        refine ⟨_, graph, rfl, rfl, ?_, ?_, hwidened⟩
        · intro chosen hchosen
          rw [hchosen] at hdegree
          exact UInt64.toNat_inj.1 hdegree
        · intro hopen
          rw [hopen] at hdegree
          exact hdegree

/-- A request for two rows of two components. -/
def withConnections (m : UInt64) (overrides : Option Overrides) : BuildRequest where
  repositoryType := "fs"
  containerName := "c"
  vectorPath := "s/v.knnvec"
  docIdPath := "s/v.knndid"
  dimension := 2
  docCount := 2
  index := { tuning := { m := some m } }
  overrides := overrides

/-- The largest number of connections that can be folded when no degree is chosen. -/
theorem largest_connections_fold :
    ∃ p o gpu graph, (withConnections 0x3FFFFFFFFFFFFFFF none).plan = .ok p ∧
      p.effectiveOverrides = .ok o ∧ o.gpu = some gpu ∧ gpu.graphDegree = some graph ∧
      graph.toNat = 0x7FFFFFFFFFFFFFFE ∧
      gpu.intermediateDegree.map UInt64.toNat = some 0xFFFFFFFFFFFFFFFC := by
  have hplan : ∃ p, (withConnections 0x3FFFFFFFFFFFFFFF none).plan = .ok p := ⟨_, rfl⟩
  obtain ⟨p, hp⟩ := hplan
  obtain ⟨-, hfolds⟩ := folds_unless_outgrown hp
  obtain ⟨o, ho, hdegrees⟩ := hfolds (by rintro m ⟨⟩; exact Nat.not_le.2 (by decide))
  obtain ⟨gpu, graph, hgpu, hgraph, -, hdouble, hwidened⟩ := hdegrees _ rfl
  exact ⟨p, o, gpu, graph, hp, ho, hgpu, hgraph, hdouble rfl, hwidened⟩

/-- A request that has chosen the degree of its graph is accepted, and its overrides make a
configuration; nevertheless the folding breaks off, because twice the connections is computed where
it is not needed. -/
theorem chosen_degree_breaks_off :
    ∃ p, (withConnections 0x8000000000000000
        (some { gpu := some { graphDegree := some 64 } })).plan = .ok p ∧
      p.effectiveOverrides = .error .overflow ∧
      ∃ config, p.overrides.assemble p.shape = .ok config ∧
        config.gpu.graphDegree = 64 ∧ config.gpu.intermediateDegree = 128 :=
  ⟨_, rfl, rfl, _, rfl, rfl, rfl⟩

end BuildRequest

end VectorIndex
