import VectorIndex.Proofs.Config.Ranges
import VectorIndex.Proofs.Request.Folding

/-!
# Where the value of a knob comes from

The configuration for an accepted request is put together in two passes: the tuning of the request
is folded into its overrides, and the result is laid over derived values and defaults.  Knob by knob
this is one rule (`BuildRequest.knobs_by_precedence`): what the overrides choose, else what the
tuning suggests (`BuildRequest.folded`), else what the shape suggests, else the default.  So a
choice for one knob moves no other knob, but for the degree of a graph, which may move that of the
graph that it is pruned from.
-/

set_option autoImplicit false

namespace VectorIndex

namespace BuildRequest

/-- What the overrides of a request choose for a knob. -/
def choice (r : BuildRequest) (k : Knob) : Option k.Choice :=
  (r.overrides.getD {}).choice k

/-- What the tuning of a request suggests for a knob.  The degree of a graph is twice the
connections of a node, and a graph that would be wider than the default is pruned from one of twice
its degree. -/
def folded (r : BuildRequest) : (k : Knob) → Option k.Choice
  | .efSearch => r.index.tuning.efSearch
  | .efConstruction => r.index.tuning.efConstruction
  | .graphDegree => r.index.tuning.m.bind (Word.mul? 2)
  | .intermediateDegree =>
    r.index.tuning.m.bind fun m => (r.choice .graphDegree <|> Word.mul? 2 m).bind fun degree =>
      if 128 < degree.toNat then Word.mul? 2 degree else none
  | _ => none

end BuildRequest

/-- The shape that assembly is told about is the one in the request. -/
structure BuildRequest.HasShape (r : BuildRequest) (shape : BuildShape) : Prop where
  docCount : (shape.docCount.toNat : Int) = r.docCount.toInt
  dimension : (shape.dimension.toNat : Int) = r.dimension.toInt
  metric : shape.metric = r.index.metric

/-- A choice for one knob may move the value of another: its own, and when connections are given,
the degree of a graph that of the graph that it is pruned from. -/
def BuildRequest.Moves (r : BuildRequest) (chosen k : Knob) : Prop :=
  k = chosen ∨
    (chosen = .graphDegree ∧ k = .intermediateDegree ∧ r.index.tuning.m.isSome = true)

/-! ## The folded overrides -/

/-- The second choice of two makes no difference behind itself. -/
theorem orElse_again {α : Type} (a b : Option α) : ((a <|> b) <|> b) = (a <|> b) := by
  cases a <;> cases b <;> rfl

namespace Plan

variable {p : Plan}

/-- Folded for the host, the overrides come first and the tuning second. -/
theorem foldedCpu_getD :
    p.foldedCpu.getD {} = { p.overrides.cpu.getD {} with
      efSearch := (p.overrides.cpu.getD {}).efSearch <|> p.index.tuning.efSearch
      efConstruction := (p.overrides.cpu.getD {}).efConstruction <|>
        p.index.tuning.efConstruction } := by
  unfold foldedCpu
  dsimp only
  split
  · rfl
  · next hopen =>
    obtain ⟨hefSearch, hefConstruction⟩ : p.index.tuning.efSearch = none ∧
      p.index.tuning.efConstruction = none := by simpa using hopen
    rw [hefSearch, hefConstruction]
    simp

/-- Folding a second time changes nothing. -/
theorem foldedCpu_again {q : Plan} (hindex : q.index = p.index)
    (hcpu : q.overrides.cpu = p.foldedCpu) : q.foldedCpu = p.foldedCpu := by
  unfold foldedCpu at hcpu ⊢
  rw [hcpu, hindex]
  dsimp only
  by_cases htuned : (p.index.tuning.efSearch.isSome || p.index.tuning.efConstruction.isSome) = true
  · rw [if_pos htuned, if_pos htuned, Option.getD_some, orElse_again, orElse_again]
  · rw [if_neg htuned, if_neg htuned]

end Plan

namespace GpuOverrides

variable {gpu : GpuOverrides} {m graph : UInt64}

/-- The degree of the graph is the chosen one or twice the links. -/
theorem orElse_eq_of_prunedDegree (h : graph.toNat = gpu.prunedDegree m) :
    (gpu.graphDegree <|> Word.mul? 2 m) = some graph := by
  unfold prunedDegree at h
  cases hgraph : gpu.graphDegree with
  | some degree =>
    rw [hgraph] at h
    exact congrArg some (UInt64.toNat_inj.1 h.symm)
  | none =>
    rw [hgraph] at h
    exact Word.mul?_eq_some_iff.2 h.symm

/-- The degree before pruning is the chosen one or twice that of the graph, where it is large. -/
theorem orElse_eq_of_widenedDegree {intermediate : Option UInt64}
    (hgraph : graph.toNat = gpu.prunedDegree m)
    (h : intermediate.map UInt64.toNat = gpu.widenedDegree? m) :
    (gpu.intermediateDegree <|> if 128 < graph.toNat then Word.mul? 2 graph else none) =
      intermediate := by
  unfold widenedDegree? at h
  cases hintermediate : gpu.intermediateDegree with
  | some degree =>
    rw [hintermediate] at h
    obtain ⟨wide, rfl, hwide⟩ := Option.map_eq_some_iff.1 h
    exact congrArg some (UInt64.toNat_inj.1 hwide.symm)
  | none =>
    rw [hintermediate, ← hgraph] at h
    dsimp only at h
    change (if 128 < graph.toNat then Word.mul? 2 graph else none) = intermediate
    split at h
    · next hnarrow =>
      obtain ⟨wide, rfl, hwide⟩ := Option.map_eq_some_iff.1 h
      rw [if_pos hnarrow]
      exact Word.mul?_eq_some_iff.2 hwide.symm
    · next hwide =>
      rw [if_neg hwide]
      exact (Option.map_eq_none_iff.1 h).symm

end GpuOverrides

namespace Plan

variable {p : Plan}

/-- Folded for the device, the overrides come first and what is derived from the links second. -/
theorem foldedGpu_getD {gpu : Option GpuOverrides} (h : p.foldedGpu = .ok gpu) :
    gpu.getD {} = { p.overrides.gpu.getD {} with
      graphDegree := (p.overrides.gpu.getD {}).graphDegree <|> p.index.tuning.m.bind (Word.mul? 2)
      intermediateDegree := (p.overrides.gpu.getD {}).intermediateDegree <|>
        p.index.tuning.m.bind fun m =>
          ((p.overrides.gpu.getD {}).graphDegree <|> Word.mul? 2 m).bind fun degree =>
            if 128 < degree.toNat then Word.mul? 2 degree else none } := by
  cases hm : p.index.tuning.m with
  | none =>
    rw [foldedGpu_of_none hm] at h
    obtain rfl := Except.ok.inj h
    simp
  | some m =>
    obtain ⟨-, herror⟩ | ⟨-, graph, intermediate, hfolded, hgraph, hwidened⟩ :=
      foldedGpu_spec hm (rfl : p.overrides.gpu.getD {} = p.overrides.gpu.getD {})
    · cases h.symm.trans herror
    · obtain rfl := Except.ok.inj (h.symm.trans hfolded)
      have hdegree := GpuOverrides.orElse_eq_of_prunedDegree hgraph
      have hwide := GpuOverrides.orElse_eq_of_widenedDegree hgraph hwidened
      rw [Option.getD_some, Option.bind_some, Option.bind_some, hdegree, Option.bind_some, hwide]
      rfl

/-- Folding a second time changes nothing. -/
theorem foldedGpu_again {q : Plan} {gpu : Option GpuOverrides} (hindex : q.index = p.index)
    (hgpu : q.overrides.gpu = gpu) (h : p.foldedGpu = .ok gpu) : q.foldedGpu = .ok gpu := by
  cases hm : p.index.tuning.m with
  | none => rw [foldedGpu_of_none (hindex ▸ hm), hgpu]
  | some m =>
    obtain ⟨-, herror⟩ | ⟨hfits, graph, intermediate, hfolded, hgraph, hwidened⟩ :=
      foldedGpu_spec hm (rfl : p.overrides.gpu.getD {} = p.overrides.gpu.getD {})
    · cases h.symm.trans herror
    obtain rfl := Except.ok.inj (h.symm.trans hfolded)
    -- the degree of the pruned graph is chosen now
    rw [foldedGpu_eq_bind (p := q) (hindex ▸ hm) (congrArg (Option.getD · {}) hgpu)]
    cases intermediate with
    | some wide => rfl
    | none =>
      -- the other one is open because the default is wide enough
      have hnone : (p.overrides.gpu.getD {}).widenedDegree? m = none := hwidened.symm
      unfold GpuOverrides.widenedDegree? at hnone
      cases hopen : (p.overrides.gpu.getD {}).intermediateDegree with
      | some wide =>
        rw [hopen] at hnone
        cases hnone
      | none =>
        rw [hopen] at hnone
        have hnarrow : ¬ 128 < graph.toNat := by
          intro hlarge
          rw [hgraph] at hlarge
          cases (if_pos hlarge).symm.trans hnone
        have hm : m.toNat < 0x8000000000000000 := by
          unfold GpuOverrides.Outgrows at hfits
          rw [hopen] at hfits
          cases hchosen : (p.overrides.gpu.getD {}).graphDegree with
          | some degree =>
            rw [hchosen] at hfits
            exact Nat.lt_of_not_le (not_or.1 hfits).1
          | none =>
            rw [hchosen] at hfits
            have hsmall : m.toNat < 0x4000000000000000 := Nat.lt_of_not_le hfits
            omega
        have hsmall : graph.toNat < 0x8000000000000000 := by omega
        obtain ⟨again, hwiden, hvalue⟩ := exists_widen hm hsmall
        rw [if_neg hnarrow] at hvalue
        obtain rfl := Option.map_eq_none_iff.1 hvalue
        change (widen m graph >>= _) = _
        rw [hwiden]
        rfl

/-- Effective overrides that are put back stay as they are. -/
theorem effectiveOverrides_again {q : Plan} {o : Overrides} (h : p.effectiveOverrides = .ok o)
    (hindex : q.index = p.index) (hoverrides : q.overrides = o) : q.effectiveOverrides = .ok o := by
  obtain ⟨gpu, hgpu, hrest⟩ := exists_ok_of_bind h
  obtain rfl := Except.ok.inj hrest
  have hcpu : q.foldedCpu = p.foldedCpu :=
    foldedCpu_again hindex (congrArg Overrides.cpu hoverrides)
  have hagain : q.foldedGpu = .ok gpu :=
    foldedGpu_again hindex (congrArg Overrides.gpu hoverrides) hgpu
  rw [effectiveOverrides_of_foldedGpu hagain, hcpu, hoverrides]

end Plan

/-! ## Knob by knob -/

namespace BuildRequest

/-- What is done to the result of every continuation is done to the result of the whole. -/
theorem map_bind_congr {ε α β : Type} {x : Except ε α} {f f' : α → Except ε β} {g : β → β}
    (h : ∀ a, f' a = g <$> f a) : (x >>= f') = g <$> (x >>= f) := by
  cases x with
  | error e => rfl
  | ok a => exact h a

/-- No check of a request reads its overrides. -/
theorem plan_with_overrides (r : BuildRequest) (overrides : Option Overrides) :
    { r with overrides }.plan =
      (fun p : Plan => { p with overrides := overrides.getD {} }) <$> r.plan := by
  unfold plan
  iterate 13 refine map_bind_congr fun _ => ?_
  rfl

variable {r : BuildRequest} {p : Plan} {o : Overrides}

/-- What the effective overrides choose for a knob: what the request chooses, else what its tuning
suggests. -/
theorem choice_of_effectiveOverrides (h : r.plan = .ok p) (ho : p.effectiveOverrides = .ok o)
    (k : Knob) : o.choice k = (r.choice k <|> r.folded k) := by
  have hr := accepted_of_plan h
  obtain ⟨gpu, hgpu, hrest⟩ := exists_ok_of_bind ho
  obtain rfl := Except.ok.inj hrest
  have hdevice := Plan.foldedGpu_getD hgpu
  have hhost := Plan.foldedCpu_getD (p := p)
  rw [hr.overrides, hr.index] at hdevice hhost
  have hopen {α : Type} {c c' : Option α} (hc : c = c') : c = (c' <|> none) := by
    rw [hc]
    simp
  cases k with
  | metric => exact hopen (congrArg (fun o => o.metric) hr.overrides)
  | intermediateDegree => exact congrArg (fun g => g.intermediateDegree) hdevice
  | graphDegree => exact congrArg (fun g => g.graphDegree) hdevice
  | algorithm => exact hopen (congrArg (fun g => g.algorithm) hdevice)
  | storeDataset => exact hopen (congrArg (fun g => g.storeDataset) hdevice)
  | device => exact hopen (congrArg (fun g => g.device) hdevice)
  | listCount => exact hopen (congrArg (fun g => (g.clusters.getD {}).listCount) hdevice)
  | iterations => exact hopen (congrArg (fun g => (g.clusters.getD {}).iterations) hdevice)
  | trainFraction => exact hopen (congrArg (fun g => (g.clusters.getD {}).trainFraction) hdevice)
  | codeBits => exact hopen (congrArg (fun g => (g.clusters.getD {}).codeBits) hdevice)
  | codeDimension => exact hopen (congrArg (fun g => (g.clusters.getD {}).codeDimension) hdevice)
  | conservativeMemory =>
    exact hopen (congrArg (fun g => (g.clusters.getD {}).conservativeMemory) hdevice)
  | probeCount => exact hopen (congrArg (fun g => (g.probes.getD {}).probeCount) hdevice)
  | efSearch => exact congrArg (fun c => c.efSearch) hhost
  | efConstruction => exact congrArg (fun c => c.efConstruction) hhost
  | baseLevelOnly => exact hopen (congrArg (fun c => c.baseLevelOnly) hhost)

/-- A request has effective overrides when no product outgrows its word. -/
theorem exists_effectiveOverrides (h : r.plan = .ok p)
    (hfits : ∀ m, r.index.tuning.m = some m → ¬ r.gpuOverrides.Outgrows m) :
    ∃ o, p.effectiveOverrides = .ok o := by
  have hr := accepted_of_plan h
  have hgpu : p.overrides.gpu.getD {} = r.gpuOverrides := by
    unfold gpuOverrides
    rw [hr.overrides]
  cases hm : p.index.tuning.m with
  | none => exact ⟨_, Plan.effectiveOverrides_of_foldedGpu (Plan.foldedGpu_of_none hm)⟩
  | some m =>
    obtain ⟨hgrown, -⟩ | ⟨-, graph, intermediate, hfolded, -⟩ := Plan.foldedGpu_spec hm hgpu
    · rw [hr.index] at hm
      exact absurd hgrown (hfits m hm)
    · exact ⟨_, Plan.effectiveOverrides_of_foldedGpu hfolded⟩

/-- Every knob of a configuration is settled by its own choice and suggestion. -/
theorem settled_of_assemble (h : r.plan = .ok p) (ho : p.effectiveOverrides = .ok o)
    {config : BuildConfig} (hconfig : o.assemble p.shape = .ok config) (k : Knob) :
    k.Settled p.shape (r.choice k <|> r.folded k) (config.value k) := by
  rw [← choice_of_effectiveOverrides h ho]
  obtain ⟨_, hok, htakes, -⟩ | ⟨_, _, herror, -⟩ := o.assemble_settles_or_blames p.shape
  · obtain rfl := Except.ok.inj (hok.symm.trans hconfig)
    exact htakes k
  · cases herror.symm.trans hconfig

/-- What is suggested for a knob depends on no other choice, but for the degree of a graph that is
pruned. -/
theorem folded_eq {chosen k : Knob} {overrides : Option Overrides}
    (hsame : ∀ k, k ≠ chosen → { r with overrides }.choice k = r.choice k)
    (hstays : ¬ r.Moves chosen k) : { r with overrides }.folded k = r.folded k := by
  cases k with
  | intermediateDegree =>
    unfold folded
    dsimp only
    cases hm : r.index.tuning.m with
    | none => rfl
    | some m =>
      have hchosen : Knob.graphDegree ≠ chosen := by
        rintro rfl
        exact hstays (.inr ⟨rfl, rfl, by rw [hm]; rfl⟩)
      rw [Option.bind_some, Option.bind_some, hsame _ hchosen]
  | _ => rfl

/-- The configuration for an accepted request, knob by knob.  Effective overrides keep every choice,
and folding them again changes nothing.  A knob has the value that the request chooses, else the one
that its tuning suggests, else the one that the shape of the dataset suggests, else the default.
Requests that differ in the choice for one knob get configurations that differ in what that choice
moves. -/
theorem knobs_by_precedence (h : r.plan = .ok p)
    (hfits : ∀ m, r.index.tuning.m = some m → ¬ r.gpuOverrides.Outgrows m) :
    ∃ o, p.effectiveOverrides = .ok o ∧
      (∀ k c, r.choice k = some c → o.choice k = some c) ∧
      (∃ p', { r with overrides := some o }.plan = .ok p' ∧ p'.effectiveOverrides = .ok o) ∧
      r.HasShape p.shape ∧
      ∀ config, o.assemble p.shape = .ok config →
        (∀ k : Knob, k.Settled p.shape (r.choice k <|> r.folded k) (config.value k)) ∧
        ∀ (chosen : Knob) (overrides : Option Overrides) (p' : Plan) (o' : Overrides)
          (config' : BuildConfig), { r with overrides }.plan = .ok p' →
          (∀ k, k ≠ chosen → { r with overrides }.choice k = r.choice k) →
          p'.effectiveOverrides = .ok o' → o'.assemble p'.shape = .ok config' →
          ∀ k, ¬ r.Moves chosen k → config'.value k = config.value k := by
  have hr := accepted_of_plan h
  obtain ⟨o, ho⟩ := exists_effectiveOverrides h hfits
  refine ⟨o, ho, fun k c hc => ?_, ⟨{ p with overrides := o }, ?_, ?_⟩, ?_, fun config hconfig =>
    ⟨settled_of_assemble h ho hconfig, ?_⟩⟩
  · rw [choice_of_effectiveOverrides h ho, hc]
    rfl
  · rw [plan_with_overrides, h]
    rfl
  · exact Plan.effectiveOverrides_again ho rfl rfl
  · exact ⟨hr.docCount, hr.dimension, congrArg IndexParameters.metric hr.index⟩
  · intro chosen overrides p' o' config' h' hsame ho' hconfig' k hstays
    have hshape : p'.shape = p.shape := by
      rw [plan_with_overrides, h] at h'
      obtain rfl := Except.ok.inj h'
      rfl
    have hsettled := settled_of_assemble h' ho' hconfig' k
    rw [hshape, folded_eq hsame hstays, hsame k fun hk => hstays (.inl hk)] at hsettled
    exact hsettled.unique (settled_of_assemble h ho hconfig k)

/-- Connections that make the pruned graph wider than the default widen both graphs, and an empty
subtree does not get in the way. -/
theorem connections_widen_both_degrees :
    ∃ p o config,
      (withConnections 100 (some { gpu := some { clusters := some {} } })).plan = .ok p ∧
      p.effectiveOverrides = .ok o ∧ o.assemble p.shape = .ok config ∧
      config.value .graphDegree = (200 : UInt64) ∧
      config.value .intermediateDegree = (400 : UInt64) ∧
      config.value .listCount = derivedListCount 2 ∧ config.value .efSearch = (100 : UInt64) := by
  refine ⟨_, _, _, rfl, rfl, rfl, ?_⟩
  obtain ⟨o, ho, -, -, -, hconfig⟩ := knobs_by_precedence
    (r := withConnections 100 (some { gpu := some { clusters := some {} } })) rfl
    (by rintro m ⟨⟩; exact Nat.not_le.2 (by decide))
  obtain rfl := Except.ok.inj ho
  obtain ⟨hsettled, -⟩ := hconfig _ rfl
  exact ⟨hsettled .graphDegree, hsettled .intermediateDegree, hsettled .listCount,
    hsettled .efSearch⟩

end BuildRequest

end VectorIndex
