import VectorIndex.Proofs.Config.Leaves
import VectorIndex.Proofs.Number.Double

/-!
# What assembly refuses

A knob has a condition of its own (`Overrides.Meets`): a choice for it means something, the value
that it takes is in its range, and a graph is not denser than the one that it is pruned from.
Assembly accepts overrides when all knobs meet their conditions, and then only, and a refusal names
a knob that does not meet its own (`Overrides.assemble_accepts_or_blames`).
-/

set_option autoImplicit false

namespace VectorIndex

namespace Knob

/-- The choices that mean something. -/
def Legible : (k : Knob) → k.Choice → Prop
  | metric, name => name = "l2" ∨ name = "innerproduct" ∨ name = "cosinesimil"
  | algorithm, name => name = "IVF_PQ" ∨ name = "NN_DESCENT"
  | device, number => 0 ≤ number.toInt ∧ number.toInt < 0x100000000
  | _, _ => True

/-- The values in the range of a knob. -/
def Accepts : (k : Knob) → k.Value → Prop
  | intermediateDegree, n | graphDegree, n | listCount, n | iterations, n | codeDimension, n
  | probeCount, n | efSearch, n | efConstruction, n => 1 ≤ n.toNat
  | trainFraction, fraction => ∃ q, fraction.value? = some q ∧ 0 < q ∧ q ≤ 1
  | codeBits, bits => 4 ≤ bits.toNat ∧ bits.toNat ≤ 8
  | _, _ => True

/-- A choice is legible exactly if it means something. -/
theorem legible_iff {k : Knob} {choice : k.Choice} :
    k.Legible choice ↔ ∃ v, k.Means choice v := by
  cases k with
  | metric =>
    constructor
    · rintro (rfl | rfl | rfl)
      exacts [⟨.l2, rfl⟩, ⟨.innerProduct, rfl⟩, ⟨.cosine, rfl⟩]
    · rintro ⟨m, rfl⟩
      cases m
      exacts [.inl rfl, .inr (.inl rfl), .inr (.inr rfl)]
  | algorithm =>
    constructor
    · rintro (rfl | rfl)
      exacts [⟨.ivfPq, rfl⟩, ⟨.nnDescent, rfl⟩]
    · rintro ⟨a, rfl⟩
      cases a
      exacts [.inl rfl, .inr rfl]
  | device => exact (Overrides.exists_means_device_iff _).symm
  | _ => exact ⟨fun _ => ⟨choice, rfl⟩, fun _ => trivial⟩

end Knob

/-! ## The conditions in a configuration -/

namespace BuildConfig

/-- A knob is in its range, and a graph is not denser than the one that it is pruned from. -/
structure Meets (config : BuildConfig) (k : Knob) : Prop where
  accepts : k.Accepts (config.value k)
  pruned : k = .graphDegree → config.gpu.graphDegree.toNat ≤ config.gpu.intermediateDegree.toNat

/-- A configuration whose values are all in range meets the requirements of every knob. -/
theorem InRange.meets {config : BuildConfig} (h : config.InRange) (k : Knob) : config.Meets k := by
  have hpruned := UInt64.le_iff_toNat_le.1 h.graphDegree_le
  have hgraph : 1 ≤ config.gpu.graphDegree.toNat := UInt64.lt_iff_toNat_lt.1 h.graphDegree
  refine ⟨?_, fun _ => hpruned⟩
  cases k with
  | intermediateDegree => exact hgraph.trans hpruned
  | graphDegree => exact hgraph
  | listCount => exact UInt64.lt_iff_toNat_lt.1 h.listCount
  | iterations => exact UInt64.lt_iff_toNat_lt.1 h.iterations
  | trainFraction => exact Double.inUnitInterval_iff.1 h.trainFraction
  | codeBits =>
    exact ⟨UInt32.le_iff_toNat_le.1 h.four_le_codeBits, UInt32.le_iff_toNat_le.1 h.codeBits_le⟩
  | codeDimension => exact UInt64.lt_iff_toNat_lt.1 h.codeDimension
  | probeCount => exact UInt64.lt_iff_toNat_lt.1 h.probeCount
  | efSearch => exact UInt64.lt_iff_toNat_lt.1 h.efSearch
  | efConstruction => exact UInt64.lt_iff_toNat_lt.1 h.efConstruction
  | _ => exact trivial

/-- A number that fails to be positive is zero. -/
theorem not_pos_of_positive {field : String} {n : UInt64}
    (h : (Requirement.positive field n).holds = false) : ¬ 1 ≤ n.toNat := fun hpos =>
  of_decide_eq_false h (UInt64.lt_iff_toNat_lt.2 hpos)

/-- A requirement that fails is one on a knob that does not meet its condition. -/
theorem blame (config : BuildConfig) : ∀ q ∈ config.requirements, q.holds = false →
    ∃ k : Knob, q.field = k.field ∧ ¬ config.Meets k := by
  have hpositive (k : Knob) {n : UInt64} (hn : k.Accepts (config.value k) → 1 ≤ n.toNat)
      (h : (Requirement.positive k.field n).holds = false) :
      ∃ k' : Knob, k.field = k'.field ∧ ¬ config.Meets k' :=
    ⟨k, rfl, fun hmeets => not_pos_of_positive h (hn hmeets.accepts)⟩
  simp only [requirements, List.forall_mem_cons, List.not_mem_nil, false_imp_iff, implies_true,
    and_true]
  refine ⟨hpositive .intermediateDegree id, hpositive .graphDegree id, fun h => ?_,
    hpositive .listCount id, hpositive .iterations id, hpositive .codeDimension id, fun h => ?_,
    fun h => ?_, hpositive .probeCount id, hpositive .efSearch id, hpositive .efConstruction id⟩
  · exact ⟨.graphDegree, rfl, fun hmeets =>
      of_decide_eq_false h (UInt64.le_iff_toNat_le.2 (hmeets.pruned rfl))⟩
  · refine ⟨.trainFraction, rfl, fun hmeets => ?_⟩
    have hrange : config.gpu.clusters.trainFraction.inUnitInterval = true :=
      Double.inUnitInterval_iff.2 hmeets.accepts
    cases h.symm.trans hrange
  · refine ⟨.codeBits, rfl, fun hmeets => ?_⟩
    obtain ⟨hlow, hhigh⟩ := hmeets.accepts
    have hlower : 4 ≤ config.gpu.clusters.codeBits := UInt32.le_iff_toNat_le.2 hlow
    have hupper : config.gpu.clusters.codeBits ≤ 8 := UInt32.le_iff_toNat_le.2 hhigh
    simp [hlower, hupper] at h

/-- Validation accepts a configuration whose knobs all meet their conditions, or blames one that
does not. -/
theorem validate_cases (config : BuildConfig) :
    (config.validate = .ok () ∧ ∀ k, config.Meets k) ∨
      ∃ k : Knob, ∃ reason, config.validate = .error (.configuration k.field reason) ∧
        ¬ config.Meets k := by
  cases hfind : config.requirements.find? fun r => !r.holds with
  | none =>
    have hok : config.validate = .ok () := by
      unfold validate
      rw [hfind]
    exact .inl ⟨hok, (validate_eq_ok_iff.1 hok).meets⟩
  | some q =>
    have hfails : q.holds = false := by simpa using List.find?_some hfind
    obtain ⟨k, hfield, hmeets⟩ := config.blame q (List.mem_of_find?_eq_some hfind) hfails
    refine .inr ⟨k, q.reason, ?_, hmeets⟩
    unfold validate
    rw [hfind, ← hfield]

end BuildConfig

/-! ## The conditions of overrides -/

namespace Overrides

/-- A knob meets its condition: what is chosen for it means something, and the value that it takes
is in its range.  The degree of a graph is also at most that of the graph that it is pruned from. -/
structure Meets (o : Overrides) (shape : BuildShape) (k : Knob) : Prop where
  legible : ∀ c, o.choice k = some c → k.Legible c
  accepts : ∀ v, o.Takes shape k v → k.Accepts v
  pruned : k = .graphDegree → ∀ degree wide : UInt64, o.Takes shape .graphDegree degree →
    o.Takes shape .intermediateDegree wide → degree.toNat ≤ wide.toNat

variable {o : Overrides} {shape : BuildShape}

/-- Once all knobs are settled, their conditions are those in the configuration. -/
theorem meets_iff {config : BuildConfig} (h : ∀ k, o.Takes shape k (config.value k)) {k : Knob} :
    o.Meets shape k ↔ config.Meets k := by
  constructor
  · intro hmeets
    exact ⟨hmeets.accepts _ (h k),
      fun hk => hmeets.pruned hk _ _ (h .graphDegree) (h .intermediateDegree)⟩
  · intro hmeets
    refine ⟨fun c hc => ?_, fun v hv => ?_, fun hk degree wide hdegree hwide => ?_⟩
    · have hsettled : k.Settled shape (o.choice k) (config.value k) := h k
      rw [hc] at hsettled
      exact Knob.legible_iff.2 ⟨_, hsettled⟩
    · rw [Knob.Settled.unique hv (h k)]
      exact hmeets.accepts
    · have hdegree : degree = config.gpu.graphDegree := Knob.Settled.unique hdegree (h .graphDegree)
      have hwide : wide = config.gpu.intermediateDegree :=
        Knob.Settled.unique hwide (h .intermediateDegree)
      rw [hdegree, hwide]
      exact hmeets.pruned hk

/-- Assembly settles every knob, or blames one that does not meet its condition. -/
theorem assemble_settles_or_blames (o : Overrides) (shape : BuildShape) :
    (∃ config, o.assemble shape = .ok config ∧ (∀ k, o.Takes shape k (config.value k)) ∧
      ∀ k, o.Meets shape k) ∨
    ∃ k : Knob, ∃ reason, o.assemble shape = .error (.configuration k.field reason) ∧
      ¬ o.Meets shape k := by
  obtain ⟨k, c, reason, hc, hmeans, herror⟩ | ⟨config, htakes, hassemble⟩ := o.assemble_cases shape
  · refine .inr ⟨k, reason, herror, fun hmeets => ?_⟩
    obtain ⟨v, hv⟩ := Knob.legible_iff.1 (hmeets.legible c hc)
    exact hmeans v hv
  · obtain ⟨hok, hmeets⟩ | ⟨k, reason, herror, hmeets⟩ := config.validate_cases
    · refine .inl ⟨config, ?_, htakes, fun k => (meets_iff htakes).2 (hmeets k)⟩
      rw [hassemble, hok]
      rfl
    · refine .inr ⟨k, reason, ?_, mt (meets_iff htakes).1 hmeets⟩
      rw [hassemble, herror]
      rfl

/-- Assembly accepts overrides when every knob meets its condition, and then only.  When it refuses
them, it blames a knob that does not meet its condition. -/
theorem assemble_accepts_or_blames (o : Overrides) (shape : BuildShape) :
    ((∃ config, o.assemble shape = .ok config) ↔ ∀ k, o.Meets shape k) ∧
      ∀ e, o.assemble shape = .error e →
        ∃ k : Knob, ∃ reason, e = .configuration k.field reason ∧ ¬ o.Meets shape k := by
  obtain ⟨config, hok, -, hmeets⟩ | ⟨k, reason, herror, hmeets⟩ :=
    o.assemble_settles_or_blames shape
  · refine ⟨⟨fun _ => hmeets, fun _ => ⟨config, hok⟩⟩, fun e he => ?_⟩
    cases hok.symm.trans he
  · refine ⟨⟨fun ⟨config, hok⟩ => ?_, fun hall => absurd (hall k) hmeets⟩, fun e he => ?_⟩
    · cases herror.symm.trans hok
    · obtain rfl : BuildError.configuration k.field reason = e :=
        Except.error.inj (herror.symm.trans he)
      exact ⟨k, reason, rfl, hmeets⟩

/-- A graph that is too dense is refused, and a negative ordinal is blamed before it. -/
theorem assemble_blames_device_before_density :
    (∀ k, Meets {} ⟨5000, 64, .cosine⟩ k) ∧
      (¬ ∀ k, Meets { gpu := some { graphDegree := some 200 } } ⟨5000, 64, .cosine⟩ k) ∧
      ∃ k : Knob, k.field = "gpu.device" ∧
        ¬ Meets { gpu := some { graphDegree := some 200, device := some (-1) } }
          ⟨5000, 64, .cosine⟩ k := by
  refine ⟨?_, fun hall => ?_, ?_⟩
  · exact (assemble_accepts_or_blames {} _).1.1 ⟨merged {} _ .cosine .ivfPq 0, by rfl⟩
  · obtain ⟨config, hok⟩ := (assemble_accepts_or_blames _ _).1.2 hall
    cases hok
  · obtain ⟨k, reason, he, hmeets⟩ := (assemble_accepts_or_blames
      { gpu := some { graphDegree := some 200, device := some (-1) } } ⟨5000, 64, .cosine⟩).2 _ rfl
    exact ⟨k, (BuildError.configuration.inj he).1.symm, hmeets⟩

end Overrides

end VectorIndex
