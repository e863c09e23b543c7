import VectorIndex.Proofs.Json.Records
import VectorIndex.Proofs.Request.Precedence

/-!
# Requests that are sent

A request is written as JSON on one side and read on the other.  Every field comes back as it was,
whether it is always written, left out when it is open, or written as `null`; an empty subtree stays
apart from an absent one (`BuildRequest.exchange`).  The one exception is a fraction that is not a
finite number, for which JSON has no number.
-/

set_option autoImplicit false

namespace VectorIndex

open Json

/-- A finite number is read from its value. -/
theorem reads_double {d : Double} (h : d.isFinite = true) : Reads .double d.toJson d := by
  have hwritten : d.toJson = .float d := by
    unfold Double.toJson
    rw [h]
    rfl
  rw [hwritten]
  exact .of_ne_object rfl fun _ => nofun

/-! ## Overrides -/

/-- The overrides for probes are read from their value. -/
theorem ProbeOverrides.reads (o : ProbeOverrides) : Reads ofJson? o.toJson o := by
  intro w hw
  have hslots : o.toJson = .object (present [("n_probes", o.probeCount.map .word)]) := by
    simp only [toJson, present_cons, present_nil, List.append_nil]
  rw [hslots] at hw
  refine bind_fields?_eq rfl (by decide) hw fun fields hfound => ?_
  simp only [List.forall_mem_cons] at hfound
  obtain ⟨hprobeCount, -⟩ := hfound
  rw [Fields.option_of_rel hprobeCount rfl fun n _ => reads_word n]
  rfl

/-- The overrides for clusters with a finite fraction are read from their value. -/
theorem ClusterOverrides.reads {o : ClusterOverrides}
    (h : ∀ fraction, o.trainFraction = some fraction → fraction.isFinite = true) :
    Reads ofJson? o.toJson o := by
  intro w hw
  have hslots : o.toJson = .object (present
      [ ("n_lists", o.listCount.map .word), ("kmeans_n_iters", o.iterations.map .word),
        ("kmeans_trainset_fraction", o.trainFraction.map Double.toJson),
        ("pq_bits", o.codeBits.map fun n => .int n.toNat), ("pq_dim", o.codeDimension.map .word),
        ("conservative_memory_allocation", o.conservativeMemory.map .bool) ]) := by
    simp only [toJson, present_cons, present_nil, List.append_assoc, List.append_nil]
  rw [hslots] at hw
  refine bind_fields?_eq rfl (by decide) hw fun fields hfound => ?_
  simp only [List.forall_mem_cons] at hfound
  obtain ⟨hlistCount, hiterations, htrainFraction, hcodeBits, hcodeDimension, hconservativeMemory,
    -⟩ := hfound
  rw [Fields.option_of_rel hlistCount rfl fun n _ => reads_word n,
    Fields.option_of_rel hiterations rfl fun n _ => reads_word n,
    Fields.option_of_rel htrainFraction rfl fun d hd => reads_double (h d hd),
    Fields.option_of_rel hcodeBits rfl fun n _ => reads_word32 n,
    Fields.option_of_rel hcodeDimension rfl fun n _ => reads_word n,
    Fields.option_of_rel hconservativeMemory rfl fun b _ => reads_bool b]
  rfl

/-- The overrides for the device with a finite fraction are read from their value. -/
theorem GpuOverrides.reads {o : GpuOverrides}
    (h : ∀ fraction, (o.clusters.getD {}).trainFraction = some fraction →
      fraction.isFinite = true) : Reads ofJson? o.toJson o := by
  intro w hw
  have hslots : o.toJson = .object (present
      [ ("intermediate_graph_degree", o.intermediateDegree.map .word),
        ("graph_degree", o.graphDegree.map .word), ("graph_build_algo", o.algorithm.map .string),
        ("store_dataset", o.storeDataset.map .bool), ("device", o.device.map fun n => .int n.toInt),
        ("ivf_pq_build_params", o.clusters.map ClusterOverrides.toJson),
        ("ivf_pq_search_params", o.probes.map ProbeOverrides.toJson) ]) := by
    simp only [toJson, present_cons, present_nil, List.append_assoc, List.append_nil]
  rw [hslots] at hw
  refine bind_fields?_eq rfl (by decide) hw fun fields hfound => ?_
  simp only [List.forall_mem_cons] at hfound
  obtain ⟨hintermediateDegree, hgraphDegree, halgorithm, hstoreDataset, hdevice, hclusters, hprobes,
    -⟩ := hfound
  have hfinite : ∀ c, o.clusters = some c → Reads ClusterOverrides.ofJson? c.toJson c := by
    intro c hc
    rw [hc] at h
    exact ClusterOverrides.reads h
  rw [Fields.option_of_rel hintermediateDegree rfl fun n _ => reads_word n,
    Fields.option_of_rel hgraphDegree rfl fun n _ => reads_word n,
    Fields.option_of_rel halgorithm rfl fun s _ => reads_string s,
    Fields.option_of_rel hstoreDataset rfl fun b _ => reads_bool b,
    Fields.option_of_rel hdevice rfl fun n _ => reads_int64 n,
    Fields.option_of_rel hclusters rfl hfinite,
    Fields.option_of_rel hprobes rfl fun p _ => p.reads]
  rfl

/-- The overrides for the host are read from their value. -/
theorem CpuOverrides.reads (o : CpuOverrides) : Reads ofJson? o.toJson o := by
  intro w hw
  have hslots : o.toJson = .object (present
      [ ("ef_search", o.efSearch.map .word), ("ef_construction", o.efConstruction.map .word),
        ("base_level_only", o.baseLevelOnly.map .bool) ]) := by
    simp only [toJson, present_cons, present_nil, List.append_assoc, List.append_nil]
  rw [hslots] at hw
  refine bind_fields?_eq rfl (by decide) hw fun fields hfound => ?_
  simp only [List.forall_mem_cons] at hfound
  obtain ⟨hefSearch, hefConstruction, hbaseLevelOnly, -⟩ := hfound
  rw [Fields.option_of_rel hefSearch rfl fun n _ => reads_word n,
    Fields.option_of_rel hefConstruction rfl fun n _ => reads_word n,
    Fields.option_of_rel hbaseLevelOnly rfl fun b _ => reads_bool b]
  rfl

/-- Overrides with a finite fraction are read from their value. -/
theorem Overrides.reads {o : Overrides}
    (h : ∀ fraction, o.choice .trainFraction = some fraction → fraction.isFinite = true) :
    Reads ofJson? o.toJson o := by
  intro w hw
  have hslots : o.toJson = .object (present
      [ ("gpu_config", o.gpu.map GpuOverrides.toJson),
        ("hnsw_config", o.cpu.map CpuOverrides.toJson),
        ("metric", o.metric.map .string) ]) := by
    simp only [toJson, present_cons, present_nil, List.append_assoc, List.append_nil]
  rw [hslots] at hw
  refine bind_fields?_eq rfl (by decide) hw fun fields hfound => ?_
  simp only [List.forall_mem_cons] at hfound
  obtain ⟨hgpu, hcpu, hmetric, -⟩ := hfound
  have hfinite : ∀ g, o.gpu = some g → Reads GpuOverrides.ofJson? g.toJson g := by
    intro g hg
    unfold choice at h
    rw [hg] at h
    exact GpuOverrides.reads h
  rw [Fields.option_of_rel hgpu rfl hfinite, Fields.option_of_rel hcpu rfl fun c _ => c.reads,
    Fields.option_of_rel hmetric rfl fun s _ => reads_string s]
  rfl

/-! ## Requests -/

/-- The tuning parameters are read from their value. -/
theorem AlgorithmParameters.reads (t : AlgorithmParameters) : Reads ofJson? t.toJson t := by
  intro w hw
  have hslots : t.toJson = .object (present
      [ ("ef_construction", t.efConstruction.map .word), ("ef_search", t.efSearch.map .word),
        ("m", t.m.map .word) ]) := by
    simp only [toJson, present_cons, present_nil, List.append_assoc, List.append_nil]
  rw [hslots] at hw
  refine bind_fields?_eq rfl (by decide) hw fun fields hfound => ?_
  simp only [List.forall_mem_cons] at hfound
  obtain ⟨hefConstruction, hefSearch, hm, -⟩ := hfound
  rw [Fields.option_of_rel hefConstruction rfl fun n _ => reads_word n,
    Fields.option_of_rel hefSearch rfl fun n _ => reads_word n,
    Fields.option_of_rel hm rfl fun n _ => reads_word n]
  rfl

/-- The parameters of an index are read from their value. -/
theorem IndexParameters.reads (i : IndexParameters) : Reads ofJson? i.toJson i := by
  intro w hw
  have hslots : i.toJson = .object (present
      [ ("space_type", some (.string i.metric.name)), ("algorithm", some (.string i.algorithm)),
        ("algorithm_parameters", some i.tuning.toJson) ]) := rfl
  rw [hslots] at hw
  refine bind_fields?_eq rfl (by decide) hw fun fields hfound => ?_
  simp only [List.forall_mem_cons] at hfound
  obtain ⟨hmetric, halgorithm, htuning, -⟩ := hfound
  rw [Fields.orElse_of_rel hmetric (reads_choice i.metric.lookup_name),
    Fields.orElse_of_rel halgorithm (reads_string i.algorithm),
    Fields.orElse_of_rel htuning i.tuning.reads]
  rfl

namespace BuildRequest

/-- A request with a finite fraction is read from its value. -/
theorem reads {r : BuildRequest}
    (h : ∀ fraction, r.choice .trainFraction = some fraction → fraction.isFinite = true) :
    Reads ofJson? r.toJson r := by
  intro w hw
  have hslots : r.toJson = .object (present
      [ ("repository_type", some (.string r.repositoryType)),
        ("container_name", some (.string r.containerName)),
        ("vector_path", some (.string r.vectorPath)),
        ("doc_id_path", some (.string r.docIdPath)),
        ("dimension", some (.int r.dimension.toInt)),
        ("doc_count", some (.int r.docCount.toInt)),
        ("data_type", some (.string r.elementType.name)),
        ("engine", some (.string r.engine.name)),
        ("index_parameters", some r.index.toJson),
        ("serialization_mode", some (.string r.stagingMode.name)),
        ("config_overrides", some (r.overrides.elim .null Overrides.toJson)) ]) := by
    unfold toJson
    cases r.overrides <;> rfl
  rw [hslots] at hw
  refine bind_fields?_eq rfl (by decide) hw fun fields hfound => ?_
  simp only [List.forall_mem_cons] at hfound
  obtain ⟨hrepositoryType, hcontainerName, hvectorPath, hdocIdPath, hdimension, hdocCount,
    helementType, hengine, hindex, hstagingMode, hoverrides, -⟩ := hfound
  have hoptional : fields.option "config_overrides" Overrides.ofJson? = some r.overrides := by
    cases hr : r.overrides with
    | none =>
      rw [hr] at hoverrides
      exact Fields.option_of_rel_null hoverrides
    | some o =>
      rw [hr] at hoverrides
      unfold choice at h
      rw [hr] at h
      exact Fields.option_of_rel_some hoverrides rfl (Overrides.reads h)
  rw [Fields.orElse_of_rel hrepositoryType (reads_string _),
    Fields.required_of_rel hcontainerName (reads_string _),
    Fields.required_of_rel hvectorPath (reads_string _),
    Fields.required_of_rel hdocIdPath (reads_string _),
    Fields.required_of_rel hdimension (reads_int64 _),
    Fields.required_of_rel hdocCount (reads_int64 _),
    Fields.orElse_of_rel helementType (reads_choice r.elementType.lookup_name),
    Fields.orElse_of_rel hengine (reads_choice r.engine.lookup_name),
    Fields.orElse_of_rel hindex r.index.reads,
    Fields.orElse_of_rel hstagingMode (reads_choice r.stagingMode.lookup_name), hoptional]
  rfl

/-- What one side writes, the other reads, in whatever order the members arrive: it is the same
request, so that both sides come to the same plan and to the same configuration. -/
theorem exchange {r : BuildRequest}
    (hfinite : ∀ fraction, r.choice .trainFraction = some fraction → fraction.isFinite = true)
    {v : Value} (hv : r.toJson.Reordered v) :
    ofJson? v = some r ∧ ∀ r', ofJson? v = some r' →
      r'.plan = r.plan ∧ ∀ p p', r.plan = .ok p → r'.plan = .ok p' →
        p'.effectiveOverrides = p.effectiveOverrides ∧
        ∀ o : Overrides, o.assemble p'.shape = o.assemble p.shape := by
  have hread : ofJson? v = some r := reads hfinite v hv
  refine ⟨hread, fun r' hr' => ?_⟩
  obtain rfl := Option.some.inj (hread.symm.trans hr')
  refine ⟨rfl, fun p p' hp hp' => ?_⟩
  obtain rfl := Except.ok.inj (hp.symm.trans hp')
  exact ⟨rfl, fun _ => rfl⟩

/-- The fraction is one quarter; two subtrees are present and empty, and the members arrive from the
last one to the first. -/
theorem backward_request_is_read :
    ∃ r members, r = withConnections 7 (some {
        gpu := some {
          clusters := some { trainFraction := some ⟨0x3FD0000000000000⟩ }
          probes := some {} }
        cpu := some {} }) ∧
      r.toJson = .object members ∧ ofJson? (.object members.reverse) = some r := by
  refine ⟨_, _, rfl, rfl, (exchange ?_ (.swapped (List.reverse_perm _).symm)).1⟩
  rintro fraction ⟨⟩
  rfl

end BuildRequest

end VectorIndex
