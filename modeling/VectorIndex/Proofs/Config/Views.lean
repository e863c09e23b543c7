import VectorIndex.Proofs.Request.Exchange

/-!
# Flat views of a configuration

A configuration can be viewed as flat entries under dotted keys.  `Json.nest` reads the dots as
nesting again.  The tree that comes of the entries and the name of the metric can be given as
overrides: it is read, it chooses every knob, and assembling it gives the configuration that was
viewed, whatever the dataset is (`BuildConfig.reentered_from_views`).  For this the keys of the
views, the names that overrides are read under, and the knobs have to agree.
-/

set_option autoImplicit false

namespace VectorIndex

open Json

/-! ## Dotted keys -/

namespace Json

variable {name : String} {v : Value} {members : List (String × Value)}

/-- The names that a dotted key leads along. -/
def keyNames (key : String) : List String :=
  (Text.splitAt '.' key.toList).map String.ofList

/-- The members of the object under a name. -/
def within (name : String) (members : List (String × Value)) : List (String × Value) :=
  match members.lookup name with
  | some (.object inner) => inner
  | _ => []

/-- Puts a value where names lead.  Objects on the way are made where they are missing. -/
def put (v : Value) : List String → List (String × Value) → List (String × Value)
  | [], members => members
  | [name], members => (name, v) :: members.filter (fun m => m.1 != name)
  | name :: rest, members =>
    (name, .object (put v rest (within name members))) :: members.filter (fun m => m.1 != name)

/-- Puts all values where their names lead, the last one first. -/
def putAll (entries : List (List String × Value)) (members : List (String × Value)) :
    List (String × Value) :=
  entries.foldr (fun entry => put entry.2 entry.1) members

/-- The object that has the entries as its leaves, with the dots in their keys read as nesting. -/
def nest (entries : List (String × Value)) : Value :=
  .object (putAll (entries.map fun entry => (keyNames entry.1, entry.2)) [])

/-- To leave out a member that is not there changes nothing. -/
theorem filter_of_lookup (h : members.lookup name = none) :
    members.filter (fun m => m.1 != name) = members := by
  refine List.filter_eq_self.2 fun m hm => ?_
  rw [bne_comm]
  exact List.lookup_eq_none_iff.1 h m hm

/-- A value that is put under a new name stands in front. -/
theorem put_singleton (h : members.lookup name = none) (v : Value) :
    put v [name] members = (name, v) :: members := by
  rw [put, filter_of_lookup h]

/-- A value at a longer path is put into the object under the first name. -/
theorem put_cons {names : List String} (hnames : names ≠ []) (name : String) (v : Value)
    (members : List (String × Value)) :
    put v (name :: names) members =
      (name, .object (put v names (within name members))) ::
        members.filter (fun m => m.1 != name) := by
  obtain ⟨next, rest, rfl⟩ := List.exists_cons_of_ne_nil hnames
  rfl

/-- Values under one first name make up one object. -/
theorem putAll_map_cons (h : members.lookup name = none) {entries : List (List String × Value)}
    (hne : entries ≠ []) (hnames : ∀ entry ∈ entries, entry.1 ≠ []) :
    putAll (entries.map fun entry => (name :: entry.1, entry.2)) members =
      (name, .object (putAll entries [])) :: members := by
  induction entries with
  | nil => exact absurd rfl hne
  | cons entry entries ih =>
    obtain ⟨hentry, hentries⟩ := List.forall_mem_cons.1 hnames
    rw [List.map_cons, putAll, List.foldr_cons, put_cons hentry, putAll, List.foldr_cons]
    by_cases hlast : entries = []
    · subst hlast
      rw [List.map_nil, List.foldr_nil, List.foldr_nil, filter_of_lookup h, within, h]
    · have hrest := ih hlast hentries
      rw [putAll] at hrest
      rw [hrest, List.filter_cons_of_neg (by simp), filter_of_lookup h, within,
        List.lookup_cons_self]
      rfl

/-- Values under names of their own become members as they are. -/
theorem putAll_map_singleton {entries : List (String × Value)}
    (h : ((entries ++ members).map Prod.fst).Nodup) :
    putAll (entries.map fun entry => ([entry.1], entry.2)) members = entries ++ members := by
  induction entries with
  | nil => rfl
  | cons entry entries ih =>
    rw [List.cons_append, List.map_cons, List.nodup_cons] at h
    have hrest := ih h.2
    rw [putAll] at hrest
    rw [List.map_cons, putAll, List.foldr_cons, hrest, put_singleton]
    · rfl
    · refine List.lookup_eq_none_iff.2 fun m hm => bne_iff_ne.2 ?_
      rintro heq
      exact h.1 (heq ▸ List.mem_map_of_mem hm)

/-- A group of values becomes an object. -/
theorem putAll_group (h : members.lookup name = none) {entries : List (String × Value)}
    (hne : entries ≠ []) (hnodup : (entries.map Prod.fst).Nodup) :
    putAll (entries.map fun entry => ([name, entry.1], entry.2)) members =
      (name, .object entries) :: members := by
  have hinner : putAll (entries.map fun entry => ([entry.1], entry.2)) [] = entries := by
    rw [putAll_map_singleton (by rwa [List.append_nil]), List.append_nil]
  have hpaths : (entries.map fun entry => ([name, entry.1], entry.2)) =
      (entries.map fun entry => ([entry.1], entry.2)).map
        fun entry => (name :: entry.1, entry.2) := by
    rw [List.map_map]
    rfl
  rw [hpaths, putAll_map_cons h, hinner]
  · simpa using hne
  · exact List.forall_mem_map.2 fun entry _ => List.cons_ne_nil entry.1 []

/-- Entries are put one list after the other, the last one first. -/
theorem putAll_append (entries entries' : List (List String × Value))
    (members : List (String × Value)) :
    putAll (entries ++ entries') members = putAll entries (putAll entries' members) :=
  List.foldr_append

end Json

namespace BuildConfig

variable (c : BuildConfig)

/-- The knobs of the graph, but for where its dataset is kept. -/
def graphMembers : List (String × Value) :=
  [ ("device", .int c.gpu.device.toNat),
    ("graph_build_algo", .string c.gpu.algorithm.name),
    ("graph_degree", .word c.gpu.graphDegree),
    ("intermediate_graph_degree", .word c.gpu.intermediateDegree) ]

/-- The knobs of the inverted lists. -/
def clusterMembers : List (String × Value) :=
  [ ("conservative_memory_allocation", .bool c.gpu.clusters.conservativeMemory),
    ("kmeans_n_iters", .word c.gpu.clusters.iterations),
    ("kmeans_trainset_fraction", c.gpu.clusters.trainFraction.toJson),
    ("n_lists", .word c.gpu.clusters.listCount),
    ("pq_bits", .int c.gpu.clusters.codeBits.toNat),
    ("pq_dim", .word c.gpu.clusters.codeDimension) ]

/-- The knob of the probing search. -/
def probeMembers : List (String × Value) :=
  [("n_probes", .word c.gpu.probes.probeCount)]

/-- Where the dataset of the graph is kept. -/
def storageMembers : List (String × Value) :=
  [("store_dataset", .bool c.gpu.storeDataset)]

/-- The device knobs with their groups. -/
def gpuMembers : List (String × Value) :=
  c.graphMembers ++ ("ivf_pq_build_params", .object c.clusterMembers) ::
    ("ivf_pq_search_params", .object c.probeMembers) :: c.storageMembers

/-- Where the keys of the device view lead does not depend on the configuration. -/
theorem keyNames_gpuFlat : (c.gpuFlat.map fun entry => (keyNames entry.1, entry.2)) =
    (c.graphMembers.map fun entry => ([entry.1], entry.2)) ++
    ((c.clusterMembers.map fun entry => (["ivf_pq_build_params", entry.1], entry.2)) ++
    ((c.probeMembers.map fun entry => (["ivf_pq_search_params", entry.1], entry.2)) ++
    (c.storageMembers.map fun entry => ([entry.1], entry.2)))) := by
  have hkeys : (c.gpuFlat.map fun entry => keyNames entry.1) =
      [["device"], ["graph_build_algo"], ["graph_degree"], ["intermediate_graph_degree"],
        ["ivf_pq_build_params", "conservative_memory_allocation"],
        ["ivf_pq_build_params", "kmeans_n_iters"],
        ["ivf_pq_build_params", "kmeans_trainset_fraction"], ["ivf_pq_build_params", "n_lists"],
        ["ivf_pq_build_params", "pq_bits"], ["ivf_pq_build_params", "pq_dim"],
        ["ivf_pq_search_params", "n_probes"], ["store_dataset"]] := by
    change ["device", "graph_build_algo", "graph_degree", "intermediate_graph_degree",
      "ivf_pq_build_params.conservative_memory_allocation", "ivf_pq_build_params.kmeans_n_iters",
      "ivf_pq_build_params.kmeans_trainset_fraction", "ivf_pq_build_params.n_lists",
      "ivf_pq_build_params.pq_bits", "ivf_pq_build_params.pq_dim", "ivf_pq_search_params.n_probes",
      "store_dataset"].map keyNames = _
    decide +kernel
  rw [← List.zip_map', hkeys]
  rfl

/-- The flat entries for the device make up its nested members. -/
theorem nest_gpuFlat : nest c.gpuFlat = .object c.gpuMembers := by
  have hstorage : putAll (c.storageMembers.map fun entry => ([entry.1], entry.2)) [] =
      c.storageMembers := rfl
  have hprobe : putAll (c.probeMembers.map fun entry => (["ivf_pq_search_params", entry.1], entry.2))
      c.storageMembers = ("ivf_pq_search_params", .object c.probeMembers) :: c.storageMembers :=
    putAll_group rfl (List.cons_ne_nil _ _) (List.nodup_singleton "n_probes")
  have hcluster : putAll
      (c.clusterMembers.map fun entry => (["ivf_pq_build_params", entry.1], entry.2))
      (("ivf_pq_search_params", .object c.probeMembers) :: c.storageMembers) =
        ("ivf_pq_build_params", .object c.clusterMembers) ::
          ("ivf_pq_search_params", .object c.probeMembers) :: c.storageMembers := by
    refine putAll_group rfl (List.cons_ne_nil _ _) ?_
    change ["conservative_memory_allocation", "kmeans_n_iters", "kmeans_trainset_fraction",
      "n_lists", "pq_bits", "pq_dim"].Nodup
    decide
  rw [nest, keyNames_gpuFlat, putAll_append, putAll_append, putAll_append, hstorage, hprobe,
    hcluster, putAll_map_singleton]
  · rfl
  · change ["device", "graph_build_algo", "graph_degree", "intermediate_graph_degree",
      "ivf_pq_build_params", "ivf_pq_search_params", "store_dataset"].Nodup
    decide

/-- The flat entries for the host are not nested. -/
theorem nest_cpuFlat : nest c.cpuFlat = .object c.cpuFlat := by
  have hkeys : ∀ key ∈ c.cpuFlat.map Prod.fst, keyNames key = [key] := by
    change ∀ key ∈ ["base_level_only", "ef_construction", "ef_search"], keyNames key = [key]
    decide +kernel
  have hpaths : (c.cpuFlat.map fun entry => (keyNames entry.1, entry.2)) =
      c.cpuFlat.map fun entry => ([entry.1], entry.2) :=
    List.map_congr_left fun entry hentry => by rw [hkeys _ (List.mem_map_of_mem hentry)]
  rw [nest, hpaths, putAll_map_singleton, List.append_nil]
  change ["base_level_only", "ef_construction", "ef_search"].Nodup
  decide

/-! ## Overrides that leave nothing open -/

/-- Overrides that choose for every knob the value that it has. -/
def spelledOut : Overrides where
  gpu := some {
    intermediateDegree := some c.gpu.intermediateDegree
    graphDegree := some c.gpu.graphDegree
    algorithm := some c.gpu.algorithm.name
    storeDataset := some c.gpu.storeDataset
    device := some (Int64.ofInt c.gpu.device.toNat)
    clusters := some {
      listCount := some c.gpu.clusters.listCount
      iterations := some c.gpu.clusters.iterations
      trainFraction := some c.gpu.clusters.trainFraction
      codeBits := some c.gpu.clusters.codeBits
      codeDimension := some c.gpu.clusters.codeDimension
      conservativeMemory := some c.gpu.clusters.conservativeMemory }
    probes := some { probeCount := some c.gpu.probes.probeCount } }
  cpu := some {
    efSearch := some c.cpu.efSearch
    efConstruction := some c.cpu.efConstruction
    baseLevelOnly := some c.cpu.baseLevelOnly }
  metric := some c.metric.name

/-- Every ordinal is a signed number. -/
theorem toInt_device : (Int64.ofInt c.gpu.device.toNat).toInt = c.gpu.device.toNat := by
  have hlt : c.gpu.device.toNat < 0x100000000 := c.gpu.device.toNat_lt
  exact Int64.toInt_ofInt_of_le (by omega) (by omega)

/-- Spelled out, every knob has a choice, and it means the value that is configured. -/
theorem exists_choice_spelledOut (k : Knob) :
    ∃ choice, c.spelledOut.choice k = some choice ∧ k.Means choice (c.value k) := by
  cases k with
  | device => exact ⟨_, rfl, c.toInt_device.symm⟩
  | _ => exact ⟨_, rfl, rfl⟩

/-- The configuration that gives knobs their values. -/
def ofValues (value : (k : Knob) → k.Value) : BuildConfig where
  metric := value .metric
  gpu := {
    intermediateDegree := value .intermediateDegree
    graphDegree := value .graphDegree
    algorithm := value .algorithm
    storeDataset := value .storeDataset
    device := value .device
    clusters := {
      listCount := value .listCount
      iterations := value .iterations
      trainFraction := value .trainFraction
      codeBits := value .codeBits
      codeDimension := value .codeDimension
      conservativeMemory := value .conservativeMemory }
    probes := { probeCount := value .probeCount } }
  cpu := {
    efSearch := value .efSearch
    efConstruction := value .efConstruction
    baseLevelOnly := value .baseLevelOnly }

/-- A configuration is given by the values of its knobs. -/
theorem ofValues_value : ofValues c.value = c :=
  rfl

variable {c}

/-- A configuration is told by the values of its knobs. -/
theorem eq_of_value_eq {c' : BuildConfig} (h : ∀ k, c'.value k = c.value k) : c' = c := by
  rw [← ofValues_value c', ← ofValues_value c, funext h]

/-- Overrides that choose every knob of a valid configuration are assembled to it. -/
theorem assemble_eq_ok_of_means {o : Overrides} (hc : c.validate = .ok ())
    (h : ∀ k, ∃ choice, o.choice k = some choice ∧ k.Means choice (c.value k))
    (shape : BuildShape) : o.assemble shape = .ok c := by
  obtain ⟨k, choice, reason, hchoice, hmeans, -⟩ | ⟨config, htakes, hassemble⟩ :=
    o.assemble_cases shape
  · obtain ⟨choice', hchoice', hmeans'⟩ := h k
    obtain rfl := Option.some.inj (hchoice.symm.trans hchoice')
    exact absurd hmeans' (hmeans _)
  · have hconfig : config = c := by
      refine eq_of_value_eq fun k => ?_
      obtain ⟨choice, hchoice, hmeans⟩ := h k
      have htaken := htakes k
      unfold Overrides.Takes at htaken
      rw [hchoice] at htaken
      exact htaken.unique hmeans
    rw [hassemble, hconfig, hc]
    rfl

/-! ## Entering the views as overrides -/

/-- The tree of overrides that has the entries of both views and the name of the metric as its
leaves. -/
def asOverrides (c : BuildConfig) : Value :=
  .object
    [ ("gpu_config", nest c.gpuFlat), ("hnsw_config", nest c.cpuFlat),
      ("metric", .string c.metric.name) ]

/-- Members under different names are in another order when they are the same and as many. -/
theorem perm_of_subset {members members' : List (String × Value)}
    (hnodup : (members.map Prod.fst).Nodup) (hsubset : members ⊆ members')
    (hlength : members'.length ≤ members.length) : members.Perm members' :=
  (List.subperm_of_subset (.of_map Prod.fst hnodup) hsubset).perm_of_length_le hlength

/-- The overrides for the clusters are written with the members of the view, perhaps in another
order. -/
theorem toJson_clusters_reordered (c : BuildConfig) :
    ((c.spelledOut.gpu.getD {}).clusters.getD {}).toJson.Reordered (.object c.clusterMembers) := by
  refine .swapped (perm_of_subset ?_ ?_ ?_)
  · change ["n_lists", "kmeans_n_iters", "kmeans_trainset_fraction", "pq_bits", "pq_dim",
      "conservative_memory_allocation"].Nodup
    decide
  · simp [spelledOut, member?, clusterMembers]
  · exact le_rfl

/-- The overrides for the device are written with the members of the view, perhaps in another
order. -/
theorem toJson_gpu_reordered (c : BuildConfig) :
    (c.spelledOut.gpu.getD {}).toJson.Reordered (.object c.gpuMembers) := by
  refine (@Value.Reordered.within [_, _, _, _, _] [_] "ivf_pq_build_params" _ _
    c.toJson_clusters_reordered).trans (.swapped (perm_of_subset ?_ ?_ ?_))
  · change ["intermediate_graph_degree", "graph_degree", "graph_build_algo", "store_dataset",
      "device", "ivf_pq_build_params", "ivf_pq_search_params"].Nodup
    decide
  · simp [gpuMembers, graphMembers, probeMembers, storageMembers, toInt_device,
      ProbeOverrides.toJson, member?, -Int64.toInt_ofInt]
  · exact le_rfl

/-- The overrides for the host are written with the members of the view, perhaps in another
order. -/
theorem toJson_cpu_reordered (c : BuildConfig) :
    (c.spelledOut.cpu.getD {}).toJson.Reordered (.object c.cpuFlat) := by
  refine .swapped (perm_of_subset ?_ ?_ ?_)
  · change ["ef_search", "ef_construction", "base_level_only"].Nodup
    decide
  · simp [spelledOut, member?, cpuFlat]
  · exact le_rfl

/-- The tree is what is written for overrides that leave nothing open, but for the order of
members. -/
theorem toJson_spelledOut_reordered (c : BuildConfig) :
    c.spelledOut.toJson.Reordered c.asOverrides := by
  unfold asOverrides
  rw [nest_gpuFlat, nest_cpuFlat]
  exact (@Value.Reordered.within [] [_, _] "gpu_config" _ _ c.toJson_gpu_reordered).trans
    (@Value.Reordered.within [_] [_] "hnsw_config" _ _ c.toJson_cpu_reordered)

/-- A valid configuration has a finite training fraction. -/
theorem finite_of_valid {c : BuildConfig} (h : c.validate = .ok ()) :
    c.gpu.clusters.trainFraction.isFinite = true := by
  have hrange := (validate_eq_ok_iff.1 h).trainFraction
  unfold Double.inUnitInterval at hrange
  unfold Double.isFinite Double.infinityBits
  simp at hrange ⊢
  omega

/-- The views of a valid configuration can be entered as overrides again, in whatever order their
members come.  They are read, so that all entries are under names that overrides know; every knob is
chosen, and the choice means its value; and they are assembled to the configuration, whatever the
dataset is.  So a valid configuration is told by its views and its metric. -/
theorem reentered_from_views {c : BuildConfig} (h : c.validate = .ok ()) {v : Value}
    (hv : c.asOverrides.Reordered v) :
    ∃ o, Overrides.ofJson? v = some o ∧
      (∀ k : Knob, ∃ choice, o.choice k = some choice ∧ k.Means choice (c.value k)) ∧
      (∀ shape, o.assemble shape = .ok c) ∧
      ∀ c', c'.validate = .ok () → c'.gpuFlat = c.gpuFlat → c'.cpuFlat = c.cpuFlat →
        c'.metric = c.metric → c' = c := by
  have hread : ∀ {c : BuildConfig} {v : Value}, c.validate = .ok () → c.asOverrides.Reordered v →
      Overrides.ofJson? v = some c.spelledOut := by
    intro c v hc hv
    refine Overrides.reads ?_ v (c.toJson_spelledOut_reordered.trans hv)
    rintro fraction ⟨⟩
    exact finite_of_valid hc
  refine ⟨c.spelledOut, hread h hv, c.exists_choice_spelledOut,
    assemble_eq_ok_of_means h c.exists_choice_spelledOut, fun c' h' hgpu hcpu hmetric => ?_⟩
  have htree : c'.asOverrides = c.asOverrides := by
    unfold asOverrides
    rw [hgpu, hcpu, hmetric]
  have hsame : c'.spelledOut = c.spelledOut :=
    Option.some.inj ((hread h' (.refl _)).symm.trans (hread h (htree ▸ .refl _)))
  have hassemble := assemble_eq_ok_of_means h' c'.exists_choice_spelledOut
    { docCount := 1, dimension := 1, metric := .l2 }
  rw [hsame, assemble_eq_ok_of_means h c.exists_choice_spelledOut] at hassemble
  exact (Except.ok.inj hassemble).symm

/-- The last ordinal, the whole dataset for training, and the members from the last one to the
first: the shape, which suggests other knobs, changes nothing. -/
theorem backward_views_are_entered :
    ∃ c members o, c = ({
        metric := .cosine
        gpu := {
          algorithm := .nnDescent
          device := 0xFFFFFFFF
          clusters := { trainFraction := ⟨0x3FF0000000000000⟩ } } } : BuildConfig) ∧
      c.asOverrides = .object members ∧ Overrides.ofJson? (.object members.reverse) = some o ∧
      o.assemble { docCount := 9000000, dimension := 96, metric := .l2 } = .ok c := by
  obtain ⟨o, hread, -, hassemble, -⟩ := reentered_from_views (c := {
      metric := .cosine
      gpu := {
        algorithm := .nnDescent
        device := 0xFFFFFFFF
        clusters := { trainFraction := ⟨0x3FF0000000000000⟩ } } })
    (by decide +kernel) (.swapped (List.reverse_perm _).symm)
  exact ⟨_, _, o, rfl, rfl, hread, hassemble _⟩

end BuildConfig

end VectorIndex
