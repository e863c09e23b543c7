import VectorIndex.Engine.Arena
import VectorIndex.Proofs.Association
import VectorIndex.Proofs.Dataset.Elements

/-!
# Indexes in the arena

The number of the next raw handle is larger than that of every structure in the arena
(`Arena.fresh_of_reachable`), so that a new structure is found under its raw handle and hides no
other one.  `Arena.Holds` says that an index is there with its rows and its ids.  A build makes
such an index, a conversion moves it to the host, where it stays when the device graph is freed,
and what is persisted is its artifact.
-/

set_option autoImplicit false

namespace VectorIndex

namespace Arena

variable {a : Arena} {raw raw' : RawHandle} {s : Structure}

/-! ## Raw handles -/

/-- No structure has the number of the next raw handle or a larger one. -/
def Fresh (a : Arena) : Prop :=
  ∀ cell ∈ a.cells, cell.1.number < a.next

/-- The states of an arena that calls of the engine lead to. -/
inductive Reachable : Arena → Prop where
  | empty : Reachable {}
  | build {a : Arena} (dataset : Dataset) (config : BuildConfig) :
    Reachable a → Reachable (a.build dataset config).2
  | convert {a : Arena} (gpu : NativeIndex) (config : SearchConfig) :
    Reachable a → Reachable (a.convert gpu config).2
  | persist {a : Arena} (cpu : NativeIndex) : Reachable a → Reachable (a.persist cpu).2
  | release {a : Arena} (raw : RawHandle) (kind : StructureKind) :
    Reachable a → Reachable (a.release raw kind).2

/-- To allocate keeps an arena fresh. -/
theorem fresh_alloc (h : a.Fresh) (s : Structure) : (a.alloc s).2.Fresh := by
  intro cell hcell
  obtain hold | hnew := List.mem_append.1 hcell
  · exact Nat.lt_succ_of_lt (h cell hold)
  · obtain rfl := List.mem_singleton.1 hnew
    exact Nat.lt_succ_self a.next

/-- To replace a structure that was allocated keeps an arena fresh. -/
theorem fresh_replace (h : a.Fresh) (hraw : raw.number < a.next) (s : Structure) :
    (a.replace raw s).Fresh := by
  intro cell hcell
  obtain ⟨old, hold, rfl⟩ := List.mem_map.1 hcell
  split
  · exact hraw
  · exact h old hold

/-- To erase keeps an arena fresh. -/
theorem fresh_erase (h : a.Fresh) (raw : RawHandle) : (a.erase raw).Fresh :=
  fun cell hcell => h cell (List.mem_filter.1 hcell).1

/-! ## Structures under raw handles -/

/-- What is found in a fresh arena was allocated before. -/
theorem number_lt_of_find? (h : a.Fresh) (hfind : a.find? raw = some s) : raw.number < a.next :=
  h _ (Association.mem_of_lookup hfind)

/-- What is allocated is found under the next raw handle. -/
theorem find?_alloc_self (h : a.Fresh) (s : Structure) :
    (a.alloc s).2.find? (a.alloc s).1 = some s := by
  have hnone : a.find? ⟨a.next⟩ = none := by
    cases hfind : a.find? ⟨a.next⟩ with
    | none => rfl
    | some s' => exact absurd (number_lt_of_find? h hfind) (Nat.lt_irrefl a.next)
  change (a.cells ++ [_]).lookup (⟨a.next⟩ : RawHandle) = some s
  rw [List.lookup_append, show a.cells.lookup ⟨a.next⟩ = none from hnone]
  exact List.lookup_cons_self

/-- A new structure hides no other one. -/
theorem find?_alloc (hfind : a.find? raw = some s) (s' : Structure) :
    (a.alloc s').2.find? raw = some s := by
  change (a.cells ++ [_]).lookup raw = some s
  rw [List.lookup_append, show a.cells.lookup raw = some s from hfind]
  rfl

/-- A structure that is replaced is found as its replacement. -/
theorem find?_replace_self (hfind : a.find? raw = some s) (s' : Structure) :
    (a.replace raw s').find? raw = some s' := by
  refine (Association.lookup_map_self a.cells raw s').trans ?_
  rw [show a.cells.lookup raw = some s from hfind]
  rfl

/-- To replace a structure leaves the others alone. -/
theorem find?_replace_of_ne (h : raw' ≠ raw) (s' : Structure) :
    (a.replace raw s').find? raw' = a.find? raw' :=
  Association.lookup_map_of_ne a.cells h s'

/-- To erase a structure leaves the others alone. -/
theorem find?_erase_of_ne (h : raw' ≠ raw) : (a.erase raw).find? raw' = a.find? raw' :=
  Association.lookup_filter a.cells fun _ => decide_eq_true h

/-- Different structures have different raw handles. -/
theorem ne_of_find? {s' : Structure} (hfind : a.find? raw = some s)
    (hfind' : a.find? raw' = some s') (hne : s ≠ s') : raw ≠ raw' := by
  rintro rfl
  exact hne (Option.some.inj (hfind.symm.trans hfind'))

/-- What is not there is not under a raw handle where something is. -/
theorem ne_of_find?_none (hgone : a.find? raw = none) (hfind : a.find? raw' = some s) :
    raw ≠ raw' := by
  rintro rfl
  cases hgone.symm.trans hfind

/-- A map is pointed at another index. -/
theorem repoint_eq_ok {ids : List Int64} {index : RawHandle}
    (hfind : a.find? raw = some (.idMap ids index)) (index' : RawHandle) :
    a.repoint raw index' = .ok (a.replace raw (.idMap ids index')) := by
  unfold repoint
  rw [hfind]

/-- What is released as what it is goes away. -/
theorem release_eq_erase (kind : StructureKind) (hfind : a.find? raw = some s)
    (hkind : s.kind = kind) : (a.release raw kind).2 = a.erase raw := by
  unfold release
  rw [hfind]
  exact congrArg Prod.snd (if_pos hkind)

/-! ## Reachable arenas -/

/-- A build keeps an arena fresh. -/
theorem fresh_build (h : a.Fresh) (dataset : Dataset) (config : BuildConfig) :
    (a.build dataset config).2.Fresh := by
  unfold build
  split
  · exact h
  · exact h
  · exact fresh_alloc (fresh_alloc h _) _

/-- A map that is pointed elsewhere keeps an arena fresh. -/
theorem fresh_of_repoint {a' : Arena} (h : a.Fresh) (hrepoint : a.repoint raw raw' = .ok a') :
    a'.Fresh := by
  unfold repoint at hrepoint
  split at hrepoint
  · cases hrepoint
  · next hfind =>
    cases hrepoint
    exact fresh_replace h (number_lt_of_find? h hfind) _
  · cases hrepoint

/-- A conversion keeps an arena fresh. -/
theorem fresh_convert (h : a.Fresh) (gpu : NativeIndex) (config : SearchConfig) :
    (a.convert gpu config).2.Fresh := by
  unfold convert
  split
  · exact h
  · next graph _ =>
    split
    · exact h
    · next idMap _ =>
      have hcopy := fresh_alloc h (.cpu { graph with
        efSearch := config.efSearch, efConstruction := config.efConstruction })
      dsimp only
      split
      · next hrepoint => exact fresh_of_repoint hcopy hrepoint
      · exact hcopy

/-- A release keeps an arena fresh. -/
theorem fresh_release (h : a.Fresh) (raw : RawHandle) (kind : StructureKind) :
    (a.release raw kind).2.Fresh := by
  unfold release
  split
  · exact h
  · split
    · exact fresh_erase h raw
    · exact h

/-- Every arena that calls lead to is fresh. -/
theorem fresh_of_reachable (h : a.Reachable) : a.Fresh := by
  induction h with
  | empty => exact nofun
  | build dataset config _ ih => exact fresh_build ih dataset config
  | convert gpu config _ ih => exact fresh_convert ih gpu config
  | @persist a cpu _ ih =>
    unfold persist
    split <;> exact ih
  | release raw kind _ ih => exact fresh_release ih raw kind

/-! ## Whole indexes -/

/-- A graph of the kind that belongs to a residency. -/
def graphIn (residency : Residency) (graph : FlatGraph) : Structure :=
  match residency with
  | .gpu => .gpu graph
  | .cpu => .cpu graph

/-- An index is in the arena with these rows and these ids. -/
structure Holds (native : NativeIndex) (graph : FlatGraph) (ids : List Int64) (a : Arena) :
    Prop where
  graph : a.find? native.index = some (graphIn native.residency graph)
  ids : ∃ idMap, native.idMap = some idMap ∧ a.find? idMap = some (.idMap ids native.index)

/-- The graph that is made of the vectors that were staged for a build. -/
def graphOf (dimension : UInt64) (vectors : List UInt32) (config : BuildConfig) : FlatGraph where
  metric := config.metric
  dimension := dimension
  vectors := vectors
  efSearch := config.cpu.efSearch
  efConstruction := config.cpu.efConstruction

/-- A build makes an index of the rows and ids of the dataset. -/
theorem build_spec (h : a.Fresh) {dataset : Dataset} {b : StagedBuffers}
    (hb : dataset.buffers = some b) (config : BuildConfig) :
    ∃ native a', a.build dataset config = (.ok native, a') ∧ native.residency = .gpu ∧
      a'.Holds native
        (graphOf dataset.dimension (Dataset.componentsOf dataset.elementType b.vectors) config)
        (Dataset.idsOf b.docIds) := by
  unfold build
  rw [Dataset.components_eq_ok hb, Dataset.docIds_eq_ok hb]
  refine ⟨_, _, rfl, rfl, ?_, ⟨_, rfl, ?_⟩⟩
  · exact find?_alloc (find?_alloc_self h _) _
  · exact find?_alloc_self (fresh_alloc h _) _

/-- The graph of a conversion, with search parameters of its own. -/
def hostGraph (graph : FlatGraph) (config : SearchConfig) : FlatGraph :=
  { graph with efSearch := config.efSearch, efConstruction := config.efConstruction }

/-- A conversion puts a copy of the graph beside it and points the id map at the copy. -/
theorem convert_eq_ok {index idMap target : RawHandle} {graph : FlatGraph} {ids : List Int64}
    (hgraph : a.find? index = some (.gpu graph)) (hmap : a.find? idMap = some (.idMap ids target))
    (config : SearchConfig) :
    a.convert ⟨.gpu, index, some idMap⟩ config =
      (.ok (a.alloc (.cpu (hostGraph graph config))).1,
        (a.alloc (.cpu (hostGraph graph config))).2.replace idMap
          (.idMap ids (a.alloc (.cpu (hostGraph graph config))).1)) := by
  have hread : a.graph index .gpuIndex = .ok graph := by
    unfold Arena.graph
    rw [hgraph]
  have hrepoint := repoint_eq_ok (find?_alloc hmap (.cpu (hostGraph graph config)))
    (a.alloc (.cpu (hostGraph graph config))).1
  unfold convert
  simp only [hread]
  split
  · next hok =>
    cases hrepoint.symm.trans hok
    rfl
  · next herror => cases hrepoint.symm.trans herror

/-- A conversion moves an index to the host, with search parameters of its own, where it stays when
the device graph is freed. -/
theorem convert_spec (h : a.Fresh) {gpu : NativeIndex} {graph : FlatGraph} {ids : List Int64}
    (hgpu : gpu.residency = .gpu) (hholds : a.Holds gpu graph ids) (config : SearchConfig) :
    ∃ copy a', a.convert gpu config = (.ok copy, a') ∧
      (a'.release gpu.index .gpuIndex).2.Holds (.cpu copy gpu.idMap) (hostGraph graph config)
        ids := by
  obtain ⟨residency, index, map⟩ := gpu
  obtain rfl : residency = .gpu := hgpu
  obtain ⟨hgraph, idMap, rfl, hmap⟩ := hholds
  have hgraph : a.find? index = some (.gpu graph) := hgraph
  have hcopy := find?_alloc_self h (.cpu (hostGraph graph config))
  have hmapAfter := find?_alloc hmap (.cpu (hostGraph graph config))
  have hindexAfter := find?_alloc hgraph (.cpu (hostGraph graph config))
  -- three raw handles are in play, and structures of three kinds are found under them
  have hcopyMap := ne_of_find? hcopy hmapAfter nofun
  have hcopyIndex := ne_of_find? hcopy hindexAfter nofun
  have hmapIndex := ne_of_find? hmapAfter hindexAfter nofun
  refine ⟨_, _, convert_eq_ok hgraph hmap config, ?_⟩
  rw [release_eq_erase .gpuIndex ((find?_replace_of_ne hmapIndex.symm _).trans hindexAfter) rfl]
  refine ⟨?_, idMap, rfl, ?_⟩
  · exact (find?_erase_of_ne hcopyIndex).trans ((find?_replace_of_ne hcopyMap _).trans hcopy)
  · exact (find?_erase_of_ne hmapIndex).trans (find?_replace_self hmapAfter _)

/-- The artifact of a graph and the ids of its rows. -/
def artifactWith (graph : FlatGraph) (ids : List Int64) : Artifact where
  metric := graph.metric
  dimension := graph.dimension
  efSearch := graph.efSearch
  efConstruction := graph.efConstruction
  ids := ids
  vectors := graph.vectors

/-- What is persisted is the artifact of the index. -/
theorem persist_spec {cpu : NativeIndex} {graph : FlatGraph} {ids : List Int64}
    (hcpu : cpu.residency = .cpu) (hholds : a.Holds cpu graph ids) :
    a.persist cpu = (.ok (artifactWith graph ids).encode, a) := by
  obtain ⟨residency, index, map⟩ := cpu
  obtain rfl : residency = .cpu := hcpu
  obtain ⟨hgraph, idMap, rfl, hmap⟩ := hholds
  have hgraph : a.graph index .cpuIndex = .ok graph := by
    unfold Arena.graph
    rw [show a.find? index = some (.cpu graph) from hgraph]
  have hids : a.idsWrapping (some idMap) index = .ok ids := by
    unfold idsWrapping
    simp only [hmap, if_true]
  unfold persist artifact
  simp only [hgraph, hids, bind, Except.bind, pure, Except.pure]
  rfl

end Arena

end VectorIndex
