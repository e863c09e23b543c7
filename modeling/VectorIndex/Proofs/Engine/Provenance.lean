import VectorIndex.Proofs.Engine.Neighbours

/-!
# Where persisted rows and ids come from

The rows of an artifact are those of the index that a conversion has copied, and its ids are those
of the map that the same conversion was given: persisting checks that the map wraps the copy, and
only that conversion has pointed a map at it.  Whether the map was built together with the index is
checked nowhere.  `Arena.persisted_from_one_build_iff` traces both through any history of calls and
says when they are of one build; `Arena.ids_of_another_dataset` is a history in which they are not.

A history is a list of calls on the empty arena, and `Arena.Traced` is what every history leaves.
-/

set_option autoImplicit false

namespace VectorIndex

/-- A dataset that is read has as many rows as ids. -/
theorem Dataset.length_components {d : Dataset} {vectors : List UInt32} {ids : List Int64}
    (hvectors : d.components = .ok vectors) (hids : d.docIds = .ok ids) :
    ids.length * d.dimension.toNat = vectors.length := by
  cases hbuffers : d.buffers with
  | none =>
    unfold docIds docIdBytes staged at hids
    rw [hbuffers] at hids
    cases hids
  | some b =>
    obtain ⟨hidBytes, hvectorBytes⟩ := d.fits b hbuffers
    rw [components_eq_ok hbuffers] at hvectors
    rw [docIds_eq_ok hbuffers] at hids
    cases hvectors
    cases hids
    have hsize : docIdSize.toNat = 4 := rfl
    rw [length_idsOf, length_componentsOf, hidBytes, hvectorBytes, hsize,
      Nat.mul_div_cancel _ (by decide), Nat.mul_div_cancel _ d.elementType.stagedSize_pos]

namespace Arena

variable {a : Arena} {raw : RawHandle} {s s' : Structure}

/-! ## Histories -/

/-- A call of the engine. -/
inductive Call where
  | build (dataset : Dataset) (config : BuildConfig)
  | convert (gpu : NativeIndex) (config : SearchConfig)
  | persist (cpu : NativeIndex)
  | release (raw : RawHandle) (kind : StructureKind)

/-- The arena after a call. -/
def perform (a : Arena) : Call → Arena
  | .build dataset config => (a.build dataset config).2
  | .convert gpu config => (a.convert gpu config).2
  | .persist cpu => (a.persist cpu).2
  | .release raw kind => (a.release raw kind).2

/-- The arena after a history, which starts with an empty one. -/
def replay (calls : List Call) : Arena :=
  calls.foldl perform {}

/-- One more call is made in the arena that the others have led to. -/
theorem replay_concat (calls : List Call) (call : Call) :
    replay (calls ++ [call]) = (replay calls).perform call := by
  unfold replay
  rw [List.foldl_append]
  rfl

/-- What a successful build was given, and what it gave back. -/
structure Build where
  dataset : Dataset
  config : BuildConfig
  index : RawHandle
  idMap : RawHandle

/-- What a successful conversion was given, and what it gave back. -/
structure Conversion where
  gpu : NativeIndex
  config : SearchConfig
  copy : RawHandle

/-- A build takes place in a history. -/
def Build.In (x : Build) (calls : List Call) : Prop :=
  ∃ before after, calls = before ++ .build x.dataset x.config :: after ∧
    ((replay before).build x.dataset x.config).1 = .ok (.gpu x.index (some x.idMap))

/-- A conversion takes place in a history. -/
def Conversion.In (c : Conversion) (calls : List Call) : Prop :=
  ∃ before after, calls = before ++ .convert c.gpu c.config :: after ∧
    ((replay before).convert c.gpu c.config).1 = .ok c.copy

/-- A build that took place has taken place when more calls are made. -/
theorem Build.In.concat {x : Build} {calls : List Call} (h : x.In calls) (call : Call) :
    x.In (calls ++ [call]) := by
  obtain ⟨before, after, rfl, hbuild⟩ := h
  refine ⟨before, after ++ [call], ?_, hbuild⟩
  rw [List.append_assoc, List.cons_append]

/-- A conversion that took place has taken place when more calls are made. -/
theorem Conversion.In.concat {c : Conversion} {calls : List Call} (h : c.In calls) (call : Call) :
    c.In (calls ++ [call]) := by
  obtain ⟨before, after, rfl, hconvert⟩ := h
  refine ⟨before, after ++ [call], ?_, hconvert⟩
  rw [List.append_assoc, List.cons_append]

/-- The rows of a graph are those of a build. -/
def Build.Made (x : Build) (graph : FlatGraph) : Prop :=
  ∃ vectors, x.dataset.components = .ok vectors ∧
    graph = graphOf x.dataset.dimension vectors x.config

/-! ## What a call may do -/

/-- A graph that can be used is there, on the side that is asked for. -/
theorem find?_of_graph {graph : FlatGraph} {residency : Residency}
    (h : a.graph raw residency.graphKind = .ok graph) :
    a.find? raw = some (graphIn residency graph) := by
  cases hfind : a.find? raw with
  | none =>
    unfold Arena.graph at h
    rw [hfind] at h
    cases h
  | some s =>
    unfold Arena.graph at h
    rw [hfind] at h
    cases residency <;> cases s <;> cases h <;> rfl

/-- A failing build leaves the arena as it was; any other one allocates a graph and its map. -/
theorem build_inversion (a : Arena) (dataset : Dataset) (config : BuildConfig) :
    (∃ message, a.build dataset config = (.failed message none, a)) ∨
    ∃ vectors ids, dataset.components = .ok vectors ∧ dataset.docIds = .ok ids ∧
      a.build dataset config = (.ok (.gpu ⟨a.next⟩ (some ⟨a.next + 1⟩)),
        ((a.alloc (.gpu (graphOf dataset.dimension vectors config))).2.alloc
          (.idMap ids ⟨a.next⟩)).2) := by
  unfold build
  split
  · exact .inl ⟨_, rfl⟩
  · exact .inl ⟨_, rfl⟩
  · next vectors ids hvectors hids => exact .inr ⟨vectors, ids, hvectors, hids, rfl⟩

/-- To point a map elsewhere fails, or replaces its target and keeps its ids. -/
theorem repoint_inversion (a : Arena) (idMap target : RawHandle) :
    (∃ message, a.repoint idMap target = .error message) ∨
    ∃ ids target', a.find? idMap = some (.idMap ids target') ∧
      a.repoint idMap target = .ok (a.replace idMap (.idMap ids target)) := by
  unfold repoint
  split
  · exact .inl ⟨_, rfl⟩
  · next ids target' hmap => exact .inr ⟨ids, target', hmap, rfl⟩
  · exact .inl ⟨_, rfl⟩

/-- A conversion that finds a graph and is given a map allocates a copy.  It succeeds by pointing
the map at the copy, which only needs that it is some map. -/
theorem convert_inversion (a : Arena) (gpu : NativeIndex) (config : SearchConfig) :
    (∃ message, a.convert gpu config = (.failed message none, a)) ∨
    ∃ graph idMap, a.find? gpu.index = some (.gpu graph) ∧ gpu.idMap = some idMap ∧
      ((∃ message, a.convert gpu config = (.failed message (some (.cpu ⟨a.next⟩ none)),
          (a.alloc (.cpu (hostGraph graph config))).2)) ∨
        ∃ ids target, (a.alloc (.cpu (hostGraph graph config))).2.find? idMap =
            some (.idMap ids target) ∧
          a.convert gpu config = (.ok ⟨a.next⟩,
            (a.alloc (.cpu (hostGraph graph config))).2.replace idMap (.idMap ids ⟨a.next⟩))) := by
  unfold convert
  cases hread : a.graph gpu.index .gpuIndex with
  | error message => exact .inl ⟨message, rfl⟩
  | ok graph =>
    cases hgiven : gpu.idMap with
    | none => exact .inl ⟨"GPU index has no id map", rfl⟩
    | some idMap =>
      have hgraph : a.find? gpu.index = some (graphIn .gpu graph) := find?_of_graph hread
      refine .inr ⟨graph, idMap, hgraph, rfl, ?_⟩
      dsimp only
      obtain ⟨message, hrepoint⟩ | ⟨ids, target, hmap, hrepoint⟩ :=
        repoint_inversion (a.alloc (.cpu (hostGraph graph config))).2 idMap
          (a.alloc (.cpu (hostGraph graph config))).1
      · refine .inl ⟨message, ?_⟩
        unfold hostGraph at hrepoint
        rw [hrepoint]
        rfl
      · refine .inr ⟨ids, target, hmap, ?_⟩
        unfold hostGraph at hrepoint
        rw [hrepoint]
        rfl

/-- A release changes nothing or erases the structure. -/
theorem perform_release (a : Arena) (raw : RawHandle) (kind : StructureKind) :
    a.perform (.release raw kind) = a ∨ a.perform (.release raw kind) = a.erase raw := by
  unfold perform release
  dsimp only
  split
  · exact .inl rfl
  · split
    · exact .inr rfl
    · exact .inl rfl

/-- A persisting call changes nothing. -/
theorem perform_persist (a : Arena) (cpu : NativeIndex) : a.perform (.persist cpu) = a := by
  unfold perform persist
  dsimp only
  split <;> rfl

/-! ## Traces -/

/-- What is in an arena comes from the calls of a history.  The target of a map is an index that was
built, or the copy of the conversion that was given the map. -/
structure Traced (calls : List Call) (a : Arena) : Prop where
  fresh : a.Fresh
  rows : ∀ {raw graph}, a.find? raw = some (.gpu graph) →
    ∃ x : Build, x.In calls ∧ x.index = raw ∧ x.Made graph
  ids : ∀ {raw ids target}, a.find? raw = some (.idMap ids target) →
    ∃ y : Build, y.In calls ∧ y.idMap = raw ∧ y.dataset.docIds = .ok ids
  target_lt : ∀ {raw ids target}, a.find? raw = some (.idMap ids target) → target.number < a.next
  copies : ∀ {raw ids target graph}, a.find? raw = some (.idMap ids target) →
    a.find? target = some (.cpu graph) →
    ∃ (c : Conversion) (x : Build) (source : FlatGraph), c.In calls ∧ c.copy = target ∧
      c.gpu.idMap = some raw ∧ x.In calls ∧ x.index = c.gpu.index ∧ x.Made source ∧
      graph = hostGraph source c.config

variable {calls : List Call}

/-- What is traced in a history is traced in a longer one. -/
theorem Traced.concat (h : Traced calls a) (call : Call) : Traced (calls ++ [call]) a where
  fresh := h.fresh
  rows hfind := by
    obtain ⟨x, hx, hrows⟩ := h.rows hfind
    exact ⟨x, hx.concat call, hrows⟩
  ids hfind := by
    obtain ⟨y, hy, hids⟩ := h.ids hfind
    exact ⟨y, hy.concat call, hids⟩
  target_lt := h.target_lt
  copies hmap hcopy := by
    obtain ⟨c, x, source, hc, hcopied, hgiven, hx, hrest⟩ := h.copies hmap hcopy
    exact ⟨c, x, source, hc.concat call, hcopied, hgiven, hx.concat call, hrest⟩

/-- What is found after something was erased was there before. -/
theorem find?_of_find?_erase {raw' : RawHandle} (hfind : (a.erase raw).find? raw' = some s) :
    a.find? raw' = some s := by
  by_cases heq : raw' = raw
  · rw [heq, find?_erase_self] at hfind
    cases hfind
  · exact (find?_erase_of_ne heq).symm.trans hfind

/-- What is left after a release is still traced. -/
theorem Traced.erase (h : Traced calls a) (raw : RawHandle) : Traced calls (a.erase raw) where
  fresh := fresh_erase h.fresh raw
  rows hfind := h.rows (find?_of_find?_erase hfind)
  ids hfind := h.ids (find?_of_find?_erase hfind)
  target_lt hfind := h.target_lt (find?_of_find?_erase hfind)
  copies hmap hcopy := h.copies (find?_of_find?_erase hmap) (find?_of_find?_erase hcopy)

/-- What is found after an allocation is new or was there before. -/
theorem find?_alloc_cases (h : a.Fresh) (hfind : (a.alloc s).2.find? raw = some s') :
    (raw = ⟨a.next⟩ ∧ s' = s) ∨ (raw ≠ ⟨a.next⟩ ∧ a.find? raw = some s') := by
  by_cases heq : raw = ⟨a.next⟩
  · subst heq
    exact .inl ⟨rfl, Option.some.inj (hfind.symm.trans (find?_alloc_self h s))⟩
  · exact .inr ⟨heq, (find?_alloc_of_ne heq s).symm.trans hfind⟩

/-- A new structure that comes from a build.  A new map has a target that is no copy. -/
theorem Traced.alloc (h : Traced calls a)
    (hrows : ∀ graph, s = .gpu graph → ∃ x : Build, x.In calls ∧ x.index = ⟨a.next⟩ ∧ x.Made graph)
    (hids : ∀ ids target, s = .idMap ids target → target.number < a.next ∧
      (∀ graph, a.find? target ≠ some (.cpu graph)) ∧
      ∃ y : Build, y.In calls ∧ y.idMap = ⟨a.next⟩ ∧ y.dataset.docIds = .ok ids) :
    Traced calls (a.alloc s).2 where
  fresh := fresh_alloc h.fresh s
  rows hfind := by
    obtain ⟨rfl, hs⟩ | ⟨-, hold⟩ := find?_alloc_cases h.fresh hfind
    · exact hrows _ hs.symm
    · exact h.rows hold
  ids hfind := by
    obtain ⟨rfl, hs⟩ | ⟨-, hold⟩ := find?_alloc_cases h.fresh hfind
    · exact (hids _ _ hs.symm).2.2
    · exact h.ids hold
  target_lt hfind := by
    apply Nat.lt_succ_of_lt
    obtain ⟨-, hs⟩ | ⟨-, hold⟩ := find?_alloc_cases h.fresh hfind
    · exact (hids _ _ hs.symm).1
    · exact h.target_lt hold
  copies {raw ids target graph} hmap hcopy := by
    -- no target is the new raw handle
    have holdTarget : target.number < a.next → a.find? target = some (.cpu graph) := by
      intro hlt
      obtain ⟨rfl, -⟩ | ⟨-, hold⟩ := find?_alloc_cases h.fresh hcopy
      · exact absurd hlt (Nat.lt_irrefl _)
      · exact hold
    obtain ⟨-, hs⟩ | ⟨-, hold⟩ := find?_alloc_cases h.fresh hmap
    · obtain ⟨hlt, hno, -⟩ := hids _ _ hs.symm
      exact absurd (holdTarget hlt) (hno graph)
    · exact h.copies hold (holdTarget (h.target_lt hold))

/-- A map is pointed at the copy of the conversion that was given the map. -/
theorem Traced.repoint (h : Traced calls a) {ids : List Int64} {target copy : RawHandle}
    {source : FlatGraph} {c : Conversion} {x : Build}
    (hmap : a.find? raw = some (.idMap ids target))
    (hcopy : a.find? copy = some (.cpu (hostGraph source c.config)))
    (hc : c.In calls) (hcopied : c.copy = copy) (hgiven : c.gpu.idMap = some raw)
    (hx : x.In calls) (hindex : x.index = c.gpu.index) (hmade : x.Made source) :
    Traced calls (a.replace raw (.idMap ids copy)) := by
  have hself := find?_replace_self hmap (.idMap ids copy)
  have hcases : ∀ {raw' s'}, (a.replace raw (.idMap ids copy)).find? raw' = some s' →
      (raw' = raw ∧ s' = .idMap ids copy) ∨ a.find? raw' = some s' := by
    intro raw' s' hfind
    by_cases heq : raw' = raw
    · subst heq
      exact .inl ⟨rfl, Option.some.inj (hfind.symm.trans hself)⟩
    · exact .inr ((find?_replace_of_ne heq _).symm.trans hfind)
  refine ⟨fresh_replace h.fresh (number_lt_of_find? h.fresh hmap) _, ?_, ?_, ?_, ?_⟩
  · intro raw' graph hfind
    obtain ⟨-, hs⟩ | hold := hcases hfind
    · cases hs
    · exact h.rows hold
  · intro raw' ids' target' hfind
    obtain ⟨rfl, hs⟩ | hold := hcases hfind
    · cases hs
      exact h.ids hmap
    · exact h.ids hold
  · intro raw' ids' target' hfind
    obtain ⟨-, hs⟩ | hold := hcases hfind
    · cases hs
      exact (number_lt_of_find? h.fresh hcopy : copy.number < a.next)
    · exact h.target_lt hold
  · intro raw' ids' target' graph hfind hfindTarget
    obtain ⟨-, hs⟩ | holdTarget := hcases hfindTarget
    · cases hs
    obtain ⟨rfl, hs⟩ | hold := hcases hfind
    · cases hs
      cases hcopy.symm.trans holdTarget
      exact ⟨c, x, source, hc, hcopied, hgiven, hx, hindex, hmade, rfl⟩
    · exact h.copies hold holdTarget

/-! ## Tracing a history -/

/-- What a build allocates comes from this build. -/
theorem traced_build (h : Traced calls (replay calls)) (dataset : Dataset) (config : BuildConfig) :
    Traced (calls ++ [.build dataset config]) ((replay calls).build dataset config).2 := by
  obtain ⟨message, hbuild⟩ | ⟨vectors, ids, hvectors, hids, hbuild⟩ :=
    build_inversion (replay calls) dataset config
  · rw [hbuild]
    exact h.concat _
  · let x : Build := ⟨dataset, config, ⟨(replay calls).next⟩, ⟨(replay calls).next + 1⟩⟩
    have hx : x.In (calls ++ [.build dataset config]) :=
      ⟨calls, [], rfl, congrArg Prod.fst hbuild⟩
    rw [hbuild]
    have hgraph : Traced (calls ++ [.build dataset config]) ((replay calls).alloc
        (.gpu (graphOf dataset.dimension vectors config))).2 := by
      apply (h.concat (.build dataset config)).alloc
      · intro graph hs
        cases hs
        exact ⟨x, hx, rfl, vectors, hvectors, rfl⟩
      · intro ids' target hs
        cases hs
    apply hgraph.alloc
    · intro graph hs
      cases hs
    · intro ids' target hs
      cases hs
      refine ⟨Nat.lt_succ_self _, ?_, x, hx, rfl, hids⟩
      intro graph hcopy
      cases (find?_alloc_self h.fresh _).symm.trans hcopy

/-- What a conversion allocates comes from this conversion, and the map was given to it. -/
theorem traced_convert (h : Traced calls (replay calls)) (gpu : NativeIndex)
    (config : SearchConfig) :
    Traced (calls ++ [.convert gpu config]) ((replay calls).convert gpu config).2 := by
  obtain ⟨message, hconvert⟩ | ⟨graph, idMap, hgraph, hgiven, hconvert⟩ :=
    convert_inversion (replay calls) gpu config
  · rw [hconvert]
    exact h.concat _
  · have hcopy : Traced (calls ++ [.convert gpu config]) ((replay calls).alloc
        (.cpu (hostGraph graph config))).2 := by
      apply (h.concat (.convert gpu config)).alloc
      · intro graph' hs
        cases hs
      · intro ids target hs
        cases hs
    obtain ⟨message, hconvert⟩ | ⟨ids, target, hmap, hconvert⟩ := hconvert
    · rw [hconvert]
      exact hcopy
    · obtain ⟨x, hx, hindex, hmade⟩ := h.rows hgraph
      let c : Conversion := ⟨gpu, config, ⟨(replay calls).next⟩⟩
      have hc : c.In (calls ++ [.convert gpu config]) :=
        ⟨calls, [], rfl, congrArg Prod.fst hconvert⟩
      rw [hconvert]
      exact hcopy.repoint hmap (find?_alloc_self h.fresh _) hc rfl hgiven (hx.concat _) hindex hmade

/-- Whatever is called next, everything is traced. -/
theorem Traced.perform (h : Traced calls (replay calls)) (call : Call) :
    Traced (calls ++ [call]) (replay (calls ++ [call])) := by
  rw [replay_concat]
  cases call with
  | build dataset config => exact traced_build h dataset config
  | convert gpu config => exact traced_convert h gpu config
  | persist cpu =>
    rw [perform_persist]
    exact h.concat _
  | release raw kind =>
    obtain hsame | herased := perform_release (replay calls) raw kind
    · rw [hsame]
      exact h.concat _
    · rw [herased]
      exact (h.concat _).erase raw

/-- Whatever is called later, everything is traced. -/
theorem Traced.append (h : Traced calls (replay calls)) (more : List Call) :
    Traced (calls ++ more) (replay (calls ++ more)) := by
  induction more generalizing calls with
  | nil =>
    rw [List.append_nil]
    exact h
  | cons call more ih =>
    rw [List.append_cons]
    exact ih (h.perform call)

/-- In every history, everything in the arena is traced. -/
theorem traced_replay (calls : List Call) : Traced calls (replay calls) := by
  have hempty : Traced [] (replay []) := by
    refine ⟨nofun, ?_, ?_, ?_, ?_⟩
    · exact fun hfind => nomatch hfind
    · exact fun hfind => nomatch hfind
    · exact fun hfind => nomatch hfind
    · exact fun hfind => nomatch hfind
  exact hempty.append calls

/-! ## Builds have raw handles of their own -/

/-- A call never takes the next raw handle back. -/
theorem next_le_perform (a : Arena) (call : Call) : a.next ≤ (a.perform call).next := by
  cases call with
  | build dataset config =>
    obtain ⟨message, hbuild⟩ | ⟨vectors, ids, -, -, hbuild⟩ := build_inversion a dataset config
    · exact Nat.le_of_eq (congrArg (fun r => r.2.next) hbuild).symm
    · have hnext : (a.build dataset config).2.next = a.next + 2 :=
        congrArg (fun r => r.2.next) hbuild
      change a.next ≤ (a.build dataset config).2.next
      omega
  | convert gpu config =>
    change a.next ≤ (a.convert gpu config).2.next
    obtain ⟨message, hconvert⟩ | ⟨graph, idMap, -, -, hconvert⟩ := convert_inversion a gpu config
    · exact Nat.le_of_eq (congrArg (fun r => r.2.next) hconvert).symm
    · obtain ⟨message, hconvert⟩ | ⟨ids, target, -, hconvert⟩ := hconvert
      · rw [hconvert]
        exact Nat.le_succ _
      · rw [hconvert]
        exact Nat.le_succ _
  | persist cpu => exact Nat.le_of_eq (congrArg next (perform_persist a cpu)).symm
  | release raw kind =>
    obtain hsame | herased := perform_release a raw kind
    · exact Nat.le_of_eq (congrArg next hsame).symm
    · rw [herased]
      exact Nat.le_refl _

/-- The next raw handle counts up in the course of a history. -/
theorem next_replay_le (before after : List Call) :
    (replay before).next ≤ (replay (before ++ after)).next := by
  induction after generalizing before with
  | nil => exact Nat.le_of_eq (congrArg (fun calls => (replay calls).next) (List.append_nil _)).symm
  | cons call after ih =>
    rw [List.append_cons]
    calc (replay before).next ≤ ((replay before).perform call).next := next_le_perform _ call
      _ = (replay (before ++ [call])).next := by rw [replay_concat]
      _ ≤ (replay (before ++ [call] ++ after)).next := ih _

/-- A build takes the next two raw handles. -/
theorem Build.handles_eq {x : Build} {before : List Call}
    (h : ((replay before).build x.dataset x.config).1 = .ok (.gpu x.index (some x.idMap))) :
    x.index = ⟨(replay before).next⟩ ∧ x.idMap = ⟨(replay before).next + 1⟩ ∧
      (replay (before ++ [.build x.dataset x.config])).next = (replay before).next + 2 := by
  obtain ⟨message, hbuild⟩ | ⟨vectors, ids, -, -, hbuild⟩ :=
    build_inversion (replay before) x.dataset x.config
  · rw [hbuild] at h
    cases h
  · rw [hbuild] at h
    injection h with hnative
    injection hnative with _ hindex hidMap
    injection hidMap with hidMap
    refine ⟨hindex.symm, hidMap.symm, ?_⟩
    rw [replay_concat]
    exact congrArg (fun r => r.2.next) hbuild

/-- The map of a build has the raw handle behind that of its index. -/
theorem Build.In.idMap_eq {x : Build} (hx : x.In calls) : x.idMap = ⟨x.index.number + 1⟩ := by
  obtain ⟨before, after, -, hbuild⟩ := hx
  obtain ⟨hindex, hidMap, -⟩ := handles_eq hbuild
  rw [hindex, hidMap]

/-- A later build has another map. -/
theorem Build.idMap_ne {x y : Build} {before between : List Call}
    (hx : ((replay before).build x.dataset x.config).1 = .ok (.gpu x.index (some x.idMap)))
    (hy : ((replay (before ++ .build x.dataset x.config :: between)).build y.dataset y.config).1 =
      .ok (.gpu y.index (some y.idMap))) : x.idMap ≠ y.idMap := by
  obtain ⟨-, hxMap, hnext⟩ := handles_eq hx
  obtain ⟨-, hyMap, -⟩ := handles_eq hy
  have hle := next_replay_le (before ++ [.build x.dataset x.config]) between
  rw [← List.append_cons, hnext] at hle
  rw [hxMap, hyMap]
  intro heq
  injection heq with heq
  omega

/-- One call has one outcome. -/
theorem Build.eq_of_call_eq {x y : Build} {before : List Call}
    (hcall : Call.build x.dataset x.config = .build y.dataset y.config)
    (hx : ((replay before).build x.dataset x.config).1 = .ok (.gpu x.index (some x.idMap)))
    (hy : ((replay before).build y.dataset y.config).1 = .ok (.gpu y.index (some y.idMap))) :
    x = y := by
  obtain ⟨hxIndex, hxMap, -⟩ := handles_eq hx
  obtain ⟨hyIndex, hyMap, -⟩ := handles_eq hy
  injection hcall with hdataset hconfig
  obtain ⟨dataset, config, index, idMap⟩ := x
  obtain ⟨dataset', config', index', idMap'⟩ := y
  cases hdataset
  cases hconfig
  cases hxIndex.trans hyIndex.symm
  cases hxMap.trans hyMap.symm
  rfl

/-- Builds with the same map are the same build. -/
theorem Build.In.eq_of_idMap_eq {x y : Build} (hx : x.In calls) (hy : y.In calls)
    (h : x.idMap = y.idMap) : x = y := by
  obtain ⟨before, after, rfl, hx⟩ := hx
  obtain ⟨before', after', heq, hy⟩ := hy
  -- one of the two builds is not after the other one
  obtain ⟨between, rfl, hrest⟩ | ⟨between, rfl, hrest⟩ := List.append_eq_append_iff.1 heq
  · cases between with
    | nil =>
      rw [List.append_nil] at hy
      exact eq_of_call_eq (List.cons.inj hrest).1 hx hy
    | cons call between =>
      cases hrest
      exact absurd h (idMap_ne hx hy)
  · cases between with
    | nil =>
      rw [List.append_nil] at hx
      exact (eq_of_call_eq (List.cons.inj hrest).1 hy hx).symm
    | cons call between =>
      cases hrest
      exact absurd h.symm (idMap_ne hy hx)

/-! ## Persisted artifacts -/

/-- Ids that wrap a structure come from a map that is there and points at it. -/
theorem find?_of_idsWrapping {idMap : Option RawHandle} {target : RawHandle} {ids : List Int64}
    (h : a.idsWrapping idMap target = .ok ids) :
    ∃ raw, idMap = some raw ∧ a.find? raw = some (.idMap ids target) := by
  unfold idsWrapping at h
  split at h
  · cases h
  · next raw =>
    split at h
    · cases h
    · next ids' target' hmap =>
      split at h
      · next htarget =>
        rw [← Except.ok.inj h, ← htarget]
        exact ⟨raw, rfl, hmap⟩
      · cases h
    · cases h

/-- An artifact is made of a copy and of the ids of a map that wraps this copy. -/
theorem artifact_inversion {cpu : NativeIndex} {file : Artifact} (h : a.artifact cpu = .ok file) :
    ∃ graph idMap ids, a.find? cpu.index = some (.cpu graph) ∧ cpu.idMap = some idMap ∧
      a.find? idMap = some (.idMap ids cpu.index) ∧ file = artifactWith graph ids := by
  unfold artifact at h
  obtain ⟨graph, hgraph, h⟩ := exists_ok_of_bind h
  obtain ⟨ids, hids, h⟩ := exists_ok_of_bind h
  obtain ⟨idMap, hgiven, hmap⟩ := find?_of_idsWrapping hids
  have hcopy : a.find? cpu.index = some (graphIn .cpu graph) := find?_of_graph hgraph
  exact ⟨graph, idMap, ids, hcopy, hgiven, hmap, (Except.ok.inj h).symm⟩

/-- What is persisted is the file of an artifact. -/
theorem exists_artifact_of_persist {cpu : NativeIndex} {bytes : Bytes}
    (h : (a.persist cpu).1 = .ok bytes) :
    ∃ file, a.artifact cpu = .ok file ∧ bytes = file.encode := by
  unfold persist at h
  split at h
  · next file hfile => exact ⟨file, hfile, (Reply.ok.inj h).symm⟩
  · cases h

/-- What is persisted are the rows of one build and the ids of one build.  They are of the same
build when the conversion that made the host index was given the map of that build, and then
only. -/
theorem persisted_from_one_build_iff {calls : List Call} {cpu : NativeIndex} {bytes : Bytes}
    (h : ((replay calls).persist cpu).1 = .ok bytes) :
    ∃ (c : Conversion) (x y : Build) (vectors : List UInt32) (ids : List Int64),
      c.In calls ∧ c.copy = cpu.index ∧ c.gpu.idMap = cpu.idMap ∧
      x.In calls ∧ x.index = c.gpu.index ∧ x.dataset.components = .ok vectors ∧
      y.In calls ∧ some y.idMap = c.gpu.idMap ∧ y.dataset.docIds = .ok ids ∧
      bytes = (artifactWith (hostGraph (graphOf x.dataset.dimension vectors x.config) c.config)
        ids).encode ∧
      (y = x ↔ c.gpu.idMap = some x.idMap) ∧
      (y = x → ids.length * x.dataset.dimension.toNat = vectors.length) := by
  have htraced := traced_replay calls
  obtain ⟨file, hfile, rfl⟩ := exists_artifact_of_persist h
  obtain ⟨graph, idMap, ids, hcopy, hgiven, hmap, rfl⟩ := artifact_inversion hfile
  obtain ⟨y, hy, hyMap, hids⟩ := htraced.ids hmap
  obtain ⟨c, x, source, hc, hcopied, hcGiven, hx, hindex, ⟨vectors, hvectors, rfl⟩, rfl⟩ :=
    htraced.copies hmap hcopy
  refine ⟨c, x, y, vectors, ids, hc, hcopied, hcGiven.trans hgiven.symm, hx, hindex, hvectors, hy,
    ?_, hids, rfl, ⟨?_, ?_⟩, ?_⟩
  · rw [hyMap, hcGiven]
  · rintro rfl
    rw [hyMap, hcGiven]
  · intro hsame
    apply hy.eq_of_idMap_eq hx
    rw [hyMap]
    exact Option.some.inj (hcGiven.symm.trans hsame)
  · rintro rfl
    exact Dataset.length_components hvectors hids

/-! ## Maps that are swapped -/

/-- Two rows, with the ids 7 and 8. -/
def twoRows : Dataset where
  dimension := 2
  docCount := 2
  elementType := .float
  buffers := some {
    vectors := [0, 0, 0x80, 0x3F, 0, 0, 0, 0x40, 0, 0, 0x40, 0x40, 0, 0, 0x80, 0x40]
    docIds := [7, 0, 0, 0, 8, 0, 0, 0] }
  fits := by
    rintro b ⟨⟩
    exact ⟨rfl, rfl⟩

/-- One row, with the id 9. -/
def anotherRow : Dataset where
  dimension := 2
  docCount := 1
  elementType := .float
  buffers := some {
    vectors := [0, 0, 0xA0, 0x40, 0, 0, 0xC0, 0x40]
    docIds := [9, 0, 0, 0] }
  fits := by
    rintro b ⟨⟩
    exact ⟨rfl, rfl⟩

/-- Two builds, and a conversion of the first index that is given the map of the second one. -/
def swappedMaps : List Call :=
  [.build twoRows {}, .build anotherRow {}, .convert (.gpu ⟨1⟩ (some ⟨4⟩)) {}]

/-- The rows of one dataset with the ids of another one. -/
def mixedArtifact : Artifact where
  metric := .l2
  dimension := 2
  efSearch := 100
  efConstruction := 100
  ids := [9]
  vectors := [0x3F800000, 0x40000000, 0x40400000, 0x40800000]

/-- A conversion that is given the map of another build lets its rows be persisted with the ids of
that build. -/
theorem persist_mixed :
    ((replay swappedMaps).persist (.cpu ⟨5⟩ (some ⟨4⟩))).1 = .ok mixedArtifact.encode := by
  have hfile : (replay swappedMaps).artifact (.cpu ⟨5⟩ (some ⟨4⟩)) = .ok mixedArtifact := by
    decide +kernel
  unfold persist
  rw [hfile]

/-- When the maps are swapped, the ids are of another build than the rows. -/
theorem persisted_from_two_builds :
    ∃ (c : Conversion) (x y : Build), c.In swappedMaps ∧ x.In swappedMaps ∧ y.In swappedMaps ∧
      x.index = c.gpu.index ∧ some y.idMap = c.gpu.idMap ∧ y ≠ x := by
  obtain ⟨c, x, y, _, _, hc, -, -, hx, hindex, -, hy, hmap, -, -, hiff, -⟩ :=
    persisted_from_one_build_iff persist_mixed
  refine ⟨c, x, y, hc, hx, hy, hindex, hmap, fun hsame => ?_⟩
  have hswapped : c.gpu = .gpu ⟨1⟩ (some ⟨4⟩) := by
    obtain ⟨before, after, hcalls, -⟩ := hc
    have hmem : Call.convert c.gpu c.config ∈ swappedMaps := hcalls ▸ List.mem_append_cons_self
    simp only [swappedMaps, List.mem_cons, reduceCtorEq, Call.convert.injEq, List.not_mem_nil,
      or_false, false_or] at hmem
    exact hmem.1
  have hown := hiff.1 hsame
  rw [hx.idMap_eq, hindex, hswapped] at hown
  exact absurd hown (by decide)

/-- An artifact with the rows of one dataset and the id of another one is persisted. -/
theorem ids_of_another_dataset :
    ((replay swappedMaps).persist (.cpu ⟨5⟩ (some ⟨4⟩))).1 = .ok mixedArtifact.encode ∧
      twoRows.components = .ok mixedArtifact.vectors ∧ twoRows.docIds = .ok [7, 8] ∧
      anotherRow.docIds = .ok mixedArtifact.ids ∧
      mixedArtifact.ids.length * mixedArtifact.dimension.toNat ≠ mixedArtifact.vectors.length := by
  have hrows : twoRows.components = .ok mixedArtifact.vectors := by decide +kernel
  have hown : twoRows.docIds = .ok [7, 8] := by decide +kernel
  have hother : anotherRow.docIds = .ok mixedArtifact.ids := by decide +kernel
  exact ⟨persist_mixed, hrows, hown, hother, by decide⟩

end Arena

end VectorIndex
