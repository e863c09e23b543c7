import VectorIndex.Proofs.Custody.Surroundings
import VectorIndex.Proofs.Engine.Cells

/-!
# Neighbours in the arena

Several runs keep their structures in one arena.  `Arena.Confined` says that a change was made by
the owner of some structures: all others are as they were, what the owner gave up is gone, and what
the owner has got is under raw handles that nobody had before.  Therefore an index stays where it is
while others work (`Arena.Confined.find?_of_lt`), an arena of many owners stays shared among them
(`Arena.Shared.of_confined`), and an arena in which everybody has given up everything holds as many
structures as before (`Arena.liveCount_eq`).
-/

set_option autoImplicit false

namespace VectorIndex

variable {σ : Type}

/-- The raw handles of an index. -/
def NativeIndex.raws (n : NativeIndex) : List RawHandle :=
  n.components.map Prod.fst

/-- An index with a map has two raw handles. -/
theorem NativeIndex.mem_raws_iff {residency : Residency} {index idMap raw : RawHandle} :
    raw ∈ (NativeIndex.mk residency index (some idMap)).raws ↔ raw = idMap ∨ raw = index := by
  change raw ∈ [idMap, index] ↔ _
  rw [List.mem_cons, List.mem_singleton]

namespace Arena

variable {a a' a'' : Arena} {raw : RawHandle} {own own' own'' : List RawHandle}

/-! ## No structure hides another one -/

/-- The raw handles of all structures. -/
def keys (a : Arena) : List RawHandle :=
  a.cells.map Prod.fst

/-- To allocate uses a raw handle that was not in use. -/
theorem nodup_alloc (h : a.Fresh) (hkeys : a.keys.Nodup) (s : Structure) :
    (a.alloc s).2.keys.Nodup := by
  have hnew : (⟨a.next⟩ : RawHandle) ∉ a.keys := by
    intro hmem
    obtain ⟨cell, hcell, heq⟩ := List.mem_map.1 hmem
    have hlt := h cell hcell
    rw [heq] at hlt
    exact Nat.lt_irrefl _ hlt
  have happend : (a.alloc s).2.keys = a.keys ++ [⟨a.next⟩] := List.map_append
  rw [happend, List.nodup_append]
  refine ⟨hkeys, by simp, fun raw hraw raw' hraw' heq => ?_⟩
  rw [heq, List.mem_singleton.1 hraw'] at hraw
  exact hnew hraw

/-- A change was made by the owner of some structures, who owns others afterwards. -/
structure Confined (own own' : List RawHandle) (a a' : Arena) : Prop where
  reachable : a.Reachable → a'.Reachable
  next : a.next ≤ a'.next
  kept : ∀ raw, raw ∉ own → raw ∉ own' → a'.find? raw = a.find? raw
  freed : ∀ raw ∈ own, raw ∉ own' → a'.find? raw = none
  new : ∀ raw ∈ own', raw ∉ own → a.next ≤ raw.number

/-- To do nothing is confined to anything. -/
theorem Confined.refl (own : List RawHandle) (a : Arena) : a.Confined own own a where
  reachable h := h
  next := Nat.le_refl _
  kept _ _ _ := rfl
  freed _ hraw hraw' := absurd hraw hraw'
  new _ hraw hraw' := absurd hraw hraw'

/-- What was given out before and belongs to somebody else is as it was. -/
theorem Confined.find?_of_lt (h : a.Confined own own' a') (hlt : raw.number < a.next)
    (hown : raw ∉ own) : a'.find? raw = a.find? raw :=
  h.kept raw hown fun hnew => Nat.not_lt.2 (h.new raw hnew hown) hlt

/-- An index is held wherever its raw handles lead to the same structures. -/
theorem Holds.of_find? {native : NativeIndex} {graph : FlatGraph} {ids : List Int64}
    (h : a.Holds native graph ids) (hfind : ∀ raw ∈ native.raws, a'.find? raw = a.find? raw) :
    a'.Holds native graph ids := by
  obtain ⟨residency, index, map⟩ := native
  obtain ⟨hgraph, idMap, rfl, hmap⟩ := h
  exact ⟨(hfind _ (NativeIndex.mem_raws_iff.2 (.inr rfl))).trans hgraph, idMap, rfl,
    (hfind _ (NativeIndex.mem_raws_iff.2 (.inl rfl))).trans hmap⟩

/-- The raw handles of an index that is there were given out. -/
theorem Holds.number_lt {native : NativeIndex} {graph : FlatGraph} {ids : List Int64}
    (h : a.Holds native graph ids) (hfresh : a.Fresh) :
    ∀ raw ∈ native.raws, raw.number < a.next := by
  obtain ⟨residency, index, map⟩ := native
  obtain ⟨hgraph, idMap, rfl, hmap⟩ := h
  intro raw hraw
  obtain rfl | rfl := NativeIndex.mem_raws_iff.1 hraw
  · exact number_lt_of_find? hfresh hmap
  · exact number_lt_of_find? hfresh hgraph

/-- The structures of an index that is there are allocated. -/
theorem Holds.isSome_find? {native : NativeIndex} {graph : FlatGraph} {ids : List Int64}
    (h : a.Holds native graph ids) : ∀ raw ∈ native.raws, (a.find? raw).isSome = true := by
  obtain ⟨residency, index, map⟩ := native
  obtain ⟨hgraph, idMap, rfl, hmap⟩ := h
  intro raw hraw
  obtain rfl | rfl := NativeIndex.mem_raws_iff.1 hraw
  · rw [hmap]
    rfl
  · exact hgraph ▸ rfl

/-! ## Many owners -/

/-- What is in an arena belongs to at most one of many owners, who have got it since a start; what
belongs to nobody is what was there at the start. -/
structure Shared {ι : Type} (start a : Arena) (owned : ι → List RawHandle) : Prop where
  reachable : a.Reachable
  next : start.next ≤ a.next
  apart : ∀ i j, i ≠ j → ∀ raw ∈ owned i, raw ∉ owned j
  later : ∀ i, ∀ raw ∈ owned i, start.next ≤ raw.number
  others : ∀ raw, (∀ i, raw ∉ owned i) → a.find? raw = start.find? raw

section Shared

variable {ι : Type} {start : Arena} {owned : ι → List RawHandle} {i : ι}

/-- What an owner has got nobody else had before. -/
theorem Shared.notMem_of_confined (h : start.Shared a owned)
    (hgiven : ∀ j, ∀ raw ∈ owned j, raw.number < a.next)
    (hconfined : a.Confined (owned i) own' a') (hraw : raw ∈ own') {j : ι} (hj : j ≠ i) :
    raw ∉ owned j := by
  intro hmem
  by_cases hold : raw ∈ owned i
  · exact h.apart i j hj.symm raw hold hmem
  · have hnew := hconfined.new raw hraw hold
    have hlt := hgiven j raw hmem
    omega

/-- What an owner has given up was not there at the start, and all that belongs to nobody still is
as it was. -/
theorem Shared.find?_of_confined (hstart : start.Fresh) (h : start.Shared a owned)
    (hconfined : a.Confined (owned i) own' a') (hnew : raw ∉ own')
    (hother : ∀ j, j ≠ i → raw ∉ owned j) : a'.find? raw = start.find? raw := by
  by_cases hold : raw ∈ owned i
  · rw [hconfined.freed raw hold hnew]
    cases hfind : start.find? raw with
    | none => rfl
    | some s =>
      have hlt := number_lt_of_find? hstart hfind
      have hle := h.later i raw hold
      omega
  · rw [hconfined.kept raw hold hnew]
    apply h.others
    intro j
    by_cases hj : j = i
    · rwa [hj]
    · exact hother j hj

/-- An arena is shared after a change that is confined to one owner. -/
theorem Shared.of_confined [DecidableEq ι] (hstart : start.Fresh) (h : start.Shared a owned)
    (hgiven : ∀ j, ∀ raw ∈ owned j, raw.number < a.next)
    (hconfined : a.Confined (owned i) own' a') :
    start.Shared a' (Function.update owned i own') where
  reachable := hconfined.reachable h.reachable
  next := Nat.le_trans h.next hconfined.next
  apart j k hjk raw hj hk := by
    by_cases hji : j = i
    · subst hji
      rw [Function.update_self] at hj
      rw [Function.update_of_ne hjk.symm] at hk
      exact h.notMem_of_confined hgiven hconfined hj hjk.symm hk
    · rw [Function.update_of_ne hji] at hj
      by_cases hki : k = i
      · subst hki
        rw [Function.update_self] at hk
        exact h.notMem_of_confined hgiven hconfined hk hji hj
      · rw [Function.update_of_ne hki] at hk
        exact h.apart j k hjk raw hj hk
  later := by
    rw [Function.forall_update_iff owned fun _ own => ∀ raw ∈ own, start.next ≤ raw.number]
    refine ⟨fun raw hraw => ?_, fun j _ => h.later j⟩
    by_cases hold : raw ∈ owned i
    · exact h.later i raw hold
    · exact Nat.le_trans h.next (hconfined.new raw hraw hold)
  others raw hraw := by
    rw [Function.forall_update_iff owned fun _ own => raw ∉ own] at hraw
    exact h.find?_of_confined hstart hconfined hraw.1 hraw.2

end Shared

/-! ## What the calls of the engine do -/

/-- To allocate leaves all other raw handles alone. -/
theorem find?_alloc_of_ne (h : raw ≠ (⟨a.next⟩ : RawHandle)) (s : Structure) :
    (a.alloc s).2.find? raw = a.find? raw := by
  have hother : [((⟨a.next⟩ : RawHandle), s)].lookup raw = none := by simpa using h
  change (a.cells ++ [_]).lookup raw = a.cells.lookup raw
  rw [List.lookup_append, hother, Option.or_none]

/-- What is erased is not found any more. -/
theorem find?_erase_self (a : Arena) (raw : RawHandle) : (a.erase raw).find? raw = none := by
  unfold find? erase
  rw [List.lookup_eq_none_iff]
  intro cell hcell
  have hne := of_decide_eq_true (List.mem_filter.1 hcell).2
  exact bne_iff_ne.2 fun heq => hne heq.symm

/-- Whether a build succeeds does not depend on the arena. -/
theorem build_cases (dataset : Dataset) (config : BuildConfig) :
    (∃ message, ∀ a : Arena, a.build dataset config = (.failed message none, a)) ∨
    ∃ graph ids, ∀ a : Arena, a.Reachable → ∃ native a',
      a.build dataset config = (.ok native, a') ∧ native.residency = .gpu ∧
        a'.Holds native graph ids ∧ a.Confined [] native.raws a' := by
  cases hvectors : dataset.components with
  | error e =>
    refine .inl ⟨e.message, fun a => ?_⟩
    unfold build
    rw [hvectors]
  | ok vectors =>
    cases hids : dataset.docIds with
    | error e =>
      refine .inl ⟨e.message, fun a => ?_⟩
      unfold build
      rw [hvectors, hids]
    | ok ids =>
      refine .inr ⟨graphOf dataset.dimension vectors config, ids, fun a ha => ?_⟩
      have hfresh := fresh_of_reachable ha
      let graph : Structure := .gpu (graphOf dataset.dimension vectors config)
      let first := a.alloc graph
      let map : Structure := .idMap ids first.1
      let second := first.2.alloc map
      have hbuild : a.build dataset config = (.ok (.gpu first.1 (some second.1)), second.2) := by
        unfold build
        rw [hvectors, hids]
        rfl
      have hreachable := Reachable.build dataset config ha
      rw [hbuild] at hreachable
      refine ⟨_, _, hbuild, rfl, ⟨?_, _, rfl, ?_⟩, ?_⟩
      · exact find?_alloc (find?_alloc_self hfresh graph) map
      · exact find?_alloc_self (fresh_alloc hfresh graph) map
      · refine ⟨fun _ => hreachable, Nat.le_succ_of_le (Nat.le_succ _), ?_, nofun, ?_⟩
        · intro raw _ hraw
          obtain ⟨hsecond, hfirst⟩ := not_or.1 (mt NativeIndex.mem_raws_iff.2 hraw)
          exact (find?_alloc_of_ne hsecond map).trans (find?_alloc_of_ne hfirst graph)
        · intro raw hraw _
          obtain rfl | rfl := NativeIndex.mem_raws_iff.1 hraw
          · exact Nat.le_succ _
          · exact Nat.le_refl _

/-- A conversion takes a new raw handle for the graph and gives up the old one. -/
theorem convert_confined (h : a.Reachable) {gpu : NativeIndex} {graph : FlatGraph}
    {ids : List Int64} (hgpu : gpu.residency = .gpu) (hholds : a.Holds gpu graph ids)
    (config : SearchConfig) :
    ∃ copy a', a.convert gpu config = (.ok copy, a') ∧
      (a'.release gpu.index .gpuIndex).2.Holds (.cpu copy gpu.idMap) (hostGraph graph config)
        ids ∧
      (a'.release gpu.index .gpuIndex).1 = none ∧
      a.Confined gpu.raws (NativeIndex.cpu copy gpu.idMap).raws
        (a'.release gpu.index .gpuIndex).2 := by
  have hfresh := fresh_of_reachable h
  obtain ⟨copy, a', hconvert, hcopy⟩ := convert_spec hfresh hgpu hholds config
  refine ⟨copy, a', hconvert, hcopy, ?_⟩
  have hreachable := Reachable.release gpu.index .gpuIndex (Reachable.convert gpu config h)
  rw [hconvert] at hreachable
  obtain ⟨residency, index, map⟩ := gpu
  obtain rfl : residency = .gpu := hgpu
  obtain ⟨hgraph, idMap, rfl, hmap⟩ := hholds
  have hgraph : a.find? index = some (.gpu graph) := hgraph
  have hmap : a.find? idMap = some (.idMap ids index) := hmap
  have hconvert' := hconvert.symm.trans (convert_eq_ok hgraph hmap config)
  obtain ⟨rfl, rfl⟩ : copy = (a.alloc (.cpu (hostGraph graph config))).1 ∧
      a' = (a.alloc (.cpu (hostGraph graph config))).2.replace idMap
        (.idMap ids (a.alloc (.cpu (hostGraph graph config))).1) := by
    obtain ⟨hreply, ha'⟩ := Prod.mk.inj hconvert'
    exact ⟨Reply.ok.inj hreply, ha'⟩
  have hne : index ≠ idMap := ne_of_find? hgraph hmap nofun
  have hfind := (find?_replace_of_ne hne (.idMap ids (a.alloc (.cpu (hostGraph graph config))).1)
    (a := (a.alloc (.cpu (hostGraph graph config))).2)).trans
      (find?_alloc hgraph (.cpu (hostGraph graph config)))
  have hanswer : ∀ {a₁ : Arena}, a₁.find? index = some (.gpu graph) →
      (a₁.release index .gpuIndex).1 = none := by
    intro a₁ hfind₁
    unfold release
    rw [hfind₁]
    rfl
  refine ⟨hanswer hfind, fun _ => hreachable, ?_, ?_, ?_, ?_⟩
  · rw [release_eq_erase .gpuIndex hfind rfl]
    exact Nat.le_succ a.next
  · intro raw hraw hraw'
    rw [release_eq_erase .gpuIndex hfind rfl]
    obtain ⟨hidMap, hindex⟩ := not_or.1 (mt NativeIndex.mem_raws_iff.2 hraw)
    have hnew : raw ≠ (⟨a.next⟩ : RawHandle) := fun heq =>
      hraw' (NativeIndex.mem_raws_iff.2 (.inr heq))
    exact (find?_erase_of_ne hindex).trans
      ((find?_replace_of_ne hidMap _).trans (find?_alloc_of_ne hnew _))
  · intro raw hraw hraw'
    rw [release_eq_erase .gpuIndex hfind rfl]
    obtain rfl | rfl := NativeIndex.mem_raws_iff.1 hraw
    · exact absurd (NativeIndex.mem_raws_iff.2 (.inl rfl)) hraw'
    · exact find?_erase_self _ _
  · intro raw hraw hraw'
    obtain rfl | rfl := NativeIndex.mem_raws_iff.1 hraw
    · exact absurd (NativeIndex.mem_raws_iff.2 (.inl rfl)) hraw'
    · exact Nat.le_refl _

/-- A structure is released as what it is. -/
theorem release_eq {s : Structure} (hfind : a.find? raw = some s) :
    a.release raw s.kind = (none, a.erase raw) := by
  unfold release
  rw [hfind]
  exact if_pos rfl

/-- Only the owner notices that a structure is freed. -/
theorem Confined.erase {s : Structure} (hfind : a.find? raw = some s)
    (hown : ∀ raw', raw' ∈ own ↔ raw' ∈ own' ∨ raw' = raw) :
    a.Confined own own' (a.erase raw) where
  reachable h := by
    have hrelease := h.release raw s.kind
    rwa [release_eq hfind] at hrelease
  next := Nat.le_refl _
  kept raw' hnot _ := find?_erase_of_ne fun heq => hnot ((hown raw').2 (.inr heq))
  freed raw' hmem hnot := by
    rw [((hown raw').1 hmem).resolve_left hnot]
    exact find?_erase_self a raw
  new raw' hmem hnot := absurd ((hown raw').2 (.inl hmem)) hnot

end Arena

/-- A structure that is there is freed without a failure. -/
theorem Custodian.exists_freeAll_cons {c : Custodian Arena σ} {raw : RawHandle} {s : Structure}
    (hfind : c.world.memory.find? raw = some s) (rest : List Component) :
    ∃ w : World Arena σ, w.memory = c.world.memory.erase raw ∧
      c.freeAll Arena.engine ((raw, s.kind) :: rest) =
        freeAll Arena.engine rest { registry := c.registry, world := w } := by
  have hrelease : Arena.engine.release raw s.kind c.world.memory =
      (none, c.world.memory.erase raw) := Arena.release_eq hfind
  refine ⟨(c.world.free Arena.engine raw s.kind).2, ?_, ?_⟩
  · rw [World.memory_free, hrelease]
  · have hrefusal : (c.world.free Arena.engine raw s.kind).1 = none := by
      unfold World.free
      rw [hrelease]
    rw [freeAll_cons, hrefusal]
    rfl

/-- An index that is there is freed without a failure. -/
theorem Custodian.freeAll_spec {c : Custodian Arena σ} {native : NativeIndex} {graph : FlatGraph}
    {ids : List Int64} (h : c.world.memory.Holds native graph ids) :
    (c.freeAll Arena.engine native.components).registry = c.registry ∧
      c.world.memory.Confined native.raws []
        (c.freeAll Arena.engine native.components).world.memory := by
  obtain ⟨residency, index, map⟩ := native
  obtain ⟨hgraph, idMap, rfl, hmap⟩ := h
  have hgraph : c.world.memory.find? index = some (Arena.graphIn residency graph) := hgraph
  have hkind : (Arena.graphIn residency graph).kind = residency.graphKind := by
    cases residency <;> rfl
  have hne : index ≠ idMap := by
    refine Arena.ne_of_find? hgraph hmap ?_
    cases residency <;> nofun
  -- first the map is freed, then the graph
  obtain ⟨w₁, hmemory₁, hfree₁⟩ := exists_freeAll_cons hmap [(index, residency.graphKind)]
  have hindex : w₁.memory.find? index = some (Arena.graphIn residency graph) := by
    rw [hmemory₁, Arena.find?_erase_of_ne hne, hgraph]
  obtain ⟨w₂, hmemory₂, hfree₂⟩ :=
    exists_freeAll_cons (c := { registry := c.registry, world := w₁ }) hindex []
  have hreachable : c.world.memory.Reachable →
      ((c.world.memory.erase idMap).erase index).Reachable := by
    intro h
    have hrelease₁ := h.release idMap .idMap
    rw [Arena.release_eq_erase .idMap hmap rfl, ← hmemory₁] at hrelease₁
    have hrelease₂ := hrelease₁.release index residency.graphKind
    rwa [Arena.release_eq_erase _ hindex hkind, hmemory₁] at hrelease₂
  have hfree : c.freeAll Arena.engine (NativeIndex.mk residency index (some idMap)).components =
      { registry := c.registry, world := w₂ } := by
    rw [hkind] at hfree₂
    exact hfree₁.trans hfree₂
  have hmemory : w₂.memory = (c.world.memory.erase idMap).erase index := by
    rw [hmemory₂, hmemory₁]
  rw [hfree]
  refine ⟨rfl, ?_⟩
  dsimp only
  rw [hmemory]
  refine ⟨hreachable, Nat.le_refl _, ?_, ?_, fun _ hraw => nomatch hraw⟩
  · intro raw hraw _
    obtain ⟨hidMap, hindex⟩ := not_or.1 (mt NativeIndex.mem_raws_iff.2 hraw)
    exact (Arena.find?_erase_of_ne hindex).trans (Arena.find?_erase_of_ne hidMap)
  · intro raw hraw _
    obtain rfl | rfl := NativeIndex.mem_raws_iff.1 hraw
    · exact (Arena.find?_erase_of_ne hne.symm).trans (Arena.find?_erase_self _ _)
    · exact Arena.find?_erase_self _ _

end VectorIndex
