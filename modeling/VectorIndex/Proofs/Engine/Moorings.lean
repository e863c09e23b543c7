import Mathlib.Data.List.Nodup
import VectorIndex.Proofs.Engine.Provenance

/-!
# Moorings of id maps

An id map points at the graph that it wraps.  `Arena.Moored` says that every graph that a map points
at is allocated, and that no two maps point at the same one.  A structure can be freed without
breaking this when no map points at it.

`Arena.Berthed` adds the owners: the slots of a registry, and whoever else holds an index.  What is
live is held with its map pointing at its graph; the map of an index that is being converted may
point elsewhere already, but no map of another owner points at its graph.  So the map of an index
can be freed first and its graph after it (`Berthed.eraseMap`, `Berthed.eraseGraph`).
-/

set_option autoImplicit false

open scoped List

namespace VectorIndex

/-- The raw handles of what a slot holds. -/
def Slot.raws (s : Slot) : List RawHandle :=
  s.components.map Prod.fst

/-- The raw handles of what may be freed or converted. -/
def Slot.offers : Slot → List RawHandle
  | .live native => native.raws
  | .converting _ => []
  | .transferred _ => []
  | .released => []

namespace Arena

variable {a a' : Arena} {residency : Residency} {raw m c : RawHandle} {native : NativeIndex}
  {s : Slot} {l l' : List Slot}

/-- Every map points at a graph that is there, and no two maps point at the same one. -/
structure Moored (a : Arena) : Prop where
  fresh : a.Fresh
  target : ∀ {raw ids target}, a.find? raw = some (.idMap ids target) →
    ∃ residency graph, a.find? target = some (graphIn residency graph)
  apart : ∀ {raw raw' ids ids' target}, a.find? raw = some (.idMap ids target) →
    a.find? raw' = some (.idMap ids' target) → raw = raw'

/-- An index is there, and no map but its own points at its graph. -/
structure Keeps (native : NativeIndex) (a : Arena) : Prop where
  graph : ∃ graph, a.find? native.index = some (graphIn native.residency graph)
  map : ∀ {idMap}, native.idMap = some idMap →
    ∃ ids target, a.find? idMap = some (.idMap ids target)
  own : ∀ {raw ids}, a.find? raw = some (.idMap ids native.index) → native.idMap = some raw

/-- What a slot holds is there; unless it is being converted, its map points at its graph. -/
def Sits (a : Arena) : Slot → Prop
  | .live native => ∃ graph ids, a.Holds native graph ids
  | .converting native => a.Keeps native
  | .transferred _ => True
  | .released => True

/-- What is held is there, and nothing of it is held twice. -/
structure Berthed (a : Arena) (l : List Slot) : Prop where
  moored : a.Moored
  nodup : (l.flatMap Slot.raws).Nodup
  sits : ∀ s ∈ l, a.Sits s

/-- In an empty arena nothing is adrift. -/
theorem moored_empty : Moored {} where
  fresh := nofun
  target h := nomatch h
  apart h := nomatch h

/-- A graph is no map. -/
theorem graphIn_ne_idMap {residency : Residency} {graph : FlatGraph} {ids : List Int64}
    {target : RawHandle} : graphIn residency graph ≠ .idMap ids target := by
  cases residency <;> nofun

/-- A graph has the kind of its residency. -/
theorem kind_graphIn (residency : Residency) (graph : FlatGraph) :
    (graphIn residency graph).kind = residency.graphKind := by
  cases residency <;> rfl

/-- No map points at a map. -/
theorem Moored.not_target (h : a.Moored) {ids : List Int64} {target : RawHandle}
    (hmap : a.find? raw = some (.idMap ids target)) (raw' : RawHandle) (ids' : List Int64) :
    a.find? raw' ≠ some (.idMap ids' raw) := by
  intro hfind
  obtain ⟨_, _, hgraph⟩ := h.target hfind
  exact graphIn_ne_idMap (Option.some.inj (hgraph.symm.trans hmap))

/-- An index that is held in a moored arena is kept: no other map points at its graph. -/
theorem Holds.keeps {graph : FlatGraph} {ids : List Int64} (h : a.Holds native graph ids)
    (hmoored : a.Moored) : a.Keeps native := by
  obtain ⟨hgraph, idMap, hown, hmap⟩ := h
  refine ⟨⟨graph, hgraph⟩, fun h => ?_, fun hfind => ?_⟩
  · obtain rfl : idMap = _ := Option.some.inj (hown.symm.trans h)
    exact ⟨ids, _, hmap⟩
  · rw [hown, hmoored.apart hmap hfind]

/-! ## Owners -/

/-- The raw handle of the graph is one of an index. -/
theorem mem_raws_index (native : NativeIndex) : native.index ∈ native.raws := by
  simp [NativeIndex.raws, NativeIndex.components]

/-- The raw handle of the map is one of an index. -/
theorem mem_raws_idMap {idMap : RawHandle} (h : native.idMap = some idMap) :
    idMap ∈ native.raws := by
  simp [NativeIndex.raws, NativeIndex.components, h]

/-- The order in which slots are listed makes no difference. -/
theorem Berthed.perm (h : a.Berthed l) (hperm : l ~ l') : a.Berthed l' where
  moored := h.moored
  nodup := (hperm.flatMap_right _).nodup_iff.1 h.nodup
  sits s hs := h.sits s (hperm.mem_iff.2 hs)

/-- Nothing of a slot is held by another one. -/
theorem Berthed.nodup_cons (h : a.Berthed (s :: l)) :
    s.raws.Nodup ∧ (l.flatMap Slot.raws).Nodup ∧ ∀ raw ∈ s.raws, raw ∉ l.flatMap Slot.raws := by
  have hnodup := h.nodup
  rw [List.flatMap_cons, List.nodup_append] at hnodup
  obtain ⟨hs, hl, hdisjoint⟩ := hnodup
  exact ⟨hs, hl, fun raw hraw hmem => hdisjoint raw hraw raw hmem rfl⟩

/-- A slot that holds nothing may be added. -/
theorem Berthed.cons_of_held_none (h : a.Berthed l) (hs : s.held? = none) : a.Berthed (s :: l) where
  moored := h.moored
  nodup := by
    rw [List.flatMap_cons, Slot.raws, Slot.components_of_held_none hs]
    exact h.nodup
  sits s' hs' := by
    obtain rfl | hmem := List.mem_cons.1 hs'
    · cases s' with
      | live native => cases hs
      | converting native => cases hs
      | transferred into => trivial
      | released => trivial
    · exact h.sits s' hmem

/-- Slots that hold nothing can be added. -/
theorem Berthed.append_of_held_none {slots : List Slot} (h : a.Berthed l)
    (hnone : ∀ s ∈ slots, s.held? = none) : a.Berthed (slots ++ l) := by
  induction slots with
  | nil => exact h
  | cons s slots ih =>
    apply (ih fun s' hs' => hnone s' (List.mem_cons_of_mem _ hs')).cons_of_held_none
    exact hnone s List.mem_cons_self

/-- An index begins to be converted. -/
theorem Berthed.begin (h : a.Berthed (.live native :: l)) :
    a.Berthed (.converting native :: l) where
  moored := h.moored
  nodup := h.nodup
  sits s hs := by
    obtain rfl | hmem := List.mem_cons.1 hs
    · obtain ⟨graph, ids, hholds⟩ := h.sits (.live native) List.mem_cons_self
      exact hholds.keeps h.moored
    · exact h.sits s (List.mem_cons_of_mem _ hmem)

/-- What a slot holds was given out. -/
theorem Sits.number_lt (h : a.Sits s) (hfresh : a.Fresh) : ∀ raw ∈ s.raws, raw.number < a.next := by
  intro raw hraw
  cases s with
  | live native =>
    obtain ⟨graph, ids, hholds⟩ := h
    exact hholds.number_lt hfresh raw hraw
  | converting native =>
    obtain ⟨⟨graph, hgraph⟩, hmap, -⟩ := h
    simp only [Slot.raws, Slot.components, NativeIndex.components, List.map_append, List.map_map,
      List.mem_append, List.mem_map, Option.mem_toList, Function.comp_apply, List.map_cons,
      List.map_nil, List.mem_singleton] at hraw
    obtain ⟨idMap, hown, rfl⟩ | rfl := hraw
    · obtain ⟨ids, target, hfind⟩ := hmap hown
      exact number_lt_of_find? hfresh hfind
    · exact number_lt_of_find? hfresh hgraph
  | transferred into => cases hraw
  | released => cases hraw

/-- What is held was allocated before. -/
theorem Berthed.number_lt (h : a.Berthed l) : ∀ raw ∈ l.flatMap Slot.raws, raw.number < a.next := by
  intro raw hraw
  obtain ⟨s, hs, hmem⟩ := List.mem_flatMap.1 hraw
  exact (h.sits s hs).number_lt h.moored.fresh raw hmem

/-- A slot does not notice a change elsewhere, as long as no map is pointed at its graph. -/
theorem Sits.of_find? (h : a.Sits s) (hfresh : a.Fresh)
    (hfind : ∀ raw ∈ s.raws, a'.find? raw = a.find? raw)
    (hmaps : ∀ {raw ids target}, target.number < a.next →
      a'.find? raw = some (.idMap ids target) → a.find? raw = some (.idMap ids target)) :
    a'.Sits s := by
  cases s with
  | live native =>
    obtain ⟨graph, ids, hholds⟩ := h
    exact ⟨graph, ids, hholds.of_find? hfind⟩
  | converting native =>
    obtain ⟨⟨graph, hgraph⟩, hmap, hown⟩ := h
    refine ⟨⟨graph, (hfind _ (mem_raws_index native)).trans hgraph⟩, fun hidMap => ?_,
      fun hraw => ?_⟩
    · obtain ⟨ids, target, hold⟩ := hmap hidMap
      exact ⟨ids, target, (hfind _ (mem_raws_idMap hidMap)).trans hold⟩
    · exact hown (hmaps (number_lt_of_find? hfresh hgraph) hraw)
  | transferred into => trivial
  | released => trivial

/-! ## Freeing -/

/-- What no map points at may be freed. -/
theorem Moored.erase (h : a.Moored) (hno : ∀ raw' ids, a.find? raw' ≠ some (.idMap ids raw)) :
    (a.erase raw).Moored where
  fresh := fresh_erase h.fresh raw
  target {raw' ids target} hfind := by
    have hold := find?_of_find?_erase hfind
    obtain ⟨residency, graph, hgraph⟩ := h.target hold
    have hne : target ≠ raw := by
      rintro rfl
      exact hno raw' ids hold
    exact ⟨residency, graph, (find?_erase_of_ne hne).trans hgraph⟩
  apart hfind hfind' := h.apart (find?_of_find?_erase hfind) (find?_of_find?_erase hfind')

/-- To erase what a slot does not hold leaves the slot alone. -/
theorem Sits.erase (h : a.Sits s) (hfresh : a.Fresh) (hraw : raw ∉ s.raws) :
    (a.erase raw).Sits s := by
  refine h.of_find? hfresh (fun raw' hmem => find?_erase_of_ne ?_) fun _ => find?_of_find?_erase
  rintro rfl
  exact hraw hmem

/-- The map of an index is freed first; then no map points at its graph. -/
theorem Berthed.eraseMap (h : a.Berthed (.converting native :: l)) {idMap : RawHandle}
    (hidMap : native.idMap = some idMap) :
    (a.erase idMap).Berthed (.converting { native with idMap := none } :: l) := by
  obtain ⟨hnodup, htail, hdisjoint⟩ := h.nodup_cons
  obtain ⟨⟨graph, hgraph⟩, hmap, hown⟩ : a.Keeps native := h.sits _ List.mem_cons_self
  obtain ⟨ids, target, hfind⟩ := hmap hidMap
  have hne : native.index ≠ idMap := ne_of_find? hgraph hfind graphIn_ne_idMap
  have hmem : idMap ∈ (Slot.converting native).raws := mem_raws_idMap hidMap
  have hindex : native.index ∈ (Slot.converting native).raws := mem_raws_index native
  refine ⟨h.moored.erase (h.moored.not_target hfind), ?_, fun s hs => ?_⟩
  · rw [List.flatMap_cons]
    exact List.nodup_cons.2 ⟨hdisjoint _ hindex, htail⟩
  obtain rfl | hs := List.mem_cons.1 hs
  · refine ⟨⟨graph, (find?_erase_of_ne hne).trans hgraph⟩, nofun, fun {raw ids'} hraw => ?_⟩
    have hsame := hidMap.symm.trans (hown (find?_of_find?_erase hraw))
    obtain rfl : idMap = raw := Option.some.inj hsame
    rw [find?_erase_self] at hraw
    cases hraw
  · apply (h.sits s (List.mem_cons_of_mem _ hs)).erase h.moored.fresh
    exact fun hraw => hdisjoint _ hmem (List.mem_flatMap.2 ⟨s, hs, hraw⟩)

/-- A graph without a map is freed. -/
theorem Berthed.eraseGraph (h : a.Berthed (.converting native :: l)) (hnone : native.idMap = none) :
    (a.erase native.index).Berthed l := by
  obtain ⟨-, htail, hdisjoint⟩ := h.nodup_cons
  have hkeeps : a.Keeps native := h.sits _ List.mem_cons_self
  have hindex : native.index ∈ (Slot.converting native).raws := mem_raws_index native
  refine ⟨h.moored.erase fun raw ids hfind => ?_, htail, fun s hs => ?_⟩
  · exact nomatch hnone.symm.trans (hkeeps.own hfind)
  · apply (h.sits s (List.mem_cons_of_mem _ hs)).erase h.moored.fresh
    exact fun hraw => hdisjoint _ hindex (List.mem_flatMap.2 ⟨s, hs, hraw⟩)

/-! ## Building and converting -/

/-- A map has got a new graph to point at, and otherwise nothing has changed. -/
structure Gains (residency : Residency) (a a' : Arena) (m c : RawHandle) : Prop where
  fresh : a'.Fresh
  next : a.next ≤ a'.next
  new : c = ⟨a.next⟩
  graph : ∃ graph, a'.find? c = some (graphIn residency graph)
  map : ∃ ids, a'.find? m = some (.idMap ids c)
  /-- What is a map now was one before, or nothing. -/
  before : ∀ residency graph, a.find? m ≠ some (graphIn residency graph)
  others : ∀ raw, raw ≠ m → raw ≠ c → a'.find? raw = a.find? raw

/-- The new graph was nothing before. -/
theorem Gains.ne_of_find? (h : Gains residency a a' m c) (hfresh : a.Fresh) {s : Structure}
    (hfind : a.find? raw = some s) : raw ≠ c := by
  rintro rfl
  have hlt := number_lt_of_find? hfresh hfind
  rw [h.new] at hlt
  exact Nat.lt_irrefl _ hlt

/-- A map of the new arena is the one that was pointed at the new graph, or an old one. -/
theorem Gains.maps (h : Gains residency a a' m c) {ids : List Int64} {target : RawHandle}
    (hfind : a'.find? raw = some (.idMap ids target)) :
    (raw = m ∧ target = c) ∨ (raw ≠ m ∧ a.find? raw = some (.idMap ids target)) := by
  obtain ⟨graph, hgraph⟩ := h.graph
  obtain ⟨ids', hmap⟩ := h.map
  have hne : raw ≠ c := by
    rintro rfl
    exact graphIn_ne_idMap (Option.some.inj (hgraph.symm.trans hfind))
  by_cases hm : raw = m
  · subst hm
    cases hfind.symm.trans hmap
    exact .inl ⟨rfl, rfl⟩
  · exact .inr ⟨hm, (h.others raw hm hne).symm.trans hfind⟩

/-- A gain leaves every map moored, the old ones where they were. -/
theorem Moored.gains (h : a.Moored) (hgains : Gains residency a a' m c) : a'.Moored where
  fresh := hgains.fresh
  target hfind := by
    obtain ⟨rfl, rfl⟩ | ⟨-, hold⟩ := hgains.maps hfind
    · exact ⟨residency, hgains.graph⟩
    · obtain ⟨residency, graph, hgraph⟩ := h.target hold
      have hc := hgains.ne_of_find? h.fresh hgraph
      refine ⟨residency, graph, (hgains.others _ ?_ hc).trans hgraph⟩
      rintro rfl
      exact hgains.before residency graph hgraph
  apart hfind hfind' := by
    -- what points at the new graph is the one map that got it
    obtain ⟨rfl, rfl⟩ | ⟨-, hold⟩ := hgains.maps hfind
    · obtain ⟨rfl, -⟩ | ⟨-, hold'⟩ := hgains.maps hfind'
      · rfl
      · obtain ⟨residency, graph, hgraph⟩ := h.target hold'
        exact absurd rfl (hgains.ne_of_find? h.fresh hgraph)
    · obtain ⟨-, rfl⟩ | ⟨-, hold'⟩ := hgains.maps hfind'
      · obtain ⟨residency, graph, hgraph⟩ := h.target hold
        exact absurd rfl (hgains.ne_of_find? h.fresh hgraph)
      · exact h.apart hold hold'

/-- A gain leaves a slot alone whose map did not gain. -/
theorem Sits.gains (h : a.Sits s) (hfresh : a.Fresh) (hgains : Gains residency a a' m c)
    (hm : m ∉ s.raws) : a'.Sits s := by
  refine h.of_find? hfresh (fun raw hraw => hgains.others raw ?_ ?_) fun hlt hfind => ?_
  · rintro rfl
    exact hm hraw
  · rintro rfl
    have hlt := h.number_lt hfresh _ hraw
    rw [hgains.new] at hlt
    exact Nat.lt_irrefl _ hlt
  · obtain ⟨-, rfl⟩ | ⟨-, hold⟩ := hgains.maps hfind
    · rw [hgains.new] at hlt
      exact absurd hlt (Nat.lt_irrefl _)
    · exact hold

/-- A build gains a graph and a map for it. -/
theorem gains_build (hfresh : a.Fresh) (graph : FlatGraph) (ids : List Int64) :
    Gains .gpu a ((a.alloc (.gpu graph)).2.alloc (.idMap ids ⟨a.next⟩)).2 ⟨a.next + 1⟩
      ⟨a.next⟩ where
  fresh := fresh_alloc (fresh_alloc hfresh _) _
  next := Nat.le_succ_of_le (Nat.le_succ a.next)
  new := rfl
  graph := ⟨graph, find?_alloc (find?_alloc_self hfresh _) _⟩
  map := ⟨ids, find?_alloc_self (fresh_alloc hfresh _) _⟩
  before _ _ hfind := by
    have hlt := number_lt_of_find? hfresh hfind
    simp only at hlt
    omega
  others raw hm hc := (find?_alloc_of_ne hm _).trans (find?_alloc_of_ne hc _)

/-- A conversion gains a graph for the map of its source. -/
theorem gains_convert (hfresh : a.Fresh) {ids : List Int64} {target : RawHandle}
    (hmap : a.find? m = some (.idMap ids target)) (graph : FlatGraph) :
    Gains .cpu a ((a.alloc (.cpu graph)).2.replace m (.idMap ids ⟨a.next⟩)) m ⟨a.next⟩ := by
  have hcopy := find?_alloc_self hfresh (.cpu graph)
  have hkept := find?_alloc hmap (.cpu graph)
  have hne : (a.alloc (.cpu graph)).1 ≠ m := ne_of_find? hcopy hkept nofun
  refine ⟨?_, Nat.le_succ a.next, rfl, ⟨graph, ?_⟩, ⟨ids, ?_⟩, ?_, ?_⟩
  · apply fresh_replace (fresh_alloc hfresh _)
    exact Nat.lt_succ_of_lt (number_lt_of_find? hfresh hmap)
  · exact (find?_replace_of_ne hne _).trans hcopy
  · exact find?_replace_self hkept _
  · intro residency graph' hfind
    exact graphIn_ne_idMap (Option.some.inj (hfind.symm.trans hmap))
  · intro raw hm hc
    exact (find?_replace_of_ne hm _).trans (find?_alloc_of_ne hc _)

/-- A failing build changes nothing; any other one makes an index. -/
theorem Berthed.build (h : a.Berthed l) (dataset : Dataset) (config : BuildConfig) :
    (∃ message, a.build dataset config = (.failed message none, a)) ∨
    ∃ a' native, a.build dataset config = (.ok native, a') ∧ a'.Berthed (.live native :: l) ∧
      a.next ≤ a'.next ∧ (∀ raw ∈ native.raws, a.next ≤ raw.number) ∧
      ∀ raw, raw ∉ native.raws → a'.find? raw = a.find? raw := by
  obtain ⟨message, hbuild⟩ | ⟨vectors, ids, -, -, hbuild⟩ := build_inversion a dataset config
  · exact .inl ⟨message, hbuild⟩
  have hgains := gains_build h.moored.fresh (graphOf dataset.dimension vectors config) ids
  have hnew : ∀ raw ∈ (NativeIndex.gpu ⟨a.next⟩ (some ⟨a.next + 1⟩)).raws, a.next ≤ raw.number := by
    intro raw hraw
    obtain rfl | rfl := NativeIndex.mem_raws_iff.1 hraw
    · exact Nat.le_succ a.next
    · exact Nat.le_refl a.next
  have hown : ∀ raw ∈ (NativeIndex.gpu ⟨a.next⟩ (some ⟨a.next + 1⟩)).raws,
      raw ∉ l.flatMap Slot.raws := by
    intro raw hraw hmem
    exact Nat.not_le.2 (h.number_lt raw hmem) (hnew raw hraw)
  refine .inr ⟨_, _, hbuild, ⟨h.moored.gains hgains, ?_, ?_⟩, hgains.next, hnew, ?_⟩
  · rw [List.flatMap_cons, List.nodup_append]
    refine ⟨?_, h.nodup, ?_⟩
    · simp [Slot.raws, Slot.components, NativeIndex.gpu, NativeIndex.components]
    · rintro raw hraw _ hmem rfl
      exact hown raw hraw hmem
  · intro s hs
    obtain rfl | hs := List.mem_cons.1 hs
    · obtain ⟨graph, hgraph⟩ := hgains.graph
      obtain ⟨ids', hmap⟩ := hgains.map
      exact ⟨graph, ids', hgraph, _, rfl, hmap⟩
    · apply (h.sits s hs).gains h.moored.fresh hgains
      intro hraw
      exact hown _ (NativeIndex.mem_raws_iff.2 (.inl rfl)) (List.mem_flatMap.2 ⟨s, hs, hraw⟩)
  · intro raw hraw
    obtain ⟨hm, hc⟩ := not_or.1 (mt NativeIndex.mem_raws_iff.2 hraw)
    exact hgains.others raw hm hc

/-- An index that is being converted keeps its place while its map is pointed at the copy. -/
theorem Berthed.gains (h : a.Berthed (.converting native :: l)) (hm : native.idMap = some m)
    (hgains : Gains residency a a' m c) : a'.Berthed (.converting native :: l) where
  moored := h.moored.gains hgains
  nodup := h.nodup
  sits s hs := by
    obtain ⟨-, -, hdisjoint⟩ := h.nodup_cons
    obtain rfl | hs := List.mem_cons.1 hs
    · obtain ⟨⟨graph, hgraph⟩, -, hown⟩ : a.Keeps native := h.sits _ List.mem_cons_self
      have hc := hgains.ne_of_find? h.moored.fresh hgraph
      refine ⟨⟨graph, (hgains.others _ ?_ hc).trans hgraph⟩, fun hidMap => ?_, fun hfind => ?_⟩
      · intro heq
        exact hgains.before _ _ (heq ▸ hgraph)
      · obtain ⟨ids, hmap⟩ := hgains.map
        obtain rfl : m = _ := Option.some.inj (hm.symm.trans hidMap)
        exact ⟨ids, c, hmap⟩
      · obtain ⟨-, heq⟩ | ⟨-, hold⟩ := hgains.maps hfind
        · exact absurd heq hc
        · exact hown hold
    · apply (h.sits s (List.mem_cons_of_mem _ hs)).gains h.moored.fresh hgains
      exact fun hraw => hdisjoint m (mem_raws_idMap hm) (List.mem_flatMap.2 ⟨s, hs, hraw⟩)

/-- A copy stands beside the index that is being converted, and the map of the index points at it.
Nobody owns the copy. -/
structure Underway (native : NativeIndex) (c : RawHandle) (l : List Slot) (a : Arena) : Prop where
  graph : ∃ graph, a.find? c = some (graphIn .cpu graph)
  map : ∃ m ids, native.idMap = some m ∧ a.find? m = some (.idMap ids c)
  strange : c ∉ (Slot.converting native :: l).flatMap Slot.raws

/-- What is answered about a conversion is about the copy that stands beside the index. -/
def Answers (a : Arena) (native : NativeIndex) (c : RawHandle) (l : List Slot) :
    Reply RawHandle → Prop
  | .ok raw => raw = c ∧ a.Underway native c l
  | .failed _ none => True
  | .failed _ (some partialIndex) => partialIndex = .cpu c none ∧ a.Underway native c l
  | .panicked _ => True

/-- A conversion either fails without having allocated anything, or puts a copy beside the index. -/
theorem Berthed.convert (h : a.Berthed (.converting native :: l)) (config : SearchConfig) :
    (∃ message, a.convert native config = (.failed message none, a)) ∨
    ∃ a', a.convert native config = (.ok ⟨a.next⟩, a') ∧ a'.Berthed (.converting native :: l) ∧
      a'.Underway native ⟨a.next⟩ l ∧ a.next < a'.next ∧
      ∀ raw, raw ∉ native.raws → raw ≠ ⟨a.next⟩ → a'.find? raw = a.find? raw := by
  obtain ⟨message, hconvert⟩ | ⟨graph, m, hgraph, hm, -⟩ := convert_inversion a native config
  · exact .inl ⟨message, hconvert⟩
  have hkeeps : a.Keeps native := h.sits _ List.mem_cons_self
  obtain ⟨ids, target, hmap⟩ := hkeeps.map hm
  have hgains := gains_convert h.moored.fresh hmap (hostGraph graph config)
  obtain ⟨residency, index, idMap⟩ := native
  obtain rfl : residency = .gpu := by
    obtain ⟨graph', hgraph'⟩ := hkeeps.graph
    cases residency with
    | gpu => rfl
    | cpu => cases hgraph.symm.trans hgraph'
  obtain rfl : idMap = some m := hm
  refine .inr ⟨_, convert_eq_ok hgraph hmap config, h.gains rfl hgains,
    ⟨hgains.graph, ?_, ?_⟩, ?_, ?_⟩
  · obtain ⟨ids', hmap'⟩ := hgains.map
    exact ⟨m, ids', rfl, hmap'⟩
  · intro hmem
    exact Nat.lt_irrefl _ (h.number_lt _ hmem)
  · exact Nat.lt_succ_self a.next
  · intro raw hraw hc
    obtain ⟨hm, -⟩ := not_or.1 (mt NativeIndex.mem_raws_iff.2 hraw)
    exact hgains.others raw hm hc

/-- The map belongs to the copy now, and the graph of the source is left over. -/
theorem Berthed.moved (h : a.Berthed (.converting native :: l)) (hcopy : a.Underway native c l) :
    a.Berthed (.converting { native with idMap := none } :: .live (.cpu c native.idMap) :: l) := by
  obtain ⟨hnodup, htail, hdisjoint⟩ := h.nodup_cons
  obtain ⟨⟨copy, hfindCopy⟩, ⟨m, ids, hm, hmap⟩, hstrange⟩ := hcopy
  obtain ⟨⟨graph, hgraph⟩, -, hown⟩ : a.Keeps native := h.sits _ List.mem_cons_self
  have hindex := mem_raws_index native
  have hne : native.index ≠ c := by
    rintro rfl
    exact hstrange (List.mem_flatMap.2 ⟨_, List.mem_cons_self, hindex⟩)
  refine ⟨h.moored, ?_, fun s hs => ?_⟩
  · have hperm : ({ native with idMap := none } : NativeIndex).raws ++
        ((NativeIndex.cpu c native.idMap).raws ++ l.flatMap Slot.raws) ~
        c :: (native.raws ++ l.flatMap Slot.raws) := by
      have hconverted := (NativeIndex.components_converted native c).map Prod.fst
      simp only [List.map_append, List.map_cons, List.map_nil] at hconverted
      rw [← List.append_assoc]
      refine (List.perm_append_comm.append_right _).trans ((hconverted.append_right _).trans ?_)
      rw [List.append_assoc]
      exact List.perm_middle
    rw [List.flatMap_cons, List.flatMap_cons]
    refine hperm.nodup_iff.2 (List.nodup_cons.2 ⟨?_, ?_⟩)
    · rw [List.flatMap_cons] at hstrange
      exact hstrange
    · have hnodup := h.nodup
      rw [List.flatMap_cons] at hnodup
      exact hnodup
  · obtain rfl | hs := List.mem_cons.1 hs
    · refine ⟨⟨graph, hgraph⟩, nofun, fun {raw ids'} hfind => ?_⟩
      -- the only map that may point at the source is its own, which points at the copy
      obtain rfl : m = raw := Option.some.inj (hm.symm.trans (hown hfind))
      cases hfind.symm.trans hmap
      exact absurd rfl hne
    obtain rfl | hs := List.mem_cons.1 hs
    · exact ⟨copy, ids, hfindCopy, m, hm, hmap⟩
    · exact h.sits s (List.mem_cons_of_mem _ hs)

/-- A copy that no map points at is taken over by somebody. -/
theorem Berthed.takeOver (h : a.Berthed l)
    (hcopy : ∃ graph, a.find? c = some (graphIn .cpu graph))
    (hno : ∀ raw ids, a.find? raw ≠ some (.idMap ids c)) (hstrange : c ∉ l.flatMap Slot.raws) :
    a.Berthed (.converting (.cpu c none) :: l) where
  moored := h.moored
  nodup := by
    rw [List.flatMap_cons]
    exact List.nodup_cons.2 ⟨hstrange, h.nodup⟩
  sits s hs := by
    obtain rfl | hs := List.mem_cons.1 hs
    · exact ⟨hcopy, nofun, fun {raw ids} hfind => absurd hfind (hno raw ids)⟩
    · exact h.sits s hs

/-! ## What is left alone -/

/-- Between two moments nothing was touched but what is live, what is named as `own`, and what is
new.  Whatever else was held is held in the same way, and whatever nobody held is held by nobody. -/
structure Spares (own : List RawHandle) (a : Arena) (l : List Slot) (a' : Arena) (l' : List Slot) :
    Prop where
  next : a.next ≤ a'.next
  kept : ∀ raw, raw.number < a.next → raw ∉ own → raw ∉ l.flatMap Slot.offers →
    a'.find? raw = a.find? raw ∧ raw ∉ l'.flatMap Slot.offers
  strange : ∀ raw, raw.number < a.next → raw ∉ own → raw ∉ l.flatMap Slot.raws →
    raw ∉ l'.flatMap Slot.raws

variable {own : List RawHandle} {a'' : Arena} {l'' : List Slot}

/-- To do nothing touches nothing. -/
theorem Spares.refl (own : List RawHandle) (a : Arena) (l : List Slot) : Spares own a l a l where
  next := Nat.le_refl a.next
  kept _ _ _ hraw := ⟨rfl, hraw⟩
  strange _ _ _ hraw := hraw

/-- What is spared twice is spared. -/
theorem Spares.trans (h : Spares own a l a' l') (h' : Spares own a' l' a'' l'') :
    Spares own a l a'' l'' where
  next := Nat.le_trans h.next h'.next
  kept raw hlt hown hraw := by
    obtain ⟨hfind, hraw'⟩ := h.kept raw hlt hown hraw
    obtain ⟨hfind', hraw''⟩ := h'.kept raw (Nat.lt_of_lt_of_le hlt h.next) hown hraw'
    exact ⟨hfind'.trans hfind, hraw''⟩
  strange raw hlt hown hraw :=
    h'.strange raw (Nat.lt_of_lt_of_le hlt h.next) hown (h.strange raw hlt hown hraw)

/-- To name more as one's own promises less. -/
theorem Spares.mono {own' : List RawHandle} (h : Spares own a l a' l')
    (hsub : ∀ raw ∈ own, raw ∈ own') : Spares own' a l a' l' where
  next := h.next
  kept raw hlt hown := h.kept raw hlt (mt (hsub raw) hown)
  strange raw hlt hown := h.strange raw hlt (mt (hsub raw) hown)

/-- What a live slot offers is held by it. -/
theorem mem_raws_of_mem_offers (h : raw ∈ l.flatMap Slot.offers) : raw ∈ l.flatMap Slot.raws := by
  obtain ⟨s, hs, hraw⟩ := List.mem_flatMap.1 h
  refine List.mem_flatMap.2 ⟨s, hs, ?_⟩
  cases s with
  | live native => exact hraw
  | converting native => cases hraw
  | transferred into => cases hraw
  | released => cases hraw

/-- What is new, or was live before, need not be named. -/
theorem Spares.of_own (h : Spares own a l a' l')
    (hown : ∀ raw ∈ own, raw.number < a.next → raw ∈ l.flatMap Slot.offers) :
    Spares [] a l a' l' where
  next := h.next
  kept raw hlt _ hraw := h.kept raw hlt (fun hmem => hraw (hown raw hmem hlt)) hraw
  strange raw hlt _ hraw :=
    h.strange raw hlt (fun hmem => hraw (mem_raws_of_mem_offers (hown raw hmem hlt))) hraw

/-- A single step touches what is its own, and offers or holds nothing but that and what was
there. -/
theorem Spares.step (hnext : a.next ≤ a'.next)
    (hfind : ∀ raw, raw.number < a.next → raw ∉ own → a'.find? raw = a.find? raw)
    (hoffers : ∀ raw ∈ l'.flatMap Slot.offers, raw ∈ own ∨ raw ∈ l.flatMap Slot.offers)
    (hraws : ∀ raw ∈ l'.flatMap Slot.raws, raw ∈ own ∨ raw ∈ l.flatMap Slot.raws) :
    Spares own a l a' l' where
  next := hnext
  kept raw hlt hown hraw := ⟨hfind raw hlt hown, fun hmem => (hoffers raw hmem).elim hown hraw⟩
  strange raw _ hown hraw hmem := (hraws raw hmem).elim hown hraw

/-- To list the slots in another order touches nothing. -/
theorem Spares.of_perm (own : List RawHandle) (a : Arena) (h : l ~ l') : Spares own a l a l' := by
  apply Spares.step (Nat.le_refl a.next) (fun _ _ _ => rfl)
  · intro raw hraw
    exact .inr ((h.flatMap_right _).mem_iff.2 hraw)
  · intro raw hraw
    exact .inr ((h.flatMap_right _).mem_iff.2 hraw)

/-- What nobody owned is not noticed by anybody; so the copy of a conversion stays. -/
theorem Underway.spared (h : a.Underway native c l) (hb : a.Berthed (.converting native :: l))
    (hspares : Spares [] a (.converting native :: l) a' (.converting native :: l')) :
    a'.Underway native c l' := by
  obtain ⟨⟨graph, hgraph⟩, ⟨m, ids, hm, hmap⟩, hstrange⟩ := h
  obtain ⟨-, -, hdisjoint⟩ := hb.nodup_cons
  have hlt := number_lt_of_find? hb.moored.fresh hgraph
  have hkept : ∀ raw, raw.number < a.next → raw ∉ l.flatMap Slot.raws →
      a'.find? raw = a.find? raw := by
    intro raw hlt hraw
    refine (hspares.kept raw hlt List.not_mem_nil ?_).1
    exact fun hmem => hraw (mem_raws_of_mem_offers hmem)
  refine ⟨⟨graph, ?_⟩, ⟨m, ids, hm, ?_⟩, hspares.strange c hlt List.not_mem_nil hstrange⟩
  · refine (hkept c hlt fun hmem => hstrange ?_).trans hgraph
    rw [List.flatMap_cons]
    exact List.mem_append_right _ hmem
  · refine (hkept m (number_lt_of_find? hb.moored.fresh hmap) ?_).trans hmap
    exact hdisjoint m (mem_raws_idMap hm)

end Arena

end VectorIndex
