import VectorIndex.Proofs.Engine.Neighbours
import VectorIndex.Proofs.Run.Outcome

/-!
# What a run holds in the arena

From its build to its end a run over the flat engine holds one index, first on the device and then
on the host.  A `Holding` says how far it is without naming raw handles.  With them, it tells what
is registered and what is in the arena, and what the counts will be when the run ends
(`Holding.releaseAll_spec`).
-/

set_option autoImplicit false

namespace VectorIndex

variable {σ : Type}

/-- What a run holds, but for the raw handles. -/
inductive Holding where
  /-- Nothing has to be freed for this registry. -/
  | nothing (registry : Registry)
  | device (graph : FlatGraph) (ids : List Int64)
  /-- The index is taken out of use for its conversion. -/
  | moving (graph : FlatGraph) (ids : List Int64)
  | host (graph : FlatGraph) (ids : List Int64)

namespace Holding

/-- The registry with this index. -/
def registry (native : NativeIndex) : Holding → Registry
  | .nothing registry => registry
  | .device .. => { slots := [.live native], tally := { registered := 1 } }
  | .moving .. => { slots := [.converting native], tally := { registered := 1 } }
  | .host .. =>
    { slots := [.transferred ⟨1⟩, .live native]
      tally := { registered := 2, released := 1, transferred := 1 } }

/-- The raw handles that belong to the run. -/
def raws (native : NativeIndex) : Holding → List RawHandle
  | .nothing _ => []
  | .device .. => native.raws
  | .moving .. => native.raws
  | .host .. => native.raws

/-- What is held is there, and so far nothing could not be freed. -/
def Kept (native : NativeIndex) (a : Arena) : Holding → Prop
  | .nothing registry => registry.pending = [] ∧ registry.tally.failures = 0
  | .device graph ids => native.residency = .gpu ∧ a.Holds native graph ids
  | .moving graph ids => native.residency = .gpu ∧ a.Holds native graph ids
  | .host graph ids => native.residency = .cpu ∧ a.Holds native graph ids

/-- The registry after everything was freed. -/
def closed : Holding → Registry
  | .nothing registry => registry
  | .device .. => { slots := [.released], tally := { registered := 1, released := 1 } }
  | .moving .. => { slots := [.released], tally := { registered := 1, released := 1 } }
  | .host .. =>
    { slots := [.transferred ⟨1⟩, .released]
      tally := { registered := 2, released := 2, transferred := 1 } }

variable {native : NativeIndex} {holding : Holding} {a a' : Arena} {own own' : List RawHandle}

/-- The raw handles of what is held were given out. -/
theorem Kept.number_lt (h : holding.Kept native a) (hfresh : a.Fresh) :
    ∀ raw ∈ holding.raws native, raw.number < a.next := by
  cases holding with
  | nothing registry => exact fun _ hraw => nomatch hraw
  | device graph ids => exact h.2.number_lt hfresh
  | moving graph ids => exact h.2.number_lt hfresh
  | host graph ids => exact h.2.number_lt hfresh

/-- What is held is allocated. -/
theorem Kept.isSome_find? (h : holding.Kept native a) :
    ∀ raw ∈ holding.raws native, (a.find? raw).isSome = true := by
  cases holding with
  | nothing registry => exact fun _ hraw => nomatch hraw
  | device graph ids => exact h.2.isSome_find?
  | moving graph ids => exact h.2.isSome_find?
  | host graph ids => exact h.2.isSome_find?

/-- What is held is there wherever the same is found under its raw handles. -/
theorem Kept.of_find? (h : holding.Kept native a)
    (hfind : ∀ raw ∈ holding.raws native, a'.find? raw = a.find? raw) :
    holding.Kept native a' := by
  cases holding with
  | nothing registry => exact h
  | device graph ids => exact ⟨h.1, h.2.of_find? hfind⟩
  | moving graph ids => exact ⟨h.1, h.2.of_find? hfind⟩
  | host graph ids => exact ⟨h.1, h.2.of_find? hfind⟩

/-- What is held is not noticed by neighbours. -/
theorem Kept.of_confined (h : holding.Kept native a) (hfresh : a.Fresh)
    (hconfined : a.Confined own own' a') (hown : ∀ raw ∈ holding.raws native, raw ∉ own) :
    holding.Kept native a' :=
  h.of_find? fun raw hraw =>
    hconfined.find?_of_lt (h.number_lt hfresh raw hraw) (hown raw hraw)

/-- At the end nothing is left to be freed, and everything could be freed. -/
theorem Kept.close (h : holding.Kept native a) (a' : Arena) :
    (nothing holding.closed).Kept native a' := by
  cases holding with
  | nothing registry => exact h
  | device graph ids => exact ⟨rfl, rfl⟩
  | moving graph ids => exact ⟨rfl, rfl⟩
  | host graph ids => exact ⟨rfl, rfl⟩

/-- So far everything could be freed. -/
theorem Kept.failures (h : holding.Kept native a) :
    (holding.registry native).tally.failures = 0 := by
  cases holding with
  | nothing registry => exact h.2
  | device graph ids => rfl
  | moving graph ids => rfl
  | host graph ids => rfl

/-- A run never has more than one index to free. -/
theorem Kept.length_pending (h : holding.Kept native a) :
    (holding.registry native).pending.length ≤ 1 := by
  cases holding with
  | nothing registry =>
    have hpending : registry.pending = [] := h.1
    simp [Holding.registry, hpending]
  | device graph ids => exact Nat.le_refl 1
  | moving graph ids => exact Nat.le_refl 1
  | host graph ids => exact Nat.le_refl 1

/-- Where nothing has to be freed, nothing is retired. -/
theorem retireAll_of_pending {registry : Registry} (h : registry.pending = []) :
    registry.retireAll = registry := by
  obtain ⟨slots, tally⟩ := registry
  have hslots : slots.map (fun s => if s.held?.isSome then Slot.released else s) = slots := by
    refine (List.map_congr_left fun s hs => ?_).trans (List.map_id slots)
    have hnone : s.held? = none := List.filterMap_eq_nil_iff.1 h s hs
    rw [hnone]
    rfl
  unfold Registry.retireAll
  rw [hslots, h]
  rfl

/-- At the end of a run its index is freed without a failure. -/
theorem releaseAll_spec {c : Custodian Arena σ} (hregistry : c.registry = holding.registry native)
    (hkept : holding.Kept native c.world.memory) :
    (c.releaseAll Arena.engine).2.registry = holding.closed ∧
      c.world.memory.Confined (holding.raws native) []
        (c.releaseAll Arena.engine).2.world.memory := by
  obtain ⟨registry, world⟩ := c
  obtain rfl : registry = holding.registry native := hregistry
  have hswept := Registry.arrange_of_length_pending hkept.length_pending world.sweep
  unfold Custodian.releaseAll
  dsimp only
  rw [hswept]
  cases holding with
  | nothing registry =>
    have hkept : registry.pending = [] := hkept.1
    dsimp only [Holding.registry]
    rw [hkept]
    exact ⟨retireAll_of_pending hkept, .refl [] _⟩
  | device graph ids => exact Custodian.freeAll_spec hkept.2
  | moving graph ids => exact Custodian.freeAll_spec hkept.2
  | host graph ids => exact Custodian.freeAll_spec hkept.2

/-! ## What the calls of the engine make of it -/

/-- A conversion moves what is held to the host. -/
theorem finishTransfer_spec {c : Custodian Arena σ} {graph : FlatGraph} {ids : List Int64}
    {config : SearchConfig} {memory : Arena} (ha : a.Reachable)
    (hregistry : c.registry = (Holding.moving graph ids).registry native)
    (hkept : (Holding.moving graph ids).Kept native a) {reply : Reply RawHandle}
    (hconvert : a.convert native config = (reply, memory)) (hmemory : c.world.memory = memory) :
    ∃ copy, reply = .ok copy ∧
      (c.finishTransfer Arena.engine ⟨0⟩ native reply).1 = .moved ⟨⟨1⟩, .cpu⟩ ∧
      (c.finishTransfer Arena.engine ⟨0⟩ native reply).2.registry =
        (Holding.host (Arena.hostGraph graph config) ids).registry (.cpu copy native.idMap) ∧
      (Holding.host (Arena.hostGraph graph config) ids).Kept (.cpu copy native.idMap)
        (c.finishTransfer Arena.engine ⟨0⟩ native reply).2.world.memory ∧
      a.Confined native.raws (NativeIndex.cpu copy native.idMap).raws
        (c.finishTransfer Arena.engine ⟨0⟩ native reply).2.world.memory := by
  obtain ⟨registry, world⟩ := c
  obtain rfl : registry = _ := hregistry
  obtain ⟨hgpu, hholds⟩ := hkept
  obtain ⟨copy, memory', hconvert', hcopy, hreleased, hconfined⟩ :=
    Arena.convert_confined ha hgpu hholds config
  obtain ⟨rfl, rfl⟩ := Prod.mk.inj (hconvert.symm.trans hconvert')
  have hafter := Custodian.memory_finishTransfer Arena.engine ⟨0⟩ native copy
    ({ registry := (Holding.moving graph ids).registry native, world } : Custodian Arena σ)
  have hrelease : Arena.engine.release native.index native.residency.graphKind world.memory =
      memory.release native.index .gpuIndex := by
    rw [hgpu, show world.memory = memory from hmemory]
    rfl
  rw [hrelease] at hafter
  refine ⟨copy, rfl, rfl, ?_, ⟨rfl, ?_⟩, ?_⟩
  · have hanswer : (world.free Arena.engine native.index native.residency.graphKind).1 = none := by
      unfold World.free
      rw [hrelease]
      exact hreleased
    have hfree : ∀ c : Custodian Arena σ, c.world.memory = world.memory →
        (c.freeAll Arena.engine { native with idMap := none }.components).registry =
          c.registry := by
      intro c hc
      have hrefusal : (c.world.free Arena.engine native.index native.residency.graphKind).1 =
          none := by
        unfold World.free at hanswer ⊢
        rw [hc]
        exact hanswer
      change (c.freeAll Arena.engine [(native.index, native.residency.graphKind)]).registry = _
      rw [Custodian.freeAll_cons, hrefusal]
      rfl
    exact hfree _ rfl
  · rw [hafter]
    exact hcopy
  · rw [hafter]
    exact hconfined

/-- A persisted index is freed. -/
theorem release_spec {c : Custodian Arena σ} {graph : FlatGraph} {ids : List Int64}
    (hregistry : c.registry = (Holding.host graph ids).registry native)
    (hkept : (Holding.host graph ids).Kept native c.world.memory) :
    (c.release Arena.engine ⟨1⟩).registry = (Holding.host graph ids).closed ∧
      c.world.memory.Confined native.raws [] (c.release Arena.engine ⟨1⟩).world.memory := by
  obtain ⟨registry, world⟩ := c
  obtain rfl : registry = _ := hregistry
  exact Custodian.freeAll_spec hkept.2

end Holding

end VectorIndex
