import VectorIndex.Proofs.Custody.Errands
import VectorIndex.Proofs.Custody.Slots
import VectorIndex.Proofs.Custody.Tallies
import VectorIndex.Proofs.Engine.Moorings

/-!
# Errands with the flat engine

`Errand.no_map_outlives_its_graph` says that after every request to free something every map still
points at a graph that is there, and that no request is refused.  The invariant is `Harbour.Sound`.
During a conversion other errands are run in the middle of this one, and `Harbour.Minds` says what
they leave alone: the index that is being converted, and the copy that nobody owns yet.
-/

set_option autoImplicit false

open scoped List

namespace VectorIndex

variable {ε σ : Type}

namespace Errand

mutual

/-- Whether everything is released only while no conversion is under way. -/
def orderly (converting : Bool) : Errand → Bool
  | .build .. => true
  | .register _ => true
  | .lookup _ during => orderlyAll converting during
  | .transfer _ before _ after _ => orderlyAll true before && orderlyAll true after
  | .release _ => true
  | .releaseAll => !converting

/-- Whether all errands are orderly. -/
def orderlyAll (converting : Bool) : List Errand → Bool
  | [] => true
  | e :: es => orderly converting e && orderlyAll converting es

end

end Errand

/-! ## Requests to free -/

/-- Since a point of time no request to free something was refused, and each has left the arena with
all maps moored. -/
structure World.Watched (start now : World (Arena × List Arena) σ) : Prop where
  log : ∃ events, now.log = start.log ++ events ∧ events.countP Event.isRefusal = 0 ∧
    (freedIn events).length = now.memory.2.length
  moored : ∀ a ∈ now.memory.2, a.Moored

namespace World

variable {start w : World (Arena × List Arena) σ} {raw : RawHandle} {s : Structure}

/-- Nothing went wrong as long as nothing was done. -/
theorem Watched.refl (hnone : start.memory.2 = []) : Watched start start where
  log := ⟨[], by simp [hnone, freedIn]⟩
  moored a ha := by simp [hnone] at ha

/-- A turn in the life of a handle can be recorded. -/
theorem Watched.record (h : Watched start w) (turn : HandleEvent) :
    Watched start (w.record (.handle turn)) where
  log := by
    obtain ⟨events, hlog, hrefused, hcount⟩ := h.log
    refine ⟨events ++ [.handle turn], ?_, ?_, ?_⟩
    · rw [World.record, hlog, List.append_assoc]
    · simpa [Event.isRefusal] using hrefused
    · have hnone : freedIn [.handle turn] = [] := rfl
      rw [freedIn_append, hnone, List.append_nil]
      exact hcount
  moored := h.moored

/-- A structure that is there, and of this kind, is freed without a refusal, and the state is
noted. -/
theorem free_watched (hfind : w.memory.1.find? raw = some s) :
    w.free Arena.engine.watched raw s.kind =
      (none, { w with
        log := w.log ++ [.structureReleased raw s.kind none]
        memory := (w.memory.1.erase raw, w.memory.2 ++ [w.memory.1.erase raw]) }) := by
  have hrelease : Arena.engine.watched.release raw s.kind w.memory =
      (none, w.memory.1.erase raw, w.memory.2 ++ [w.memory.1.erase raw]) := by
    have herased : w.memory.1.release raw s.kind = (none, w.memory.1.erase raw) :=
      Arena.release_eq hfind
    simp [Engine.watched, Arena.engine, herased]
  unfold free
  rw [hrelease]
  rfl

/-- To free a structure that is there goes well, if the maps that are left are still moored. -/
theorem Watched.free (h : Watched start w) (hfind : w.memory.1.find? raw = some s)
    (hmoored : (w.memory.1.erase raw).Moored) :
    Watched start (w.free Arena.engine.watched raw s.kind).2 where
  log := by
    obtain ⟨events, hlog, hrefused, hcount⟩ := h.log
    rw [free_watched hfind]
    refine ⟨events ++ [.structureReleased raw s.kind none], ?_, ?_, ?_⟩
    · simp [hlog]
    · simpa [Event.isRefusal] using hrefused
    · simpa [freedIn, Event.freed?, List.filterMap_append] using hcount
  moored a ha := by
    rw [free_watched hfind] at ha
    obtain ha | ha := List.mem_append.1 ha
    · exact h.moored a ha
    · rw [List.mem_singleton.1 ha]
      exact hmoored

end World

/-! ## Freeing an index -/

/-- The arena that a custodian works with. -/
def Custodian.arena (c : Custodian (Arena × List Arena) σ) : Arena :=
  c.world.memory.1

/-- These structures were freed, none of them was refused, and what is left is berthed. -/
structure Custodian.Frees (start : World (Arena × List Arena) σ) (raws : List RawHandle)
    (l : List Slot) (a : Arena) (c' : Custodian (Arena × List Arena) σ) : Prop where
  watched : start.Watched c'.world
  berthed : c'.arena.Berthed l
  next : c'.arena.next = a.next
  find : ∀ raw, c'.arena.find? raw = if raw ∈ raws then none else a.find? raw

namespace Custodian

variable {start : World (Arena × List Arena) σ} {c : Custodian (Arena × List Arena) σ}
  {native : NativeIndex} {l : List Slot}

/-- The graph of an index whose map has gone to the copy is freed without a refusal. -/
theorem frees_graph (hw : start.Watched c.world) (hb : c.arena.Berthed (.converting native :: l))
    (hnone : native.idMap = none) :
    Frees start native.raws l c.arena (c.freeAll Arena.engine.watched native.components) := by
  obtain ⟨residency, index, idMap⟩ := native
  obtain rfl : idMap = none := hnone
  have hkeeps : c.arena.Keeps ⟨residency, index, none⟩ := hb.sits _ List.mem_cons_self
  obtain ⟨graph, hgraph⟩ := hkeeps.graph
  have hgraph : c.world.memory.1.find? index = some (Arena.graphIn residency graph) := hgraph
  have herased := hb.eraseGraph rfl
  have hwatched := hw.free hgraph herased.moored
  have hcomponents : (NativeIndex.mk residency index none).components =
      [(index, (Arena.graphIn residency graph).kind)] := by
    simp [NativeIndex.components, Arena.kind_graphIn]
  rw [hcomponents, freeAll_cons]
  rw [World.free_watched hgraph] at hwatched ⊢
  refine ⟨hwatched, herased, rfl, fun raw => ?_⟩
  have hraws : (NativeIndex.mk residency index none).raws = [index] := by
    simp [NativeIndex.raws, NativeIndex.components]
  by_cases hraw : raw = index
  · subst hraw
    simp only [hraws, List.mem_singleton, if_true]
    exact Arena.find?_erase_self c.arena raw
  · simp only [hraws, List.mem_singleton, hraw, if_false]
    exact Arena.find?_erase_of_ne hraw

/-- An index is freed without a refusal: the map first, and then the graph. -/
theorem frees_components (hw : start.Watched c.world)
    (hb : c.arena.Berthed (.converting native :: l)) :
    Frees start native.raws l c.arena (c.freeAll Arena.engine.watched native.components) := by
  cases hmap : native.idMap with
  | none => exact frees_graph hw hb hmap
  | some m =>
    have hkeeps : c.arena.Keeps native := hb.sits _ List.mem_cons_self
    obtain ⟨ids, target, hfind⟩ := hkeeps.map hmap
    have hfind : c.world.memory.1.find? m = some (.idMap ids target) := hfind
    have herased := hb.eraseMap hmap
    have hwatched := hw.free hfind herased.moored
    have hcomponents : native.components = (m, (Structure.idMap ids target).kind) ::
        { native with idMap := none }.components := by
      simp [NativeIndex.components, hmap, Structure.kind]
    rw [hcomponents, freeAll_cons]
    rw [World.free_watched hfind] at hwatched ⊢
    have hrest := frees_graph (c := { registry := c.registry, world := _ }) hwatched herased rfl
    refine ⟨hrest.watched, hrest.berthed, hrest.next, fun raw => ?_⟩
    refine (hrest.find raw).trans ?_
    have hraws : native.raws = m :: { native with idMap := none }.raws := by
      simp [NativeIndex.raws, hcomponents]
    rw [hraws]
    by_cases hraw : raw = m
    · subst hraw
      simp only [List.mem_cons, true_or, if_true]
      split
      · rfl
      · exact Arena.find?_erase_self c.arena raw
    · simp only [List.mem_cons, hraw, false_or]
      split
      · rfl
      · exact Arena.find?_erase_of_ne hraw

/-- Indexes are freed one after the other. -/
theorem watched_releaseAll_go (natives : List NativeIndex) (hw : start.Watched c.world)
    (hb : c.arena.Berthed (natives.map .converting ++ l)) :
    start.Watched (releaseAll.go Arena.engine.watched natives c).world ∧
      (releaseAll.go Arena.engine.watched natives c).arena.Berthed l := by
  induction natives generalizing c with
  | nil => exact ⟨hw, hb⟩
  | cons native natives ih =>
    rw [releaseAll.go]
    have hfrees := frees_components
      (c := { c with world := c.world.record (.handle .released) }) (hw.record _) hb
    exact ih hfrees.watched hfrees.berthed

/-- An index that is registered and released at once is freed. -/
theorem frees_orphan (hw : start.Watched c.world)
    (hb : c.arena.Berthed (.converting native :: l)) :
    Frees start native.raws l c.arena
      ((c.register native).2.release Arena.engine.watched (c.register native).1.id) := by
  have hslot : (c.register native).2.registry.slot? (c.register native).1.id =
      some (.live native) := List.getElem?_concat_length
  obtain ⟨native', hlive, heq⟩ | ⟨hdead, -⟩ := release_cases Arena.engine.watched
    (c.register native).1.id (c.register native).2
  · obtain rfl : native = native' := by
      rw [hslot, Option.some.injEq, Slot.live.injEq] at hlive
      exact hlive
    rw [heq]
    exact frees_components (c := ⟨_, (c.register native).2.world.record (.handle .released)⟩)
      ((hw.record .registered).record .released) hb
  · exact absurd hslot (hdead native)

/-- A transfer ends: what it frees is not refused, and what is left is berthed in the new slots. -/
theorem watched_finishTransfer (id : HandleId) {gpu : NativeIndex} {copy : RawHandle}
    {reply : Reply RawHandle} (hw : start.Watched c.world)
    (hb : c.arena.Berthed (.converting gpu :: l)) (hreply : c.arena.Answers gpu copy l reply) :
    start.Watched (c.finishTransfer Arena.engine.watched id gpu reply).2.world ∧
      (c.finishTransfer Arena.engine.watched id gpu reply).2.arena.Berthed
        (reply.newSlots gpu ++ reply.sourceSlot c.registry.nextId (.converting gpu) :: l) ∧
      (c.finishTransfer Arena.engine.watched id gpu reply).2.arena.next = c.arena.next ∧
      ∀ raw, raw ∉ copy :: gpu.raws →
        (c.finishTransfer Arena.engine.watched id gpu reply).2.arena.find? raw =
          c.arena.find? raw := by
  match reply with
  | .ok raw =>
    obtain ⟨rfl, hcopy⟩ := hreply
    have hfrees := frees_components
      (c := (c.register (.cpu raw gpu.idMap)).2.settle id (some c.registry.nextId))
      ((hw.record .registered).record .transferred) (hb.moved hcopy)
    refine ⟨hfrees.watched, ?_, hfrees.next, fun r hr => ?_⟩
    · exact (hfrees.berthed.cons_of_held_none rfl).perm (List.Perm.swap ..)
    · refine (hfrees.find r).trans (if_neg fun hmem => hr ?_)
      have hindex : r = gpu.index := by
        simpa [NativeIndex.raws, NativeIndex.components] using hmem
      rw [hindex]
      exact List.mem_cons_of_mem _ (Arena.mem_raws_index gpu)
  | .failed message none =>
    have hfrees := frees_components (c := c.settle id none) (hw.record .released) hb
    refine ⟨hfrees.watched, hfrees.berthed.cons_of_held_none rfl, hfrees.next, fun r hr => ?_⟩
    exact (hfrees.find r).trans (if_neg fun hmem => hr (List.mem_cons_of_mem _ hmem))
  | .failed message (some native) =>
    obtain ⟨rfl, ⟨graph, hgraph⟩, ⟨m, ids, hm, hmap⟩, hstrange⟩ := hreply
    rw [List.flatMap_cons, List.mem_append, not_or] at hstrange
    have hfrees := frees_components (c := c.settle id none) (hw.record .released) hb
    -- the map that points at the copy is freed with the source, and then none points at it
    have hcopy : (freeAll Arena.engine.watched gpu.components (c.settle id none)).arena.Berthed
        (.converting (.cpu copy none) :: l) := by
      refine hfrees.berthed.takeOver ⟨graph, ?_⟩ (fun raw ids' hfind => ?_) hstrange.2
      · exact (hfrees.find copy).trans ((if_neg hstrange.1).trans hgraph)
      · rw [hfrees.find] at hfind
        split at hfind
        · cases hfind
        · next hraw =>
          obtain rfl : raw = m := hb.moored.apart hfind hmap
          exact hraw (Arena.mem_raws_idMap hm)
    have hrest := frees_orphan hfrees.watched hcopy
    refine ⟨hrest.watched, ?_, hrest.next.trans hfrees.next, fun r hr => ?_⟩
    · exact (hrest.berthed.cons_of_held_none rfl).cons_of_held_none rfl
    · rw [List.mem_cons, not_or] at hr
      refine (hrest.find r).trans ((if_neg ?_).trans ((hfrees.find r).trans (if_neg hr.2)))
      simpa [NativeIndex.raws, NativeIndex.components, NativeIndex.cpu] using hr.1
  | .panicked message => exact ⟨hw, hb, rfl, fun _ _ => rfl⟩

end Custodian

/-! ## The invariant -/

namespace Arena

variable {a : Arena} {s : Slot} {slots l : List Slot}

/-- Everything that is held may be freed. -/
theorem Berthed.pending {r : Registry} (h : a.Berthed (r.slots ++ l)) :
    a.Berthed (r.pending.map .converting ++ l) where
  moored := h.moored
  nodup := by
    have hraws : (r.pending.map Slot.converting).flatMap Slot.raws = r.slots.flatMap Slot.raws := by
      calc (r.pending.map Slot.converting).flatMap Slot.raws
          = (r.pending.flatMap NativeIndex.components).map Prod.fst := by
            rw [List.flatMap_map, List.map_flatMap]
            rfl
        _ = r.slots.flatMap Slot.raws := by
            rw [Registry.flatMap_pending, Registry.held, List.map_flatMap]
            rfl
    rw [List.flatMap_append, hraws, ← List.flatMap_append]
    exact h.nodup
  sits s hs := by
    obtain hs | hs := List.mem_append.1 hs
    · obtain ⟨native, hnative, rfl⟩ := List.mem_map.1 hs
      obtain ⟨old, hold, hheld⟩ := List.mem_filterMap.1 hnative
      have hsits := h.sits old (List.mem_append_left _ hold)
      cases old with
      | live n =>
        obtain rfl : n = native := Option.some.inj hheld
        obtain ⟨graph, ids, hholds⟩ := hsits
        exact hholds.keeps h.moored
      | converting n =>
        obtain rfl : n = native := Option.some.inj hheld
        exact hsits
      | transferred into => cases hheld
      | released => cases hheld
    · exact h.sits s (List.mem_append_right _ hs)

section Answers

variable {gpu : NativeIndex} {copy : RawHandle} {reply : Reply RawHandle}

/-- A closure makes nothing of the answer that is not about the copy. -/
theorem Answers.on (h : a.Answers gpu copy l reply) (verdict : Verdict) :
    a.Answers gpu copy l (verdict.on reply) := by
  match verdict, reply with
  | .asAnswered, _ => exact h
  | .failing _, .ok _ =>
    obtain ⟨rfl, hcopy⟩ := h
    exact ⟨rfl, hcopy⟩
  | .failing _, .failed _ none => trivial
  | .failing _, .failed _ (some _) => exact h
  | .failing _, .panicked _ => trivial
  | .panicking _, _ => trivial

/-- An answer is still good when its index and its copy were left alone. -/
theorem Answers.spared {a' : Arena} {l' : List Slot} (h : a.Answers gpu copy l reply)
    (hb : a.Berthed (.converting gpu :: l))
    (hspares : Spares [] a (.converting gpu :: l) a' (.converting gpu :: l')) :
    a'.Answers gpu copy l' reply := by
  match reply with
  | .ok _ =>
    obtain ⟨rfl, hcopy⟩ := h
    exact ⟨rfl, hcopy.spared hb hspares⟩
  | .failed _ none => trivial
  | .failed _ (some _) =>
    obtain ⟨rfl, hcopy⟩ := h
    exact ⟨rfl, hcopy.spared hb hspares⟩
  | .panicked _ => trivial

/-- A transfer leaves nothing in its slots but the index and the copy. -/
theorem Answers.raws (h : a.Answers gpu copy l reply) (into : HandleId) :
    ∀ raw ∈ (reply.newSlots gpu ++ [reply.sourceSlot into (.converting gpu)]).flatMap Slot.raws,
      raw ∈ copy :: gpu.raws := by
  intro raw hraw
  match reply with
  | .ok made =>
    obtain ⟨rfl, -⟩ := h
    have hcopy : raw = made ∨ gpu.idMap = some raw := by
      simpa [Reply.newSlots, Reply.sourceSlot, Slot.raws, Slot.components, NativeIndex.components,
        NativeIndex.cpu, or_comm] using hraw
    obtain rfl | hmap := hcopy
    · exact List.mem_cons_self
    · exact List.mem_cons_of_mem _ (mem_raws_idMap hmap)
  | .failed _ none => cases hraw
  | .failed _ (some _) => cases hraw
  | .panicked _ =>
    simp only [Reply.newSlots, Reply.sourceSlot, List.nil_append, List.flatMap_singleton] at hraw
    exact List.mem_cons_of_mem _ hraw

end Answers

end Arena

namespace Harbour

/-- What is held by somebody: what is registered, and what waits. -/
def slots (s : Harbour ε σ) : List Slot :=
  s.custodian.registry.slots ++ s.waiting.map .live

/-- What is held by others than one handle. -/
def others (s : Harbour ε σ) (id : HandleId) : List Slot :=
  s.custodian.registry.slots.eraseIdx id.place ++ s.waiting.map .live

/-- What is held is there, and up to now no request to free something went wrong. -/
structure Sound (start : World (Arena × List Arena) σ) (s : Harbour (Arena × List Arena) σ) :
    Prop where
  watched : start.Watched s.custodian.world
  berthed : s.custodian.arena.Berthed s.slots

/-- What is being converted still is, and nothing else was touched but what was live. -/
structure Minds (s s' : Harbour (Arena × List Arena) σ) : Prop where
  converting : ∀ {id native}, s.custodian.registry.slot? id = some (.converting native) →
    s'.custodian.registry.slot? id = some (.converting native)
  spares : Arena.Spares [] s.custodian.arena s.slots s'.custodian.arena s'.slots

variable {start : World (Arena × List Arena) σ} {s s' s'' : Harbour (Arena × List Arena) σ}
  {id : HandleId} {native gpu : NativeIndex} {old new : Slot}

/-- To do nothing is to mind a conversion. -/
theorem Minds.refl (s : Harbour (Arena × List Arena) σ) : s.Minds s where
  converting h := h
  spares := .refl _ _ _

/-- Errands that mind a conversion can follow on each other. -/
theorem Minds.trans (h : s.Minds s') (h' : s'.Minds s'') : s.Minds s'' where
  converting hslot := h'.converting (h.converting hslot)
  spares := h.spares.trans h'.spares

/-- The slots are that of one handle and those of the others. -/
theorem slots_perm {s : Harbour ε σ} (h : s.custodian.registry.slot? id = some old) :
    s.slots ~ old :: s.others id := by
  obtain ⟨hi, rfl⟩ := List.getElem?_eq_some_iff.1 h
  exact ((List.getElem_cons_eraseIdx_perm hi).symm).append_right _

/-- Another slot stands behind a handle. -/
theorem setSlot_perm {r : Registry} (h : r.slot? id = some old) (new : Slot) (l : List Slot) :
    (r.setSlot id new).slots ++ l ~ new :: (r.slots.eraseIdx id.place ++ l) := by
  obtain ⟨hi, -⟩ := List.getElem?_eq_some_iff.1 h
  exact (List.set_perm_cons_eraseIdx hi new).append_right l

/-! ## What an errand does -/

/-- A build finds room for its index, which waits from then on. -/
theorem Sound.build (h : s.Sound start) (dataset : Dataset) (config : BuildConfig) :
    (Errand.run Arena.engine.watched s (.build dataset config)).Sound start ∧
      s.Minds (Errand.run Arena.engine.watched s (.build dataset config)) := by
  obtain ⟨message, hbuild⟩ | ⟨a', native, hbuild, hberthed, hnext, hnew, hkept⟩ :=
    h.berthed.build dataset config
  · have hcall : Arena.engine.watched.build dataset config s.custodian.world.memory =
        (.failed message none, s.custodian.world.memory) :=
      congrArg (fun answer => (answer.1, answer.2, s.custodian.world.memory.2)) hbuild
    rw [Errand.run, hcall]
    exact ⟨⟨h.watched, h.berthed⟩, .refl s⟩
  · have hcall : Arena.engine.watched.build dataset config s.custodian.world.memory =
        (.ok native, a', s.custodian.world.memory.2) :=
      congrArg (fun answer => (answer.1, answer.2, s.custodian.world.memory.2)) hbuild
    have hperm : s.custodian.registry.slots ++ (native :: s.waiting).map .live ~
        .live native :: s.slots := List.perm_middle
    have hstep : Arena.Spares native.raws s.custodian.arena s.slots a'
        (.live native :: s.slots) := by
      apply Arena.Spares.step hnext (fun raw _ hraw => hkept raw hraw)
      · intro raw hraw
        exact List.mem_append.1 hraw
      · intro raw hraw
        exact List.mem_append.1 hraw
    rw [Errand.run, hcall]
    refine ⟨⟨⟨h.watched.log, h.watched.moored⟩, hberthed.perm hperm.symm⟩, fun h => h, ?_⟩
    apply (hstep.trans (.of_perm _ _ hperm.symm)).of_own
    exact fun raw hraw hlt => absurd (hnew raw hraw) (Nat.not_le.2 hlt)

/-- An index that waits can be registered. -/
theorem Sound.register (h : s.Sound start) (which : Nat) :
    (Errand.run Arena.engine.watched s (.register which)).Sound start ∧
      s.Minds (Errand.run Arena.engine.watched s (.register which)) := by
  rw [Errand.run]
  cases hwhich : s.waiting[which]? with
  | none => exact ⟨h, .refl s⟩
  | some native =>
    obtain ⟨hi, rfl⟩ := List.getElem?_eq_some_iff.1 hwhich
    have hperm : s.slots ~ (s.custodian.registry.slots ++ [.live s.waiting[which]]) ++
        (s.waiting.eraseIdx which).map .live := by
      rw [List.append_assoc]
      exact (((List.getElem_cons_eraseIdx_perm hi).symm).map _).append_left _
    refine ⟨⟨h.watched.record _, h.berthed.perm hperm⟩, fun hslot => ?_, .of_perm _ _ hperm⟩
    exact Custodian.slot_register hslot _

/-- Whatever handle is released, nothing goes wrong. -/
theorem Sound.release (h : s.Sound start) (id : HandleId) :
    (Errand.run Arena.engine.watched s (.release id)).Sound start ∧
      s.Minds (Errand.run Arena.engine.watched s (.release id)) := by
  rw [Errand.run]
  obtain ⟨native, hlive, heq⟩ | ⟨-, heq⟩ :=
    Custodian.release_cases Arena.engine.watched id s.custodian
  · have hfrees := Custodian.frees_components
      (c := ⟨{ s.custodian.registry.setSlot id .released with
        tally := { s.custodian.registry.tally with
          released := s.custodian.registry.tally.released + 1 } },
        s.custodian.world.record (.handle .released)⟩)
      (h.watched.record _) (h.berthed.perm (slots_perm hlive)).begin
    rw [← heq] at hfrees
    have hslots : (s.custodian.release Arena.engine.watched id).registry.slots =
        (s.custodian.registry.setSlot id .released).slots := by
      rw [heq, Custodian.slots_freeAll]
    have hperm : (s.custodian.release Arena.engine.watched id).registry.slots ++
        s.waiting.map .live ~ .released :: s.others id := by
      rw [hslots]
      exact setSlot_perm hlive .released _
    have hstep : Arena.Spares native.raws s.custodian.arena (.live native :: s.others id)
        (s.custodian.release Arena.engine.watched id).arena (.released :: s.others id) := by
      apply Arena.Spares.step (Nat.le_of_eq hfrees.next.symm)
      · intro raw _ hraw
        exact (hfrees.find raw).trans (if_neg hraw)
      · intro raw hraw
        exact .inr (List.mem_append_right _ hraw)
      · intro raw hraw
        exact .inr (List.mem_append_right _ hraw)
    refine ⟨⟨hfrees.watched, (hfrees.berthed.cons_of_held_none rfl).perm hperm.symm⟩, ?_, ?_⟩
    · intro other native' hslot
      exact Custodian.slot_release_of_not_live _ hslot (fun _ => nofun) id
    · apply ((Arena.Spares.of_perm _ _ (slots_perm hlive)).trans
        (hstep.trans (.of_perm _ _ hperm.symm))).of_own
      intro raw hraw _
      refine (((slots_perm hlive).flatMap_right _).mem_iff).2 ?_
      exact List.mem_append_left _ hraw
  · rw [heq]
    exact ⟨h, .refl s⟩

/-- Everything is freed.  This may also touch what is being converted. -/
theorem Sound.releaseAll (h : s.Sound start) :
    (Errand.run Arena.engine.watched s .releaseAll).Sound start := by
  have hswept := s.custodian.registry.perm_arrange s.custodian.world.sweep
  obtain ⟨hwatched, hberthed⟩ := Custodian.watched_releaseAll_go
    (c := { s.custodian with registry := s.custodian.registry.retireAll }) _ h.watched
    (h.berthed.pending.perm ((hswept.map _).symm.append_right _))
  rw [Errand.run]
  refine ⟨hwatched, hberthed.append_of_held_none fun slot hslot => ?_⟩
  exact Custodian.held_none_of_mem_slots_releaseAll _ hslot

/-! ## Transfers -/

/-- A conversion can begin, and what it marks is still held. -/
theorem Sound.begin {c' : Custodian (Arena × List Arena) σ} (h : s.Sound start)
    (hbegun : s.custodian.beginTransfer id = .ok (gpu, c')) :
    { s with custodian := c' }.Sound start ∧
      c'.registry.slot? id = some (.converting gpu) ∧
      (∀ {other native}, s.custodian.registry.slot? other = some (.converting native) →
        c'.registry.slot? other = some (.converting native)) ∧
      (∀ raw ∈ gpu.raws, raw ∈ s.slots.flatMap Slot.offers) ∧
      Arena.Spares [] s.custodian.arena s.slots c'.arena { s with custodian := c' }.slots := by
  obtain ⟨hlive, rfl⟩ := Custodian.beginTransfer_eq_ok hbegun
  have hperm := slots_perm hlive
  have hperm' := setSlot_perm hlive (.converting gpu) (s.waiting.map .live)
  refine ⟨⟨h.watched, (h.berthed.perm hperm).begin.perm hperm'.symm⟩,
    Registry.slot_setSlot_self hlive _, fun {other native} hslot => ?_, fun raw hraw => ?_, ?_⟩
  · have hne : other ≠ id := by
      rintro rfl
      cases hslot.symm.trans hlive
    exact (Registry.slot_setSlot_ne _ hne _).trans hslot
  · refine ((hperm.flatMap_right _).mem_iff).2 ?_
    exact List.mem_append_left _ hraw
  · refine (Arena.Spares.of_perm _ _ hperm).trans (Arena.Spares.trans ?_ (.of_perm _ _ hperm'.symm))
    apply Arena.Spares.step (Nat.le_refl _) (fun _ _ _ => rfl)
    · intro raw hraw
      exact .inr (List.mem_append_right _ hraw)
    · intro raw hraw
      exact .inr hraw

/-- The engine converts, and its answer is about the index and a new copy. -/
theorem Sound.convert (h : s.Sound start)
    (hslot : s.custodian.registry.slot? id = some (.converting gpu)) (config : SearchConfig) :
    ∃ reply memory,
      Arena.engine.watched.convert gpu config s.custodian.world.memory = (reply, memory) ∧
      (s.remember memory).Sound start ∧
      memory.1.Answers gpu ⟨s.custodian.arena.next⟩ (s.others id) reply ∧
      Arena.Spares (⟨s.custodian.arena.next⟩ :: gpu.raws) s.custodian.arena s.slots memory.1
        s.slots := by
  have hperm := slots_perm hslot
  obtain ⟨message, hconvert⟩ | ⟨a', hconvert, hberthed, hcopy, hnext, hkept⟩ :=
    (h.berthed.perm hperm).convert config
  · refine ⟨.failed message none, s.custodian.world.memory, ?_, h, trivial, .refl _ _ _⟩
    exact congrArg (fun answer => (answer.1, answer.2, s.custodian.world.memory.2)) hconvert
  · refine ⟨.ok ⟨s.custodian.arena.next⟩, (a', s.custodian.world.memory.2), ?_,
      ⟨⟨h.watched.log, h.watched.moored⟩, hberthed.perm hperm.symm⟩, ⟨rfl, hcopy⟩, ?_⟩
    · exact congrArg (fun answer => (answer.1, answer.2, s.custodian.world.memory.2)) hconvert
    · apply Arena.Spares.step (Nat.le_of_lt hnext)
      · intro raw _ hraw
        rw [List.mem_cons, not_or] at hraw
        exact hkept raw hraw.2 hraw.1
      · exact fun raw hraw => .inr hraw
      · exact fun raw hraw => .inr hraw

/-- A conversion ends well if the answer is still good. -/
theorem Sound.finish {copy : RawHandle} {reply : Reply RawHandle} (h : s.Sound start)
    (hslot : s.custodian.registry.slot? id = some (.converting gpu))
    (hreply : s.custodian.arena.Answers gpu copy (s.others id) reply) :
    { s with custodian :=
        (s.custodian.finishTransfer Arena.engine.watched id gpu reply).2 }.Sound start ∧
      Arena.Spares (copy :: gpu.raws) s.custodian.arena s.slots
        (s.custodian.finishTransfer Arena.engine.watched id gpu reply).2.arena
        { s with custodian :=
          (s.custodian.finishTransfer Arena.engine.watched id gpu reply).2 }.slots := by
  have hperm := slots_perm hslot
  obtain ⟨hwatched, hberthed, hnext, hkept⟩ :=
    Custodian.watched_finishTransfer id h.watched (h.berthed.perm hperm) hreply
  obtain ⟨hi, -⟩ := List.getElem?_eq_some_iff.1 hslot
  have hslots : { s with custodian :=
      (s.custodian.finishTransfer Arena.engine.watched id gpu reply).2 }.slots ~
      reply.newSlots gpu ++ reply.sourceSlot s.custodian.registry.nextId (.converting gpu) ::
        s.others id := by
    unfold slots others
    rw [Custodian.slots_finishTransfer _ hslot, List.append_assoc]
    refine ((List.set_perm_cons_eraseIdx hi _).append_right _).trans ?_
    exact List.perm_append_comm_assoc _ _ _
  refine ⟨⟨hwatched, hberthed.perm hslots.symm⟩, ?_⟩
  refine (Arena.Spares.of_perm _ _ hperm).trans (Arena.Spares.trans ?_ (.of_perm _ _ hslots.symm))
  have hraws := hreply.raws s.custodian.registry.nextId
  apply Arena.Spares.step (Nat.le_of_eq hnext.symm) (fun raw _ hraw => hkept raw hraw)
  · intro raw hraw
    rw [List.append_cons, List.flatMap_append, List.mem_append] at hraw
    obtain hraw | hraw := hraw
    · exact .inl (hraws raw (Arena.mem_raws_of_mem_offers hraw))
    · exact .inr (List.mem_append_right _ hraw)
  · intro raw hraw
    rw [List.append_cons, List.flatMap_append, List.mem_append] at hraw
    obtain hraw | hraw := hraw
    · exact .inl (hraws raw hraw)
    · exact .inr (List.mem_append_right _ hraw)

/-- A conversion between errands that spare it.  What they leave alone is the index, which is
marked, and the copy. -/
theorem Sound.transfer (h : s.Sound start) (id : HandleId) (config : SearchConfig)
    (verdict : Verdict) {before after : List Errand}
    (hbefore : ∀ s₁ : Harbour (Arena × List Arena) σ, s₁.Sound start →
      (Errand.runAll Arena.engine.watched s₁ before).Sound start ∧
        s₁.Minds (Errand.runAll Arena.engine.watched s₁ before))
    (hafter : ∀ s₁ : Harbour (Arena × List Arena) σ, s₁.Sound start →
      (Errand.runAll Arena.engine.watched s₁ after).Sound start ∧
        s₁.Minds (Errand.runAll Arena.engine.watched s₁ after)) :
    (Errand.run Arena.engine.watched s (.transfer id before config after verdict)).Sound start ∧
      s.Minds (Errand.run Arena.engine.watched s (.transfer id before config after verdict)) := by
  cases hbegun : s.custodian.beginTransfer id with
  | error e =>
    rw [Errand.run, hbegun]
    exact ⟨h, .refl s⟩
  | ok p =>
    obtain ⟨gpu, c'⟩ := p
    obtain ⟨hsound₁, hslot₁, hconverting₁, hlive, hspares₁⟩ := h.begin hbegun
    obtain ⟨hsound₂, hminds₂⟩ := hbefore _ hsound₁
    have hslot₂ := hminds₂.converting hslot₁
    obtain ⟨reply, memory, hconvert, hsound₃, hreply₃, hspares₃⟩ := hsound₂.convert hslot₂ config
    obtain ⟨hsound₄, hminds₄⟩ := hafter _ hsound₃
    have hslot₄ := hminds₄.converting hslot₂
    rw [Errand.run_transfer _ hbegun hconvert]
    dsimp only
    generalize Errand.runAll Arena.engine.watched { s with custodian := c' } before = s₂ at *
    generalize Errand.runAll Arena.engine.watched (s₂.remember memory) after = s₄ at *
    have hreply₄ := hreply₃.spared (hsound₃.berthed.perm (slots_perm hslot₂))
      ((Arena.Spares.of_perm _ _ (slots_perm hslot₂).symm).trans
        (hminds₄.spares.trans (.of_perm _ _ (slots_perm hslot₄))))
    obtain ⟨hsound₅, hspares₅⟩ := hsound₄.finish hslot₄ (hreply₄.on verdict)
    refine ⟨hsound₅, fun {other native} hslot => ?_, ?_⟩
    · have hne : other ≠ id := by
        rintro rfl
        cases hslot.symm.trans (Custodian.beginTransfer_eq_ok hbegun).1
      have hkept := hminds₄.converting (hminds₂.converting (hconverting₁ hslot))
      exact Custodian.slot_finishTransfer_ne _ hkept hslot₄ hne gpu _
    · have hcourse := ((hspares₁.trans hminds₂.spares).mono (List.forall_mem_nil _)).trans
        (hspares₃.trans ((hminds₄.spares.mono (List.forall_mem_nil _)).trans hspares₅))
      apply hcourse.of_own
      intro raw hraw hlt
      obtain rfl | hraw := List.mem_cons.1 hraw
      · have hnext := Nat.le_trans hspares₁.next hminds₂.spares.next
        exact absurd hlt (Nat.not_lt.2 hnext)
      · exact hlive raw hraw

end Harbour

/-! ## Every history of errands -/

namespace Errand

variable {start : World (Arena × List Arena) σ}

mutual

/-- An orderly errand keeps the harbour sound, and minds a conversion that is under way. -/
theorem sound_run {s : Harbour (Arena × List Arena) σ} {converting : Bool} {e : Errand}
    (he : orderly converting e = true) (h : s.Sound start) :
    (run Arena.engine.watched s e).Sound start ∧
      (converting = true → s.Minds (run Arena.engine.watched s e)) := by
  match e with
  | .build dataset config =>
    obtain ⟨hsound, hminds⟩ := h.build dataset config
    exact ⟨hsound, fun _ => hminds⟩
  | .register which =>
    obtain ⟨hsound, hminds⟩ := h.register which
    exact ⟨hsound, fun _ => hminds⟩
  | .lookup id during =>
    rw [run]
    split
    · exact ⟨h, fun _ => .refl s⟩
    · exact sound_runAll he h
  | .transfer id before config after verdict =>
    obtain ⟨hbefore, hafter⟩ := Bool.and_eq_true_iff.1 he
    obtain ⟨hsound, hminds⟩ := h.transfer id config verdict
      (fun s₁ h₁ => (sound_runAll hbefore h₁).imp_right (· rfl))
      (fun s₁ h₁ => (sound_runAll hafter h₁).imp_right (· rfl))
    exact ⟨hsound, fun _ => hminds⟩
  | .release id =>
    obtain ⟨hsound, hminds⟩ := h.release id
    exact ⟨hsound, fun _ => hminds⟩
  | .releaseAll =>
    refine ⟨h.releaseAll, ?_⟩
    rintro rfl
    cases he

/-- Orderly errands keep the harbour sound, and mind a conversion that is under way. -/
theorem sound_runAll {s : Harbour (Arena × List Arena) σ} {converting : Bool} {es : List Errand}
    (hes : orderlyAll converting es = true) (h : s.Sound start) :
    (runAll Arena.engine.watched s es).Sound start ∧
      (converting = true → s.Minds (runAll Arena.engine.watched s es)) := by
  match es with
  | [] =>
    rw [runAll]
    exact ⟨h, fun _ => .refl s⟩
  | e :: es =>
    obtain ⟨he, hes⟩ := Bool.and_eq_true_iff.1 hes
    obtain ⟨hsound, hminds⟩ := sound_run he h
    obtain ⟨hsound', hminds'⟩ := sound_runAll hes hsound
    rw [runAll]
    exact ⟨hsound', fun hconverting => (hminds hconverting).trans (hminds' hconverting)⟩

end

/-- A harbour of the flat engine in which nothing has happened. -/
def untouched (site : Site σ) (sweep : SweepOrder) : Harbour (Arena × List Arena) σ where
  custodian := { registry := {}, world := { site with memory := ({}, []), sweep } }

/-- Nothing is wrong where nothing has happened. -/
theorem sound_untouched (site : Site σ) (sweep : SweepOrder) :
    (untouched site sweep).Sound (untouched site sweep).custodian.world where
  watched := .refl rfl
  berthed := ⟨Arena.moored_empty, List.nodup_nil, List.forall_mem_nil _⟩

/-- After every request to free something, and at the end, every map that is there points at a graph
that is there; and no request is refused.  It is enough that everything is released only while no
conversion is under way; in which order that is done does not matter.  The engine is watched, which
changes nothing. -/
theorem no_map_outlives_its_graph (site : Site σ) (sweep : SweepOrder) {es : List Errand}
    (hes : orderlyAll false es = true) :
    let start := (untouched site sweep).custodian.world
    let now := (runAll Arena.engine.watched (untouched site sweep) es).custodian.world
    (runAll Arena.engine.watched (untouched site sweep) es).forget =
        runAll Arena.engine (untouched site sweep).forget es ∧
      start.refusalsSince now = 0 ∧ (start.freedSince now).length = now.memory.2.length ∧
      ∀ a ∈ now.memory.1 :: now.memory.2, ∀ raw ids target,
        a.find? raw = some (.idMap ids target) → (a.find? target).isSome := by
  intro start now
  obtain ⟨⟨⟨events, hlog, hrefused, hcount⟩, hmoored⟩, hberthed⟩ :=
    (sound_runAll hes (sound_untouched site sweep)).1
  have hsince : now.log.drop start.log.length = events := by
    rw [hlog, List.drop_left]
  refine ⟨forget_runAll Arena.engine _ es, ?_, ?_, ?_⟩
  · rw [World.refusalsSince, hsince, hrefused]
  · rw [World.freedSince, hsince, hcount]
  · intro a ha raw ids target hfind
    have ha : a.Moored := by
      obtain rfl | ha := List.mem_cons.1 ha
      · exact hberthed.moored
      · exact hmoored a ha
    obtain ⟨residency, graph, hgraph⟩ := ha.target hfind
    rw [hgraph]
    rfl

/-- Two conversions, one of them inside of the other one, and with a failure that leaves its copy
behind; later a conversion breaks off, and the other copy is converted again, which cannot
succeed. -/
def nestedErrands : List Errand :=
  [.build Arena.twoRows {}, .build Arena.anotherRow {}, .register 1, .register 0,
    .transfer ⟨0⟩ [.transfer ⟨1⟩ [.release ⟨1⟩] {} [.release ⟨0⟩] (.failing "lost")] {}
      [.build Arena.anotherRow {}, .register 0, .lookup ⟨3⟩ [.release ⟨0⟩]] .asAnswered,
    .transfer ⟨3⟩ [] {} [] (.panicking "broke off"),
    .transfer ⟨4⟩ [] {} [] .asAnswered,
    .releaseAll]

/-- Every map stays moored while conversions nest, fail and break off. -/
theorem maps_moored_when_conversions_nest :
    orderlyAll false nestedErrands = true ∧
      let start := (untouched ({ store := (), disk := {} } : Site Unit) .registration).custodian.world
      let now := (runAll Arena.engine.watched (untouched { store := (), disk := {} } .registration)
        nestedErrands).custodian.world
      now.memory.2.length = 8 ∧ start.refusalsSince now = 0 ∧
        ∀ a ∈ now.memory.2, ∀ raw ids target,
          a.find? raw = some (.idMap ids target) → (a.find? target).isSome := by
  have horderly : orderlyAll false nestedErrands = true := by decide
  obtain ⟨-, hrefused, -, hmoored⟩ :=
    no_map_outlives_its_graph ({ store := (), disk := {} } : Site Unit) .registration horderly
  refine ⟨horderly, ?_, hrefused, fun a ha => hmoored a (List.mem_cons_of_mem _ ha)⟩
  decide +kernel

end Errand

end VectorIndex
