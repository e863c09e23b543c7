import VectorIndex.Proofs.Custody.Invariance

/-!
# The moves of handles

A history is steady if, as far as it is carried out, nothing in it releases everything while a
conversion is under way (`Operation.steadyAll`).  The states that a history passes through are
listed in order of time (`Operation.stagesAll`): those before, between and after its operations,
those inside of conversions and look-ups, and those in between when what a failed conversion left
behind is registered and released.  In a steady history, every handle stays where it is or makes one
move from one of them to the next (`Operation.isChain_stagesAll`).  What no elementary step breaks
holds in all of them (`Custodian.Invariant.stagesAll`).
-/

set_option autoImplicit false

namespace VectorIndex

open Relation (ReflGen)

variable {ε σ : Type}

/-- What follows on the last entry of a chain continues it. -/
theorem isChain_append_of_getLast? {α : Type} {R : α → α → Prop} {l l' : List α} {x : α}
    (h : l.IsChain R) (hlast : l.getLast? = some x) (h' : (x :: l').IsChain R) :
    (l ++ l').IsChain R := by
  obtain ⟨hhead, hrest⟩ := List.isChain_cons.1 h'
  refine List.isChain_append.2 ⟨h, hrest, ?_⟩
  intro y hy z hz
  rw [hlast, Option.mem_some_iff] at hy
  subst hy
  exact hhead z hz

/-! ## Moves -/

/-- One move of a handle, from slot to slot.  Before it is registered a handle has no slot. -/
inductive Slot.Move : Option Slot → Option Slot → Prop where
  | registered (native : NativeIndex) : Move none (some (.live native))
  | begun (native : NativeIndex) : Move (some (.live native)) (some (.converting native))
  | freed (native : NativeIndex) : Move (some (.live native)) (some .released)
  | moved (native : NativeIndex) (into : HandleId) :
    Move (some (.converting native)) (some (.transferred into))
  | ended (native : NativeIndex) : Move (some (.converting native)) (some .released)

/-- What a conversion that failed left behind. -/
def Reply.leftBehind? : Reply RawHandle → Option NativeIndex
  | .failed _ partialIndex => partialIndex
  | .ok _ => none
  | .panicked _ => none

/-- The life of the handle is over. -/
def Slot.Ended (s : Slot) : Prop :=
  s = .released ∨ ∃ into, s = .transferred into

/-- A slot that has ended makes no move. -/
theorem Slot.Ended.stays {s : Slot} (hs : s.Ended) {s' : Option Slot}
    (h : ReflGen Slot.Move (some s) s') : s' = some s := by
  cases h with
  | refl => rfl
  | single hmove =>
    obtain rfl | ⟨into, rfl⟩ := hs
    · cases hmove
    · cases hmove

namespace Registry

/-- Every handle stays where it is or makes one move. -/
def Advances (r r' : Registry) : Prop :=
  ∀ id, ReflGen Slot.Move (r.slot? id) (r'.slot? id)

variable {r r' : Registry} {id : HandleId} {s s' : Slot}

/-- A registry with the same slots is an advance. -/
theorem Advances.of_slots_eq (h : r'.slots = r.slots) : r.Advances r' := by
  intro id
  unfold slot?
  rw [h]

/-- To set a slot is a move of its handle only. -/
theorem moves_setSlot (hs : r.slot? id = some s) (hmove : ReflGen Slot.Move (some s) (some s'))
    (other : HandleId) : ReflGen Slot.Move (r.slot? other) ((r.setSlot id s').slot? other) := by
  by_cases hother : other = id
  · rw [hother, slot_setSlot_self hs, hs]
    exact hmove
  · rw [slot_setSlot_ne r hother]

/-- Old handles make their moves, and new ones are live. -/
theorem Advances.of_append {slots new : List Slot} (hlength : slots.length = r.slots.length)
    (hold : ∀ i : Nat, ReflGen Slot.Move r.slots[i]? slots[i]?)
    (hnew : ∀ s ∈ new, ∃ native, s = .live native) (h : r'.slots = slots ++ new) :
    r.Advances r' := by
  intro id
  unfold slot?
  rw [h]
  by_cases hid : id.place < slots.length
  · rw [List.getElem?_append_left hid]
    exact hold id.place
  · -- Behind the old slots there was none before.
    rw [List.getElem?_append_right (by omega), List.getElem?_eq_none (l := r.slots) (by omega)]
    cases hs : new[id.place - slots.length]? with
    | none => exact .refl
    | some s =>
      obtain ⟨native, rfl⟩ := hnew s (List.mem_of_getElem? hs)
      exact .single (.registered native)

end Registry

namespace Custodian

variable {engine : Engine ε} {c c' : Custodian ε σ} {id : HandleId} {gpu : NativeIndex}

/-- To register an index is an advance. -/
theorem advances_register (native : NativeIndex) (c : Custodian ε σ) :
    c.registry.Advances (c.register native).2.registry := by
  have hslots : (c.register native).2.registry.slots = c.registry.slots ++ [.live native] := rfl
  refine .of_append rfl ?_ ?_ hslots
  · intro i
    exact .refl
  · intro s hs
    exact ⟨native, List.mem_singleton.1 hs⟩

/-- To release a handle is an advance. -/
theorem advances_release (engine : Engine ε) (id : HandleId) (c : Custodian ε σ) :
    c.registry.Advances (c.release engine id).registry := by
  obtain ⟨native, hslot, heq⟩ | ⟨-, heq⟩ := release_cases engine id c
  · intro other
    rw [heq, slot_freeAll]
    exact Registry.moves_setSlot hslot (.single (.freed native)) other
  · rw [heq]
    exact .of_slots_eq rfl

/-- To release everything is an advance. -/
theorem advances_releaseAll (engine : Engine ε) (c : Custodian ε σ) :
    c.registry.Advances (c.releaseAll engine).2.registry := by
  intro id
  cases hs : c.registry.slot? id with
  | none =>
    have hnone : (c.releaseAll engine).2.registry.slot? id = none := by
      unfold releaseAll Registry.slot?
      rw [slots_releaseAll_go]
      exact List.getElem?_map.trans (congrArg _ hs)
    rw [hnone]
  | some s =>
    rw [slot_releaseAll engine hs]
    cases s with
    | live native => exact .single (.freed native)
    | converting native => exact .single (.ended native)
    | transferred into => exact .refl
    | released => exact .refl

/-- A conversion that begins is an advance. -/
theorem advances_beginTransfer (h : c.beginTransfer id = .ok (gpu, c')) :
    c.registry.Advances c'.registry := by
  obtain ⟨hlive, rfl⟩ := beginTransfer_eq_ok h
  exact Registry.moves_setSlot hlive (.single (.begun gpu))

/-- A conversion that ends and leaves nothing behind is an advance. -/
theorem advances_finishTransfer (engine : Engine ε)
    (h : c.registry.slot? id = some (.converting gpu)) {reply : Reply RawHandle}
    (hreply : reply.leftBehind? = none) :
    c.registry.Advances (c.finishTransfer engine id gpu reply).2.registry := by
  have hslots := slots_finishTransfer engine h gpu reply
  have hmove : ReflGen Slot.Move (some (.converting gpu))
      (some (reply.sourceSlot c.registry.nextId (.converting gpu))) := by
    cases reply with
    | ok raw => exact .single (.moved gpu c.registry.nextId)
    | failed message partialIndex => exact .single (.ended gpu)
    | panicked message => exact .refl
  refine .of_append (List.length_set ..) ?_ ?_ hslots
  · intro i
    exact Registry.moves_setSlot h hmove ⟨i⟩
  · intro s hs
    cases reply with
    | ok raw => exact ⟨_, List.mem_singleton.1 hs⟩
    | failed message partialIndex =>
      cases hreply
      cases hs
    | panicked message => cases hs

/-- After a failure what was left behind is registered and released.  These are the states before
and in between. -/
def leftovers (engine : Engine ε) (id : HandleId) (gpu : NativeIndex) (reply : Reply RawHandle)
    (c : Custodian ε σ) : List (Custodian ε σ) :=
  match reply with
  | .failed message (some native) =>
    let freed := (c.finishTransfer engine id gpu (.failed message none)).2
    [freed, (freed.register native).2]
  | _ => []

/-- A conversion that returns takes one move of its source and, for what it left behind, two moves
of a new handle. -/
theorem isChain_leftovers (engine : Engine ε) (h : c.registry.slot? id = some (.converting gpu))
    (reply : Reply RawHandle) :
    (c :: (c.leftovers engine id gpu reply ++ [(c.finishTransfer engine id gpu reply).2])).IsChain
      fun c c' => c.registry.Advances c'.registry := by
  match reply with
  | .ok raw => exact .cons_cons (advances_finishTransfer engine h rfl) (.singleton _)
  | .failed message none => exact .cons_cons (advances_finishTransfer engine h rfl) (.singleton _)
  | .panicked message => exact .cons_cons (advances_finishTransfer engine h rfl) (.singleton _)
  | .failed message (some native) =>
    refine .cons_cons ?_ (.cons_cons ?_ (.cons_cons ?_ (.singleton _)))
    · have hnone : (Reply.failed message none : Reply RawHandle).leftBehind? = none := rfl
      exact advances_finishTransfer engine h hnone
    · exact advances_register native _
    · exact advances_release engine _ _

end Custodian

namespace Operation

/-! ## Steady histories -/

mutual

/-- Whether an operation releases everything only while no conversion is under way.  What a refused
transfer would have done does not count. -/
def steady (engine : Engine ε) (h : HistoryState ε σ) : Operation → Bool
  | .transfer name _ during _ =>
    match h.names.lookup name with
    | none | some (_, false) => true
    | some (source, true) =>
      match (h.giveUp name).custodian.beginTransfer source.id with
      | .error _ => true
      | .ok (_, custodian) => !(footprintAll engine { h.giveUp name with custodian } during).sweeps
  | .lookup name during =>
    match h.names.lookup name with
    | none => true
    | some (t, _) =>
      match h.custodian.registry.lookup t.id with
      | .error _ => true
      | .ok _ => steadyAll engine h during
  | .register .. => true
  | .registerForeign .. => true
  | .release _ => true
  | .releaseAll => true
  | .state _ => true
  | .outstanding => true
  | .describe => true
  | .stats => true
  | .drop => true

/-- Whether operations release everything only while no conversion is under way. -/
def steadyAll (engine : Engine ε) (h : HistoryState ε σ) : List Operation → Bool
  | [] => true
  | o :: os => steady engine h o && steadyAll engine (run engine h o).2 os

end

/-- While a steady conversion is under way nothing releases everything. -/
theorem not_sweeps_of_steady (engine : Engine ε) {h : HistoryState ε σ} {name : String}
    {source : TrackedIndex} {gpu : NativeIndex} {custodian : Custodian ε σ}
    (hl : h.names.lookup name = some (source, true))
    (hb : (h.giveUp name).custodian.beginTransfer source.id = .ok (gpu, custodian))
    {derived : Option String} {during : List Operation} {reply : Reply RawHandle}
    (hsteady : steady engine h (.transfer name derived during reply) = true) :
    (footprintAll engine { h.giveUp name with custodian } during).sweeps = false := by
  rw [steady] at hsteady
  simp only [hl, hb, Bool.not_eq_true'] at hsteady
  exact hsteady

mutual

/-- An operation that releases not everything is steady. -/
theorem steady_of_not_sweeps (engine : Engine ε) (h : HistoryState ε σ) {o : Operation}
    (ho : (footprint engine h o).sweeps = false) : steady engine h o = true := by
  match o with
  | .transfer name derived during reply =>
    rw [footprint] at ho
    rw [steady]
    split
    · rfl
    · rfl
    · next hl =>
      simp only [hl] at ho
      split
      · rfl
      · next hb =>
        simp only [hb] at ho
        rw [show (footprintAll engine _ during).sweeps = false from ho]
        rfl
  | .lookup name during =>
    rw [footprint] at ho
    rw [steady]
    split
    · rfl
    · next hl =>
      simp only [hl] at ho
      split
      · rfl
      · next hn =>
        simp only [hn] at ho
        exact steadyAll_of_not_sweeps engine h ho
  | .register .. => rfl
  | .registerForeign .. => rfl
  | .release _ => rfl
  | .releaseAll => rfl
  | .state _ => rfl
  | .outstanding => rfl
  | .describe => rfl
  | .stats => rfl
  | .drop => rfl

/-- What does not release everything is steady. -/
theorem steadyAll_of_not_sweeps (engine : Engine ε) (h : HistoryState ε σ) {os : List Operation}
    (hos : (footprintAll engine h os).sweeps = false) : steadyAll engine h os = true := by
  match os with
  | [] => rfl
  | o :: os =>
    rw [footprintAll] at hos
    obtain ⟨ho, hos⟩ := Bool.or_eq_false_iff.1 hos
    exact Bool.and_eq_true_iff.2
      ⟨steady_of_not_sweeps engine h ho, steadyAll_of_not_sweeps engine _ hos⟩

end

mutual

/-- An orderly operation is steady. -/
theorem steady_of_orderly (engine : Engine ε) (h : HistoryState ε σ) {o : Operation}
    (ho : orderly o = true) : steady engine h o = true := by
  match o with
  | .transfer name _ during _ =>
    rw [steady]
    split
    · rfl
    · rfl
    · split
      · rfl
      · rw [sweeps_footprintAll engine _ ho]
        rfl
  | .lookup name during =>
    rw [steady]
    split
    · rfl
    · split
      · rfl
      · exact steadyAll_of_orderlyAll engine h ho
  | .register .. => rfl
  | .registerForeign .. => rfl
  | .release _ => rfl
  | .releaseAll => rfl
  | .state _ => rfl
  | .outstanding => rfl
  | .describe => rfl
  | .stats => rfl
  | .drop => rfl

/-- An orderly history is steady wherever it starts. -/
theorem steadyAll_of_orderlyAll (engine : Engine ε) (h : HistoryState ε σ) {os : List Operation}
    (hos : orderlyAll os = true) : steadyAll engine h os = true := by
  match os with
  | [] => rfl
  | o :: os =>
    obtain ⟨ho, hos⟩ := Bool.and_eq_true_iff.1 hos
    exact Bool.and_eq_true_iff.2
      ⟨steady_of_orderly engine h ho, steadyAll_of_orderlyAll engine _ hos⟩

end

/-! ## Stages -/

mutual

/-- The states that an operation passes through inside, in order of time. -/
def stages (engine : Engine ε) (h : HistoryState ε σ) : Operation → List (HistoryState ε σ)
  | .transfer name _ during reply =>
    match h.names.lookup name with
    | none | some (_, false) => []
    | some (source, true) =>
      match (h.giveUp name).custodian.beginTransfer source.id with
      | .error _ => []
      | .ok (gpu, custodian) =>
        let inside := { h.giveUp name with custodian }
        let after := (runAll engine inside during).2
        stagesAll engine inside during ++
          (after.custodian.leftovers engine source.id gpu reply).map fun custodian =>
            { after with custodian }
  | .lookup name during =>
    match h.names.lookup name with
    | none => []
    | some (t, _) =>
      match h.custodian.registry.lookup t.id with
      | .error _ => []
      | .ok _ => stagesAll engine h during
  | .register .. => []
  | .registerForeign .. => []
  | .release _ => []
  | .releaseAll => []
  | .state _ => []
  | .outstanding => []
  | .describe => []
  | .stats => []
  | .drop => []

/-- The states that operations pass through, in order of time. -/
def stagesAll (engine : Engine ε) (h : HistoryState ε σ) :
    List Operation → List (HistoryState ε σ)
  | [] => [h]
  | o :: os => h :: (stages engine h o ++ stagesAll engine (run engine h o).2 os)

end

variable {engine : Engine ε} {h h' : HistoryState ε σ} {o : Operation} {os : List Operation}

/-- A history starts where it starts. -/
theorem exists_stagesAll_eq_cons (engine : Engine ε) (h : HistoryState ε σ) (os : List Operation) :
    ∃ later, stagesAll engine h os = h :: later := by
  cases os with
  | nil => exact ⟨[], by rw [stagesAll]⟩
  | cons o os => exact ⟨_, by rw [stagesAll]⟩

/-- The last state that operations pass through is the one that they lead to. -/
theorem getLast?_stagesAll (engine : Engine ε) (h : HistoryState ε σ) (os : List Operation) :
    (stagesAll engine h os).getLast? = some (runAll engine h os).2 := by
  induction os generalizing h with
  | nil =>
    rw [stagesAll, runAll]
    rfl
  | cons o os ih =>
    rw [stagesAll, List.getLast?_cons, List.getLast?_append, ih, runAll_cons_snd]
    rfl

/-- The boundaries of a history are among the states that it passes through. -/
theorem Boundary.mem_stagesAll {given : List Component} (hb : Boundary engine h os given h') :
    h' ∈ stagesAll engine h os := by
  induction hb with
  | here h os =>
    obtain ⟨later, hlater⟩ := exists_stagesAll_eq_cons engine h os
    rw [hlater]
    exact List.mem_cons_self
  | later rest ih =>
    rw [stagesAll]
    exact List.mem_cons_of_mem _ (List.mem_append_right _ ih)
  | converting claim begun inside ih =>
    rw [stagesAll, stages]
    simp only [claim, begun]
    exact List.mem_cons_of_mem _ (List.mem_append_left _ (List.mem_append_left _ ih))
  | looking claim found inside ih =>
    rw [stagesAll, stages]
    simp only [claim, found]
    exact List.mem_cons_of_mem _ (List.mem_append_left _ ih)

end Operation

/-- From one state to another one every handle stays where it is or makes one move. -/
def HistoryState.Advances (h h' : HistoryState ε σ) : Prop :=
  h.custodian.registry.Advances h'.custodian.registry

namespace Operation

open HistoryState (Advances)

/-- One advance is a chain. -/
theorem isChain_pair {h h' : HistoryState ε σ} (hadvances : h.Advances h') :
    [h, h'].IsChain Advances :=
  .cons_cons hadvances (.singleton h')

/-- States make up a chain if their custodians do. -/
theorem isChain_of_custodians {hs : List (HistoryState ε σ)}
    (h : (hs.map HistoryState.custodian).IsChain fun c c' => c.registry.Advances c'.registry) :
    hs.IsChain Advances :=
  (List.isChain_map HistoryState.custodian).1 h

section nested

variable {during : List Operation}

/-- The states inside of a conversion follow on each other, when those of what is done during it do:
in the first of them the source was marked, and in the last one it is still marked. -/
theorem isChain_transfer (engine : Engine ε) (h : HistoryState ε σ) (name : String)
    (derived : Option String) (reply : Reply RawHandle)
    (hsteady : steady engine h (.transfer name derived during reply) = true)
    (hduring : ∀ inside : HistoryState ε σ, steadyAll engine inside during = true →
      (stagesAll engine inside during).IsChain Advances) :
    (h :: (stages engine h (.transfer name derived during reply) ++
      [(act engine h (.transfer name derived during reply)).2.2])).IsChain Advances := by
  match hl : h.names.lookup name with
  | none =>
    rw [stages, act, hl]
    exact isChain_pair (.of_slots_eq rfl)
  | some (_, false) =>
    rw [stages, act, hl]
    exact isChain_pair (.of_slots_eq rfl)
  | some (source, true) =>
    cases hb : (h.giveUp name).custodian.beginTransfer source.id with
    | error e =>
      rw [stages, act]
      simp only [hl, hb]
      exact isChain_pair (.of_slots_eq rfl)
    | ok p =>
      obtain ⟨gpu, custodian⟩ := p
      have hend := custodian_act_transfer engine hl hb derived during reply
      rw [stages]
      simp only [hl, hb, List.append_assoc]
      generalize (act engine h (.transfer name derived during reply)).2.2 = ended at hend ⊢
      obtain ⟨later, hlater⟩ := exists_stagesAll_eq_cons engine { h.giveUp name with custodian }
        during
      have hsweeps := not_sweeps_of_steady engine hl hb hsteady
      have hmarked := (evolves_runAll engine { h.giveUp name with custodian } during).slot_during hb
      rw [hsweeps] at hmarked
      have hfinish := Custodian.isChain_leftovers engine hmarked reply
      rw [← hend] at hfinish
      apply List.isChain_cons.2
      constructor
      · rw [hlater]
        rintro _ ⟨⟩
        exact Custodian.advances_beginTransfer hb
      · -- The states at the end differ in the custodian only.
        apply isChain_append_of_getLast? (hduring _ (steadyAll_of_not_sweeps engine _ hsweeps))
          (getLast?_stagesAll engine _ during)
        apply isChain_of_custodians
        simpa [Function.comp_def] using hfinish

/-- A lookup advances as what is done during it. -/
theorem isChain_lookup (engine : Engine ε) (h : HistoryState ε σ) (name : String)
    (hsteady : steady engine h (.lookup name during) = true)
    (hduring : steadyAll engine h during = true → (stagesAll engine h during).IsChain Advances) :
    (h :: (stages engine h (.lookup name during) ++
      [(act engine h (.lookup name during)).2.2])).IsChain Advances := by
  match hl : h.names.lookup name with
  | none =>
    rw [stages, act, hl]
    exact isChain_pair (.of_slots_eq rfl)
  | some (t, _) =>
    cases hn : h.custodian.registry.lookup t.id with
    | error e =>
      rw [stages, act]
      simp only [hl, hn]
      exact isChain_pair (.of_slots_eq rfl)
    | ok native =>
      rw [steady] at hsteady
      rw [stages, act]
      simp only [hl, hn] at hsteady ⊢
      obtain ⟨later, hlater⟩ := exists_stagesAll_eq_cons engine h during
      apply List.isChain_cons.2
      constructor
      · rw [hlater]
        rintro _ ⟨⟩
        exact .of_slots_eq rfl
      · exact isChain_append_of_getLast? (hduring hsteady) (getLast?_stagesAll engine h during)
          (isChain_pair (.of_slots_eq rfl))

end nested

-- As the states do, the induction follows the nesting of the operations.
mutual

/-- The states that a steady operation passes through are advances. -/
theorem isChain_stages (engine : Engine ε) (h : HistoryState ε σ) {o : Operation}
    (ho : steady engine h o = true) :
    (h :: (stages engine h o ++ [(run engine h o).2])).IsChain Advances := by
  rw [run_snd]
  match o with
  | .transfer name derived during reply =>
    exact isChain_transfer engine h name derived reply ho fun inside hinside =>
      isChain_stagesAll engine inside hinside
  | .lookup name during =>
    exact isChain_lookup engine h name ho fun hinside => isChain_stagesAll engine h hinside
  | .register native name =>
    rw [stages, act]
    exact isChain_pair (Custodian.advances_register native h.custodian)
  | .registerForeign native times name =>
    rw [stages, act]
    split <;> exact isChain_pair (.of_slots_eq rfl)
  | .release name =>
    rw [stages, act]
    split
    · exact isChain_pair (.of_slots_eq rfl)
    · exact isChain_pair (Custodian.advances_release engine _ h.custodian)
  | .releaseAll =>
    rw [stages, act]
    exact isChain_pair (Custodian.advances_releaseAll engine h.custodian)
  | .drop =>
    rw [stages, act]
    exact isChain_pair (Custodian.advances_releaseAll engine h.custodian)
  | .state _ =>
    rw [stages, act]
    exact isChain_pair (.of_slots_eq rfl)
  | .outstanding =>
    rw [stages, act]
    exact isChain_pair (.of_slots_eq rfl)
  | .describe =>
    rw [stages, act]
    exact isChain_pair (.of_slots_eq rfl)
  | .stats =>
    rw [stages, act]
    exact isChain_pair (.of_slots_eq rfl)

/-- From one state of a steady history to the next every handle stays where it is or makes one
move. -/
theorem isChain_stagesAll (engine : Engine ε) (h : HistoryState ε σ) {os : List Operation}
    (hos : steadyAll engine h os = true) : (stagesAll engine h os).IsChain Advances := by
  match os with
  | [] =>
    rw [stagesAll]
    exact .singleton h
  | o :: os =>
    obtain ⟨ho, hos⟩ := Bool.and_eq_true_iff.1 hos
    have hfirst := isChain_stages engine h ho
    have hrest := isChain_stagesAll engine (run engine h o).2 hos
    obtain ⟨later, hlater⟩ := exists_stagesAll_eq_cons engine (run engine h o).2 os
    rw [hlater] at hrest
    rw [stagesAll, hlater]
    rw [← List.cons_append] at hfirst ⊢
    exact List.isChain_split.2 ⟨hfirst, hrest⟩

end

end Operation

/-! ## Invariants -/

namespace Custodian.Invariant

variable {engine : Engine ε} {P : Registry → Custodian ε σ → Prop}

/-- What a failed conversion leaves behind goes through states that are made of elementary steps. -/
theorem leftovers (hP : Invariant engine P) {foreign : Registry} {c c' : Custodian ε σ}
    {id : HandleId} {s : Slot} {gpu : NativeIndex} {reply : Reply RawHandle}
    (hs : c.registry.slot? id = some s) (hended : s = .converting gpu ∨ s = .released)
    (hc : P foreign c) (hc' : c' ∈ c.leftovers engine id gpu reply) : P foreign c' := by
  unfold Custodian.leftovers at hc'
  split at hc'
  · next message native =>
    have hfreed := hP.finishes gpu (.failed message none) hs hended hc
    simp only [List.mem_cons, List.not_mem_nil, or_false] at hc'
    obtain rfl | rfl := hc'
    · exact hfreed
    · exact hP.register native hfreed
  · cases hc'

mutual

/-- An invariant holds in every state that an operation passes through. -/
theorem stages (hP : Invariant engine P) {h h' : HistoryState ε σ}
    (hh : P h.foreign h.custodian) {o : Operation} (hmem : h' ∈ Operation.stages engine h o) :
    P h'.foreign h'.custodian := by
  match o with
  | .transfer name derived during reply =>
    rw [Operation.stages] at hmem
    split at hmem
    · cases hmem
    · cases hmem
    · split at hmem
      · cases hmem
      · next gpu custodian hb =>
        have hinside := hP.begins hb hh
        obtain hduring | hleft := List.mem_append.1 hmem
        · exact hP.stagesAll hinside hduring
        · have hslot := (Operation.evolves_runAll engine { h.giveUp name with custodian }
            during).slot_during hb
          obtain ⟨c, hc, rfl⟩ := List.mem_map.1 hleft
          exact hP.leftovers hslot (by split <;> simp) (hP.runAll hinside during) hc
  | .lookup name during =>
    rw [Operation.stages] at hmem
    split at hmem
    · cases hmem
    · split at hmem
      · cases hmem
      · exact hP.stagesAll hh hmem
  | .register .. => cases hmem
  | .registerForeign .. => cases hmem
  | .release _ => cases hmem
  | .releaseAll => cases hmem
  | .state _ => cases hmem
  | .outstanding => cases hmem
  | .describe => cases hmem
  | .stats => cases hmem
  | .drop => cases hmem

/-- An invariant holds in every state that a history passes through. -/
theorem stagesAll (hP : Invariant engine P) {h h' : HistoryState ε σ}
    (hh : P h.foreign h.custodian) {os : List Operation}
    (hmem : h' ∈ Operation.stagesAll engine h os) : P h'.foreign h'.custodian := by
  match os with
  | [] =>
    rw [Operation.stagesAll] at hmem
    obtain rfl := List.mem_singleton.1 hmem
    exact hh
  | o :: os =>
    rw [Operation.stagesAll] at hmem
    obtain rfl | hlater := List.mem_cons.1 hmem
    · exact hh
    · obtain hinside | hrest := List.mem_append.1 hlater
      · exact hP.stages hh hinside
      · exact hP.stagesAll (hP.run hh o) hrest

end

end Custodian.Invariant

end VectorIndex
