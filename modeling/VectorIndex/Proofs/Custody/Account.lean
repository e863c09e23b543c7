import VectorIndex.Proofs.Custody.Components

/-!
# The account of a custodian

The account of a custodian lists the components that its slots hold and those that the
engine was asked to free.  `account_register`, `account_release`, `account_releaseAll` and
`account_finishTransfer` say what each operation does to it, and the lemmas on `overcount`
say the same of the counts.
-/

set_option autoImplicit false

open scoped List

namespace VectorIndex

variable {ε σ : Type}

/-- The last two of three lists can change places. -/
theorem append_right_comm_perm {α : Type} (xs ys zs : List α) :
    xs ++ ys ++ zs ~ xs ++ zs ++ ys := by
  rw [List.append_assoc, List.append_assoc]
  exact List.perm_append_comm.append_left _

/-! ## Requests to free -/

/-- The component that an event asks the engine to free. -/
def Event.freed? : Event → Option Component
  | .structureReleased raw kind _ => some (raw, kind)
  | _ => none

/-- The components that the engine was asked to free, in the order of the requests. -/
def freedIn (log : List Event) : List Component :=
  log.filterMap Event.freed?

/-- What was freed in one log and then in another one was freed in both together. -/
theorem freedIn_append (log log' : List Event) :
    freedIn (log ++ log') = freedIn log ++ freedIn log' :=
  List.filterMap_append

/-- The components that the engine was asked to free between two points of time. -/
def World.freedSince (start now : World ε σ) : List Component :=
  freedIn (now.log.drop start.log.length)

/-- What was freed up to now was freed before the start or since then. -/
theorem World.freedIn_eq_append {start now : World ε σ} (h : start.log <+: now.log) :
    freedIn now.log = freedIn start.log ++ start.freedSince now := by
  obtain ⟨rest, hrest⟩ := h
  unfold World.freedSince
  rw [← hrest, List.drop_left, freedIn_append]

/-- Nothing but a request to free adds to what was freed. -/
theorem World.freedIn_record (w : World ε σ) {e : Event} (he : e.freed? = none) :
    freedIn (w.record e).log = freedIn w.log := by
  unfold World.record
  rw [freedIn_append]
  simp [freedIn, he]

/-- To free a structure adds it to what was freed, even when the engine refuses. -/
theorem World.freedIn_free (engine : Engine ε) (raw : RawHandle) (kind : StructureKind)
    (w : World ε σ) : freedIn (w.free engine raw kind).2.log = freedIn w.log ++ [(raw, kind)] := by
  unfold World.free
  generalize engine.release raw kind w.memory = answer
  obtain ⟨refusal, memory⟩ := answer
  cases refusal <;> simp [World.record, freedIn, Event.freed?]

/-- To free a structure only adds to the log. -/
theorem World.log_extends_free (engine : Engine ε) (raw : RawHandle) (kind : StructureKind)
    (w : World ε σ) : w.log <+: (w.free engine raw kind).2.log := by
  unfold World.free
  generalize engine.release raw kind w.memory = answer
  obtain ⟨refusal, memory⟩ := answer
  cases refusal <;> simp [World.record, List.append_assoc]

namespace Custodian

/-- The components that are held and those that the engine was asked to free. -/
def account (c : Custodian ε σ) : List Component :=
  c.registry.held ++ freedIn c.world.log

/-! ## Freeing -/

section freeAll

variable (engine : Engine ε)

/-- Components are freed one after the other, and every refusal is counted before the next one. -/
theorem freeAll_cons (x : Component) (xs : List Component) (c : Custodian ε σ) :
    freeAll engine (x :: xs) c = freeAll engine xs
      { registry :=
          if (c.world.free engine x.1 x.2).1.isSome then c.registry.addFailures 1 else c.registry
        world := (c.world.free engine x.1 x.2).2 } :=
  rfl

/-- Freeing structures changes nothing of the registry but the count of failures. -/
theorem exists_addFailures_freeAll (xs : List Component) (c : Custodian ε σ) :
    ∃ n, (freeAll engine xs c).registry = c.registry.addFailures n := by
  induction xs generalizing c with
  | nil => exact ⟨0, rfl⟩
  | cons x xs ih =>
    rw [freeAll_cons]
    obtain ⟨n, hn⟩ := ih _
    refine ⟨(if (c.world.free engine x.1 x.2).1.isSome then 1 else 0) + n, ?_⟩
    rw [hn]
    split
    · simp only [Registry.addFailures, Nat.add_assoc]
    · simp only [Registry.addFailures, Nat.zero_add]

/-- To free components leaves the slots alone. -/
theorem slots_freeAll (xs : List Component) (c : Custodian ε σ) :
    (freeAll engine xs c).registry.slots = c.registry.slots := by
  obtain ⟨n, hn⟩ := exists_addFailures_freeAll engine xs c
  rw [hn]
  rfl

/-- To free components leaves what is held alone. -/
theorem held_freeAll (xs : List Component) (c : Custodian ε σ) :
    (freeAll engine xs c).registry.held = c.registry.held := by
  unfold Registry.held
  rw [slots_freeAll]

/-- To free components leaves the overcount alone. -/
theorem overcount_freeAll (xs : List Component) (c : Custodian ε σ) :
    (freeAll engine xs c).registry.overcount = c.registry.overcount := by
  obtain ⟨n, hn⟩ := exists_addFailures_freeAll engine xs c
  rw [hn]
  rfl

/-- Structures are freed one after the other, each of them once. -/
theorem freedIn_freeAll (xs : List Component) (c : Custodian ε σ) :
    freedIn (freeAll engine xs c).world.log = freedIn c.world.log ++ xs := by
  induction xs generalizing c with
  | nil => exact (List.append_nil _).symm
  | cons x xs ih =>
    rw [freeAll_cons, ih, World.freedIn_free, List.append_assoc, List.singleton_append]

/-- To free components only adds to the log. -/
theorem log_extends_freeAll (xs : List Component) (c : Custodian ε σ) :
    c.world.log <+: (freeAll engine xs c).world.log := by
  induction xs generalizing c with
  | nil => exact List.prefix_rfl
  | cons x xs ih =>
    rw [freeAll_cons]
    exact List.IsPrefix.trans (World.log_extends_free engine x.1 x.2 c.world) (ih {
      registry := if _ then _ else _, world := (c.world.free engine x.1 x.2).2 })

/-- Components that are freed go to the account. -/
theorem account_freeAll (xs : List Component) (c : Custodian ε σ) :
    (freeAll engine xs c).account = c.account ++ xs := by
  unfold account
  rw [held_freeAll, freedIn_freeAll, List.append_assoc]

end freeAll

/-! ## Registering -/

/-- To register an index puts its components on the account. -/
theorem account_register (n : NativeIndex) (c : Custodian ε σ) :
    (c.register n).2.account ~ c.account ++ n.components := by
  have hheld : (c.register n).2.registry.held = c.registry.held ++ n.components := by
    simp [register, Registry.add, Registry.held, Slot.components]
  have hfreed : freedIn (c.register n).2.world.log = freedIn c.world.log :=
    World.freedIn_record _ rfl
  unfold account
  rw [hheld, hfreed]
  exact append_right_comm_perm ..

/-- To register an index leaves the overcount alone. -/
theorem overcount_register (native : NativeIndex) (c : Custodian ε σ) :
    (c.register native).2.registry.overcount = c.registry.overcount := by
  simp only [register, Registry.add, Registry.overcount, Registry.liveCount, List.countP_append,
    List.countP_cons, List.countP_nil, Slot.held?, Option.isSome_some, if_true]
  omega

/-- To register an index only adds to the log. -/
theorem log_extends_register (native : NativeIndex) (c : Custodian ε σ) :
    c.world.log <+: (c.register native).2.world.log :=
  List.prefix_append _ _

/-! ## Releasing one handle -/

/-- Only a live handle is retired, and then its index is what is given back. -/
theorem retire_eq_some {r : Registry} {id : HandleId} {native : NativeIndex} {r' : Registry}
    (h : r.retire id = some (native, r')) :
    r.slot? id = some (.live native) ∧
      r' = { r.setSlot id .released with
        tally := { r.tally with released := r.tally.released + 1 } } := by
  unfold Registry.retire at h
  split at h
  · next n hn =>
    simp only [Option.some.injEq, Prod.mk.injEq] at h
    obtain ⟨rfl, rfl⟩ := h
    exact ⟨hn, rfl⟩
  · cases h

/-- A release either frees the index of a live handle or does nothing. -/
theorem release_cases (engine : Engine ε) (id : HandleId) (c : Custodian ε σ) :
    (∃ native, c.registry.slot? id = some (.live native) ∧
      c.release engine id = freeAll engine native.components
        { registry := { c.registry.setSlot id .released with
            tally := { c.registry.tally with released := c.registry.tally.released + 1 } }
          world := c.world.record (.handle .released) }) ∨
    (∀ native, c.registry.slot? id ≠ some (.live native)) ∧ c.release engine id = c := by
  unfold release
  cases hr : c.registry.retire id with
  | some p =>
    obtain ⟨native, r⟩ := p
    obtain ⟨hslot, rfl⟩ := retire_eq_some hr
    exact .inl ⟨native, hslot, rfl⟩
  | none =>
    refine .inr ⟨fun native hslot => ?_, rfl⟩
    simp [Registry.retire, hslot] at hr

/-- A release moves components from those that are held to those that were freed. -/
theorem account_release (engine : Engine ε) (id : HandleId) (c : Custodian ε σ) :
    (c.release engine id).account ~ c.account := by
  obtain ⟨n, hslot, heq⟩ | ⟨-, heq⟩ := release_cases engine id c
  · have hheld := Registry.held_setSlot hslot .released
    simp only [Slot.components, List.append_nil] at hheld
    rw [heq, account_freeAll]
    unfold account
    rw [World.freedIn_record _ rfl]
    change (c.registry.setSlot id .released).held ++ freedIn c.world.log ++ n.components ~ _
    exact (append_right_comm_perm ..).trans (hheld.append_right _)
  · rw [heq]

/-- To release a handle leaves the overcount alone. -/
theorem overcount_release (engine : Engine ε) (id : HandleId) (c : Custodian ε σ) :
    (c.release engine id).registry.overcount = c.registry.overcount := by
  obtain ⟨native, hslot, heq⟩ | ⟨-, heq⟩ := release_cases engine id c
  · have hlive := Registry.liveCount_setSlot hslot .released
    simp only [Slot.held?, Option.isSome_some, Option.isSome_none, if_true, Bool.false_eq_true,
      if_false, Nat.add_zero] at hlive
    rw [heq, overcount_freeAll]
    change ((c.registry.tally.released + 1 : Nat) : Int) +
      (c.registry.setSlot id .released).liveCount - c.registry.tally.registered = _
    unfold Registry.overcount
    omega
  · rw [heq]

/-- To release a handle only adds to the log. -/
theorem log_extends_release (engine : Engine ε) (id : HandleId) (c : Custodian ε σ) :
    c.world.log <+: (c.release engine id).world.log := by
  obtain ⟨native, hslot, heq⟩ | ⟨-, heq⟩ := release_cases engine id c
  · rw [heq]
    exact (List.prefix_append c.world.log _).trans (log_extends_freeAll engine native.components
      { registry := _, world := c.world.record (.handle .released) })
  · exact ⟨[], by rw [heq, List.append_nil]⟩

/-! ## Releasing everything -/

section releaseAll

variable (engine : Engine ε)

/-- The sweep itself leaves the slots alone, which were retired before. -/
theorem slots_releaseAll_go (natives : List NativeIndex) (c : Custodian ε σ) :
    (releaseAll.go engine natives c).registry.slots = c.registry.slots := by
  induction natives generalizing c with
  | nil => rfl
  | cons native natives ih =>
    rw [releaseAll.go, ih, slots_freeAll]

/-- The sweep leaves the overcount alone. -/
theorem overcount_releaseAll_go (natives : List NativeIndex) (c : Custodian ε σ) :
    (releaseAll.go engine natives c).registry.overcount = c.registry.overcount := by
  induction natives generalizing c with
  | nil => rfl
  | cons native natives ih =>
    rw [releaseAll.go, ih, overcount_freeAll]

/-- The sweep frees the components of its indexes in their order. -/
theorem freedIn_releaseAll_go (natives : List NativeIndex) (c : Custodian ε σ) :
    freedIn (releaseAll.go engine natives c).world.log =
      freedIn c.world.log ++ natives.flatMap NativeIndex.components := by
  induction natives generalizing c with
  | nil => simp [releaseAll.go]
  | cons native natives ih =>
    rw [releaseAll.go, ih, freedIn_freeAll, World.freedIn_record _ rfl, List.flatMap_cons,
      List.append_assoc]

/-- The sweep only adds to the log. -/
theorem log_extends_releaseAll_go (natives : List NativeIndex) (c : Custodian ε σ) :
    c.world.log <+: (releaseAll.go engine natives c).world.log := by
  induction natives generalizing c with
  | nil => exact List.prefix_rfl
  | cons native natives ih =>
    rw [releaseAll.go]
    refine List.IsPrefix.trans ?_ (ih _)
    exact (List.prefix_append c.world.log _).trans (log_extends_freeAll engine native.components
      { c with world := c.world.record (.handle .released) })

/-- Afterwards no slot holds an index. -/
theorem held_none_of_mem_slots_releaseAll {c : Custodian ε σ} {s : Slot}
    (h : s ∈ (c.releaseAll engine).2.registry.slots) : s.held? = none := by
  unfold releaseAll at h
  rw [slots_releaseAll_go] at h
  obtain ⟨old, -, rfl⟩ := List.mem_map.1 h
  cases old <;> rfl

/-- After everything was released nothing is held. -/
theorem held_releaseAll (c : Custodian ε σ) : (c.releaseAll engine).2.registry.held = [] :=
  List.flatMap_eq_nil_iff.2 fun _ hs =>
    Slot.components_of_held_none (held_none_of_mem_slots_releaseAll engine hs)

/-- After everything was released no handle is live. -/
theorem liveCount_releaseAll (c : Custodian ε σ) :
    (c.releaseAll engine).2.registry.liveCount = 0 :=
  List.countP_eq_zero.2 fun s hs => by
    rw [held_none_of_mem_slots_releaseAll engine hs]
    exact Bool.false_ne_true

/-- Everything that was held is freed, in whatever order. -/
theorem freedIn_releaseAll (c : Custodian ε σ) :
    freedIn (c.releaseAll engine).2.world.log ~ freedIn c.world.log ++ c.registry.held := by
  unfold releaseAll
  rw [freedIn_releaseAll_go, ← Registry.flatMap_pending]
  exact ((c.registry.perm_arrange c.world.sweep).flatMap_right _).append_left _

/-- To release everything moves what is held to what was freed, so the account stays the same. -/
theorem account_releaseAll (c : Custodian ε σ) :
    (c.releaseAll engine).2.account ~ c.account := by
  unfold account
  rw [held_releaseAll, List.nil_append]
  exact (freedIn_releaseAll engine c).trans List.perm_append_comm

/-- To release everything leaves the overcount alone. -/
theorem overcount_releaseAll (c : Custodian ε σ) :
    (c.releaseAll engine).2.registry.overcount = c.registry.overcount := by
  have hlive : c.registry.retireAll.liveCount = 0 := by
    refine List.countP_eq_zero.2 fun s hs => ?_
    obtain ⟨old, -, rfl⟩ := List.mem_map.1 hs
    cases old <;> simp [Slot.held?]
  have hcount := c.registry.length_pending
  unfold releaseAll
  rw [overcount_releaseAll_go]
  simp only [Registry.overcount, hlive]
  simp only [Registry.retireAll, hcount]
  omega

/-- To release everything only adds to the log. -/
theorem log_extends_releaseAll (c : Custodian ε σ) :
    c.world.log <+: (c.releaseAll engine).2.world.log :=
  log_extends_releaseAll_go engine _ { c with registry := c.registry.retireAll }

end releaseAll

/-! ## Converting -/

/-- A conversion begins with a live handle, which is marked and otherwise left alone. -/
theorem beginTransfer_eq_ok {id : HandleId} {c c' : Custodian ε σ} {native : NativeIndex}
    (h : c.beginTransfer id = .ok (native, c')) :
    c.registry.slot? id = some (.live native) ∧
      c' = { c with registry := c.registry.setSlot id (.converting native) } := by
  unfold beginTransfer Registry.beginTransfer at h
  cases hs : c.registry.slot? id with
  | none => simp [hs] at h
  | some s =>
    cases s <;> simp only [hs, Except.ok.injEq, Prod.mk.injEq, reduceCtorEq] at h
    obtain ⟨rfl, rfl⟩ := h
    exact ⟨rfl, rfl⟩

/-- A conversion that begins leaves the account alone: what is marked is still held. -/
theorem account_beginTransfer {id : HandleId} {c c' : Custodian ε σ} {native : NativeIndex}
    (h : c.beginTransfer id = .ok (native, c')) : c'.account ~ c.account := by
  obtain ⟨hslot, rfl⟩ := beginTransfer_eq_ok h
  have hheld := Registry.held_setSlot hslot (.converting native)
  exact ((List.perm_append_right_iff _).1 hheld).append_right _

/-- A conversion that begins leaves the overcount alone. -/
theorem overcount_beginTransfer {id : HandleId} {c c' : Custodian ε σ} {native : NativeIndex}
    (h : c.beginTransfer id = .ok (native, c')) :
    c'.registry.overcount = c.registry.overcount := by
  obtain ⟨hslot, rfl⟩ := beginTransfer_eq_ok h
  have hlive := Registry.liveCount_setSlot hslot (.converting native)
  simp only [Slot.held?, Option.isSome_some, if_true, Nat.add_right_cancel_iff] at hlive
  simp only [Registry.overcount, hlive]
  rfl

/-- To settle a source changes what is held as its new slot does. -/
theorem held_settle (id : HandleId) (derived : Option HandleId) (c : Custodian ε σ) :
    (c.settle id derived).registry.held = (c.registry.setSlot id (.ofDerived derived)).held := by
  cases derived <;> rfl

/-- To settle a source changes the count of live handles as its new slot does. -/
theorem liveCount_settle (id : HandleId) (derived : Option HandleId) (c : Custodian ε σ) :
    (c.settle id derived).registry.liveCount =
      (c.registry.setSlot id (.ofDerived derived)).liveCount := by
  cases derived <;> rfl

/-- To settle a source frees nothing. -/
theorem freedIn_settle (id : HandleId) (derived : Option HandleId) (c : Custodian ε σ) :
    freedIn (c.settle id derived).world.log = freedIn c.world.log :=
  World.freedIn_record _ (by cases derived <;> rfl)

/-- The end of a converted handle: what its slot held is not held any more. -/
theorem account_settle {id : HandleId} {c : Custodian ε σ} {s : Slot}
    (h : c.registry.slot? id = some s) (derived : Option HandleId) :
    (c.settle id derived).account ++ s.components ~ c.account := by
  have hheld := Registry.held_setSlot h (.ofDerived derived)
  rw [Slot.components_ofDerived, List.append_nil] at hheld
  unfold account
  rw [freedIn_settle, held_settle]
  exact (append_right_comm_perm ..).trans (hheld.append_right _)

/-- The end of a handle whose slot holds nothing any more is counted too often. -/
theorem overcount_settle {id : HandleId} {c : Custodian ε σ} {s : Slot}
    (h : c.registry.slot? id = some s) (derived : Option HandleId) :
    (c.settle id derived).registry.overcount + (if s.held?.isSome then 1 else 0) =
      c.registry.overcount + 1 := by
  have hlive := Registry.liveCount_setSlot h (.ofDerived derived)
  rw [Slot.held_ofDerived, ← liveCount_settle] at hlive
  have htally : (c.settle id derived).registry.tally.released = c.registry.tally.released + 1 ∧
      (c.settle id derived).registry.tally.registered = c.registry.tally.registered := by
    cases derived <;> exact ⟨rfl, rfl⟩
  unfold Registry.overcount
  rw [htally.1, htally.2]
  split at hlive <;> simp_all <;> omega

/-- To settle a source only adds to the log. -/
theorem log_extends_settle (id : HandleId) (derived : Option HandleId) (c : Custodian ε σ) :
    c.world.log <+: (c.settle id derived).world.log :=
  List.prefix_append _ _

/-- To register an index leaves the slots of other handles alone. -/
theorem slot_register {id : HandleId} {c : Custodian ε σ} {s : Slot}
    (h : c.registry.slot? id = some s) (native : NativeIndex) :
    (c.register native).2.registry.slot? id = some s := by
  obtain ⟨hi, hs⟩ := List.getElem?_eq_some_iff.1 h
  exact (List.getElem?_append_left hi).trans h

section finishTransfer

variable (engine : Engine ε) {id : HandleId} {c : Custodian ε σ} {s : Slot}

/-- A conversion that broke off changes nothing and hands over nothing. -/
theorem finishTransfer_of_not_returns (id : HandleId) (gpu : NativeIndex)
    {reply : Reply RawHandle} (hr : reply.returns = false) (c : Custodian ε σ) :
    (c.finishTransfer engine id gpu reply).2 = c ∧ reply.outputs = [] := by
  cases reply with
  | panicked message => exact ⟨rfl, rfl⟩
  | ok raw => exact nomatch hr
  | failed message partialIndex => exact nomatch hr

/-- What a conversion that returns does to the account: the components of its source and those that
the conversion hands over are added, and what the slot of the source still held is taken away.  As
long as the slot holds the source the first and the last cancel. -/
theorem account_finishTransfer (h : c.registry.slot? id = some s) (gpu : NativeIndex)
    {reply : Reply RawHandle} (hr : reply.returns = true) :
    (c.finishTransfer engine id gpu reply).2.account ++ s.components ~
      c.account ++ gpu.components ++ reply.outputs := by
  cases reply with
  | ok raw =>
    have hregister := account_register (.cpu raw gpu.idMap) c
    have hsettle := account_settle (slot_register h (.cpu raw gpu.idMap))
      (some c.registry.nextId)
    change (freeAll engine _ (settle id (some c.registry.nextId) _)).account ++ _ ~ _
    rw [account_freeAll]
    calc _ ~ _ := append_right_comm_perm ..
      _ ~ _ := hsettle.append_right _
      _ ~ _ := hregister.append_right _
      _ = c.account ++ ((NativeIndex.cpu raw gpu.idMap).components ++
            { gpu with idMap := none }.components) := List.append_assoc ..
      _ ~ c.account ++ (gpu.components ++ [(raw, .cpuIndex)]) :=
        (gpu.components_converted raw).append_left _
      _ = _ := (List.append_assoc ..).symm
  | failed message partialIndex =>
    have hsettle := account_settle h none
    have hfree : (freeAll engine gpu.components (c.settle id none)).account ++ s.components ~
        c.account ++ gpu.components := by
      rw [account_freeAll]
      exact (append_right_comm_perm ..).trans (hsettle.append_right _)
    cases partialIndex with
    | none => simpa [finishTransfer, Reply.outputs] using hfree
    | some native =>
      calc _ ~ _ := (account_release engine _ _).append_right _
        _ ~ _ := (account_register native _).append_right _
        _ ~ _ := append_right_comm_perm ..
        _ ~ _ := hfree.append_right _
  | panicked message => exact nomatch hr

/-- A conversion that returns ends the life of its source; if the slot of the source held nothing
any more, this was counted before. -/
theorem overcount_finishTransfer (h : c.registry.slot? id = some s) (gpu : NativeIndex)
    {reply : Reply RawHandle} (hr : reply.returns = true) :
    (c.finishTransfer engine id gpu reply).2.registry.overcount +
      (if s.held?.isSome then 1 else 0) = c.registry.overcount + 1 := by
  cases reply with
  | ok raw =>
    have hsettle := overcount_settle (slot_register h (.cpu raw gpu.idMap))
      (some c.registry.nextId)
    rw [overcount_register] at hsettle
    change (freeAll engine _ (settle id (some c.registry.nextId) _)).registry.overcount + _ = _
    rw [overcount_freeAll]
    exact hsettle
  | failed message partialIndex =>
    have hsettle := overcount_settle h none
    cases partialIndex with
    | none =>
      change (freeAll engine _ (settle id none c)).registry.overcount + _ = _
      rw [overcount_freeAll]
      exact hsettle
    | some native =>
      change (release engine _ (register native (freeAll engine _ (settle id none c))).2
        ).registry.overcount + _ = _
      rw [overcount_release, overcount_register, overcount_freeAll]
      exact hsettle
  | panicked message => exact nomatch hr

/-- A conversion that ends only adds to the log. -/
theorem log_extends_finishTransfer (id : HandleId) (gpu : NativeIndex) (reply : Reply RawHandle)
    (c : Custodian ε σ) : c.world.log <+: (c.finishTransfer engine id gpu reply).2.world.log := by
  cases reply with
  | ok raw =>
    refine (log_extends_register (.cpu raw gpu.idMap) c).trans ?_
    refine (log_extends_settle id (some c.registry.nextId) _).trans ?_
    exact log_extends_freeAll engine _ _
  | failed message partialIndex =>
    have hfree := (log_extends_settle id none c).trans
      (log_extends_freeAll engine gpu.components (c.settle id none))
    cases partialIndex with
    | none => exact hfree
    | some native =>
      exact (hfree.trans (log_extends_register native _)).trans (log_extends_release engine _ _)
  | panicked message => exact List.prefix_rfl

end finishTransfer

end Custodian

end VectorIndex
