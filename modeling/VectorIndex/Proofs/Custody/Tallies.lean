import VectorIndex.Proofs.Custody.Invariance

/-!
# What was counted

A registry counts the handles that it gave out and those whose life ended, and the log of the world
records the same turns as events.  The invariant is `Registry.Recorded`: the two agree, and the
transferred handles are those whose slots say so.  In the middle of an operation the registry may
already count ends that are not recorded yet, which is what `ahead` stands for.

`Operation.counts_agree_at_every_boundary` puts this together with the number of live handles.
-/

set_option autoImplicit false

namespace VectorIndex

variable {ε σ : Type}

/-- Whether a slot has moved on to another handle. -/
def Slot.isTransferred : Slot → Bool
  | .transferred _ => true
  | _ => false

/-- Whether the engine refused to free a structure. -/
def Event.isRefusal : Event → Bool
  | .structureReleased _ _ refusal => refusal.isSome
  | _ => false

namespace World

/-- How the counters of the process have moved since a point of time. -/
def countersSince (start now : World ε σ) : Counters :=
  .ofLog (now.log.drop start.log.length)

/-- The requests to free a structure that the engine has refused since a point of time. -/
def refusalsSince (start now : World ε σ) : Nat :=
  (now.log.drop start.log.length).countP Event.isRefusal

/-- A request is recorded with its answer, and a refusal with a warning. -/
theorem log_free (engine : Engine ε) (raw : RawHandle) (kind : StructureKind) (w : World ε σ) :
    (w.free engine raw kind).2.log = w.log ++
      .structureReleased raw kind (w.free engine raw kind).1 ::
        if (w.free engine raw kind).1.isSome then [.cleanupWarning] else [] := by
  unfold free
  generalize engine.release raw kind w.memory = answer
  obtain ⟨refusal, memory⟩ := answer
  cases refusal <;> simp [record]

end World

/-! ## The invariant -/

/-- What a registry counts is what these events record, together with the registrations of another
registry.  Some ends of handles may be counted ahead of their record. -/
structure Registry.Recorded (r : Registry) (events : List Event) (foreign : Registry)
    (ahead : Nat) : Prop where
  slots : r.slots.countP Slot.isTransferred = r.tally.transferred
  registered : events.count (.handle .registered) = r.tally.registered + foreign.tally.registered
  transferred : events.count (.handle .transferred) = r.tally.transferred
  released : events.count (.handle .released) + r.tally.transferred + ahead = r.tally.released
  warned : events.count .cleanupWarning = r.tally.failures
  refused : events.countP Event.isRefusal = r.tally.failures

/-- The same of a custodian, for the events since a point of time. -/
def Custodian.Recorded (start : World ε σ) (ahead : Nat) (foreign : Registry)
    (c : Custodian ε σ) : Prop :=
  ∃ events, c.world.log = start.log ++ events ∧ c.registry.Recorded events foreign ahead

namespace Registry.Recorded

variable {events : List Event} {foreign r : Registry} {ahead : Nat} {id : HandleId} {old : Slot}

/-- An index that is added is on record. -/
theorem add (h : r.Recorded events foreign ahead) (native : NativeIndex) :
    (r.add native).2.Recorded (events ++ [.handle .registered]) foreign ahead := by
  obtain ⟨hslots, hregistered, htransferred, hreleased, hwarned, hrefused⟩ := h
  constructor <;>
    simp [Registry.add, List.count_append, Slot.isTransferred, Event.isRefusal, *]
  omega

/-- An index that is added to another registry is on record there. -/
theorem elsewhere (h : r.Recorded events foreign ahead) (native : NativeIndex) :
    r.Recorded (events ++ [.handle .registered]) (foreign.add native).2 ahead := by
  obtain ⟨hslots, hregistered, htransferred, hreleased, hwarned, hrefused⟩ := h
  constructor <;> simp [Registry.add, List.count_append, Event.isRefusal, *]
  omega

/-- A slot that neither was nor becomes one of a transferred handle may change. -/
theorem setSlot (h : r.Recorded events foreign ahead) (hold : r.slot? id = some old) (new : Slot)
    (hkind : old.isTransferred = new.isTransferred) :
    (r.setSlot id new).Recorded events foreign ahead := by
  have hcount := countP_setSlot Slot.isTransferred hold new
  rw [hkind, Nat.add_right_cancel_iff] at hcount
  exact ⟨hcount.trans h.slots, h.registered, h.transferred, h.released, h.warned, h.refused⟩

/-- Ends of handles are counted before they are recorded. -/
theorem count (h : r.Recorded events foreign ahead) (n : Nat) :
    { r with tally := { r.tally with released := r.tally.released + n } }.Recorded events foreign
      (ahead + n) := by
  obtain ⟨hslots, hregistered, htransferred, hreleased, hwarned, hrefused⟩ := h
  exact ⟨hslots, hregistered, htransferred, by simp only; omega, hwarned, hrefused⟩

/-- An end that was counted ahead is recorded. -/
theorem recordReleased (h : r.Recorded events foreign (ahead + 1)) :
    r.Recorded (events ++ [.handle .released]) foreign ahead := by
  obtain ⟨hslots, hregistered, htransferred, hreleased, hwarned, hrefused⟩ := h
  constructor <;> simp [List.count_append, Event.isRefusal, *]
  omega

/-- A converted handle ends once: it is recorded as transferred, or as released. -/
theorem settle (h : r.Recorded events foreign ahead) (hold : r.slot? id = some old)
    (hkind : old.isTransferred = false) (derived : Option HandleId) :
    (r.settle id derived).Recorded
      (events ++ [.handle (if derived.isSome then .transferred else .released)]) foreign ahead := by
  have hcount := countP_setSlot Slot.isTransferred hold (.ofDerived derived)
  obtain ⟨hslots, hregistered, htransferred, hreleased, hwarned, hrefused⟩ := h
  cases derived <;> constructor <;>
    simp_all [Registry.settle, Slot.ofDerived, Slot.isTransferred, List.count_append,
      Event.isRefusal] <;>
    omega

/-- All that is retired at once is ahead of the record. -/
theorem retireAll (h : r.Recorded events foreign ahead) :
    r.retireAll.Recorded events foreign (ahead + r.pending.length) := by
  refine ⟨?_, h.registered, h.transferred, (h.count r.pending.length).released, h.warned,
    h.refused⟩
  have hsame : ∀ s : Slot, Slot.isTransferred (if s.held?.isSome then .released else s) =
      s.isTransferred := by
    intro s
    cases s <;> rfl
  simpa [Registry.retireAll, List.countP_map, Function.comp_def, hsame] using h.slots

/-- A request to free a structure is on record, with its refusal. -/
theorem free (h : r.Recorded events foreign ahead) (raw : RawHandle) (kind : StructureKind)
    (refusal : Option String) :
    (if refusal.isSome then r.addFailures 1 else r).Recorded
      (events ++ .structureReleased raw kind refusal ::
        if refusal.isSome then [.cleanupWarning] else []) foreign ahead := by
  obtain ⟨hslots, hregistered, htransferred, hreleased, hwarned, hrefused⟩ := h
  cases refusal <;> constructor <;>
    simp [Registry.addFailures, List.count_append, List.countP_append, List.countP_cons,
      Event.isRefusal, *]

end Registry.Recorded

namespace Custodian

section recorded

variable {engine : Engine ε} {start : World ε σ} {ahead : Nat} {foreign : Registry}
  {c : Custodian ε σ} {id : HandleId}

/-- One more event is recorded, and the registry counts it. -/
theorem Recorded.record (h : c.Recorded start ahead foreign) {e : Event} {r : Registry}
    {ahead' : Nat} {foreign' : Registry}
    (hstep : ∀ events, c.registry.Recorded events foreign ahead →
      r.Recorded (events ++ [e]) foreign' ahead') :
    Custodian.Recorded start ahead' foreign' { registry := r, world := c.world.record e } := by
  obtain ⟨events, hlog, hr⟩ := h
  exact ⟨events ++ [e], by simp [World.record, hlog], hstep events hr⟩

/-- To register an index is on record. -/
theorem recorded_register (h : c.Recorded start ahead foreign) (native : NativeIndex) :
    (c.register native).2.Recorded start ahead foreign :=
  h.record fun _ hr => hr.add native

/-- To free components is on record. -/
theorem recorded_freeAll (xs : List Component) (h : c.Recorded start ahead foreign) :
    (c.freeAll engine xs).Recorded start ahead foreign := by
  induction xs generalizing c with
  | nil => exact h
  | cons x xs ih =>
    obtain ⟨events, hlog, hr⟩ := h
    rw [freeAll_cons]
    apply ih
    refine ⟨_, ?_, hr.free x.1 x.2 (c.world.free engine x.1 x.2).1⟩
    rw [World.log_free, hlog, List.append_assoc]

/-- To release a handle is on record. -/
theorem recorded_release (h : c.Recorded start 0 foreign) (id : HandleId) :
    (c.release engine id).Recorded start 0 foreign := by
  obtain ⟨native, hslot, heq⟩ | ⟨-, heq⟩ := release_cases engine id c
  · rw [heq]
    apply recorded_freeAll
    exact h.record fun _ hr => ((hr.setSlot hslot .released rfl).count 1).recordReleased
  · rwa [heq]

/-- The sweep catches up with what is ahead of the record. -/
theorem recorded_releaseAll_go (natives : List NativeIndex)
    (h : c.Recorded start natives.length foreign) :
    (releaseAll.go engine natives c).Recorded start 0 foreign := by
  induction natives generalizing c with
  | nil => exact h
  | cons native natives ih =>
    rw [releaseAll.go]
    apply ih
    apply recorded_freeAll
    exact h.record fun _ hr => hr.recordReleased

/-- To release everything is on record. -/
theorem recorded_releaseAll (h : c.Recorded start 0 foreign) :
    (c.releaseAll engine).2.Recorded start 0 foreign := by
  obtain ⟨events, hlog, hr⟩ := h
  have hretired := hr.retireAll
  rw [Nat.zero_add, ← (c.registry.perm_arrange c.world.sweep).length_eq] at hretired
  exact recorded_releaseAll_go _ ⟨events, hlog, hretired⟩

/-- To settle a source is on record. -/
theorem recorded_settle (h : c.Recorded start ahead foreign) {old : Slot}
    (hold : c.registry.slot? id = some old) (hkind : old.isTransferred = false)
    (derived : Option HandleId) : (c.settle id derived).Recorded start ahead foreign :=
  h.record fun _ hr => hr.settle hold hkind derived

/-- A conversion that ends is on record. -/
theorem recorded_finishTransfer (h : c.Recorded start 0 foreign) {old : Slot}
    (hold : c.registry.slot? id = some old) (hkind : old.isTransferred = false)
    (gpu : NativeIndex) (reply : Reply RawHandle) :
    (c.finishTransfer engine id gpu reply).2.Recorded start 0 foreign := by
  match reply with
  | .ok raw =>
    have hregistered := recorded_register h (.cpu raw gpu.idMap)
    exact recorded_freeAll _ (recorded_settle hregistered (slot_register hold _) hkind _)
  | .failed message none => exact recorded_freeAll _ (recorded_settle h hold hkind none)
  | .failed message (some native) =>
    have hfreed : (freeAll engine gpu.components (c.settle id none)).Recorded start 0 foreign :=
      recorded_freeAll _ (recorded_settle h hold hkind none)
    exact recorded_release (recorded_register hfreed native) _
  | .panicked message => exact h

/-- No step of a history breaks the agreement of the counts with the record. -/
theorem invariant_recorded (engine : Engine ε) (start : World ε σ) :
    Invariant engine fun foreign c => c.Recorded start 0 foreign where
  register native h := recorded_register h native
  elsewhere native h := h.record fun _ hr => hr.elsewhere native
  release id h := recorded_release h id
  releaseAll h := recorded_releaseAll h
  begins hb h := by
    obtain ⟨hslot, rfl⟩ := beginTransfer_eq_ok hb
    obtain ⟨events, hlog, hr⟩ := h
    exact ⟨events, hlog, hr.setSlot hslot (.converting _) rfl⟩
  finishes gpu reply hslot hs h :=
    recorded_finishTransfer h hslot (by obtain rfl | rfl := hs <;> rfl) gpu reply

end recorded

end Custodian

namespace Operation

/-! ## Histories of one custodian -/

mutual

/-- Whether nothing is registered with the other custodian, at any depth. -/
def domestic : Operation → Bool
  | .registerForeign .. => false
  | .transfer _ _ during _ => domesticAll during
  | .lookup _ during => domesticAll during
  | .register .. => true
  | .release _ => true
  | .releaseAll => true
  | .state _ => true
  | .outstanding => true
  | .describe => true
  | .stats => true
  | .drop => true

/-- Whether no operation registers anything with the other custodian. -/
def domesticAll : List Operation → Bool
  | [] => true
  | o :: os => domestic o && domesticAll os

end

mutual

/-- A domestic operation leaves other registries alone. -/
theorem foreign_run (engine : Engine ε) (h : HistoryState ε σ) {o : Operation}
    (ho : domestic o = true) : (run engine h o).2.foreign = h.foreign := by
  rw [run_snd]
  match o with
  | .transfer name derived during reply =>
    match hl : h.names.lookup name with
    | none => simp [act, hl]
    | some (_, false) => simp [act, hl]
    | some (source, true) =>
      cases hb : (h.giveUp name).custodian.beginTransfer source.id with
      | error e =>
        simp only [act, hl, hb]
        rfl
      | ok p =>
        have hinside := foreign_runAll engine { h.giveUp name with custodian := p.2 } ho
        simp only [act, hl, hb]
        split
        · cases derived <;> exact hinside
        · exact hinside
        · exact hinside
  | .lookup name during =>
    rw [act]
    split
    · rfl
    · split
      · rfl
      · exact foreign_runAll engine h ho
  | .release name =>
    rw [act]
    split <;> rfl
  | .register .. => simp [act, HistoryState.bind]
  | .releaseAll => simp [act]
  | .state _ => simp [act]
  | .outstanding => simp [act]
  | .describe => simp [act]
  | .stats => simp [act]
  | .drop => simp [act]

/-- Domestic operations leave other registries alone. -/
theorem foreign_runAll (engine : Engine ε) (h : HistoryState ε σ) {os : List Operation}
    (hos : domesticAll os = true) : (runAll engine h os).2.foreign = h.foreign := by
  match os with
  | [] => rw [runAll]
  | o :: os =>
    obtain ⟨ho, hos⟩ := Bool.and_eq_true_iff.1 hos
    rw [runAll_cons_snd, foreign_runAll engine _ hos, foreign_run engine h ho]

end

/-- At every boundary of a domestic history other registries are as at its start. -/
theorem Boundary.foreign {engine : Engine ε} {h h' : HistoryState ε σ} {os : List Operation}
    {given : List Component} (hb : Boundary engine h os given h') (hos : domesticAll os = true) :
    h'.foreign = h.foreign := by
  induction hb with
  | here h os => rfl
  | later rest ih =>
    obtain ⟨ho, hos⟩ := Bool.and_eq_true_iff.1 hos
    rw [ih hos, foreign_run _ _ ho]
  | converting claim begun inside ih => exact ih (Bool.and_eq_true_iff.1 hos).1
  | looking claim found inside ih => exact ih (Bool.and_eq_true_iff.1 hos).1

/-! ## The counts -/

/-- At every boundary of an orderly history the counts agree: the handles that were registered and
not released are those that are live or being converted, and can be counted; as many were
transferred as there are slots that say so; and every request that the engine refused is counted as
a failure.  The counters of the process have moved by the same numbers: a transferred handle is
counted there as transferred and not as released, and a registration with the other custodian as
well. -/
theorem counts_agree_at_every_boundary (engine : Engine ε) (w : World ε σ) {os : List Operation}
    (hos : orderlyAll os = true) {given : List Component} {h : HistoryState ε σ}
    (hb : Boundary engine (.start w) os given h) :
    let r := h.custodian.registry
    let moved := w.countersSince h.custodian.world
    (r.tally.registered = r.tally.released + r.liveCount ∧
      r.tally.outstanding = .ok r.liveCount ∧
      r.tally.transferred = r.slots.countP Slot.isTransferred ∧
      r.tally.failures = w.refusalsSince h.custodian.world) ∧
    moved.handles .registered = r.tally.registered + h.foreign.tally.registered ∧
    (domesticAll os = true → moved.handles .registered = r.tally.registered) ∧
    moved.handles .transferred = r.tally.transferred ∧
    moved.handles .released + r.tally.transferred = r.tally.released ∧
    moved.cleanupWarnings = r.tally.failures := by
  intro r moved
  have hover : r.overcount = 0 := hb.overcount hos
  have hstart : (HistoryState.start w).custodian.Recorded w 0 (HistoryState.start w).foreign :=
    ⟨[], (List.append_nil _).symm, by constructor <;> rfl⟩
  obtain ⟨events, hlog, hr⟩ :=
    (Custodian.invariant_recorded engine w).boundary hb hstart
  have hsince : h.custodian.world.log.drop w.log.length = events := by
    rw [hlog, List.drop_left]
  have hmoved : moved = .ofLog events := congrArg Counters.ofLog hsince
  have hlive : r.tally.registered = r.tally.released + r.liveCount := by
    unfold Registry.overcount at hover
    omega
  rw [hmoved]
  refine ⟨⟨hlive, Registry.outstanding_eq_liveCount hover, hr.slots.symm, ?_⟩, hr.registered,
    fun hdomestic => ?_, hr.transferred, hr.released, hr.warned⟩
  · rw [World.refusalsSince, hsince, hr.refused]
  · have hforeign : h.foreign = {} := hb.foreign hdomestic
    have hregistered := hr.registered
    rw [hforeign] at hregistered
    exact hregistered

/-- A world in which the flat engine holds one device index and its id map, so that it refuses to
free anything else. -/
def occupiedWorld : World Arena Unit :=
  { store := ()
    disk := {}
    memory :=
      { next := 3
        cells := [
          (⟨1⟩, .gpu {
            metric := .l2, dimension := 0, vectors := [], efSearch := 1, efConstruction := 1 }),
          (⟨2⟩, .idMap [] ⟨1⟩)] } }

/-- Three of the four structures that are freed in this history are unknown to the engine. -/
theorem counts_agree_when_conversions_nest :
    let h := (runAll Arena.engine (.start occupiedWorld) nestedHistory).2
    let moved := occupiedWorld.countersSince h.custodian.world
    h.custodian.registry.tally.outstanding = .ok 1 ∧
    moved.handles .registered = 5 ∧ moved.handles .transferred = 1 ∧
    moved.handles .released = 3 ∧ moved.cleanupWarnings = 3 ∧
    occupiedWorld.refusalsSince h.custodian.world = 3 := by
  have htally : (runAll Arena.engine (.start occupiedWorld) nestedHistory).2.custodian.registry.tally
      = { registered := 5, released := 4, transferred := 1, failures := 3 } := by cbv
  have hlive : (runAll Arena.engine (.start occupiedWorld) nestedHistory
      ).2.custodian.registry.liveCount = 1 := by cbv
  obtain ⟨⟨-, houtstanding, -, hrefused⟩, -, hregistered, htransferred, hreleased, hwarned⟩ :=
    counts_agree_at_every_boundary Arena.engine occupiedWorld
      (by decide : orderlyAll nestedHistory = true)
      (Boundary.ending Arena.engine (.start occupiedWorld) nestedHistory)
  rw [hlive] at houtstanding
  rw [htally] at hrefused hwarned htransferred hreleased
  have hhere := hregistered (by decide)
  rw [htally] at hhere
  exact ⟨houtstanding, hhere, htransferred, Nat.add_right_cancel hreleased, hwarned,
    hrefused.symm⟩

end Operation

end VectorIndex
