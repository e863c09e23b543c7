import VectorIndex.Proofs.Custody.Surroundings
import VectorIndex.Proofs.Custody.Tallies

/-!
# Engines that refuse differently

Two engines are alike when they answer their calls in the same way and differ only in which requests
to free a structure they refuse.  The same history of custody is run with both.  The invariant is
`Custodian.Alike`: the registries are the same but for the failures that they count, and so are the
worlds but for what the engines remember and for the refusals and warnings in the logs.  How the two
logs go on together is `Event.Parallel`, which counts the refusals of either side.

At the end of a history this comes to `Operation.alike_runAll` and `Custodian.EndsAlike`.
-/

set_option autoImplicit false

namespace VectorIndex

variable {ε₁ ε₂ σ : Type}

/-- Two engines answer alike as long as their memories are related.  Which structures they refuse to
free is left open. -/
structure Engine.Alike (R : ε₁ → ε₂ → Prop) (e₁ : Engine ε₁) (e₂ : Engine ε₂) : Prop where
  kind : e₁.kind = e₂.kind
  build : ∀ {m₁ m₂}, R m₁ m₂ → ∀ dataset config,
    (e₁.build dataset config m₁).1 = (e₂.build dataset config m₂).1 ∧
      R (e₁.build dataset config m₁).2 (e₂.build dataset config m₂).2
  convert : ∀ {m₁ m₂}, R m₁ m₂ → ∀ gpu config,
    (e₁.convert gpu config m₁).1 = (e₂.convert gpu config m₂).1 ∧
      R (e₁.convert gpu config m₁).2 (e₂.convert gpu config m₂).2
  persist : ∀ {m₁ m₂}, R m₁ m₂ → ∀ cpu,
    (e₁.persist cpu m₁).1 = (e₂.persist cpu m₂).1 ∧
      R (e₁.persist cpu m₁).2 (e₂.persist cpu m₂).2
  release : ∀ {m₁ m₂}, R m₁ m₂ → ∀ raw kind,
    R (e₁.release raw kind m₁).2 (e₂.release raw kind m₂).2

/-- Two engines answer alike as long as a relation holds, which the calls keep.  The relation is
about what the engines remember and about how many requests to free a structure each of them has
refused. -/
structure Engine.Matched (R : Nat → Nat → ε₁ → ε₂ → Prop) (e₁ : Engine ε₁) (e₂ : Engine ε₂) :
    Prop where
  kind : e₁.kind = e₂.kind
  build : ∀ {n₁ n₂ m₁ m₂}, R n₁ n₂ m₁ m₂ → ∀ dataset config,
    (e₁.build dataset config m₁).1 = (e₂.build dataset config m₂).1 ∧
      R n₁ n₂ (e₁.build dataset config m₁).2 (e₂.build dataset config m₂).2
  convert : ∀ {n₁ n₂ m₁ m₂}, R n₁ n₂ m₁ m₂ → ∀ gpu config,
    (e₁.convert gpu config m₁).1 = (e₂.convert gpu config m₂).1 ∧
      R n₁ n₂ (e₁.convert gpu config m₁).2 (e₂.convert gpu config m₂).2
  persist : ∀ {n₁ n₂ m₁ m₂}, R n₁ n₂ m₁ m₂ → ∀ cpu,
    (e₁.persist cpu m₁).1 = (e₂.persist cpu m₂).1 ∧
      R n₁ n₂ (e₁.persist cpu m₁).2 (e₂.persist cpu m₂).2
  release : ∀ {n₁ n₂ m₁ m₂}, R n₁ n₂ m₁ m₂ → ∀ raw kind,
    R (n₁ + (e₁.release raw kind m₁).1.toList.length)
      (n₂ + (e₂.release raw kind m₂).1.toList.length)
      (e₁.release raw kind m₁).2 (e₂.release raw kind m₂).2

/-- Engines that are alike match, whatever they have refused. -/
theorem Engine.Alike.matched {R : ε₁ → ε₂ → Prop} {e₁ : Engine ε₁} {e₂ : Engine ε₂}
    (h : e₁.Alike R e₂) : e₁.Matched (fun _ _ => R) e₂ :=
  ⟨h.kind, h.build, h.convert, h.persist, h.release⟩

/-! ## Logs -/

/-- What is recorded about a request to free a structure. -/
def Event.request (raw : RawHandle) (kind : StructureKind) (refusal : Option String) : List Event :=
  .structureReleased raw kind refusal :: if refusal.isSome then [.cleanupWarning] else []

/-- Whether an event belongs to a request to free a structure. -/
def Event.isRequest : Event → Bool
  | .structureReleased .. => true
  | .cleanupWarning => true
  | _ => false

/-- Two logs go on from a common one and differ only in which requests to free a structure were
refused.  The two numbers count the refusals. -/
inductive Event.Parallel (since : List Event) : List Event → List Event → Nat → Nat → Prop where
  | start : Parallel since since since 0 0
  | both {l₁ l₂ : List Event} {n₁ n₂ : Nat} (h : Parallel since l₁ l₂ n₁ n₂) (e : Event)
    (he : e.isRequest = false) : Parallel since (l₁ ++ [e]) (l₂ ++ [e]) n₁ n₂
  | asked {l₁ l₂ : List Event} {n₁ n₂ : Nat} (h : Parallel since l₁ l₂ n₁ n₂) (raw : RawHandle)
    (kind : StructureKind) (refusal₁ refusal₂ : Option String) :
    Parallel since (l₁ ++ request raw kind refusal₁) (l₂ ++ request raw kind refusal₂)
      (n₁ + refusal₁.toList.length) (n₂ + refusal₂.toList.length)

namespace Event.Parallel

variable {since l₁ l₂ : List Event} {n₁ n₂ : Nat}

/-- Two logs can change places. -/
theorem symm (h : Parallel since l₁ l₂ n₁ n₂) : Parallel since l₂ l₁ n₂ n₁ := by
  induction h with
  | start => exact .start
  | both h e he ih => exact ih.both e he
  | asked h raw kind refusal₁ refusal₂ ih => exact ih.asked raw kind refusal₂ refusal₁

/-- What was recorded on one side, with as many warnings as refusals. -/
theorem exists_eq (h : Parallel since l₁ l₂ n₁ n₂) :
    ∃ events, l₁ = since ++ events ∧ events.count .cleanupWarning = n₁ ∧
      events.countP isRefusal = n₁ := by
  induction h with
  | start => exact ⟨[], by simp⟩
  | @both l₁ l₂ n₁ n₂ h e he ih =>
    obtain ⟨events, rfl, hwarned, hrefused⟩ := ih
    refine ⟨events ++ [e], List.append_assoc .., ?_, ?_⟩
    · rw [List.count_append, hwarned]
      cases e <;> simp_all [isRequest]
    · rw [List.countP_append, hrefused]
      cases e <;> simp_all [isRequest, isRefusal]
  | @asked l₁ l₂ n₁ n₂ h raw kind refusal₁ refusal₂ ih =>
    obtain ⟨events, rfl, hwarned, hrefused⟩ := ih
    refine ⟨events ++ request raw kind refusal₁, List.append_assoc .., ?_, ?_⟩
    · rw [List.count_append, hwarned]
      cases refusal₁ <;> simp [request]
    · rw [List.countP_append, hrefused]
      cases refusal₁ <;> simp [request, isRefusal, List.countP_cons]

/-- The same requests were made on both sides, in the same order. -/
theorem freedIn_eq (h : Parallel since l₁ l₂ n₁ n₂) : freedIn l₁ = freedIn l₂ := by
  induction h with
  | start => rfl
  | both h e he ih => rw [freedIn_append, freedIn_append, ih]
  | asked h raw kind refusal₁ refusal₂ ih =>
    rw [freedIn_append, freedIn_append, ih]
    cases refusal₁ <;> cases refusal₂ <;> simp [request, freedIn, freed?]

/-- Everything else was recorded on both sides, in the same order. -/
theorem others_eq (h : Parallel since l₁ l₂ n₁ n₂) :
    l₁.filter (!·.isRequest) = l₂.filter (!·.isRequest) := by
  induction h with
  | start => rfl
  | both h e he ih => rw [List.filter_append, List.filter_append, ih]
  | asked h raw kind refusal₁ refusal₂ ih =>
    rw [List.filter_append, List.filter_append, ih]
    cases refusal₁ <;> cases refusal₂ <;> simp [request, isRequest]

end Event.Parallel

/-! ## Custodians -/

/-- The same registry with another count of failures. -/
def Registry.withFailures (r : Registry) (n : Nat) : Registry :=
  { r with tally := { r.tally with failures := n } }

/-- A conversion begins in the same way, however many failures were counted. -/
theorem Registry.beginTransfer_withFailures (r : Registry) (n : Nat) (id : HandleId) :
    (r.withFailures n).beginTransfer id =
      (r.beginTransfer id).map fun begun => (begun.1, begun.2.withFailures n) := by
  have hslot : (r.withFailures n).slot? id = r.slot? id := rfl
  unfold beginTransfer
  rw [hslot]
  match r.slot? id with
  | some (.live native) => rfl
  | some (.converting _) => rfl
  | some (.transferred _) => rfl
  | some .released => rfl
  | none => rfl

/-- Two worlds are the same but for what the engine remembers and for the requests to free a
structure that were refused. -/
structure World.Alike (R : Nat → Nat → ε₁ → ε₂ → Prop) (since : List Event) (n₁ n₂ : Nat)
    (w₁ : World ε₁ σ) (w₂ : World ε₂ σ) : Prop where
  medium : w₁.toMedium = w₂.toMedium
  memory : R n₁ n₂ w₁.memory w₂.memory
  sweep : w₁.sweep = w₂.sweep
  log : Event.Parallel since w₁.log w₂.log n₁ n₂

/-- Two custodians are the same but for the refusals, which either registry counts. -/
def Custodian.Alike (R : Nat → Nat → ε₁ → ε₂ → Prop) (since : List Event) (c₁ : Custodian ε₁ σ)
    (c₂ : Custodian ε₂ σ) : Prop :=
  ∃ (r : Registry) (n₁ n₂ : Nat), c₁.registry = r.withFailures n₁ ∧
    c₂.registry = r.withFailures n₂ ∧ World.Alike R since n₁ n₂ c₁.world c₂.world

variable {R : Nat → Nat → ε₁ → ε₂ → Prop} {since : List Event} {n₁ n₂ : Nat} {e₁ : Engine ε₁}
  {e₂ : Engine ε₂}

namespace World.Alike

variable {w₁ : World ε₁ σ} {w₂ : World ε₂ σ}

/-- An event that is about no request can be recorded in both worlds. -/
theorem record (h : Alike R since n₁ n₂ w₁ w₂) (e : Event) (he : e.isRequest = false) :
    Alike R since n₁ n₂ (w₁.record e) (w₂.record e) :=
  ⟨h.medium, h.memory, h.sweep, h.log.both e he⟩

/-- A structure can be freed in both worlds, where each counts its own refusal. -/
theorem free (h : Alike R since n₁ n₂ w₁ w₂) (he : Engine.Matched R e₁ e₂) (raw : RawHandle)
    (kind : StructureKind) :
    Alike R since (n₁ + (w₁.free e₁ raw kind).1.toList.length)
      (n₂ + (w₂.free e₂ raw kind).1.toList.length) (w₁.free e₁ raw kind).2
      (w₂.free e₂ raw kind).2 := by
  refine ⟨?_, ?_, ?_, ?_⟩
  · rw [World.toMedium_free, World.toMedium_free]
    exact h.medium
  · rw [World.memory_free, World.memory_free]
    exact he.release h.memory raw kind
  · rw [World.sweep_free, World.sweep_free]
    exact h.sweep
  · rw [log_free, log_free]
    exact h.log.asked raw kind _ _

end World.Alike

namespace Custodian.Alike

variable {c₁ : Custodian ε₁ σ} {c₂ : Custodian ε₂ σ}

/-- Custodians that are alike have the same slots. -/
theorem slots_eq (h : Alike R since c₁ c₂) : c₁.registry.slots = c₂.registry.slots := by
  obtain ⟨r, n₁, n₂, hr₁, hr₂, -⟩ := h
  rw [hr₁, hr₂]
  rfl

/-- Both custodians register an index under the same handle. -/
theorem register (h : Alike R since c₁ c₂) (native : NativeIndex) :
    (c₁.register native).1 = (c₂.register native).1 ∧
      Alike R since (c₁.register native).2 (c₂.register native).2 := by
  obtain ⟨r, n₁, n₂, hr₁, hr₂, hw⟩ := h
  obtain ⟨registry₁, world₁⟩ := c₁
  obtain ⟨registry₂, world₂⟩ := c₂
  subst hr₁ hr₂
  exact ⟨rfl, (r.add native).2, n₁, n₂, rfl, rfl, hw.record _ rfl⟩

/-- Both custodians free the same components. -/
theorem freeAll (he : Engine.Matched R e₁ e₂) (xs : List Component) (h : Alike R since c₁ c₂) :
    Alike R since (c₁.freeAll e₁ xs) (c₂.freeAll e₂ xs) := by
  induction xs generalizing c₁ c₂ with
  | nil => exact h
  | cons x xs ih =>
    obtain ⟨r, n₁, n₂, hr₁, hr₂, hw⟩ := h
    rw [freeAll_cons, freeAll_cons]
    apply ih
    refine ⟨r, _, _, ?_, ?_, hw.free he x.1 x.2⟩
    · cases (c₁.world.free e₁ x.1 x.2).1 <;> simp [hr₁, Registry.addFailures, Registry.withFailures]
    · cases (c₂.world.free e₂ x.1 x.2).1 <;> simp [hr₂, Registry.addFailures, Registry.withFailures]

/-- Both custodians release the same handle. -/
theorem release (he : Engine.Matched R e₁ e₂) (h : Alike R since c₁ c₂) (id : HandleId) :
    Alike R since (c₁.release e₁ id) (c₂.release e₂ id) := by
  have hslot : c₁.registry.slot? id = c₂.registry.slot? id := congrArg (·[id.place]?) h.slots_eq
  obtain ⟨native, hlive, heq₁⟩ | ⟨hdead, heq₁⟩ := release_cases e₁ id c₁
  · obtain ⟨r, n₁, n₂, hr₁, hr₂, hw⟩ := h
    rw [hslot] at hlive
    obtain ⟨native', hlive', heq₂⟩ | ⟨hdead, -⟩ := release_cases e₂ id c₂
    · rw [hlive, Option.some.injEq, Slot.live.injEq] at hlive'
      rw [heq₁, heq₂, ← hlive', hr₁, hr₂]
      apply freeAll he
      exact ⟨{ r.setSlot id .released with
        tally := { r.tally with released := r.tally.released + 1 } }, n₁, n₂, rfl, rfl,
        hw.record _ rfl⟩
    · exact absurd hlive (hdead native)
  · rw [hslot] at hdead
    obtain ⟨native, hlive, -⟩ | ⟨-, heq₂⟩ := release_cases e₂ id c₂
    · exact absurd hlive (hdead native)
    · rwa [heq₁, heq₂]

/-- Both custodians sweep the same indexes. -/
theorem releaseAll_go (he : Engine.Matched R e₁ e₂) (natives : List NativeIndex)
    (h : Alike R since c₁ c₂) :
    Alike R since (releaseAll.go e₁ natives c₁) (releaseAll.go e₂ natives c₂) := by
  induction natives generalizing c₁ c₂ with
  | nil => exact h
  | cons native natives ih =>
    obtain ⟨r, n₁, n₂, hr₁, hr₂, hw⟩ := h
    rw [releaseAll.go, releaseAll.go]
    exact ih (freeAll he native.components ⟨r, n₁, n₂, hr₁, hr₂, hw.record _ rfl⟩)

/-- Both custodians release everything, and say the same about how many handles that was. -/
theorem releaseAll (he : Engine.Matched R e₁ e₂) (h : Alike R since c₁ c₂) :
    (c₁.releaseAll e₁).1 = (c₂.releaseAll e₂).1 ∧
      Alike R since (c₁.releaseAll e₁).2 (c₂.releaseAll e₂).2 := by
  obtain ⟨r, n₁, n₂, hr₁, hr₂, hw⟩ := h
  obtain ⟨registry₁, world₁⟩ := c₁
  obtain ⟨registry₂, world₂⟩ := c₂
  subst hr₁ hr₂
  have hsweep : world₁.sweep = world₂.sweep := hw.sweep
  unfold Custodian.releaseAll
  rw [hsweep]
  exact ⟨rfl, releaseAll_go he _ ⟨r.retireAll, n₁, n₂, rfl, rfl, hw⟩⟩

/-- Both custodians begin a conversion of the same index, or refuse it for the same reason. -/
theorem beginTransfer (h : Alike R since c₁ c₂) (id : HandleId) :
    (∃ e, c₁.beginTransfer id = .error e ∧ c₂.beginTransfer id = .error e) ∨
    ∃ gpu c₁' c₂', c₁.beginTransfer id = .ok (gpu, c₁') ∧ c₂.beginTransfer id = .ok (gpu, c₂') ∧
      Alike R since c₁' c₂' := by
  obtain ⟨r, n₁, n₂, hr₁, hr₂, hw⟩ := h
  unfold Custodian.beginTransfer
  rw [hr₁, hr₂, Registry.beginTransfer_withFailures, Registry.beginTransfer_withFailures]
  cases r.beginTransfer id with
  | error e => exact .inl ⟨e, rfl, rfl⟩
  | ok begun => exact .inr ⟨begun.1, _, _, rfl, rfl, begun.2, n₁, n₂, rfl, rfl, hw⟩

/-- Both custodians settle a source. -/
theorem settle (h : Alike R since c₁ c₂) (id : HandleId) (derived : Option HandleId) :
    Alike R since (c₁.settle id derived) (c₂.settle id derived) := by
  obtain ⟨r, n₁, n₂, hr₁, hr₂, hw⟩ := h
  refine ⟨r.settle id derived, n₁, n₂, ?_, ?_, hw.record _ (by cases derived <;> rfl)⟩
  · cases derived <;> simp [Custodian.settle, hr₁, Registry.settle, Registry.withFailures,
      Registry.setSlot]
  · cases derived <;> simp [Custodian.settle, hr₂, Registry.settle, Registry.withFailures,
      Registry.setSlot]

/-- Both custodians end a conversion with the same answer. -/
theorem finishTransfer (he : Engine.Matched R e₁ e₂) (h : Alike R since c₁ c₂) (id : HandleId)
    (gpu : NativeIndex) (reply : Reply RawHandle) :
    (c₁.finishTransfer e₁ id gpu reply).1 = (c₂.finishTransfer e₂ id gpu reply).1 ∧
      Alike R since (c₁.finishTransfer e₁ id gpu reply).2
        (c₂.finishTransfer e₂ id gpu reply).2 := by
  match reply with
  | .ok raw =>
    obtain ⟨htoken, hregistered⟩ := h.register (.cpu raw gpu.idMap)
    have hsettled := hregistered.settle id (some (c₁.register (.cpu raw gpu.idMap)).1.id)
    nth_rewrite 2 [htoken] at hsettled
    exact ⟨congrArg TransferEnd.moved htoken, freeAll he _ hsettled⟩
  | .failed message none => exact ⟨rfl, freeAll he _ (h.settle id none)⟩
  | .failed message (some native) =>
    obtain ⟨htoken, hregistered⟩ := (freeAll he gpu.components (h.settle id none)).register native
    have hreleased := release he hregistered
      (((c₁.settle id none).freeAll e₁ gpu.components).register native).1.id
    nth_rewrite 2 [htoken] at hreleased
    exact ⟨rfl, hreleased⟩
  | .panicked message => exact ⟨rfl, h⟩

end Custodian.Alike

/-! ## What has moved -/

/-- Two processes have come to the same surroundings and made the same requests to free structures,
and their counters have moved by the same, but that either has warned as often as its engine has
refused a request. -/
structure World.MovedAlike (start₁ now₁ : World ε₁ σ) (start₂ now₂ : World ε₂ σ) : Prop where
  medium : now₁.toMedium = now₂.toMedium
  requests : start₁.freedSince now₁ = start₂.freedSince now₂
  counters : { start₁.countersSince now₁ with cleanupWarnings := 0 } =
    { start₂.countersSince now₂ with cleanupWarnings := 0 }
  warned₁ : (start₁.countersSince now₁).cleanupWarnings = start₁.refusalsSince now₁
  warned₂ : (start₂.countersSince now₂).cleanupWarnings = start₂.refusalsSince now₂

/-- Events that measure nothing can be left out of a sum. -/
theorem totalOf_filter (p : Event → Bool) (measure : Event → Nat)
    (h : ∀ e, p e = false → measure e = 0) (log : List Event) :
    totalOf measure (log.filter p) = totalOf measure log := by
  induction log with
  | nil => rfl
  | cons e log ih =>
    by_cases he : p e = true
    · rw [List.filter_cons_of_pos he, totalOf, totalOf, ih]
    · rw [List.filter_cons_of_neg he, totalOf, h e (Bool.eq_false_iff.2 he), ih, Nat.zero_add]

/-- Without requests to free structures the counters are the same, but for the warnings. -/
theorem Counters.ofLog_filter (log : List Event) :
    ofLog (log.filter (!·.isRequest)) = { ofLog log with cleanupWarnings := 0 } := by
  have hcount : ∀ e : Event, e.isRequest = false →
      (log.filter (!·.isRequest)).count e = log.count e := by
    intro e he
    exact List.count_filter (by simp [he])
  have hread := totalOf_filter (!·.isRequest) Event.bytesRead
    (fun e he => by cases e <;> simp_all [Event.isRequest, Event.bytesRead]) log
  have hwritten := totalOf_filter (!·.isRequest) Event.bytesWritten
    (fun e he => by cases e <;> simp_all [Event.isRequest, Event.bytesWritten]) log
  have hwarned : (log.filter (!·.isRequest)).count .cleanupWarning = 0 := by
    simp [List.count_eq_zero, Event.isRequest]
  simp only [ofLog, hread, hwritten, hwarned, hcount (.runEnded _) rfl,
    hcount (.stageObserved _) rfl, hcount (.handle _) rfl]

/-- Worlds that go on alike move their counters alike, but for the refusals that each has seen. -/
theorem World.Alike.moved {start₁ now₁ : World ε₁ σ} {start₂ now₂ : World ε₂ σ}
    (h : World.Alike R since n₁ n₂ now₁ now₂) (hstart₁ : start₁.log = since)
    (hstart₂ : start₂.log = since) :
    World.MovedAlike start₁ now₁ start₂ now₂ ∧
      n₁ = start₁.refusalsSince now₁ ∧ n₂ = start₂.refusalsSince now₂ := by
  obtain ⟨events₁, hlog₁, hwarned₁, hrefused₁⟩ := h.log.exists_eq
  obtain ⟨events₂, hlog₂, hwarned₂, hrefused₂⟩ := h.log.symm.exists_eq
  have hsince₁ : now₁.log.drop start₁.log.length = events₁ := by
    rw [hlog₁, hstart₁, List.drop_left]
  have hsince₂ : now₂.log.drop start₂.log.length = events₂ := by
    rw [hlog₂, hstart₂, List.drop_left]
  have hfreed := h.log.freedIn_eq
  have hothers := h.log.others_eq
  rw [hlog₁, hlog₂, freedIn_append, freedIn_append, List.append_cancel_left_eq] at hfreed
  rw [hlog₁, hlog₂, List.filter_append, List.filter_append, List.append_cancel_left_eq] at hothers
  refine ⟨⟨h.medium, ?_, ?_, ?_, ?_⟩, ?_, ?_⟩
  · rw [freedSince, freedSince, hsince₁, hsince₂, hfreed]
  · rw [countersSince, countersSince, hsince₁, hsince₂, ← Counters.ofLog_filter, hothers,
      Counters.ofLog_filter]
  · rw [countersSince, refusalsSince, hsince₁, hrefused₁]
    exact hwarned₁
  · rw [countersSince, refusalsSince, hsince₂, hrefused₂]
    exact hwarned₂
  · rw [refusalsSince, hsince₁, hrefused₁]
  · rw [refusalsSince, hsince₂, hrefused₂]

/-- Two custodians that began in these worlds have come to the same registry, but that either counts
the refusals of its own engine. -/
structure Custodian.EndsAlike (start₁ : World ε₁ σ) (c₁ : Custodian ε₁ σ) (start₂ : World ε₂ σ)
    (c₂ : Custodian ε₂ σ) : Prop where
  registry : c₁.registry.withFailures 0 = c₂.registry.withFailures 0
  failures₁ : c₁.registry.tally.failures = start₁.refusalsSince c₁.world
  failures₂ : c₂.registry.tally.failures = start₂.refusalsSince c₂.world
  moved : World.MovedAlike start₁ c₁.world start₂ c₂.world

/-- Custodians that go on alike end alike. -/
theorem Custodian.Alike.ends {start₁ : World ε₁ σ} {c₁ : Custodian ε₁ σ} {start₂ : World ε₂ σ}
    {c₂ : Custodian ε₂ σ} (h : Custodian.Alike R since c₁ c₂) (hstart₁ : start₁.log = since)
    (hstart₂ : start₂.log = since) : EndsAlike start₁ c₁ start₂ c₂ := by
  obtain ⟨r, n₁, n₂, hr₁, hr₂, hw⟩ := h
  obtain ⟨hmoved, hn₁, hn₂⟩ := hw.moved hstart₁ hstart₂
  refine ⟨?_, ?_, ?_, hmoved⟩
  · rw [hr₁, hr₂]
    rfl
  · rw [hr₁, ← hn₁]
    rfl
  · rw [hr₂, ← hn₂]
    rfl

/-! ## Histories -/

/-- Two answers are the same, or describe registries that are the same but for their failures. -/
inductive Answer.Alike : Answer → Answer → Prop where
  | same (a : Answer) : Alike a a
  | text (r : Registry) (n₁ n₂ : Nat) :
    Alike (.text (r.withFailures n₁).describe) (.text (r.withFailures n₂).describe)

/-- Two reports are the same but for refusals: the answers are alike, also those to what was done
inside, the same requests to free structures were made, and the registries afterwards are the same
but for their failures. -/
inductive StepReport.Alike : StepReport → StepReport → Prop where
  | plain (a : Answer) : Alike (.plain a) (.plain a)
  | full {a₁ a₂ : Answer} {nested₁ nested₂ : List StepReport} {freed₁ freed₂ : List Event}
    (r : Registry) (n₁ n₂ : Nat) (answer : a₁.Alike a₂)
    (nested : List.Forall₂ Alike nested₁ nested₂) (requests : freedIn freed₁ = freedIn freed₂) :
    Alike (.full a₁ nested₁ freed₁ (r.withFailures n₁))
      (.full a₂ nested₂ freed₂ (r.withFailures n₂))

/-- Two histories are at the same place, but for refusals. -/
structure HistoryState.Alike (R : Nat → Nat → ε₁ → ε₂ → Prop) (since : List Event)
    (h₁ : HistoryState ε₁ σ) (h₂ : HistoryState ε₂ σ) : Prop where
  custodian : h₁.custodian.Alike R since h₂.custodian
  foreign : h₁.foreign = h₂.foreign
  names : h₁.names = h₂.names

namespace HistoryState.Alike

variable {h₁ : HistoryState ε₁ σ} {h₂ : HistoryState ε₂ σ}

/-- A name can be bound in both histories. -/
theorem bind (h : Alike R since h₁ h₂) (name : String) (t : TrackedIndex) :
    Alike R since (h₁.bind name t) (h₂.bind name t) :=
  ⟨h.custodian, h.foreign, by simp [HistoryState.bind, h.names]⟩

/-- A name can be given up in both histories. -/
theorem giveUp (h : Alike R since h₁ h₂) (name : String) :
    Alike R since (h₁.giveUp name) (h₂.giveUp name) :=
  ⟨h.custodian, h.foreign, by simp [HistoryState.giveUp, h.names]⟩

end HistoryState.Alike

/-- The requests to free structures are all that is listed. -/
theorem freedIn_filter_isRelease (log : List Event) :
    freedIn (log.filter Event.isRelease) = freedIn log := by
  unfold freedIn
  rw [List.filterMap_filter]
  congr 1
  funext e
  cases e <;> rfl

namespace Operation

variable {h₁ : HistoryState ε₁ σ} {h₂ : HistoryState ε₂ σ}

/-- What two histories have freed since they were at the same place. -/
theorem freedIn_drop_eq (hh : HistoryState.Alike R since h₁ h₂) {h₁' : HistoryState ε₁ σ}
    {h₂' : HistoryState ε₂ σ} (hh' : HistoryState.Alike R since h₁' h₂')
    (hlog₁ : h₁.custodian.world.log <+: h₁'.custodian.world.log)
    (hlog₂ : h₂.custodian.world.log <+: h₂'.custodian.world.log) :
    h₁.custodian.world.freedSince h₁'.custodian.world =
      h₂.custodian.world.freedSince h₂'.custodian.world := by
  obtain ⟨r, n₁, n₂, -, -, hw⟩ := hh.custodian
  obtain ⟨r', n₁', n₂', -, -, hw'⟩ := hh'.custodian
  have hfreed := hw'.log.freedIn_eq
  rw [World.freedIn_eq_append hlog₁, World.freedIn_eq_append hlog₂, hw.log.freedIn_eq] at hfreed
  exact List.append_cancel_left hfreed

/-- An index can be registered with both custodians any number of times. -/
theorem alike_registerTimes (c₁ : Custodian ε₁ σ) (c₂ : Custodian ε₂ σ) (native : NativeIndex)
    (n : Nat) (t : Option TrackedIndex) (r : Registry) (hr₁ : c₁.registry = r)
    (hr₂ : c₂.registry = r) (hw : World.Alike R since n₁ n₂ c₁.world c₂.world) :
    (registerTimes native n t c₁).1 = (registerTimes native n t c₂).1 ∧
    (registerTimes native n t c₁).2.registry = (registerTimes native n t c₂).2.registry ∧
    World.Alike R since n₁ n₂ (registerTimes native n t c₁).2.world
      (registerTimes native n t c₂).2.world := by
  induction n generalizing t r c₁ c₂ with
  | zero => exact ⟨rfl, hr₁.trans hr₂.symm, hw⟩
  | succ n ih =>
    obtain ⟨registry₁, world₁⟩ := c₁
    obtain ⟨registry₂, world₂⟩ := c₂
    subst hr₁ hr₂
    exact ih _ _ _ _ rfl rfl (hw.record _ rfl)

/-- Both histories register an index with another custodian in the same way. -/
theorem alike_registerForeign (hh : HistoryState.Alike R since h₁ h₂) (native : NativeIndex)
    (times : Nat) (name : String) :
    (act e₁ h₁ (.registerForeign native times name)).1.Alike
      (act e₂ h₂ (.registerForeign native times name)).1 ∧
    List.Forall₂ StepReport.Alike (act e₁ h₁ (.registerForeign native times name)).2.1
      (act e₂ h₂ (.registerForeign native times name)).2.1 ∧
    HistoryState.Alike R since (act e₁ h₁ (.registerForeign native times name)).2.2
      (act e₂ h₂ (.registerForeign native times name)).2.2 := by
  obtain ⟨r, n₁, n₂, hr₁, hr₂, hw⟩ := hh.custodian
  obtain ⟨htoken, hforeign, hworld⟩ := alike_registerTimes
    { h₁.custodian with registry := h₁.foreign } { h₂.custodian with registry := h₂.foreign }
    native times none h₁.foreign rfl hh.foreign.symm hw
  rw [act, act]
  revert htoken hforeign hworld
  generalize registerTimes native times none { h₁.custodian with registry := h₁.foreign } = p₁
  generalize registerTimes native times none { h₂.custodian with registry := h₂.foreign } = p₂
  obtain ⟨t₁, c₁⟩ := p₁
  obtain ⟨t₂, c₂⟩ := p₂
  rintro ⟨⟩ hforeign hworld
  cases t₁ with
  | none => exact ⟨.same _, .nil, hh⟩
  | some t =>
    have hafter : HistoryState.Alike R since
        { h₁ with
          custodian := { h₁.custodian with world := c₁.world }
          foreign := c₁.registry }
        { h₂ with
          custodian := { h₂.custodian with world := c₂.world }
          foreign := c₂.registry } :=
      ⟨⟨r, n₁, n₂, hr₁, hr₂, hworld⟩, hforeign, hh.names⟩
    exact ⟨.same _, .nil, hafter.bind name t⟩

/-- A conversion answers the same, when what is done during it does. -/
theorem alike_transfer (he : Engine.Matched R e₁ e₂) (hh : HistoryState.Alike R since h₁ h₂)
    (name : String) (derived : Option String) (reply : Reply RawHandle) {during : List Operation}
    (hduring : ∀ (inside₁ : HistoryState ε₁ σ) (inside₂ : HistoryState ε₂ σ),
      HistoryState.Alike R since inside₁ inside₂ →
      List.Forall₂ StepReport.Alike (runAll e₁ inside₁ during).1 (runAll e₂ inside₂ during).1 ∧
        HistoryState.Alike R since (runAll e₁ inside₁ during).2 (runAll e₂ inside₂ during).2) :
    (act e₁ h₁ (.transfer name derived during reply)).1.Alike
      (act e₂ h₂ (.transfer name derived during reply)).1 ∧
    List.Forall₂ StepReport.Alike (act e₁ h₁ (.transfer name derived during reply)).2.1
      (act e₂ h₂ (.transfer name derived during reply)).2.1 ∧
    HistoryState.Alike R since (act e₁ h₁ (.transfer name derived during reply)).2.2
      (act e₂ h₂ (.transfer name derived during reply)).2.2 := by
  have hgiven := hh.giveUp name
  have hnames : h₁.names.lookup name = h₂.names.lookup name := by rw [hh.names]
  cases hl : h₂.names.lookup name with
  | none =>
    simp only [act, hl, hnames.trans hl]
    exact ⟨.same _, .nil, hh⟩
  | some named =>
    obtain ⟨source, live⟩ := named
    cases live with
    | false =>
      simp only [act, hl, hnames.trans hl]
      exact ⟨.same _, .nil, hh⟩
    | true =>
      obtain ⟨e, hb₁, hb₂⟩ | ⟨gpu, c₁, c₂, hb₁, hb₂, hc⟩ := hgiven.custodian.beginTransfer source.id
      · simp only [act, hl, hnames.trans hl, hb₁, hb₂]
        exact ⟨.same _, .nil, hgiven⟩
      · obtain ⟨hnested, hinside⟩ := hduring { h₁.giveUp name with custodian := c₁ }
          { h₂.giveUp name with custodian := c₂ } ⟨hc, hgiven.foreign, hgiven.names⟩
        have hends := hinside.custodian.finishTransfer he source.id gpu reply
        simp only [act, hl, hnames.trans hl, hb₁, hb₂]
        revert hnested hinside hends
        generalize runAll e₁ _ during = inside₁
        generalize runAll e₂ _ during = inside₂
        intro hnested hinside
        generalize inside₁.2.custodian.finishTransfer e₁ source.id gpu reply = p₁
        generalize inside₂.2.custodian.finishTransfer e₂ source.id gpu reply = p₂
        obtain ⟨end₁, c₁⟩ := p₁
        obtain ⟨end₂, c₂⟩ := p₂
        rintro ⟨⟨⟩, hc⟩
        have hafter : HistoryState.Alike R since { inside₁.2 with custodian := c₁ }
            { inside₂.2 with custodian := c₂ } := ⟨hc, hinside.foreign, hinside.names⟩
        cases end₁ with
        | moved t =>
          refine ⟨.same _, .cons (.plain _) hnested, ?_⟩
          cases derived with
          | none => exact hafter
          | some n => exact hafter.bind n t
        | refused e => exact ⟨.same _, .cons (.plain _) hnested, hafter⟩
        | panicked message => exact ⟨.same _, .cons (.plain _) hnested, hafter⟩

/-- An operation is reported alike, when it answers the same. -/
theorem alike_run_of_act (hh : HistoryState.Alike R since h₁ h₂) {o : Operation}
    (hact : (act e₁ h₁ o).1.Alike (act e₂ h₂ o).1 ∧
      List.Forall₂ StepReport.Alike (act e₁ h₁ o).2.1 (act e₂ h₂ o).2.1 ∧
      HistoryState.Alike R since (act e₁ h₁ o).2.2 (act e₂ h₂ o).2.2) :
    (run e₁ h₁ o).1.Alike (run e₂ h₂ o).1 ∧
      HistoryState.Alike R since (run e₁ h₁ o).2 (run e₂ h₂ o).2 := by
  have hlog₁ := (evolves_run e₁ h₁ o).log_extends
  have hlog₂ := (evolves_run e₂ h₂ o).log_extends
  rw [run_snd] at hlog₁ hlog₂
  rw [run, run]
  revert hact hlog₁ hlog₂
  generalize act e₁ h₁ o = p₁
  generalize act e₂ h₂ o = p₂
  obtain ⟨a₁, nested₁, h₁'⟩ := p₁
  obtain ⟨a₂, nested₂, h₂'⟩ := p₂
  rintro ⟨hanswer, hnested, hafter⟩ hlog₁ hlog₂
  have hfreed := freedIn_drop_eq hh hafter hlog₁ hlog₂
  obtain ⟨r, n₁, n₂, hr₁, hr₂, -⟩ := hafter.custodian
  have hfull : StepReport.Alike
      (.full a₁ nested₁ ((h₁'.custodian.world.log.drop h₁.custodian.world.log.length).filter
        Event.isRelease) h₁'.custodian.registry)
      (.full a₂ nested₂ ((h₂'.custodian.world.log.drop h₂.custodian.world.log.length).filter
        Event.isRelease) h₂'.custodian.registry) := by
    rw [hr₁, hr₂]
    refine .full r n₁ n₂ hanswer hnested ?_
    rw [freedIn_filter_isRelease, freedIn_filter_isRelease]
    exact hfreed
  cases hanswer with
  | text r n₁ n₂ => exact ⟨hfull, hafter⟩
  | same =>
    cases a₁ with
    | consumed => exact ⟨.plain _, hafter⟩
    | _ => exact ⟨hfull, hafter⟩

mutual

/-- Whatever was refused, an operation answers the same. -/
theorem alike_run (he : Engine.Matched R e₁ e₂) {h₁ : HistoryState ε₁ σ} {h₂ : HistoryState ε₂ σ}
    (hh : HistoryState.Alike R since h₁ h₂) (o : Operation) :
    (run e₁ h₁ o).1.Alike (run e₂ h₂ o).1 ∧
      HistoryState.Alike R since (run e₁ h₁ o).2 (run e₂ h₂ o).2 := by
  apply alike_run_of_act hh
  have hlookup : ∀ name, h₁.names.lookup name = h₂.names.lookup name := by
    intro name
    rw [hh.names]
  match o with
  | .register native name =>
    obtain ⟨htoken, hc⟩ := hh.custodian.register native
    have hafter : HistoryState.Alike R since
        { h₁ with custodian := (h₁.custodian.register native).2 }
        { h₂ with custodian := (h₂.custodian.register native).2 } := ⟨hc, hh.foreign, hh.names⟩
    simp only [act, htoken]
    exact ⟨.same _, .nil, hafter.bind name _⟩
  | .registerForeign native times name => exact alike_registerForeign hh native times name
  | .transfer name derived during reply =>
    exact alike_transfer he hh name derived reply fun _ _ hinside => alike_runAll he hinside during
  | .lookup name during =>
    match hl : h₂.names.lookup name with
    | none =>
      simp only [act, hl, (hlookup name).trans hl]
      exact ⟨.same _, .nil, hh⟩
    | some (t, _) =>
      have hfound : h₁.custodian.registry.lookup t.id = h₂.custodian.registry.lookup t.id := by
        unfold Registry.lookup Registry.slot?
        rw [hh.custodian.slots_eq]
      simp only [act, hl, (hlookup name).trans hl, hfound]
      split
      · exact ⟨.same _, .nil, hh⟩
      · obtain ⟨hnested, hinside⟩ := alike_runAll he hh during
        exact ⟨.same _, hnested, hinside⟩
  | .release name =>
    match hl : h₂.names.lookup name with
    | none =>
      simp only [act, hl, (hlookup name).trans hl]
      exact ⟨.same _, .nil, hh⟩
    | some (t, _) =>
      simp only [act, hl, (hlookup name).trans hl]
      exact ⟨.same _, .nil, hh.custodian.release he t.id, hh.foreign, hh.names⟩
  | .releaseAll =>
    obtain ⟨hcount, hc⟩ := hh.custodian.releaseAll he
    simp only [act, hcount]
    exact ⟨.same _, .nil, hc, hh.foreign, hh.names⟩
  | .state name =>
    have hslots := hh.custodian.slots_eq
    simp only [act, hlookup name, Registry.slot?, hslots]
    exact ⟨.same _, .nil, hh⟩
  | .outstanding =>
    obtain ⟨r, n₁, n₂, hr₁, hr₂, -⟩ := hh.custodian
    simp only [act, hr₁, hr₂]
    exact ⟨.same _, .nil, hh⟩
  | .describe =>
    obtain ⟨r, n₁, n₂, hr₁, hr₂, -⟩ := hh.custodian
    simp only [act, hr₁, hr₂]
    exact ⟨.text r n₁ n₂, .nil, hh⟩
  | .stats =>
    simp only [act]
    exact ⟨.same _, .nil, hh⟩
  | .drop =>
    obtain ⟨-, hc⟩ := hh.custodian.releaseAll he
    simp only [act]
    exact ⟨.same _, .nil, hc, hh.foreign, hh.names⟩

/-- Whatever was refused, a history answers the same. -/
theorem alike_runAll (he : Engine.Matched R e₁ e₂) {h₁ : HistoryState ε₁ σ} {h₂ : HistoryState ε₂ σ}
    (hh : HistoryState.Alike R since h₁ h₂) (os : List Operation) :
    List.Forall₂ StepReport.Alike (runAll e₁ h₁ os).1 (runAll e₂ h₂ os).1 ∧
      HistoryState.Alike R since (runAll e₁ h₁ os).2 (runAll e₂ h₂ os).2 := by
  match os with
  | [] =>
    rw [runAll, runAll]
    exact ⟨.nil, hh⟩
  | o :: os =>
    obtain ⟨hreport, hrun⟩ := alike_run he hh o
    obtain ⟨hreports, hall⟩ := alike_runAll he hrun os
    rw [runAll, runAll]
    exact ⟨.cons hreport hreports, hall⟩

end

end Operation

end VectorIndex
