import VectorIndex.Proofs.Custody.Account

/-!
# What is recorded

`World.Records` says that one world is a later state of another one as far as the log goes, and that
every event recorded in between is of some kind.  A custodian records nothing but turns in the life
of handles, requests to free something, and warnings.
-/

set_option autoImplicit false

namespace VectorIndex

variable {ε σ : Type}

/-- All events that were recorded in between satisfy a condition. -/
def World.Records (p : Event → Prop) (w w' : World ε σ) : Prop :=
  ∃ events, w'.log = w.log ++ events ∧ ∀ e ∈ events, p e

/-- Whether an event is about custody: a turn in the life of a handle, a request to free a
structure, or a warning that it was refused. -/
def Event.isCustody : Event → Bool
  | .handle _ => true
  | .cleanupWarning => true
  | .structureReleased .. => true
  | _ => false

namespace World

variable {p q : Event → Prop} {w w' w'' : World ε σ}

/-- Without a new event any condition is satisfied. -/
theorem Records.of_log_eq (h : w'.log = w.log) : w.Records p w' := by
  refine ⟨[], ?_, List.forall_mem_nil p⟩
  rw [h, List.append_nil]

/-- A world is a later state of itself. -/
theorem Records.refl (p : Event → Prop) (w : World ε σ) : w.Records p w :=
  .of_log_eq rfl

/-- What was recorded in two stretches of time was recorded in both together. -/
theorem Records.trans (h : w.Records p w') (h' : w'.Records p w'') : w.Records p w'' := by
  obtain ⟨events, hlog, hall⟩ := h
  obtain ⟨events', hlog', hall'⟩ := h'
  refine ⟨events ++ events', ?_, ?_⟩
  · rw [hlog', hlog, List.append_assoc]
  · intro e he
    obtain he | he := List.mem_append.1 he
    · exact hall e he
    · exact hall' e he

/-- One more event that satisfies the condition can be recorded. -/
theorem Records.record (h : w.Records p w') {e : Event} (he : p e) : w.Records p (w'.record e) := by
  apply h.trans
  refine ⟨[e], rfl, ?_⟩
  intro e' he'
  rw [List.mem_singleton.1 he']
  exact he

/-- A condition can be replaced by a weaker one. -/
theorem Records.mono (h : w.Records p w') (hpq : ∀ e, p e → q e) : w.Records q w' := by
  obtain ⟨events, hlog, hall⟩ := h
  exact ⟨events, hlog, fun e he => hpq e (hall e he)⟩

/-- A request to free a structure records nothing but custody. -/
theorem records_free (engine : Engine ε) (raw : RawHandle) (kind : StructureKind) (w : World ε σ) :
    w.Records (·.isCustody = true) (w.free engine raw kind).2 := by
  unfold free
  generalize engine.release raw kind w.memory = answer
  obtain ⟨refusal, memory⟩ := answer
  have hasked : w.Records (·.isCustody = true)
      (({ w with memory } : World ε σ).record (.structureReleased raw kind refusal)) :=
    Records.record (.of_log_eq rfl) rfl
  cases refusal with
  | none => exact hasked
  | some message => exact hasked.record rfl

end World

namespace Custodian

variable (engine : Engine ε)

/-- To free components records nothing but custody. -/
theorem records_freeAll (xs : List Component) (c : Custodian ε σ) :
    c.world.Records (·.isCustody = true) (freeAll engine xs c).world := by
  induction xs generalizing c with
  | nil => exact .refl _ c.world
  | cons x xs ih =>
    rw [freeAll_cons]
    exact (World.records_free engine x.1 x.2 c.world).trans (ih _)

/-- To release everything records nothing but custody. -/
theorem records_releaseAll (c : Custodian ε σ) :
    c.world.Records (·.isCustody = true) (c.releaseAll engine).2.world := by
  have hgo : ∀ (natives : List NativeIndex) (c : Custodian ε σ),
      c.world.Records (·.isCustody = true) (releaseAll.go engine natives c).world := by
    intro natives
    induction natives with
    | nil => exact fun c => .refl _ c.world
    | cons native natives ih =>
      intro c
      have hended : c.world.Records (·.isCustody = true) (c.world.record (.handle .released)) :=
        (World.Records.refl _ c.world).record rfl
      rw [releaseAll.go]
      exact (hended.trans (records_freeAll engine native.components _)).trans (ih _)
  exact hgo _ _

end Custodian

end VectorIndex
