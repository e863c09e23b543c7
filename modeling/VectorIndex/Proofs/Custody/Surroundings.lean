import VectorIndex.Proofs.Custody.Account

/-!
# What a custodian leaves alone

A custodian changes the memory of the engine and adds to the log.  The store and the disk
stay as they are, and the memory changes only where the engine is asked to free something.
-/

set_option autoImplicit false

namespace VectorIndex

variable {ε σ : Type}

/-- To free a structure touches neither the store nor the disk. -/
theorem World.toMedium_free (engine : Engine ε) (raw : RawHandle) (kind : StructureKind)
    (w : World ε σ) : (w.free engine raw kind).2.toMedium = w.toMedium := by
  unfold World.free
  generalize engine.release raw kind w.memory = answer
  obtain ⟨refusal, memory⟩ := answer
  cases refusal <;> rfl

/-- To free a structure changes the memory as the engine does. -/
theorem World.memory_free (engine : Engine ε) (raw : RawHandle) (kind : StructureKind)
    (w : World ε σ) : (w.free engine raw kind).2.memory = (engine.release raw kind w.memory).2 := by
  unfold World.free
  generalize engine.release raw kind w.memory = answer
  obtain ⟨refusal, memory⟩ := answer
  cases refusal <;> rfl

/-- The order of a sweep is not changed by freeing a structure. -/
theorem World.sweep_free (engine : Engine ε) (raw : RawHandle) (kind : StructureKind)
    (w : World ε σ) : (w.free engine raw kind).2.sweep = w.sweep := by
  unfold World.free
  generalize engine.release raw kind w.memory = answer
  obtain ⟨refusal, memory⟩ := answer
  cases refusal <;> rfl

namespace Custodian

variable (engine : Engine ε)

/-- To free components touches neither the store nor the disk. -/
theorem toMedium_freeAll (xs : List Component) (c : Custodian ε σ) :
    (freeAll engine xs c).world.toMedium = c.world.toMedium := by
  induction xs generalizing c with
  | nil => rfl
  | cons x xs ih =>
    rw [freeAll_cons, ih]
    exact World.toMedium_free engine x.1 x.2 c.world

/-- To release a handle touches neither the store nor the disk. -/
theorem toMedium_release (id : HandleId) (c : Custodian ε σ) :
    (c.release engine id).world.toMedium = c.world.toMedium := by
  obtain ⟨native, -, heq⟩ | ⟨-, heq⟩ := release_cases engine id c
  · rw [heq, toMedium_freeAll]
    rfl
  · rw [heq]

/-- To release everything touches neither the store nor the disk. -/
theorem toMedium_releaseAll (c : Custodian ε σ) :
    (c.releaseAll engine).2.world.toMedium = c.world.toMedium := by
  have hgo : ∀ (natives : List NativeIndex) (c : Custodian ε σ),
      (releaseAll.go engine natives c).world.toMedium = c.world.toMedium := by
    intro natives
    induction natives with
    | nil => exact fun c => rfl
    | cons native natives ih =>
      intro c
      rw [releaseAll.go, ih, toMedium_freeAll]
      rfl
  exact hgo _ _

/-- A conversion that ends touches neither the store nor the disk. -/
theorem toMedium_finishTransfer (id : HandleId) (gpu : NativeIndex) (reply : Reply RawHandle)
    (c : Custodian ε σ) :
    (c.finishTransfer engine id gpu reply).2.world.toMedium = c.world.toMedium := by
  cases reply with
  | ok raw => exact toMedium_freeAll engine _ _
  | failed message partialIndex =>
    have hfree : (freeAll engine gpu.components (c.settle id none)).world.toMedium =
        c.world.toMedium := toMedium_freeAll engine _ _
    cases partialIndex with
    | none => exact hfree
    | some native => exact (toMedium_release engine _ _).trans hfree
  | panicked message => rfl

/-- A conversion that succeeded frees the graph that was converted, and nothing else. -/
theorem memory_finishTransfer (id : HandleId) (gpu : NativeIndex) (copy : RawHandle)
    (c : Custodian ε σ) :
    (c.finishTransfer engine id gpu (.ok copy)).2.world.memory =
      (engine.release gpu.index gpu.residency.graphKind c.world.memory).2 :=
  World.memory_free ..

end Custodian

end VectorIndex
