import VectorIndex.Proofs.Custody.Account

/-!
# What the operations of a custodian do to its slots

A slot changes only through an operation on its own handle, or when everything is
released.  In particular what happens during a conversion leaves the slot of its source
alone, unless everything is released.
-/

set_option autoImplicit false

namespace VectorIndex

variable {ε σ : Type}

/-- Another slot that is set leaves a handle where it was. -/
theorem Registry.slot_setSlot_ne (r : Registry) {id other : HandleId} (h : id ≠ other) (s : Slot) :
    (r.setSlot other s).slot? id = r.slot? id :=
  List.getElem?_set_ne fun he => h (by cases id; cases other; exact congrArg _ he.symm)

/-- A slot that is set is found there. -/
theorem Registry.slot_setSlot_self {r : Registry} {id : HandleId} {old : Slot}
    (h : r.slot? id = some old) (s : Slot) : (r.setSlot id s).slot? id = some s := by
  obtain ⟨hi, -⟩ := List.getElem?_eq_some_iff.1 h
  exact List.getElem?_set_self hi

/-- Only the index of a live handle is found. -/
theorem Registry.slot_of_lookup {r : Registry} {id : HandleId} {native : NativeIndex}
    (h : r.lookup id = .ok native) : r.slot? id = some (.live native) := by
  unfold Registry.lookup at h
  split at h
  · next n hn => rw [hn, Except.ok.inj h]
  · cases h
  · cases h

namespace Custodian

variable (engine : Engine ε) {c : Custodian ε σ} {id other : HandleId} {s : Slot}

/-- To free components leaves every slot alone. -/
theorem slot_freeAll (xs : List Component) (c : Custodian ε σ) (id : HandleId) :
    (freeAll engine xs c).registry.slot? id = c.registry.slot? id :=
  congrArg (·[id.place]?) (slots_freeAll engine xs c)

/-- A handle that is not live stays where it is, whatever is released. -/
theorem slot_release_of_not_live (h : c.registry.slot? id = some s)
    (hs : ∀ native, s ≠ .live native) (other : HandleId) :
    (c.release engine other).registry.slot? id = some s := by
  obtain ⟨native, hslot, heq⟩ | ⟨-, heq⟩ := release_cases engine other c
  · have hne : id ≠ other := by
      rintro rfl
      exact hs native (Option.some.inj (h.symm.trans hslot))
    rw [heq, slot_freeAll]
    exact (c.registry.slot_setSlot_ne hne .released).trans h
  · rw [heq]
    exact h

/-- A handle that has a slot still has one after a release. -/
theorem exists_slot_release (h : c.registry.slot? id = some s) (other : HandleId) :
    ∃ s', (c.release engine other).registry.slot? id = some s' := by
  obtain ⟨native, hslot, heq⟩ | ⟨-, heq⟩ := release_cases engine other c
  · rw [heq, slot_freeAll]
    by_cases hid : id = other
    · subst hid
      exact ⟨_, Registry.slot_setSlot_self h .released⟩
    · exact ⟨s, (c.registry.slot_setSlot_ne hid .released).trans h⟩
  · rw [heq]
    exact ⟨s, h⟩

/-- When everything is released, every slot that holds an index is freed. -/
theorem slot_releaseAll (h : c.registry.slot? id = some s) :
    (c.releaseAll engine).2.registry.slot? id =
      some (if s.held?.isSome then .released else s) := by
  unfold releaseAll Registry.slot?
  rw [slots_releaseAll_go]
  exact List.getElem?_map.trans (congrArg _ h)

/-- An index that is registered and released at once leaves a freed slot. -/
theorem slots_release_register (engine : Engine ε) (native : NativeIndex) (c : Custodian ε σ) :
    ((c.register native).2.release engine (c.register native).1.id).registry.slots =
      c.registry.slots ++ [.released] := by
  have hslot : (c.register native).2.registry.slot? (c.register native).1.id =
      some (.live native) := List.getElem?_concat_length
  obtain ⟨n, hn, heq⟩ | ⟨hnone, -⟩ := release_cases engine (c.register native).1.id
    (c.register native).2
  · rw [heq, slots_freeAll]
    refine (List.set_append_right _ _ (Nat.le_refl _)).trans ?_
    simp
  · exact absurd hslot (hnone native)

/-- The slots after a conversion: that of the source has changed, and there is one for a new
index. -/
theorem slots_finishTransfer (h : c.registry.slot? id = some s) (gpu : NativeIndex)
    (reply : Reply RawHandle) :
    (c.finishTransfer engine id gpu reply).2.registry.slots =
      c.registry.slots.set id.place (reply.sourceSlot c.registry.nextId s) ++
        reply.newSlots gpu := by
  obtain ⟨hi, hs⟩ := List.getElem?_eq_some_iff.1 h
  cases reply with
  | ok raw =>
    change (freeAll engine _ (settle id (some c.registry.nextId) _)).registry.slots = _
    rw [slots_freeAll]
    exact List.set_append_left _ _ hi
  | failed message partialIndex =>
    have hfree : (freeAll engine gpu.components (c.settle id none)).registry.slots =
        c.registry.slots.set id.place .released := slots_freeAll ..
    cases partialIndex with
    | none => exact hfree.trans (List.append_nil _).symm
    | some native =>
      have horphan := slots_release_register engine native
        (freeAll engine gpu.components (c.settle id none))
      rw [hfree] at horphan
      exact horphan
  | panicked message =>
    refine (List.append_nil _).symm.trans (congrArg (· ++ []) ?_)
    exact (List.set_getElem_self hi).symm.trans (by rw [hs]; rfl)

/-- The slot of a source after its conversion is told by the reply. -/
theorem slot_finishTransfer_self (h : c.registry.slot? id = some s) (gpu : NativeIndex)
    (reply : Reply RawHandle) :
    (c.finishTransfer engine id gpu reply).2.registry.slot? id =
      some (reply.sourceSlot c.registry.nextId s) := by
  obtain ⟨hi, -⟩ := List.getElem?_eq_some_iff.1 h
  unfold Registry.slot?
  rw [slots_finishTransfer engine h, List.getElem?_append_left (by simpa using hi)]
  exact List.getElem?_set_self hi

/-- A conversion that ends leaves the slots of other handles alone. -/
theorem slot_finishTransfer_ne (h : c.registry.slot? id = some s) {source : Slot}
    (hsource : c.registry.slot? other = some source) (hne : id ≠ other) (gpu : NativeIndex)
    (reply : Reply RawHandle) :
    (c.finishTransfer engine other gpu reply).2.registry.slot? id = some s := by
  obtain ⟨hi, -⟩ := List.getElem?_eq_some_iff.1 h
  unfold Registry.slot?
  rw [slots_finishTransfer engine hsource, List.getElem?_append_left (by simpa using hi)]
  exact (c.registry.slot_setSlot_ne hne _).trans h

/-- The copy that a conversion made is live under the next handle. -/
theorem slot_finishTransfer_ok (h : c.registry.slot? id = some s) (gpu : NativeIndex)
    (raw : RawHandle) :
    (c.finishTransfer engine id gpu (.ok raw)).2.registry.slot? c.registry.nextId =
      some (.live (.cpu raw gpu.idMap)) := by
  unfold Registry.slot?
  rw [slots_finishTransfer engine h, List.getElem?_append_right (by simp [Registry.nextId])]
  simp [Registry.nextId, Reply.newSlots]

end Custodian

end VectorIndex
