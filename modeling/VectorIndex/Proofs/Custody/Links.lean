import VectorIndex.Proofs.Custody.Invariance

/-!
# Links between handles

A handle that was transferred is linked to the one that it was transferred into.  Links lead to
handles that were registered later, each of them to another one (`Registry.Forward`), so that
following them comes to an end.  All elementary steps keep this, and with them every history.
-/

set_option autoImplicit false

namespace VectorIndex

open Relation (ReflTransGen)

variable {ε σ : Type}

namespace Registry

/-- One handle was transferred into another one. -/
def Linked (r : Registry) (id into : HandleId) : Prop :=
  r.slot? id = some (.transferred into)

/-- Links lead to handles that were registered later, each of them to another one. -/
structure Forward (r : Registry) : Prop where
  ascends : ∀ {id into : HandleId}, r.Linked id into → id.place < into.place
  registered : ∀ {id into : HandleId}, r.Linked id into → into.place < r.slots.length
  injective : ∀ {id id' into : HandleId}, r.Linked id into → r.Linked id' into → id = id'

variable {r r' : Registry} {id into : HandleId}

/-- A handle with a link has a slot. -/
theorem Linked.lt_length (h : r.Linked id into) : id.place < r.slots.length := by
  obtain ⟨hlt, -⟩ := List.getElem?_eq_some_iff.1 h
  exact hlt

/-- A link is not among new slots that have none. -/
theorem Linked.of_append {slots new : List Slot} (h : r.Linked id into)
    (hslots : r.slots = slots ++ new) (hnew : ∀ s ∈ new, ∀ into, s ≠ .transferred into) :
    slots[id.place]? = some (.transferred into) := by
  unfold Linked slot? at h
  rw [hslots] at h
  by_cases hid : id.place < slots.length
  · rw [List.getElem?_append_left hid] at h
    exact h
  · rw [List.getElem?_append_right (by omega)] at h
    exact absurd rfl (hnew _ (List.mem_of_getElem? h) into)

/-- A link is an old one, or that of the slot which was set. -/
theorem Linked.of_setSlot {other : HandleId} {s : Slot}
    (h : (r.setSlot other s).Linked id into) :
    r.Linked id into ∨ id = other ∧ s = .transferred into := by
  by_cases hid : id = other
  · subst hid
    right
    obtain ⟨hlt, heq⟩ := List.getElem?_eq_some_iff.1 h
    simp only [setSlot, List.getElem_set_self] at heq
    exact ⟨rfl, heq⟩
  · left
    unfold Linked at h
    rw [slot_setSlot_ne r hid] at h
    exact h

/-- What makes no links keeps them forward. -/
theorem Forward.of_linked (h : r.Forward)
    (hlinked : ∀ id into, r'.Linked id into → r.Linked id into)
    (hlength : r.slots.length ≤ r'.slots.length) : r'.Forward where
  ascends hl := h.ascends (hlinked _ _ hl)
  registered hl := Nat.lt_of_lt_of_le (h.registered (hlinked _ _ hl)) hlength
  injective hl hl' := h.injective (hlinked _ _ hl) (hlinked _ _ hl')

/-- Links point forward in any registry with the same slots. -/
theorem Forward.of_slots_eq (h : r.Forward) (hslots : r'.slots = r.slots) : r'.Forward := by
  refine h.of_linked ?_ ?_
  · intro id into hl
    unfold Linked slot? at hl
    rw [hslots] at hl
    exact hl
  · rw [hslots]

/-- A slot that is no link may be put anywhere. -/
theorem Forward.setSlot (h : r.Forward) {s : Slot} (hs : ∀ into, s ≠ .transferred into) :
    (r.setSlot id s).Forward := by
  refine h.of_linked ?_ ?_
  · intro other into hl
    obtain hold | ⟨-, heq⟩ := hl.of_setSlot
    · exact hold
    · exact absurd heq (hs into)
  · exact Nat.le_of_eq (List.length_set ..).symm

/-- A link to a new handle is forward. -/
theorem Forward.of_linked_next {source : HandleId} (h : r.Forward)
    (hsource : source.place < r.slots.length)
    (hlinked : ∀ id into, r'.Linked id into → r.Linked id into ∨ id = source ∧ into = r.nextId)
    (hlength : r'.slots.length = r.slots.length + 1) : r'.Forward where
  ascends hl := by
    obtain hold | ⟨rfl, rfl⟩ := hlinked _ _ hl
    · exact h.ascends hold
    · exact hsource
  registered hl := by
    rw [hlength]
    obtain hold | ⟨rfl, rfl⟩ := hlinked _ _ hl
    · exact Nat.lt_succ_of_lt (h.registered hold)
    · exact Nat.lt_succ_self _
  injective hl hl' := by
    -- No link led to the new handle before.
    have hnew : ∀ {id}, ¬ r.Linked id r.nextId := by
      intro id hold
      exact Nat.lt_irrefl _ (h.registered hold)
    obtain hold | ⟨rfl, rfl⟩ := hlinked _ _ hl
    · obtain hold' | ⟨rfl, rfl⟩ := hlinked _ _ hl'
      · exact h.injective hold hold'
      · exact absurd hold hnew
    · obtain hold' | ⟨rfl, -⟩ := hlinked _ _ hl'
      · exact absurd hold' hnew
      · rfl

/-- Following links comes to an end: at a handle that was not transferred. -/
theorem Forward.exists_last (h : r.Forward) (id : HandleId) :
    ∃ last, ReflTransGen r.Linked id last ∧ ∀ into, ¬ r.Linked last into := by
  induction hn : r.slots.length - id.place using Nat.strong_induction_on generalizing id with
  | _ n ih =>
    by_cases hlinked : ∃ into, r.Linked id into
    · obtain ⟨into, hinto⟩ := hlinked
      have hascends := h.ascends hinto
      have hbound := hinto.lt_length
      obtain ⟨last, hpath, hlast⟩ := ih (r.slots.length - into.place) (by omega) into rfl
      exact ⟨last, .head hinto hpath, hlast⟩
    · exact ⟨id, .refl, fun into hinto => hlinked ⟨into, hinto⟩⟩

end Registry

namespace Custodian

variable {engine : Engine ε} {c c' : Custodian ε σ} {id : HandleId} {gpu : NativeIndex}

/-- To register an index leaves the links pointing forward. -/
theorem forward_register (native : NativeIndex) (h : c.registry.Forward) :
    (c.register native).2.registry.Forward := by
  have hslots : (c.register native).2.registry.slots = c.registry.slots ++ [.live native] := rfl
  refine h.of_linked ?_ ?_
  · intro id into hl
    refine hl.of_append hslots ?_
    intro s hs into' heq
    subst heq
    cases List.mem_singleton.1 hs
  · rw [hslots, List.length_append]
    exact Nat.le_add_right ..

/-- To release a handle leaves the links pointing forward. -/
theorem forward_release (engine : Engine ε) (id : HandleId) (h : c.registry.Forward) :
    (c.release engine id).registry.Forward := by
  obtain ⟨native, -, heq⟩ | ⟨-, heq⟩ := release_cases engine id c
  · have hfreed : (c.registry.setSlot id .released).Forward := by
      apply h.setSlot
      intro into hs
      cases hs
    rw [heq]
    exact hfreed.of_slots_eq (slots_freeAll ..)
  · rw [heq]
    exact h

/-- To release everything leaves the links pointing forward. -/
theorem forward_releaseAll (engine : Engine ε) (h : c.registry.Forward) :
    (c.releaseAll engine).2.registry.Forward := by
  have hslots : (c.releaseAll engine).2.registry.slots = c.registry.retireAll.slots :=
    slots_releaseAll_go engine _ _
  refine h.of_linked ?_ ?_
  · intro id into hl
    unfold Registry.Linked Registry.slot? at hl
    rw [hslots] at hl
    obtain ⟨s, hs, heq⟩ := Option.map_eq_some_iff.1 (List.getElem?_map.symm.trans hl)
    split at heq
    · cases heq
    · rw [heq] at hs
      exact hs
  · rw [hslots]
    exact Nat.le_of_eq (List.length_map ..).symm

/-- A conversion that begins leaves the links pointing forward. -/
theorem forward_beginTransfer (hb : c.beginTransfer id = .ok (gpu, c')) (h : c.registry.Forward) :
    c'.registry.Forward := by
  obtain ⟨-, rfl⟩ := beginTransfer_eq_ok hb
  apply h.setSlot
  intro into hs
  cases hs

/-- Of what a conversion does, only its success makes a link, and that leads to the copy. -/
theorem forward_finishTransfer (engine : Engine ε) {s : Slot} (hs : c.registry.slot? id = some s)
    (hended : s = .converting gpu ∨ s = .released) (reply : Reply RawHandle)
    (h : c.registry.Forward) :
    (c.finishTransfer engine id gpu reply).2.registry.Forward := by
  have hslots := slots_finishTransfer engine hs gpu reply
  have hnew : ∀ t ∈ reply.newSlots gpu, ∀ into, t ≠ .transferred into := by
    intro t ht into heq
    subst heq
    match reply with
    | .ok raw => cases List.mem_singleton.1 ht
    | .failed message none => cases ht
    | .failed message (some native) => cases List.mem_singleton.1 ht
    | .panicked message => cases ht
  have hlinked : ∀ other into, (c.finishTransfer engine id gpu reply).2.registry.Linked other into →
      c.registry.Linked other into ∨
        other = id ∧ reply.sourceSlot c.registry.nextId s = .transferred into := by
    intro other into hl
    exact Registry.Linked.of_setSlot (r := c.registry) (hl.of_append hslots hnew)
  have hlength := congrArg List.length hslots
  rw [List.length_append, List.length_set] at hlength
  cases reply with
  | ok raw =>
    obtain ⟨hlt, -⟩ := List.getElem?_eq_some_iff.1 hs
    refine h.of_linked_next hlt ?_ hlength
    intro other into hl
    obtain hold | ⟨rfl, heq⟩ := hlinked other into hl
    · exact .inl hold
    · cases heq
      exact .inr ⟨rfl, rfl⟩
  | failed message partialIndex =>
    refine h.of_linked ?_ (by omega)
    intro other into hl
    obtain hold | ⟨-, heq⟩ := hlinked other into hl
    · exact hold
    · cases heq
  | panicked message =>
    refine h.of_linked ?_ (by omega)
    intro other into hl
    obtain hold | ⟨-, heq⟩ := hlinked other into hl
    · exact hold
    · obtain rfl | rfl := hended <;> cases heq

/-- Links point forward in every history. -/
theorem invariant_forward (engine : Engine ε) :
    Invariant (σ := σ) engine fun _ c => c.registry.Forward where
  register native h := forward_register native h
  elsewhere _ h := h
  release id h := forward_release engine id h
  releaseAll h := forward_releaseAll engine h
  begins hb h := forward_beginTransfer hb h
  finishes _ reply hs hended h := forward_finishTransfer engine hs hended reply h

end Custodian

end VectorIndex
