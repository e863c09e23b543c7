import Mathlib.Tactic.Common
import VectorIndex.Custody.Custodian

/-!
# What a custodian holds and what it has freed

A component is a structure of an engine together with its kind.  The account of a
custodian lists the components that its slots still hold and those that the engine was
asked to free.  Registering an index adds its components to the account, and every other
operation leaves the account as it is; the one exception is a conversion whose source was
freed under it, which frees the components of the source once more.  The overcount says
how many ends of handles were counted too often, and changes in the same exception only.
-/

set_option autoImplicit false

open scoped List

namespace VectorIndex

/-- A structure as its owner names it. -/
abbrev Component := RawHandle × StructureKind

/-! ## Components of an index -/

/-- The components of an index differ by their kinds. -/
theorem NativeIndex.components_nodup (n : NativeIndex) : n.components.Nodup := by
  obtain ⟨residency, index, idMap⟩ := n
  cases residency <;> cases idMap <;> simp [components, Residency.graphKind]

/-- A conversion moves the id map of its source to the copy and leaves the graph of the source. -/
theorem NativeIndex.components_converted (gpu : NativeIndex) (raw : RawHandle) :
    (NativeIndex.cpu raw gpu.idMap).components ++ { gpu with idMap := none }.components ~
      gpu.components ++ [(raw, .cpuIndex)] := by
  simp only [components, NativeIndex.cpu, Residency.graphKind, Option.toList_none, List.map_nil,
    List.nil_append, List.append_assoc]
  exact (List.Perm.swap _ _ []).append_left _

/-- The components that a conversion hands over: the copy, or what a failure left behind. -/
def Reply.outputs : Reply RawHandle → List Component
  | .ok raw => [(raw, .cpuIndex)]
  | .failed _ (some native) => native.components
  | .failed _ none => []
  | .panicked _ => []

/-- Whether a call returns, be it with a failure. -/
def Reply.returns {α : Type} : Reply α → Bool
  | .ok _ => true
  | .failed .. => true
  | .panicked _ => false

/-- What stands in the slot of a source after its conversion. -/
def Reply.sourceSlot (into : HandleId) (before : Slot) : Reply RawHandle → Slot
  | .ok _ => .transferred into
  | .failed .. => .released
  | .panicked _ => before

/-- The slots that a conversion adds: that of the copy, or that of what a failure left behind, which
is freed at once. -/
def Reply.newSlots (gpu : NativeIndex) : Reply RawHandle → List Slot
  | .ok raw => [.live (.cpu raw gpu.idMap)]
  | .failed _ (some _) => [.released]
  | .failed _ none => []
  | .panicked _ => []

/-! ## Components that are held -/

/-- The components that a slot still holds. -/
def Slot.components : Slot → List Component
  | .live native => native.components
  | .converting native => native.components
  | .transferred _ => []
  | .released => []

/-- The slot of an index that is held has the components of this index. -/
theorem Slot.components_of_held {s : Slot} {n : NativeIndex} (h : s.held? = some n) :
    s.components = n.components := by
  cases s <;> cases h <;> rfl

/-- A slot that holds nothing has no components. -/
theorem Slot.components_of_held_none {s : Slot} (h : s.held? = none) : s.components = [] := by
  cases s <;> first | rfl | cases h

/-- The components of a slot differ. -/
theorem Slot.components_nodup (s : Slot) : s.components.Nodup := by
  cases s with
  | live n => exact n.components_nodup
  | converting n => exact n.components_nodup
  | transferred _ => exact List.nodup_nil
  | released => exact List.nodup_nil

/-- The slot of a handle whose life ended: it moved on to another handle or was freed. -/
def Slot.ofDerived : Option HandleId → Slot
  | some into => .transferred into
  | none => .released

/-- A slot that was settled has no components. -/
theorem Slot.components_ofDerived (derived : Option HandleId) :
    (Slot.ofDerived derived).components = [] := by
  cases derived <;> rfl

/-- A slot that was settled holds nothing. -/
theorem Slot.held_ofDerived (derived : Option HandleId) :
    (Slot.ofDerived derived).held? = none := by
  cases derived <;> rfl

namespace Registry

/-- The components that still have to be freed, in the order of registration. -/
def held (r : Registry) : List Component :=
  r.slots.flatMap Slot.components

/-- The slots that hold a component. -/
def holders (r : Registry) (x : Component) : Nat :=
  r.slots.countP fun s => x ∈ s.components

/-- A component is held as often as there are slots that hold it. -/
theorem holders_eq_count (r : Registry) (x : Component) : r.holders x = r.held.count x := by
  unfold holders held
  induction r.slots with
  | nil => rfl
  | cons s slots ih =>
    rw [List.countP_cons, List.flatMap_cons, List.count_append, ih,
      s.components_nodup.count (a := x)]
    by_cases hx : x ∈ s.components
    · simp only [hx, decide_true, if_true]
      exact Nat.add_comm _ _
    · simp only [hx, decide_false, Bool.false_eq_true, if_false]
      exact Nat.add_comm _ _

/-- The components of the indexes that are pending are those that are held. -/
theorem flatMap_pending (r : Registry) : r.pending.flatMap NativeIndex.components = r.held := by
  unfold pending held
  induction r.slots with
  | nil => rfl
  | cons s slots ih =>
    cases hs : s.held? with
    | none =>
      rw [List.filterMap_cons_none hs, List.flatMap_cons, Slot.components_of_held_none hs, ih,
        List.nil_append]
    | some n =>
      rw [List.filterMap_cons_some hs, List.flatMap_cons, List.flatMap_cons,
        Slot.components_of_held hs, ih]

/-- As many handles are live or being converted as there are indexes pending. -/
theorem length_pending (r : Registry) : r.pending.length = r.liveCount := by
  unfold pending liveCount
  rw [List.length_filterMap_eq_countP]

/-- Whatever the order of a sweep, what it frees is what is pending. -/
theorem perm_arrange (r : Registry) (order : SweepOrder) :
    (order.arrange r.slots).Perm r.pending :=
  order.perm r.slots

/-- Where at most one index is pending, every sweep has the same order. -/
theorem arrange_of_length_pending {r : Registry} (h : r.pending.length ≤ 1) (order : SweepOrder) :
    order.arrange r.slots = r.pending := by
  have hperm := r.perm_arrange order
  match hpending : r.pending with
  | [] => rwa [hpending, List.perm_nil] at hperm
  | [native] => rwa [hpending, List.perm_singleton] at hperm
  | _ :: _ :: _ =>
    rw [hpending] at h
    exact absurd h (by simp)

/-- Ends of handles that were counted too often.  It is zero as long as the handles whose life has
not ended are the live ones and those that are being converted. -/
def overcount (r : Registry) : Int :=
  (r.tally.released : Int) + r.liveCount - r.tally.registered

/-- Without an overcount the outstanding handles are the live ones and those being converted. -/
theorem outstanding_eq_liveCount {r : Registry} (h : r.overcount = 0) :
    r.tally.outstanding = .ok r.liveCount := by
  unfold overcount at h
  unfold HandleTally.outstanding
  rw [if_pos (by omega)]
  congr 1
  omega

end Registry

/-! ## Changing a slot -/

/-- Putting another entry into a list exchanges what the two entries contribute. -/
theorem flatMap_set_perm {α β : Type} (f : α → List β) {xs : List α} {i : Nat} {old : α}
    (h : xs[i]? = some old) (new : α) :
    (xs.set i new).flatMap f ++ f old ~ xs.flatMap f ++ f new := by
  induction xs generalizing i with
  | nil => simp at h
  | cons x xs ih =>
    cases i with
    | zero =>
      obtain rfl : x = old := by simpa using h
      simp only [List.set_cons_zero, List.flatMap_cons]
      calc f new ++ xs.flatMap f ++ f x
          ~ f x ++ (f new ++ xs.flatMap f) := List.perm_append_comm
        _ ~ f x ++ (xs.flatMap f ++ f new) := List.perm_append_comm.append_left _
        _ = f x ++ xs.flatMap f ++ f new := (List.append_assoc ..).symm
    | succ i =>
      simp only [List.set_cons_succ, List.flatMap_cons, List.append_assoc]
      exact (ih h).append_left (f x)

namespace Registry

variable {r : Registry} {id : HandleId} {old : Slot}

/-- Another slot exchanges the components of the old one for its own. -/
theorem held_setSlot (h : r.slot? id = some old) (new : Slot) :
    (r.setSlot id new).held ++ old.components ~ r.held ++ new.components :=
  flatMap_set_perm Slot.components h new

/-- Changing a slot changes the number of slots of a kind by those two that are exchanged. -/
theorem countP_setSlot (p : Slot → Bool) (h : r.slot? id = some old) (new : Slot) :
    (r.setSlot id new).slots.countP p + (if p old then 1 else 0) =
      r.slots.countP p + (if p new then 1 else 0) := by
  obtain ⟨hi, rfl⟩ := List.getElem?_eq_some_iff.1 h
  simp only [setSlot]
  rw [List.countP_set hi]
  by_cases ho : p r.slots[id.place]
  · have hpos : 0 < r.slots.countP p := List.countP_pos_iff.2 ⟨_, List.getElem_mem hi, ho⟩
    simp only [ho, if_true]
    omega
  · simp only [ho, Bool.false_eq_true, if_false]
    omega

/-- Another slot changes the count of live handles by whether each of the two holds an index. -/
theorem liveCount_setSlot (h : r.slot? id = some old) (new : Slot) :
    (r.setSlot id new).liveCount + (if old.held?.isSome then 1 else 0) =
      r.liveCount + (if new.held?.isSome then 1 else 0) :=
  countP_setSlot (fun s => s.held?.isSome) h new

end Registry

end VectorIndex
