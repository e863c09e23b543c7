import VectorIndex.Error
import VectorIndex.Engine.Basic

/-!
# Registered indexes

A run registers every native index that it is responsible for and gets a handle for it.
Behind the handle is a slot, which says where the index is in its life: live, being
converted, moved on to another handle, or freed.  Only the first two still hold
structures.  Slots are never taken away, so a handle keeps its meaning.
-/

set_option autoImplicit false

namespace VectorIndex

/-- The name of a registered index: its place in the registry. -/
structure HandleId where
  place : Nat
  deriving DecidableEq, Repr

/-- The text of a handle; handles are counted from one. -/
def HandleId.text (id : HandleId) : String :=
  "handle-" ++ toString (id.place + 1)

/-- A claim on a registered index.  It is given up when the index is converted. -/
structure TrackedIndex where
  id : HandleId
  residency : Residency
  deriving DecidableEq, Repr

/-- Where a registered index is in its life. -/
inductive Slot where
  | live (native : NativeIndex)
  /-- A conversion is under way, or broke off. -/
  | converting (native : NativeIndex)
  /-- The id map belongs to another handle now. -/
  | transferred (into : HandleId)
  | released
  deriving DecidableEq, Repr

namespace Slot

/-- The structures that still have to be freed for a slot. -/
def held? : Slot → Option NativeIndex
  | .live native => some native
  | .converting native => some native
  | .transferred _ => none
  | .released => none

/-- The state of a slot as it stands in messages. -/
def stateText : Slot → String
  | .live _ => "Live"
  | .converting _ => "Converting"
  | .transferred into => "Transferred \x7b into: HandleId(" ++ toString (into.place + 1) ++ ") \x7d"
  | .released => "Released"

end Slot

/-- Counts over the life of a registry. -/
structure HandleTally where
  registered : Nat := 0
  /-- Handles whose life ended, also those that were converted. -/
  released : Nat := 0
  transferred : Nat := 0
  /-- Structures that the engine refused to free. -/
  failures : Nat := 0
  deriving DecidableEq, Repr

/-- Handles whose life has not ended.  The difference of the counts must not become negative. -/
def HandleTally.outstanding (t : HandleTally) : Except Abort Nat :=
  if t.released ≤ t.registered then .ok (t.registered - t.released) else .error .overflow

/-- The slots of all handles, in the order of registration, and the counts. -/
structure Registry where
  slots : List Slot := []
  tally : HandleTally := {}
  deriving DecidableEq, Repr

namespace Registry

/-- The slot of a handle. -/
def slot? (r : Registry) (id : HandleId) : Option Slot :=
  r.slots[id.place]?

/-- Puts another slot behind a handle. -/
def setSlot (r : Registry) (id : HandleId) (s : Slot) : Registry :=
  { r with slots := r.slots.set id.place s }

/-- The handle that the next registration gets. -/
def nextId (r : Registry) : HandleId :=
  ⟨r.slots.length⟩

/-- Indexes that still have to be freed. -/
def liveCount (r : Registry) : Nat :=
  r.slots.countP fun s => s.held?.isSome

/-- Adds a live index. -/
def add (r : Registry) (native : NativeIndex) : TrackedIndex × Registry :=
  (⟨r.nextId, native.residency⟩,
    { slots := r.slots ++ [.live native]
      tally := { r.tally with registered := r.tally.registered + 1 } })

/-- The index behind a handle that is live. -/
def lookup (r : Registry) (id : HandleId) : Except BuildError NativeIndex :=
  match r.slot? id with
  | some (.live native) => .ok native
  | some s => .error (.ownership (id.text ++ " is not live (state: " ++ s.stateText ++ ")"))
  | none => .error (.ownership (id.text ++ " is not registered"))

/-- Ends the life of a live handle and gives the index that has to be freed.  Any other handle is
left as it is. -/
def retire (r : Registry) (id : HandleId) : Option (NativeIndex × Registry) :=
  match r.slot? id with
  | some (.live native) =>
    some (native, { r.setSlot id .released with
      tally := { r.tally with released := r.tally.released + 1 } })
  | _ => none

/-- Marks a live handle as being converted and gives its index to the conversion. -/
def beginTransfer (r : Registry) (id : HandleId) : Except BuildError (NativeIndex × Registry) :=
  match r.slot? id with
  | some (.live native) => .ok (native, r.setSlot id (.converting native))
  | some s =>
    .error (.ownership ("cannot transfer " ++ id.text ++ ": not live (state: " ++ s.stateText ++ ")"))
  | none => .error (.ownership ("cannot transfer " ++ id.text ++ ": not registered"))

/-- Ends the life of a converted handle, which moved on to another one or was freed. -/
def settle (r : Registry) (id : HandleId) (derived : Option HandleId) : Registry :=
  match derived with
  | some into =>
    { r.setSlot id (.transferred into) with
      tally := { r.tally with
        released := r.tally.released + 1, transferred := r.tally.transferred + 1 } }
  | none =>
    { r.setSlot id .released with tally := { r.tally with released := r.tally.released + 1 } }

/-- Everything that still has to be freed, in the order of registration. -/
def pending (r : Registry) : List NativeIndex :=
  r.slots.filterMap Slot.held?

/-- Ends the life of every handle that still holds an index. -/
def retireAll (r : Registry) : Registry :=
  { slots := r.slots.map fun s => if s.held?.isSome then .released else s
    tally := { r.tally with released := r.tally.released + r.pending.length } }

/-- Counts structures that could not be freed. -/
def addFailures (r : Registry) (n : Nat) : Registry :=
  { r with tally := { r.tally with failures := r.tally.failures + n } }

/-- A description for logs. -/
def describe (r : Registry) : String :=
  "OwnershipManager \x7b stats: OwnershipStats \x7b registered: " ++ toString r.tally.registered ++
    ", released: " ++ toString r.tally.released ++
    ", transferred: " ++ toString r.tally.transferred ++
    ", release_failures: " ++ toString r.tally.failures ++ " \x7d \x7d"

end Registry

/-- In which order indexes are freed when all that are left are freed.  Nothing is said about it but
that it is an order of what the slots hold. -/
structure SweepOrder where
  /-- What the slots hold, in this order. -/
  arrange : List Slot → List NativeIndex
  perm : ∀ slots, (arrange slots).Perm (slots.filterMap Slot.held?)

/-- The order of registration. -/
def SweepOrder.registration : SweepOrder where
  arrange slots := slots.filterMap Slot.held?
  perm _ := .refl _

end VectorIndex
