import VectorIndex.Custody.Registry
import VectorIndex.World

/-!
# Custody of native indexes

A custodian holds the registry of a run and frees structures through the engine.  Every
structure that was handed to it is freed once: when its handle is released, when its
index has been converted, or at the end by `Custodian.releaseAll`.  Whether the engine
refuses to free a structure is counted and has no other effect.

A conversion is in two parts, `beginTransfer` and `finishTransfer`, between which the
conversion itself happens.  What happens in between may use the custodian.
-/

set_option autoImplicit false

namespace VectorIndex

/-- A registry and the world that it acts on. -/
structure Custodian (ε σ : Type) where
  registry : Registry
  world : World ε σ

/-- How a transfer ends. -/
inductive TransferEnd where
  | moved (derived : TrackedIndex)
  | refused (error : BuildError)
  /-- The conversion broke off; its source stays marked as being converted. -/
  | panicked (message : String)
  deriving DecidableEq, Repr

namespace Custodian

variable {ε σ : Type}

/-- Takes responsibility for an index. -/
def register (native : NativeIndex) (c : Custodian ε σ) : TrackedIndex × Custodian ε σ :=
  let (token, registry) := c.registry.add native
  (token, { registry, world := c.world.record (.handle .registered) })

/-- Frees structures in the given order. -/
def freeAll (engine : Engine ε) : List (RawHandle × StructureKind) → Custodian ε σ → Custodian ε σ
  | [], c => c
  | (raw, kind) :: rest, c =>
    let (refusal, world) := c.world.free engine raw kind
    let registry := if refusal.isSome then c.registry.addFailures 1 else c.registry
    freeAll engine rest { registry, world }

/-- Frees the index of a live handle.  For any other handle nothing happens. -/
def release (engine : Engine ε) (id : HandleId) (c : Custodian ε σ) : Custodian ε σ :=
  match c.registry.retire id with
  | some (native, registry) =>
    freeAll engine native.components
      { registry, world := c.world.record (.handle .released) }
  | none => c

/-- Marks a live handle as being converted and gives its index to the conversion. -/
def beginTransfer (id : HandleId) (c : Custodian ε σ) :
    Except BuildError (NativeIndex × Custodian ε σ) :=
  match c.registry.beginTransfer id with
  | .ok (native, registry) => .ok (native, { c with registry })
  | .error e => .error e

/-- Ends the life of a converted handle. -/
def settle (id : HandleId) (derived : Option HandleId) (c : Custodian ε σ) : Custodian ε σ :=
  { registry := c.registry.settle id derived
    world := c.world.record (.handle (if derived.isSome then .transferred else .released)) }

/-- Draws the consequences of a conversion.  After a success the id map belongs to the new handle
and the device graph is freed.  After a failure everything that the source held is freed, and so is
what the conversion left behind. -/
def finishTransfer (engine : Engine ε) (id : HandleId) (gpu : NativeIndex)
    (reply : Reply RawHandle) (c : Custodian ε σ) : TransferEnd × Custodian ε σ :=
  match reply with
  | .ok raw =>
    let (derived, c) := c.register (.cpu raw gpu.idMap)
    let c := c.settle id (some derived.id)
    (.moved derived, c.freeAll engine { gpu with idMap := none }.components)
  | .failed message partialIndex =>
    let c := (c.settle id none).freeAll engine gpu.components
    let c := match partialIndex with
      | some native =>
        let (orphan, c) := c.register native
        c.release engine orphan.id
      | none => c
    (.refused (.conversion message), c)
  | .panicked message => (.panicked message, c)

/-- Frees everything that is left, in the order of the world, and says how many handles that
were. -/
def releaseAll (engine : Engine ε) (c : Custodian ε σ) : Nat × Custodian ε σ :=
  let pending := c.world.sweep.arrange c.registry.slots
  (pending.length, go pending { c with registry := c.registry.retireAll })
where
  go : List NativeIndex → Custodian ε σ → Custodian ε σ
    | [], c => c
    | native :: rest, c =>
      go rest (freeAll engine native.components
        { c with world := c.world.record (.handle .released) })

end Custodian

end VectorIndex
