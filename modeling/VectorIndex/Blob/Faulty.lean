import VectorIndex.Blob.Store
import VectorIndex.Grouping

/-!
# Backends that misbehave

Two backends around another one: `chunked` delivers objects in chunks of a given size,
and `faulty` fails chosen operations.  They serve to rehearse what a transfer does when
its backend is slow or broken.
-/

set_option autoImplicit false

namespace VectorIndex

/-- Which objects a fault affects. -/
inductive FaultScope where
  | everywhere
  | only (path : String)
  deriving DecidableEq, Repr

/-- Whether a fault affects a path. -/
def FaultScope.covers (path : ObjectPath) : FaultScope → Bool
  | .everywhere => true
  | .only p => p == path.text

/-- The operations that fail. -/
structure Faults where
  get : Option FaultScope := none
  put : Option FaultScope := none
  /-- The start of an upload in parts. -/
  start : Option FaultScope := none
  complete : Option FaultScope := none
  /-- A delivery, after its last chunk. -/
  stream : Option FaultScope := none
  /-- The part of this number of every upload. -/
  part : Option Nat := none
  /-- How far the announced size is off; it is never negative. -/
  sizeDelta : Int := 0
  deriving DecidableEq, Repr

namespace ObjectStore

variable {σ : Type}

/-- The failure that is injected. -/
def injected : StoreError := .backend "Faulty" "injected"

/-- Fails the chosen operations of a backend. -/
def faulty (faults : Faults) (inner : ObjectStore σ) : ObjectStore σ :=
  let hits (scope : Option FaultScope) (path : ObjectPath) : Bool :=
    scope.any (FaultScope.covers path)
  { name := "Faulty"
    get := fun path m =>
      if hits faults.get path then (.error injected, m)
      else match inner.get path m with
        | (.ok f, m) =>
          let size := UInt64.ofNat ((f.size.toNat : Int) + faults.sizeDelta).toNat
          let fault := if hits faults.stream path then some injected else f.fault
          (.ok { f with size, fault }, m)
        | (.error e, m) => (.error e, m)
    put := fun path content m =>
      if hits faults.put path then (.error injected, m) else inner.put path content m
    startUpload := fun path m =>
      if hits faults.start path then (.error injected, m) else inner.startUpload path m
    putPart := fun ticket n part m =>
      if faults.part = some n then (.error injected, m) else inner.putPart ticket n part m
    complete := fun ticket m =>
      if hits faults.complete ticket.path then (.error injected, m) else inner.complete ticket m
    abort := inner.abort }

/-- Delivers objects in chunks of one size and a last, shorter chunk, which may be empty. -/
def chunked (size : Nat) (inner : ObjectStore σ) : ObjectStore σ :=
  { inner with
    name := "ChunkedStore(" ++ inner.name ++ ")"
    get := fun path m =>
      match inner.get path m with
      | (.ok f, m) =>
        let content := f.chunks.flatten
        let full := Grouping.groups size content
        (.ok { f with chunks := full ++ [content.drop (full.length * size)] }, m)
      | (.error e, m) => (.error e, m) }

end ObjectStore

end VectorIndex
