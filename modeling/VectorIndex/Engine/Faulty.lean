import VectorIndex.Engine.Basic

/-!
# Engines that misbehave

An engine around another one that fails in a chosen way: before it does anything, after
the work is done, by a panic, or by losing the id map of an index that it built.  It
serves to rehearse what a run does with an engine that fails.
-/

set_option autoImplicit false

namespace VectorIndex

/-- A way in which an engine fails. -/
inductive EngineFault where
  | build
  | convert
  | persist
  /-- Building fails after the index was built, which is handed over. -/
  | buildLate
  /-- Conversion fails after the copy was made, which is handed over without its id map. -/
  | convertLate
  /-- Structures are freed, but reported as not freed. -/
  | release
  /-- The id map of a new index is freed and left out. -/
  | mapDropped
  /-- The id map of a new index is freed, but still named. -/
  | mapFreed
  | panicInBuild
  | panicInConvert
  | panicInPersist
  deriving DecidableEq, Repr

namespace EngineFault

/-- All faults under their names. -/
def table : List (String × EngineFault) :=
  [("build", .build), ("convert", .convert), ("persist", .persist),
   ("build_with_partial", .buildLate), ("convert_with_partial", .convertLate),
   ("release", .release), ("drop_id_map", .mapDropped), ("free_id_map", .mapFreed),
   ("panic_build", .panicInBuild), ("panic_convert", .panicInConvert),
   ("panic_persist", .panicInPersist)]

end EngineFault

namespace Engine

variable {σ : Type}

/-- Frees the id map of an index. -/
def freeMap (inner : Engine σ) (native : NativeIndex) (s : σ) : σ :=
  match native.idMap with
  | some raw => (inner.release raw .idMap s).2
  | none => s

/-- An engine that claims to be of a kind and fails in a way. -/
def faulty (kind : EngineKind) (fault : Option EngineFault) (inner : Engine σ) : Engine σ where
  kind := kind
  build dataset config s :=
    match fault with
    | some .build => (.failed "injected build failure" none, s)
    | some .panicInBuild => (.panicked "injected build panic", s)
    | _ =>
      match inner.build dataset config s, fault with
      | (.ok native, s), some .buildLate => (.failed "injected build failure" (some native), s)
      | (.ok native, s), some .mapDropped =>
        (.ok { native with idMap := none }, inner.freeMap native s)
      | (.ok native, s), some .mapFreed => (.ok native, inner.freeMap native s)
      | answer, _ => answer
  convert gpu config s :=
    match fault with
    | some .convert => (.failed "injected conversion failure" none, s)
    | some .panicInConvert => (.panicked "injected convert panic", s)
    | _ =>
      match inner.convert gpu config s, fault with
      | (.ok raw, s), some .convertLate =>
        (.failed "injected conversion failure" (some (.cpu raw none)), s)
      | answer, _ => answer
  persist cpu s :=
    match fault with
    | some .persist => (.failed "injected persist failure" none, s)
    | some .panicInPersist => (.panicked "injected persist panic", s)
    | _ => inner.persist cpu s
  release raw kind s :=
    match inner.release raw kind s, fault with
    | (none, s), some .release => (some "injected release failure", s)
    | answer, _ => answer

end Engine

end VectorIndex
