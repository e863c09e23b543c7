import VectorIndex.Custody.Custodian

/-!
# Histories of custody

A history is a list of operations on a custodian.  Operations refer to handles by names
that earlier ones gave them.  What a conversion does before it answers, and what is done
with an index that was looked up, are histories of their own and may go to any depth.  A
claim is given up by the first transfer that is tried with it.

Handles of another custodian may be used by mistake; therefore a history can also
register indexes with a second one.
-/

set_option autoImplicit false

namespace VectorIndex

/-- One operation of a history. -/
inductive Operation where
  | register (native : NativeIndex) (name : String)
  /-- Registers an index with the other custodian, several times, and keeps the last claim. -/
  | registerForeign (native : NativeIndex) (times : Nat) (name : String)
  | transfer (name : String) (derived : Option String) (during : List Operation)
      (reply : Reply RawHandle)
  | lookup (name : String) (during : List Operation)
  | release (name : String)
  | releaseAll
  | state (name : String)
  | outstanding
  | describe
  | stats
  /-- Releases everything and gives up the custodian. -/
  | drop

/-- What an operation answers. -/
inductive Answer where
  | nothing
  | token (t : TrackedIndex)
  | error (e : BuildError)
  | panicked
  | native (n : NativeIndex)
  | count (n : Nat)
  | text (s : String)
  | state (s : Option Slot)
  /-- The name stands for no claim, or for one that had been given up before. -/
  | consumed
  | dropped

/-- What is known after an operation. -/
inductive StepReport where
  /-- An answer by itself. -/
  | plain (a : Answer)
  /-- An answer, the reports of what was done inside, the requests to free structures that were made
  since the operation began, and the registry afterwards. -/
  | full (a : Answer) (nested : List StepReport) (freed : List Event) (after : Registry)

/-- Where a history is. -/
structure HistoryState (ε σ : Type) where
  custodian : Custodian ε σ
  /-- The registry of the other custodian. -/
  foreign : Registry := {}
  /-- The claims under their names, the latest first, and whether they still stand. -/
  names : List (String × TrackedIndex × Bool) := []

namespace HistoryState

variable {ε σ : Type}

/-- Gives a name to a claim. -/
def bind (h : HistoryState ε σ) (name : String) (t : TrackedIndex) : HistoryState ε σ :=
  { h with names := (name, t, true) :: h.names }

/-- Gives up the claim of a name. -/
def giveUp (h : HistoryState ε σ) (name : String) : HistoryState ε σ :=
  { h with names := h.names.map fun n => if n.1 = name then (n.1, n.2.1, false) else n }

end HistoryState

/-- Whether an event is a request to free a structure. -/
def Event.isRelease : Event → Bool
  | .structureReleased .. => true
  | _ => false

namespace Operation

variable {ε σ : Type}

/-- Registers an index several times. -/
def registerTimes (native : NativeIndex) :
    Nat → Option TrackedIndex → Custodian ε σ → Option TrackedIndex × Custodian ε σ
  | 0, t, c => (t, c)
  | n + 1, _, c =>
    let (t, c) := c.register native
    registerTimes native n (some t) c

mutual

/-- Does one operation: the answer and what was reported inside of it. -/
def act (engine : Engine ε) (h : HistoryState ε σ) :
    Operation → Answer × List StepReport × HistoryState ε σ
  | .register native name =>
    let (t, custodian) := h.custodian.register native
    (.token t, [], { h with custodian }.bind name t)
  | .registerForeign native times name =>
    match registerTimes native times none { h.custodian with registry := h.foreign } with
    | (some t, c) =>
      (.token t, [], { h with
        custodian := { h.custodian with world := c.world }
        foreign := c.registry }.bind name t)
    | (none, _) => (.nothing, [], h)
  | .transfer name derived during reply =>
    match h.names.lookup name with
    | none | some (_, false) => (.consumed, [], h)
    | some (source, true) =>
      let h := h.giveUp name
      match h.custodian.beginTransfer source.id with
      | .error e => (.error e, [], h)
      | .ok (gpu, custodian) =>
        let (nested, h) := runAll engine { h with custodian } during
        let nested := .plain (.native gpu) :: nested
        match h.custodian.finishTransfer engine source.id gpu reply with
        | (.moved t, custodian) =>
          let h := { h with custodian }
          (.token t, nested, match derived with | some n => h.bind n t | none => h)
        | (.refused e, custodian) => (.error e, nested, { h with custodian })
        | (.panicked _, custodian) => (.panicked, nested, { h with custodian })
  | .lookup name during =>
    match h.names.lookup name with
    | none => (.nothing, [], h)
    | some (t, _) =>
      match h.custodian.registry.lookup t.id with
      | .error e => (.error e, [], h)
      | .ok native =>
        let (nested, h) := runAll engine h during
        (.native native, nested, h)
  | .release name =>
    match h.names.lookup name with
    | none => (.nothing, [], h)
    | some (t, _) => (.nothing, [], { h with custodian := h.custodian.release engine t.id })
  | .releaseAll =>
    let (n, custodian) := h.custodian.releaseAll engine
    (.count n, [], { h with custodian })
  | .state name =>
    (.state ((h.names.lookup name).bind fun t => h.custodian.registry.slot? t.1.id), [], h)
  | .outstanding =>
    (match h.custodian.registry.tally.outstanding with
      | .ok n => .count n
      | .error _ => .panicked, [], h)
  | .describe => (.text h.custodian.registry.describe, [], h)
  | .stats => (.nothing, [], h)
  | .drop =>
    let (_, custodian) := h.custodian.releaseAll engine
    (.dropped, [], { h with custodian })

/-- Does one operation and reports on it.  Without a claim nothing is begun, and the answer stands
by itself. -/
def run (engine : Engine ε) (h : HistoryState ε σ) (o : Operation) : StepReport × HistoryState ε σ :=
  let start := h.custodian.world.log.length
  match act engine h o with
  | (.consumed, _, h) => (.plain .consumed, h)
  | (answer, nested, h) =>
    let freed := (h.custodian.world.log.drop start).filter Event.isRelease
    (.full answer nested freed h.custodian.registry, h)

/-- Does operations one after the other. -/
def runAll (engine : Engine ε) (h : HistoryState ε σ) :
    List Operation → List StepReport × HistoryState ε σ
  | [] => ([], h)
  | o :: os =>
    let (report, h) := run engine h o
    let (reports, h) := runAll engine h os
    (report :: reports, h)

end

end Operation

end VectorIndex
