import VectorIndex.Proofs.Run.Stages

/-!
# Calls under way

A run makes one long call of the engine at a time, and while the engine is inside it the run frees
nothing.  `Paced` says so of what is recorded: a call ends before anything is freed and before
another one starts.  `Run.CallStep` lists what a move may do about calls, and `Run.callStep_move`
says that every move is of this kind.
-/

set_option autoImplicit false

namespace VectorIndex

variable {ε σ : Type}

/-! ## Calls in a log -/

/-- Whether an event is the start or the end of a call. -/
def Event.isCall : Event → Bool
  | .callStarted _ => true
  | .callEnded _ => true
  | _ => false

/-- From one call under way to another, or none: one call at a time, and nothing is freed during
it. -/
inductive Paced : Option EngineCall → List Event → Option EngineCall → Prop where
  | nil (under : Option EngineCall) : Paced under [] under
  | starts {call : EngineCall} {rest : List Event} {under : Option EngineCall} :
    Paced (some call) rest under → Paced none (.callStarted call :: rest) under
  | ends {call : EngineCall} {rest : List Event} {under : Option EngineCall} :
    Paced none rest under → Paced (some call) (.callEnded call :: rest) under
  /-- Between two calls anything else may happen. -/
  | between {e : Event} {rest : List Event} {under : Option EngineCall} :
    e.isCall = false → Paced none rest under → Paced none (e :: rest) under

namespace Paced

variable {log log' : List Event} {under under' under'' : Option EngineCall}

/-- Logs that are paced can follow on each other. -/
theorem append (h : Paced under log under') (h' : Paced under' log' under'') :
    Paced under (log ++ log') under'' := by
  induction h with
  | nil under => exact h'
  | starts _ ih => exact .starts (ih h')
  | ends _ ih => exact .ends (ih h')
  | between he _ ih => exact .between he (ih h')

end Paced

/-! ## Events between calls -/

/-- No call was started or ended in between. -/
def World.Calm (w w' : World ε σ) : Prop :=
  w.Records (·.isCall = false) w'

/-- Custody is calm: no event of it is about calls. -/
theorem World.calm_of_custody {w w' : World ε σ} (h : w.Records (·.isCustody = true) w') :
    w.Calm w' := by
  apply h.mono
  intro e he
  cases e <;> first | rfl | cases he

namespace Run

variable {b : Builder ε σ} {c : Commission} {r : Run σ} {w w' : World ε σ}

/-- To clean up is calm. -/
theorem calm_cleanUp (b : Builder ε σ) (r : Run σ) (w : World ε σ) :
    w.Calm (r.cleanUp b w).2 := by
  obtain ⟨disk, hclean, -, -⟩ := r.cleanUp_spec b w
  have hdisk : w.Calm { w with disk } := .of_log_eq rfl
  rw [hclean]
  exact hdisk.trans (World.calm_of_custody
    (Custodian.records_releaseAll b.engine (r.custodian { w with disk })))

end Run

/-! ## Tasks -/

/-- The call that a task makes of the engine. -/
def Task.call? (setup : Setup σ) (mode : StagingMode) :
    Task → Option NativeIndex → Option EngineCall
  | .build d, _ => some (.build setup.config d.docCount d.dimension d.elementType)
  | .convert _, some gpu => some (.convert gpu)
  | .persist _, some cpu => some (.persist cpu mode)
  | _, none => none

/-- The call of a task that the engine is inside of. -/
def Task.underWay (setup : Setup σ) (mode : StagingMode) (task : Task) :
    Progress → Option EngineCall
  | .running subject => task.call? setup mode subject
  | _ => none

/-- The index that a task is to work on, if it is there. -/
def Task.subject? (registry : Registry) : Task → Option NativeIndex
  | .build _ => none
  | .convert source => (registry.lookup source.id).toOption
  | .persist source => (registry.lookup source.id).toOption

namespace Run

/-- The call of a run that the engine is inside of. -/
def underWay (r : Run σ) : Option EngineCall :=
  match r.phase with
  | .working setup task progress => task.underWay setup r.mode progress
  | .detached setup task progress => task.underWay setup r.mode progress
  | _ => none

/-- The call of a run that the task in the queue will make. -/
def queued? (r : Run σ) : Option EngineCall :=
  match r.phase with
  | .working setup task .queued => task.call? setup r.mode (task.subject? r.registry)
  | .detached setup task .queued => task.call? setup r.mode (task.subject? r.registry)
  | _ => none

variable {b : Builder ε σ} {c : Commission} {setup : Setup σ} {task : Task} {r : Run σ}
  {w : World ε σ}

/-- What a move does about calls. -/
inductive CallStep (r : Run σ) (w : World ε σ) (r' : Run σ) (w' : World ε σ) : Prop where
  /-- There is no call, neither before nor afterwards. -/
  | idle (before : r.underWay = none) (after : r'.underWay = none) (calm : w.Calm w')
  /-- Nothing is recorded, and a call that is under way stays so. -/
  | waits (after : r'.underWay = r.underWay) (log : w'.log = w.log)
  /-- The task that was queued starts its call. -/
  | starts (call : EngineCall) (queued : r.queued? = some call) (after : r'.underWay = some call)
    (log : w'.log = w.log ++ [.callStarted call])
  /-- The engine comes back from the call, and then the consequences are drawn. -/
  | ends (call : EngineCall) (before : r.underWay = some call) (after : r'.underWay = none)
    (calm : (w.record (.callEnded call)).Calm w')

/-- Cleaning up when no call is under way adds nothing about calls. -/
theorem CallStep.cleanUp {r' : Run σ} {w' : World ε σ} (h : CallStep r w r' w')
    (hnone : r'.underWay = none) :
    CallStep r w { (r'.cleanUp b w').1 with phase := .cancelled } (r'.cleanUp b w').2 := by
  have hclean := calm_cleanUp b r' w'
  cases h with
  | idle before _ calm => exact .idle before rfl (calm.trans hclean)
  | waits after log => exact .idle (after.symm.trans hnone) rfl (.trans (.of_log_eq log) hclean)
  | starts call _ after _ => cases after.symm.trans hnone
  | ends call before _ calm => exact .ends call before rfl (calm.trans hclean)

end Run

end VectorIndex
