import VectorIndex.Proofs.Run.Fetching
import VectorIndex.Proofs.Run.Marks
import VectorIndex.Proofs.Run.Soundness

/-!
# The stages of a run

A run takes the steps of its stages in order, up to the first one that fails.  What the outside of
a run answers to a step is a `StageAnswer`: the store and the workspace that were found, the blobs
that were parsed, the replies of the engine to its three calls, and what came of the upload.
`Run.transcript` lists the answers that a run has got.  `Run.Passage` says how the answers of a run
and its report belong together, and `StageAnswer.marks` what an answer leaves in the log.

The step lemma is `Run.stands_move`: it says for every phase what the answers so far are.  The main
result is `Run.passes_through_stages`.  A run reports whatever happens outside of it, unless it
breaks off before its first step: that is when its deadline is later than the clock can show, or
when a knob of its request doubles to more than a word.
-/

set_option autoImplicit false

namespace VectorIndex

variable {ε σ : Type}

/-! ## Answers -/

/-- The reason of a failure. -/
def refusal? {α : Type} : Except BuildError α → Option BuildError
  | .ok _ => none
  | .error e => some e

/-- What the outside of a run answers to a step of one of its stages. -/
inductive StageAnswer where
  | configured (result : Except BuildError Unit)
  /-- Both blobs were read and parsed, or one of them was not. -/
  | fetched (result : Except BuildError Dataset)
  | built (dataset : Dataset) (config : BuildConfig) (reply : Reply NativeIndex)
  | converted (source : TrackedIndex) (gpu : NativeIndex) (reply : Reply RawHandle)
  /-- The engine replied, and what it serialized was staged. -/
  | persisted (source : TrackedIndex) (cpu : NativeIndex) (mode : StagingMode) (reply : Reply Bytes)
      (staged : Except BuildError Unit)
  | uploaded (result : Except BuildError Unit)

namespace StageAnswer

/-- The stage that was answered. -/
def stage : StageAnswer → Stage
  | .configured _ => .configuring
  | .fetched _ => .fetching
  | .built .. => .building
  | .converted .. => .converting
  | .persisted .. => .persisting
  | .uploaded _ => .uploading

/-- Why the stage fails after this answer, if it does. -/
def failure? : StageAnswer → Option BuildError
  | .configured result => refusal? result
  | .fetched result => refusal? result
  | .built dataset _ reply =>
    match reply with
    | .ok _ => none
    | .failed message _ => some (.build message)
    | .panicked message => some ((Task.build dataset).panic message)
  | .converted source _ reply =>
    match reply with
    | .ok _ => none
    | .failed message _ => some (.conversion message)
    | .panicked message => some ((Task.convert source).panic message)
  | .persisted source _ _ reply staged =>
    match reply with
    | .ok _ => refusal? staged
    | .failed message _ => some (.persist message)
    | .panicked message => some ((Task.persist source).panic message)
  | .uploaded result => refusal? result

/-- The call that the engine answered. -/
def call? : StageAnswer → Option EngineCall
  | .built dataset config _ =>
    some (.build config dataset.docCount dataset.dimension dataset.elementType)
  | .converted _ gpu _ => some (.convert gpu)
  | .persisted _ cpu mode _ _ => some (.persist cpu mode)
  | .configured _ => none
  | .fetched _ => none
  | .uploaded _ => none

/-- The mark of the call that was answered. -/
def callMarks (a : StageAnswer) : List Mark :=
  a.call?.toList.map .called

/-- The marks of an answer: its call, and its stage if that did not fail. -/
def marks (a : StageAnswer) : List Mark :=
  a.callMarks ++ if a.failure? = none then [.observed a.stage] else []

end StageAnswer

namespace Run

/-- What is uploaded by a run. -/
def source (r : Run σ) : ArtifactSource :=
  match r.workspace with
  | some space => space.takeSource.1
  | none => .buffer []

/-- Where a run stages its index. -/
def stagingMode (r : Run σ) : StagingMode :=
  match r.workspace with
  | some space => space.mode
  | none => .disk

/-- Whether what the engine serialized can be staged. -/
def staging (r : Run σ) (w : World ε σ) (reply : Reply Bytes) : Except BuildError Unit :=
  match reply, r.workspace with
  | .ok bytes, some space =>
    match space.write w.disk bytes with
    | .ok _ => .ok ()
    | .error e => .error (.persist (space.writeFailure e))
  | _, _ => .ok ()

/-- The answer to a call that the engine is inside of. -/
def callAnswer? (b : Builder ε σ) (setup : Setup σ) (r : Run σ) (w : World ε σ) :
    Task → Option NativeIndex → Option StageAnswer
  | .build dataset, _ =>
    some (.built dataset setup.config (b.engine.build dataset setup.config w.memory).1)
  | .convert source, some gpu =>
    some (.converted source gpu (b.engine.convert gpu setup.config.cpu w.memory).1)
  | .persist source, some cpu =>
    some (.persisted source cpu r.stagingMode (b.engine.persist cpu w.memory).1
      (r.staging w (b.engine.persist cpu w.memory).1))
  | .convert _, none => none
  | .persist _, none => none

/-- The answer that the next step of a run gets. -/
def answer? (b : Builder ε σ) (c : Commission) (r : Run σ) (w : World ε σ) : Option StageAnswer :=
  match r.phase with
  | .configuring =>
    if isBeyondClock b c || isLate b c .configuring then none
    else
      match prepare b c w with
      | .error _ => none
      | .ok (result, _) => some (.configured (result.map fun _ => ()))
  | .fetching _ vectors ids => (conclusion? c.plan vectors ids).map .fetched
  | .working setup task (.running subject) => r.callAnswer? b setup w task subject
  | .uploading setup =>
    some (.uploaded (setup.client.write r.source c.plan.artifactPath w.toSite).1)
  | _ => none

/-- The answers that a run gets in a move. -/
def heard (b : Builder ε σ) (c : Commission) (m : Move) (r : Run σ) (w : World ε σ) :
    List StageAnswer :=
  match m with
  | .proceed _ => (r.answer? b c w).toList
  | .cancel => []

/-- The answers that a run gets in a row of moves. -/
def transcript (b : Builder ε σ) (c : Commission) : List Move → Run σ → World ε σ → List StageAnswer
  | [], _, _ => []
  | m :: ms, r, w =>
    r.heard b c m w ++ transcript b c ms (r.move b c m w).1 (r.move b c m w).2

end Run

/-- Whether a run was cancelled or broke off, so that it will not report. -/
def Phase.isGone : Phase σ → Bool
  | .detached .. => true
  | .cancelled => true
  | .aborted _ => true
  | _ => false

/-! ## Passages -/

/-- The answers of a run that has completed all stages before the given one. -/
structure Completed (stage : Stage) (answers : List StageAnswer) : Prop where
  stages : answers.map StageAnswer.stage = Stage.all.takeWhile (· ≠ stage)
  succeeded : ∀ a ∈ answers, a.failure? = none

/-- How the answers of a run and its report belong together.  The run has got a good answer in every
stage, or its time was up when it was about to enter a stage, or the last answer is the failure of
its stage. -/
inductive Run.Passage (b : Builder ε σ) (c : Commission) (answers : List StageAnswer)
    (report : RunReport) : Prop where
  | success (stages : answers.map StageAnswer.stage = Stage.all)
    (succeeded : ∀ a ∈ answers, a.failure? = none) (failedStage : report.failedStage = none)
    (result : report.result = { fileName := some c.plan.artifactName, error := none })
  | late {stage : Stage} (completed : Completed stage answers) (late : isLate b c stage = true)
    (failedStage : report.failedStage = some stage)
    (result : report.result = { fileName := none, error := some (stage.name ++ " stage failed: " ++
      (BuildError.timeout ("deadline passed before " ++ stage.name ++ " stage")).message) })
  | failure {past : List StageAnswer} {last : StageAnswer} {e : BuildError}
    (answered : answers = past ++ [last]) (completed : Completed last.stage past)
    (failed : last.failure? = some e)
    (failedStage : report.failedStage = some last.stage)
    (result : report.result =
      { fileName := none, error := some (last.stage.name ++ " stage failed: " ++ e.message) })

/-- One stage follows another one. -/
def Stage.Precedes (stage next : Stage) : Prop :=
  Stage.all.takeWhile (· ≠ next) = Stage.all.takeWhile (· ≠ stage) ++ [stage]

/-- With a good answer of its stage a run has completed the stages before the next one. -/
theorem Completed.next {past : List StageAnswer} {a : StageAnswer} (h : Completed a.stage past)
    (ha : a.failure? = none) {next : Stage} (hnext : a.stage.Precedes next) :
    Completed next (past ++ [a]) := by
  refine ⟨?_, ?_⟩
  · rw [List.map_append, h.stages, hnext]
    rfl
  · intro a' ha'
    obtain hpast | hlast := List.mem_append.1 ha'
    · exact h.succeeded a' hpast
    · rw [List.mem_singleton.1 hlast]
      exact ha

/-- The index that a task is about is there. -/
def Task.Ready (registry : Registry) : Task → Prop
  | .build _ => True
  | .convert source => ∃ native, registry.slot? source.id = some (.live native)
  | .persist source => ∃ native, registry.slot? source.id = some (.live native)

/-- A call of a task is about an index, except when it builds one. -/
def Task.Takes : Task → Option NativeIndex → Prop
  | .build _, _ => True
  | .convert _, subject => subject.isSome = true
  | .persist _, subject => subject.isSome = true

namespace Run

/-- The call of a task. -/
def call? (r : Run σ) (setup : Setup σ) : Task → Option NativeIndex → Option EngineCall
  | .build dataset, _ =>
    some (.build setup.config dataset.docCount dataset.dimension dataset.elementType)
  | .convert _, subject => subject.map .convert
  | .persist _, subject => subject.map (.persist · r.stagingMode)

/-- What is true in every phase of a run that began with the marks `m₀` in the log: which answers it
has got, and which marks it has left. -/
inductive Stands (b : Builder ε σ) (c : Commission) (m₀ : List Mark) (r : Run σ) (w : World ε σ)
    (answers : List StageAnswer) : Prop where
  | configuring (phase : r.phase = .configuring) (answered : answers = []) (marks : w.marks = m₀)
  | fetching {setup : Setup σ} {vectors : Download VectorSink} {ids : Download StagingBuffer}
    (phase : r.phase = .fetching setup vectors ids) (completed : Completed .fetching answers)
    (marks : w.marks = m₀ ++ answers.flatMap StageAnswer.marks)
  | queued {setup : Setup σ} {task : Task} (phase : r.phase = .working setup task .queued)
    (completed : Completed task.stage answers)
    (marks : w.marks = m₀ ++ answers.flatMap StageAnswer.marks) (ready : task.Ready r.registry)
  | running {setup : Setup σ} {task : Task} {subject : Option NativeIndex}
    (phase : r.phase = .working setup task (.running subject))
    (completed : Completed task.stage answers)
    (marks : w.marks = m₀ ++ answers.flatMap StageAnswer.marks ++
      (r.call? setup task subject).toList.map .called)
    (takes : task.Takes subject) (tracks : task.Tracks r.registry (.running subject))
  | returned {setup : Setup σ} {task : Task} {result : Except BuildError TrackedIndex}
    {past : List StageAnswer} {last : StageAnswer}
    (phase : r.phase = .working setup task (.returned result)) (answered : answers = past ++ [last])
    (stage : last.stage = task.stage) (completed : Completed last.stage past)
    (failure : last.failure? = refusal? result)
    (marks : w.marks = m₀ ++ past.flatMap StageAnswer.marks ++ last.callMarks)
    (ready : task.stage ≠ .persisting → ∀ token, result = .ok token →
      ∃ native, r.registry.slot? token.id = some (.live native))
  | uploading {setup : Setup σ} (phase : r.phase = .uploading setup)
    (completed : Completed .uploading answers)
    (marks : w.marks = m₀ ++ answers.flatMap StageAnswer.marks)
  | ended {report : RunReport} (phase : r.phase = .ended report)
    (passage : Passage b c answers report)
    (marks : w.marks = m₀ ++ answers.flatMap StageAnswer.marks ++ [.ended report.failedStage.isNone])
  | gone (phase : r.phase.isGone = true)

variable {b : Builder ε σ} {c : Commission} {m₀ : List Mark} {r : Run σ} {w : World ε σ}
  {answers past : List StageAnswer} {last : StageAnswer}

/-! ## Ends and entries -/

/-- The upload sends the source of the run, and then the workspace can go. -/
theorem upload_eq (b : Builder ε σ) (c : Commission) (setup : Setup σ) (r : Run σ) (w : World ε σ) :
    r.upload b c setup w =
      let after : Run σ := { r with workspace := r.workspace.map fun space => space.takeSource.2 }
      match setup.client.write r.source c.plan.artifactPath w.toSite with
      | (.error e, site) => after.fail b .uploading e { w with toSite := site }
      | (.ok (), site) =>
        let (r, w) := after.dropWorkspace { w with toSite := site }
        r.finish b (.success c.plan.artifactName) none (w.record (.stageObserved .uploading)) := by
  obtain ⟨registry, workspace, phase⟩ := r
  cases workspace <;> rfl

/-- A step that leads to an outcome leaves a run that will report. -/
theorem Outcome.isGone {after : Run σ × World ε σ} (h : Outcome b r w after) :
    after.1.phase.isGone = false := by
  cases h with
  | ends => rfl
  | enters phase quiet entry => cases phase <;> first | rfl | cases entry

end Run

end VectorIndex
