import VectorIndex.Run.Process

/-!
# Steps of a run

`Run.proceed` takes a run one step further and `Run.cancel` gives it up; both may be
chosen at any point.  A run passes through its stages in order and ends at the first one
that fails.  However it ends, its workspace is removed and every structure that it still
holds is freed; only a task that the pool already has is let finish first.
-/

set_option autoImplicit false

namespace VectorIndex

namespace Run

variable {ε σ : Type}

/-! ## Ends -/

/-- Does something with the registry. -/
def withCustodian {α : Type} (f : Custodian ε σ → α × Custodian ε σ) (r : Run σ) (w : World ε σ) :
    α × Run σ × World ε σ :=
  let (a, c) := f { registry := r.registry, world := w }
  (a, { r with registry := c.registry }, c.world)

/-- Removes the workspace. -/
def dropWorkspace (r : Run σ) (w : World ε σ) : Run σ × World ε σ :=
  match r.workspace with
  | some space => ({ r with workspace := none }, { w with disk := space.remove w.disk })
  | none => (r, w)

/-- Removes the workspace and frees all structures that are left. -/
def cleanUp (b : Builder ε σ) (r : Run σ) (w : World ε σ) : Run σ × World ε σ :=
  let (r, w) := r.dropWorkspace w
  let (_, r, w) := r.withCustodian (Custodian.releaseAll b.engine) w
  (r, w)

/-- Ends a run with a result. -/
def finish (b : Builder ε σ) (result : TaskResult) (failedStage : Option Stage) (r : Run σ)
    (w : World ε σ) : Run σ × World ε σ :=
  let (r, w) := r.cleanUp b w
  ({ r with phase := .ended { result, failedStage, handles := r.registry.tally } },
    w.record (.runEnded failedStage.isNone))

/-- Ends a run with the failure of a stage. -/
def fail (b : Builder ε σ) (stage : Stage) (error : BuildError) (r : Run σ) (w : World ε σ) :
    Run σ × World ε σ :=
  r.finish b (.failure (StageFailure.message { stage, error })) (some stage) w

/-! ## Stages -/

/-- Whether the time of a run is up when it is about to enter a stage. -/
def isLate (b : Builder ε σ) (c : Commission) (stage : Stage) : Bool :=
  match b.timeLimit with
  | some seconds => seconds.toNat * 1000000000 ≤ c.elapsed stage
  | none => false

/-- Whether the deadline of a run is later than any time that the clock can show.  The clock counts
seconds in 63 bits. -/
def isBeyondClock (b : Builder ε σ) (c : Commission) : Bool :=
  match b.timeLimit with
  | some seconds => 0x8000000000000000 ≤ c.clock + seconds.toNat
  | none => false

/-- Enters a stage in time, or fails. -/
def enter (b : Builder ε σ) (c : Commission) (stage : Stage) (phase : Phase σ) (r : Run σ)
    (w : World ε σ) : Run σ × World ε σ :=
  if isLate b c stage then
    r.fail b stage (.timeout ("deadline passed before " ++ stage.name ++ " stage")) w
  else ({ r with phase }, w)

/-- Completes a stage and enters the next one. -/
def next (b : Builder ε σ) (c : Commission) (completed stage : Stage) (phase : Phase σ) (r : Run σ)
    (w : World ε σ) : Run σ × World ε σ :=
  r.enter b c stage phase (w.record (.stageObserved completed))

/-- Fixes the configuration, finds the store and makes the workspace. -/
def prepare (b : Builder ε σ) (c : Commission) (w : World ε σ) :
    Except Abort (Except BuildError (Setup σ × Workspace) × World ε σ) :=
  let plan := c.plan
  if plan.engine ≠ b.engine.kind then
    .ok (.error (.configuration "engine"
      ("request is for " ++ plan.engine.name ++ " but this builder produces " ++
        b.engine.kind.name ++ " indexes")), w)
  else
    match plan.effectiveOverrides with
    | .error reason => .error reason
    | .ok overrides =>
      match overrides.assemble plan.shape with
      | .error e => .ok (.error e, w)
      | .ok config =>
        match b.stores.resolve plan w.toMedium with
        | (.error e, m) => .ok (.error e, { w with toMedium := m })
        | (.ok client, m) =>
          match Workspace.create m.disk b.stagingRoot plan.stagingMode plan.artifactPath c.suffix with
          | .error e => .ok (.error e, { w with toMedium := m })
          | .ok (space, disk) =>
            .ok (.ok ({ config, client }, space), { w with toMedium := { m with disk } })

/-- Fixes the deadline, prepares the run and starts both downloads. -/
def configure (b : Builder ε σ) (c : Commission) (r : Run σ) (w : World ε σ) : Run σ × World ε σ :=
  if isBeyondClock b c then ({ r with phase := .aborted .deadline }, w)
  else if isLate b c .configuring then
    r.fail b .configuring (.timeout "deadline passed before configuring stage") w
  else
    match prepare b c w with
    | .error reason => ({ r with phase := .aborted reason }, w)
    | .ok (.error e, w) => r.fail b .configuring e w
    | .ok (.ok (setup, space), w) =>
      let vectors :=
        Download.opening (VectorSink.forElements c.plan.elementType c.plan.vectorBytes)
      let ids := Download.opening (StagingBuffer.withLimit c.plan.docIdBytes)
      { r with workspace := some space }.next b c .configuring .fetching
        (.fetching setup vectors ids) w

/-- Moves one of the downloads, or draws the conclusion from both.  The first failure counts. -/
def fetch (b : Builder ε σ) (c : Commission) (idsFirst : Bool) (setup : Setup σ)
    (vectors : Download VectorSink) (ids : Download StagingBuffer) (r : Run σ) (w : World ε σ) :
    Run σ × World ε σ :=
  let plan := c.plan
  let moveVectors : Run σ × World ε σ :=
    let (vectors, site) := vectors.step setup.client plan.vectorPath w.toSite
    ({ r with phase := .fetching setup vectors ids }, { w with toSite := site })
  let moveIds : Run σ × World ε σ :=
    let (ids, site) := ids.step setup.client plan.docIdPath w.toSite
    ({ r with phase := .fetching setup vectors ids }, { w with toSite := site })
  match vectors.result?, ids.result? with
  | some (.error e), _ => r.fail b .fetching e w
  | _, some (.error e) => r.fail b .fetching e w
  | some (.ok _), some (.ok _) =>
    match Dataset.ofBuffers vectors.sink.freeze ids.sink.freeze plan.dimension plan.docCount
        plan.elementType with
    | .error e => r.fail b .fetching e w
    | .ok dataset => r.next b c .fetching .building (.working setup (.build dataset) .queued) w
  | some (.ok _), none => moveIds
  | none, some (.ok _) => moveVectors
  | none, none => if idsFirst then moveIds else moveVectors

/-! ## Tasks -/

/-- The pool takes a task from the queue: it enters the call, or finds that the index is not
there. -/
def beginTask (setup : Setup σ) (task : Task) (r : Run σ) (w : World ε σ) :
    Progress × Run σ × World ε σ :=
  match task with
  | .build d =>
    (.running none, r,
      w.record (.callStarted (.build setup.config d.docCount d.dimension d.elementType)))
  | .convert source =>
    match r.registry.beginTransfer source.id with
    | .error e => (.returned (.error e), r, w)
    | .ok (native, registry) =>
      (.running (some native), { r with registry }, w.record (.callStarted (.convert native)))
  | .persist source =>
    match r.registry.lookup source.id with
    | .error e => (.returned (.error e), r, w)
    | .ok native =>
      let mode := match r.workspace with
        | some space => space.mode
        | none => .disk
      (.running (some native), r, w.record (.callStarted (.persist native mode)))

/-- The end of a building call: what was built is registered at once. -/
def endBuild (b : Builder ε σ) (setup : Setup σ) (dataset : Dataset) (r : Run σ) (w : World ε σ) :
    Except BuildError TrackedIndex × Run σ × World ε σ :=
  let task := Task.build dataset
  let (reply, memory) := b.engine.build dataset setup.config w.memory
  let w := { w with memory }.record
    (.callEnded (.build setup.config dataset.docCount dataset.dimension dataset.elementType))
  match reply with
  | .ok native =>
    r.withCustodian (fun c => let (token, c) := c.register native; (.ok token, c)) w
  | .failed message partialIndex =>
    r.withCustodian (fun c =>
      let c := match partialIndex with
        | some native =>
          let (orphan, c) := c.register native
          c.release b.engine orphan.id
        | none => c
      (.error (.build message), c)) w
  | .panicked message => (.error (task.panic message), r, w)

/-- The end of a converting call: the id map changes its owner. -/
def endConvert (b : Builder ε σ) (setup : Setup σ) (source : TrackedIndex) (gpu : NativeIndex)
    (r : Run σ) (w : World ε σ) : Except BuildError TrackedIndex × Run σ × World ε σ :=
  let (reply, memory) := b.engine.convert gpu setup.config.cpu w.memory
  let w := { w with memory }.record (.callEnded (.convert gpu))
  r.withCustodian (fun c =>
    let (ended, c) := c.finishTransfer b.engine source.id gpu reply
    (match ended with
      | .moved derived => .ok derived
      | .refused e => .error e
      | .panicked message => .error ((Task.convert source).panic message), c)) w

/-- The end of a persisting call: the octets are staged. -/
def endPersist (b : Builder ε σ) (source : TrackedIndex) (cpu : NativeIndex) (r : Run σ)
    (w : World ε σ) : Except BuildError TrackedIndex × Run σ × World ε σ :=
  let (reply, memory) := b.engine.persist cpu w.memory
  let mode := match r.workspace with
    | some space => space.mode
    | none => .disk
  let w := { w with memory }.record (.callEnded (.persist cpu mode))
  match reply with
  | .failed message _ => (.error (.persist message), r, w)
  | .panicked message => (.error ((Task.persist source).panic message), r, w)
  | .ok bytes =>
    match r.workspace with
    | none => (.ok source, r, w)
    | some space =>
      match space.write w.disk bytes with
      | .ok (space, disk) => (.ok source, { r with workspace := some space }, { w with disk })
      | .error e => (.error (.persist (space.writeFailure e)), r, w)

/-- The engine comes back from a call. -/
def endTask (b : Builder ε σ) (setup : Setup σ) (task : Task) (subject : Option NativeIndex)
    (r : Run σ) (w : World ε σ) : Except BuildError TrackedIndex × Run σ × World ε σ :=
  match task, subject with
  | .build dataset, _ => r.endBuild b setup dataset w
  | .convert source, some gpu => r.endConvert b setup source gpu w
  | .persist source, some cpu => r.endPersist b source cpu w
  | task, none => (.error (task.panic "no index"), r, w)

/-- The pool goes on with a task. -/
def advanceTask (b : Builder ε σ) (setup : Setup σ) (task : Task) (progress : Progress) (r : Run σ)
    (w : World ε σ) : Progress × Run σ × World ε σ :=
  match progress with
  | .queued => r.beginTask setup task w
  | .running subject =>
    let (result, r, w) := r.endTask b setup task subject w
    (.returned result, r, w)
  | .returned result => (.returned result, r, w)

/-- The run takes notice that a task has returned.  A persisted index is not needed any more,
whatever came of it. -/
def notice (b : Builder ε σ) (c : Commission) (setup : Setup σ) (task : Task)
    (result : Except BuildError TrackedIndex) (r : Run σ) (w : World ε σ) : Run σ × World ε σ :=
  let (r, w) := match task with
    | .persist source =>
      let (_, r, w) := r.withCustodian (fun c => ((), c.release b.engine source.id)) w
      (r, w)
    | _ => (r, w)
  match result with
  | .error e => r.fail b task.stage e w
  | .ok token =>
    match task with
    | .build _ =>
      r.next b c .building .converting (.working setup (.convert token) .queued) w
    | .convert _ =>
      r.next b c .converting .persisting (.working setup (.persist token) .queued) w
    | .persist _ => r.next b c .persisting .uploading (.uploading setup) w

/-- Uploads the artifact and ends the run. -/
def upload (b : Builder ε σ) (c : Commission) (setup : Setup σ) (r : Run σ) (w : World ε σ) :
    Run σ × World ε σ :=
  let (source, workspace) := match r.workspace with
    | some space => let (source, space) := space.takeSource; (source, some space)
    | none => (.buffer [], none)
  let r := { r with workspace }
  match setup.client.write source c.plan.artifactPath w.toSite with
  | (.error e, site) => r.fail b .uploading e { w with toSite := site }
  | (.ok (), site) =>
    let (r, w) := r.dropWorkspace { w with toSite := site }
    r.finish b (.success c.plan.artifactName) none (w.record (.stageObserved .uploading))

/-! ## Moves -/

/-- One step of a run, or of the task that a cancelled run left behind.  Of two downloads that can
both move, `idsFirst` chooses one. -/
def proceed (b : Builder ε σ) (c : Commission) (idsFirst : Bool) (r : Run σ) (w : World ε σ) :
    Run σ × World ε σ :=
  match r.phase with
  | .configuring => r.configure b c w
  | .fetching setup vectors ids => r.fetch b c idsFirst setup vectors ids w
  | .working setup task (.returned result) => r.notice b c setup task result w
  | .working setup task progress =>
    let (progress, r, w) := r.advanceTask b setup task progress w
    ({ r with phase := .working setup task progress }, w)
  | .uploading setup => r.upload b c setup w
  | .detached setup task progress =>
    let (progress, r, w) := r.advanceTask b setup task progress w
    match progress with
    | .returned _ =>
      let (r, w) := r.cleanUp b w
      ({ r with phase := .cancelled }, w)
    | progress => ({ r with phase := .detached setup task progress }, w)
  | .ended _ => (r, w)
  | .cancelled => (r, w)
  | .aborted _ => (r, w)

/-- Gives up a run.  A task that is queued or inside a call keeps the registry, and a persisting
task the workspace too; everything else is cleaned up at once. -/
def cancel (b : Builder ε σ) (r : Run σ) (w : World ε σ) : Run σ × World ε σ :=
  let atOnce : Run σ × World ε σ :=
    let (r, w) := r.cleanUp b w
    ({ r with phase := .cancelled }, w)
  match r.phase with
  | .configuring => atOnce
  | .fetching .. => atOnce
  | .working _ _ (.returned _) => atOnce
  | .working setup task progress =>
    let (r, w) := if task.takesWorkspace then (r, w) else r.dropWorkspace w
    ({ r with phase := .detached setup task progress }, w)
  | .uploading _ => atOnce
  | .detached .. => (r, w)
  | .ended _ => (r, w)
  | .cancelled => (r, w)
  | .aborted _ => (r, w)

/-- A choice of what happens next to a run. -/
inductive Move where
  | proceed (idsFirst : Bool)
  | cancel
  deriving DecidableEq, Repr

/-- Makes a move. -/
def move (b : Builder ε σ) (c : Commission) (m : Move) (r : Run σ) (w : World ε σ) :
    Run σ × World ε σ :=
  match m with
  | .proceed idsFirst => r.proceed b c idsFirst w
  | .cancel => r.cancel b w

/-- Makes moves one after the other. -/
def play (b : Builder ε σ) (c : Commission) : List Move → Run σ → World ε σ → Run σ × World ε σ
  | [], r, w => (r, w)
  | m :: ms, r, w =>
    let (r, w) := r.move b c m w
    play b c ms r w

/-! ## Whole runs -/

/-- The time since two downloads were started, and which of them is asked first. -/
structure Turn where
  milliseconds : Nat := 0
  idsFirst : Bool := false
  deriving DecidableEq, Repr

/-- Which of two downloads moves next, given when each of them is due.  The one that is asked first
moves as long as it is due, and then the other one.  When both have to wait, time passes until one
is due, and the other one is asked first from then on. -/
def Turn.choose (turn : Turn) (vectorsDue idsDue : Nat) : Bool × Turn :=
  let first := if turn.idsFirst then idsDue else vectorsDue
  let second := if turn.idsFirst then vectorsDue else idsDue
  if first ≤ turn.milliseconds then (turn.idsFirst, turn)
  else if second ≤ turn.milliseconds then (!turn.idsFirst, turn)
  else if second ≤ first then
    (!turn.idsFirst, { milliseconds := second, idsFirst := !turn.idsFirst })
  else (turn.idsFirst, { milliseconds := first, idsFirst := !turn.idsFirst })

/-- Which download of a run moves next. -/
def chooseDownload (r : Run σ) (turn : Turn) : Bool × Turn :=
  match r.phase with
  | .fetching setup vectors ids =>
    turn.choose (vectors.due setup.client.rate) (ids.due setup.client.rate)
  | _ => (false, turn)

/-- Steps that are enough to reach the end, or a point where a download has just been opened. -/
def stepsAhead (r : Run σ) : Nat :=
  match r.phase with
  | .configuring => 1
  | .fetching _ vectors ids => vectors.remaining + ids.remaining + 1
  | .working .. => 12
  | .uploading _ => 1
  | .detached .. => 2
  | _ => 0

/-- A number of steps in which downloads take turns. -/
def advance (b : Builder ε σ) (c : Commission) :
    Nat → Turn → Run σ → World ε σ → Turn × Run σ × World ε σ
  | 0, turn, r, w => (turn, r, w)
  | n + 1, turn, r, w =>
    let (idsFirst, turn) := r.chooseDownload turn
    let (r, w) := r.proceed b c idsFirst w
    advance b c n turn r w

/-- Takes a run as far as can be foreseen. -/
def settle (b : Builder ε σ) (c : Commission) (turn : Turn) (r : Run σ) (w : World ε σ) :
    Turn × Run σ × World ε σ :=
  advance b c r.stepsAhead turn r w

/-- Takes a run to its end.  What can be foreseen ends four times before the last time: at the
start, at the opening of either download and when both have ended. -/
def complete (b : Builder ε σ) (c : Commission) (r : Run σ) (w : World ε σ) : Run σ × World ε σ :=
  let (turn, r, w) := r.settle b c {} w
  let (turn, r, w) := r.settle b c turn w
  let (turn, r, w) := r.settle b c turn w
  let (turn, r, w) := r.settle b c turn w
  let (_, r, w) := r.settle b c turn w
  (r, w)

end Run

namespace Builder

variable {ε σ : Type}

/-- Makes a run from its start to its end. -/
def run (b : Builder ε σ) (c : Commission) (w : World ε σ) : Run σ × World ε σ :=
  ({} : Run σ).complete b c w

end Builder

end VectorIndex
