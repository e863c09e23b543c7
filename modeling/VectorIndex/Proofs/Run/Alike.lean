import VectorIndex.Proofs.Custody.Alike
import VectorIndex.Proofs.Run.Stages

/-!
# Runs with engines that match

A run asks its engine to free structures when a call has failed, when its index was persisted, and
when it ends.  What the engine answers to that is counted and has no other effect: two runs with
engines that match, and that are otherwise made in the same way, go through the same phases and come
to the same result (`Run.Alike`).  There is one lemma for each function of a run, up to
`Run.alike_play` and `Run.alike_complete`.
-/

set_option autoImplicit false

namespace VectorIndex

variable {ε₁ ε₂ σ : Type}

/-- Two runs are in the same phase; if they have ended, their counts are the same but for the
failures. -/
inductive Phase.Alike : Phase σ → Phase σ → Prop where
  | same (phase : Phase σ) : Alike phase phase
  | ended (result : TaskResult) (failedStage : Option Stage) (r : Registry) (n₁ n₂ : Nat) :
    Alike (.ended { result, failedStage, handles := (r.withFailures n₁).tally })
      (.ended { result, failedStage, handles := (r.withFailures n₂).tally })

/-- Two runs are at the same place, but for refusals. -/
inductive Run.Alike (R : Nat → Nat → ε₁ → ε₂ → Prop) (since : List Event) :
    Run σ × World ε₁ σ → Run σ × World ε₂ σ → Prop where
  | intro {r : Registry} {n₁ n₂ : Nat} (workspace : Option Workspace) {phase₁ phase₂ : Phase σ}
    {w₁ : World ε₁ σ} {w₂ : World ε₂ σ} (phase : phase₁.Alike phase₂)
    (world : World.Alike R since n₁ n₂ w₁ w₂) :
    Alike R since ({ registry := r.withFailures n₁, workspace, phase := phase₁ }, w₁)
      ({ registry := r.withFailures n₂, workspace, phase := phase₂ }, w₂)

/-- Two builders have engines that match, and are the same otherwise. -/
structure Builder.Matched (R : Nat → Nat → ε₁ → ε₂ → Prop) (b₁ : Builder ε₁ σ)
    (b₂ : Builder ε₂ σ) : Prop where
  engine : b₁.engine.Matched R b₂.engine
  stores : b₁.stores = b₂.stores
  stagingRoot : b₁.stagingRoot = b₂.stagingRoot
  timeLimit : b₁.timeLimit = b₂.timeLimit

variable {R : Nat → Nat → ε₁ → ε₂ → Prop} {since : List Event} {n₁ n₂ : Nat}

/-! ## Surroundings -/

namespace World.Alike

variable {w₁ : World ε₁ σ} {w₂ : World ε₂ σ}

/-- Worlds that are alike have the same disk. -/
theorem disk_eq (h : Alike R since n₁ n₂ w₁ w₂) : w₁.disk = w₂.disk :=
  congrArg Medium.disk h.medium

/-- The store and the disk can be replaced in both worlds. -/
theorem withMedium (h : Alike R since n₁ n₂ w₁ w₂) (m : Medium σ) :
    Alike R since n₁ n₂ { w₁ with toMedium := m } { w₂ with toMedium := m } :=
  ⟨rfl, h.memory, h.sweep, h.log⟩

/-- The memory can be replaced in both worlds, as long as the engines match. -/
theorem withMemory (h : Alike R since n₁ n₂ w₁ w₂) {m₁ : ε₁} {m₂ : ε₂}
    (hm : R n₁ n₂ m₁ m₂) :
    Alike R since n₁ n₂ { w₁ with memory := m₁ } { w₂ with memory := m₂ } :=
  ⟨h.medium, hm, h.sweep, h.log⟩

/-- A read makes the same step in both worlds. -/
theorem download (h : Alike R since n₁ n₂ w₁ w₂) {τ : Type} [BlobSink τ] (client : BlobClient σ)
    (path : String) (d : Download τ) :
    (d.step client path w₁.toSite).1 = (d.step client path w₂.toSite).1 ∧
      Alike R since n₁ n₂ { w₁ with toSite := (d.step client path w₁.toSite).2 }
        { w₂ with toSite := (d.step client path w₂.toSite).2 } := by
  obtain ⟨hmedium, hmemory, hsweep, hlog⟩ := h
  cases d with
  | opening sink =>
    unfold Download.step
    simp only [hmedium]
    split <;> exact ⟨rfl, rfl, hmemory, hsweep, hlog⟩
  | streaming announced chunks fault read sink =>
    cases chunks with
    | cons chunk chunks =>
      unfold Download.step
      simp only
      split <;> exact ⟨rfl, hmedium, hmemory, hsweep, hlog⟩
    | nil =>
      unfold Download.step
      simp only
      split
      · exact ⟨rfl, hmedium, hmemory, hsweep, hlog⟩
      · split
        · exact ⟨rfl, hmedium, hmemory, hsweep, hlog⟩
        · split
          · exact ⟨rfl, hmedium, hmemory, hsweep, hlog⟩
          · exact ⟨rfl, hmedium, hmemory, hsweep, hlog.both (.blobRead read) rfl⟩
  | ended result sink => exact ⟨rfl, hmedium, hmemory, hsweep, hlog⟩

/-- An artifact is written in the same way in both worlds. -/
theorem write (h : Alike R since n₁ n₂ w₁ w₂) (client : BlobClient σ) (source : ArtifactSource)
    (path : String) :
    (client.write source path w₁.toSite).1 = (client.write source path w₂.toSite).1 ∧
      Alike R since n₁ n₂ { w₁ with toSite := (client.write source path w₁.toSite).2 }
        { w₂ with toSite := (client.write source path w₂.toSite).2 } := by
  obtain ⟨hmedium, hmemory, hsweep, hlog⟩ := h
  unfold BlobClient.write
  simp only [hmedium]
  split
  · next size m _ => exact ⟨rfl, rfl, hmemory, hsweep, hlog.both (.blobWritten size) rfl⟩
  · exact ⟨rfl, rfl, hmemory, hsweep, hlog⟩

end World.Alike

namespace Run

variable {b₁ : Builder ε₁ σ} {b₂ : Builder ε₂ σ} {r₁ r₂ : Run σ} {w₁ w₁' : World ε₁ σ}
  {w₂ w₂' : World ε₂ σ}

namespace Alike

/-- The registries of both runs differ in their failures only. -/
theorem registry (h : Alike R since (r₁, w₁) (r₂, w₂)) :
    ∃ r n₁ n₂, r₁.registry = Registry.withFailures r n₁ ∧ r₂.registry = r.withFailures n₂ := by
  cases h
  exact ⟨_, _, _, rfl, rfl⟩

/-- Both runs have the same disk. -/
theorem disk_eq (h : Alike R since (r₁, w₁) (r₂, w₂)) : w₁.disk = w₂.disk := by
  cases h with
  | intro workspace phase world => exact world.disk_eq

/-- Both runs are in the same phase, but for refusals. -/
theorem phase (h : Alike R since (r₁, w₁) (r₂, w₂)) : r₁.phase.Alike r₂.phase := by
  cases h with
  | intro workspace phase world => exact phase

/-- Both runs have the same workspace. -/
theorem workspace (h : Alike R since (r₁, w₁) (r₂, w₂)) : r₁.workspace = r₂.workspace := by
  cases h
  rfl

/-- Both worlds may change as long as they stay alike. -/
theorem mapWorld (h : Alike R since (r₁, w₁) (r₂, w₂))
    (hw : ∀ n₁ n₂, World.Alike R since n₁ n₂ w₁ w₂ → World.Alike R since n₁ n₂ w₁' w₂') :
    Alike R since (r₁, w₁') (r₂, w₂') := by
  cases h with
  | intro workspace phase world => exact .intro workspace phase (hw _ _ world)

/-- The disk can be replaced for both runs. -/
theorem withDisk (h : Alike R since (r₁, w₁) (r₂, w₂)) (disk : Disk) :
    Alike R since (r₁, { w₁ with disk }) (r₂, { w₂ with disk }) :=
  h.mapWorld fun _ _ hw =>
    ⟨congrArg (fun m => { m with disk }) hw.medium, hw.memory, hw.sweep, hw.log⟩

/-- Both engines come back from a call with the same answer. -/
theorem called {α : Type} (h : Alike R since (r₁, w₁) (r₂, w₂)) {answer₁ : α × ε₁}
    {answer₂ : α × ε₂} (hanswer : ∀ {n₁ n₂}, R n₁ n₂ w₁.memory w₂.memory →
      answer₁.1 = answer₂.1 ∧ R n₁ n₂ answer₁.2 answer₂.2) :
    answer₁.1 = answer₂.1 ∧ ∀ call : EngineCall, Alike R since
      (r₁, ({ w₁ with memory := answer₁.2 } : World ε₁ σ).record (.callEnded call))
      (r₂, ({ w₂ with memory := answer₂.2 } : World ε₂ σ).record (.callEnded call)) := by
  cases h with
  | intro workspace phase world =>
    obtain ⟨hreply, hm⟩ := hanswer world.memory
    exact ⟨hreply, fun call => .intro workspace phase ((world.withMemory hm).record _ rfl)⟩

/-- Both runs can enter the same phase. -/
theorem withPhase {after₁ : Run σ × World ε₁ σ} {after₂ : Run σ × World ε₂ σ}
    (h : Alike R since after₁ after₂) (phase : Phase σ) :
    Alike R since ({ after₁.1 with phase }, after₁.2) ({ after₂.1 with phase }, after₂.2) := by
  cases h with
  | intro workspace before world => exact .intro workspace (.same phase) world

/-- Both runs can be given the same workspace. -/
theorem withWorkspace (h : Alike R since (r₁, w₁) (r₂, w₂)) (space : Option Workspace) :
    Alike R since ({ r₁ with workspace := space }, w₁) ({ r₂ with workspace := space }, w₂) := by
  cases h with
  | intro workspace phase world => exact .intro space phase world

/-- What custodians do alike, both runs do alike. -/
theorem withCustodian {α : Type} {f₁ : Custodian ε₁ σ → α × Custodian ε₁ σ}
    {f₂ : Custodian ε₂ σ → α × Custodian ε₂ σ} (h : Alike R since (r₁, w₁) (r₂, w₂))
    (hf : ∀ c₁ c₂, Custodian.Alike R since c₁ c₂ →
      (f₁ c₁).1 = (f₂ c₂).1 ∧ Custodian.Alike R since (f₁ c₁).2 (f₂ c₂).2) :
    (r₁.withCustodian f₁ w₁).1 = (r₂.withCustodian f₂ w₂).1 ∧
      Alike R since (r₁.withCustodian f₁ w₁).2 (r₂.withCustodian f₂ w₂).2 := by
  cases h with
  | @intro r n₁ n₂ workspace phase₁ phase₂ _ _ phase world =>
    obtain ⟨hresult, r', n₁', n₂', hr₁, hr₂, hw⟩ :=
      hf { registry := r.withFailures n₁, world := w₁ }
        { registry := r.withFailures n₂, world := w₂ } ⟨r, n₁, n₂, rfl, rfl, world⟩
    refine ⟨hresult, ?_⟩
    unfold Run.withCustodian
    simp only [hr₁, hr₂]
    exact .intro workspace phase hw

/-- Both runs go on with a read. -/
theorem download {τ : Type} [BlobSink τ] (h : Alike R since (r₁, w₁) (r₂, w₂))
    (client : BlobClient σ) (path : String) (d : Download τ) (phase : Download τ → Phase σ) :
    Alike R since
      ({ r₁ with phase := phase (d.step client path w₁.toSite).1 },
        { w₁ with toSite := (d.step client path w₁.toSite).2 })
      ({ r₂ with phase := phase (d.step client path w₂.toSite).1 },
        { w₂ with toSite := (d.step client path w₂.toSite).2 }) := by
  cases h with
  | intro workspace before world =>
    obtain ⟨hstep, hworld⟩ := world.download client path d
    rw [hstep]
    exact .intro workspace (.same _) hworld

end Alike

/-! ## Ends -/

/-- Both runs drop their workspace. -/
theorem alike_dropWorkspace (h : Alike R since (r₁, w₁) (r₂, w₂)) :
    Alike R since (r₁.dropWorkspace w₁) (r₂.dropWorkspace w₂) := by
  cases h with
  | intro workspace phase world =>
    cases workspace with
    | none => exact .intro none phase world
    | some space =>
      unfold dropWorkspace
      simp only [world.disk_eq]
      refine .intro none phase ⟨?_, world.memory, world.sweep, world.log⟩
      simp only [congrArg Medium.store world.medium]

/-- Both runs clean up. -/
theorem alike_cleanUp (hb : Builder.Matched R b₁ b₂) (h : Alike R since (r₁, w₁) (r₂, w₂)) :
    Alike R since (r₁.cleanUp b₁ w₁) (r₂.cleanUp b₂ w₂) :=
  ((alike_dropWorkspace h).withCustodian fun _ _ hc => hc.releaseAll hb.engine).2

/-- Both runs end, and report the same but for refusals. -/
theorem alike_finish (hb : Builder.Matched R b₁ b₂) (h : Alike R since (r₁, w₁) (r₂, w₂))
    (result : TaskResult) (failedStage : Option Stage) :
    Alike R since (r₁.finish b₁ result failedStage w₁) (r₂.finish b₂ result failedStage w₂) := by
  have hclean := alike_cleanUp hb h
  rw [finish_eq_cleanUp, finish_eq_cleanUp]
  revert hclean
  generalize r₁.cleanUp b₁ w₁ = p₁
  generalize r₂.cleanUp b₂ w₂ = p₂
  rintro ⟨workspace, phase, world⟩
  exact .intro workspace (.ended result failedStage _ _ _) (world.record _ rfl)

/-- Both runs fail at the same stage for the same reason. -/
theorem alike_fail (hb : Builder.Matched R b₁ b₂) (h : Alike R since (r₁, w₁) (r₂, w₂))
    (stage : Stage) (error : BuildError) :
    Alike R since (r₁.fail b₁ stage error w₁) (r₂.fail b₂ stage error w₂) :=
  alike_finish hb h _ _

/-! ## Stages -/

/-- Both builders say the same about whether it is too late for a stage. -/
theorem isLate_eq (hb : Builder.Matched R b₁ b₂) (c : Commission) (stage : Stage) :
    isLate b₁ c stage = isLate b₂ c stage := by
  unfold isLate
  rw [hb.timeLimit]

/-- Both builders say the same about whether the clock breaks off. -/
theorem isBeyondClock_eq (hb : Builder.Matched R b₁ b₂) (c : Commission) :
    isBeyondClock b₁ c = isBeyondClock b₂ c := by
  unfold isBeyondClock
  rw [hb.timeLimit]

/-- Both runs enter a stage, or are too late for it. -/
theorem alike_enter (hb : Builder.Matched R b₁ b₂) (h : Alike R since (r₁, w₁) (r₂, w₂))
    (c : Commission) (stage : Stage) (phase : Phase σ) :
    Alike R since (r₁.enter b₁ c stage phase w₁) (r₂.enter b₂ c stage phase w₂) := by
  unfold enter
  rw [isLate_eq hb]
  split
  · exact alike_fail hb h _ _
  · exact h.withPhase phase

/-- Both runs complete a stage and enter the next one. -/
theorem alike_next (hb : Builder.Matched R b₁ b₂) (h : Alike R since (r₁, w₁) (r₂, w₂))
    (c : Commission) (completed stage : Stage) (phase : Phase σ) :
    Alike R since (r₁.next b₁ c completed stage phase w₁)
      (r₂.next b₂ c completed stage phase w₂) :=
  alike_enter hb (h.mapWorld fun _ _ hw => hw.record _ rfl) c stage phase

/-- Both runs are prepared in the same way. -/
theorem prepare_cases (hb : Builder.Matched R b₁ b₂) (hw : World.Alike R since n₁ n₂ w₁ w₂)
    (c : Commission) :
    (∃ reason, prepare b₁ c w₁ = .error reason ∧ prepare b₂ c w₂ = .error reason) ∨
    ∃ result m, prepare b₁ c w₁ = .ok (result, { w₁ with toMedium := m }) ∧
      prepare b₂ c w₂ = .ok (result, { w₂ with toMedium := m }) := by
  unfold prepare
  simp only [hb.engine.kind, hb.stores, hb.stagingRoot, hw.medium]
  by_cases hkind : c.plan.engine ≠ b₂.engine.kind
  · rw [if_pos hkind, if_pos hkind]
    exact .inr ⟨_, w₂.toMedium, by rw [← hw.medium], rfl⟩
  rw [if_neg hkind, if_neg hkind]
  cases c.plan.effectiveOverrides with
  | error reason => exact .inl ⟨reason, rfl, rfl⟩
  | ok overrides =>
    dsimp only
    cases overrides.assemble c.plan.shape with
    | error e => exact .inr ⟨_, w₂.toMedium, by rw [← hw.medium], rfl⟩
    | ok config =>
      simp only
      generalize b₂.stores.resolve c.plan w₂.toMedium = found
      obtain ⟨e | client, m⟩ := found
      · exact .inr ⟨_, m, rfl, rfl⟩
      · simp only
        cases Workspace.create m.disk b₂.stagingRoot c.plan.stagingMode c.plan.artifactPath
          c.suffix with
        | error e => exact .inr ⟨_, m, rfl, rfl⟩
        | ok created => exact .inr ⟨_, { m with disk := created.2 }, rfl, rfl⟩

/-- Both runs are configured. -/
theorem alike_configure (hb : Builder.Matched R b₁ b₂) (h : Alike R since (r₁, w₁) (r₂, w₂))
    (c : Commission) : Alike R since (r₁.configure b₁ c w₁) (r₂.configure b₂ c w₂) := by
  have hprepare : ∃ n₁ n₂, World.Alike R since n₁ n₂ w₁ w₂ := by
    cases h with
    | intro workspace phase world => exact ⟨_, _, world⟩
  obtain ⟨n₁, n₂, hw⟩ := hprepare
  unfold configure
  rw [isBeyondClock_eq hb, isLate_eq hb]
  split
  · exact h.withPhase _
  split
  · exact alike_fail hb h _ _
  obtain ⟨reason, hp₁, hp₂⟩ | ⟨result, m, hp₁, hp₂⟩ := prepare_cases hb hw c
  · simp only [hp₁, hp₂]
    exact h.withPhase _
  · have hprepared : Alike R since (r₁, { w₁ with toMedium := m })
        (r₂, { w₂ with toMedium := m }) :=
      h.mapWorld fun _ _ hw => hw.withMedium m
    simp only [hp₁, hp₂]
    cases result with
    | error e => exact alike_fail hb hprepared _ _
    | ok prepared => exact alike_next hb (hprepared.withWorkspace (some prepared.2)) c _ _ _

/-- Both runs make the same step of their reads. -/
theorem alike_fetch (hb : Builder.Matched R b₁ b₂) (h : Alike R since (r₁, w₁) (r₂, w₂))
    (c : Commission) (idsFirst : Bool) (setup : Setup σ) (vectors : Download VectorSink)
    (ids : Download StagingBuffer) :
    Alike R since (r₁.fetch b₁ c idsFirst setup vectors ids w₁)
      (r₂.fetch b₂ c idsFirst setup vectors ids w₂) := by
  have hvectors := h.download setup.client c.plan.vectorPath vectors (.fetching setup · ids)
  have hids := h.download setup.client c.plan.docIdPath ids (.fetching setup vectors ·)
  unfold fetch
  dsimp only
  cases vectors.result? with
  | none =>
    cases ids.result? with
    | none =>
      cases idsFirst with
      | true => exact hids
      | false => exact hvectors
    | some result =>
      cases result with
      | error e => exact alike_fail hb h _ _
      | ok n => exact hvectors
  | some result =>
    cases result with
    | error e => exact alike_fail hb h _ _
    | ok n =>
      cases ids.result? with
      | none => exact hids
      | some result =>
        cases result with
        | error e => exact alike_fail hb h _ _
        | ok n =>
          dsimp only
          split
          · exact alike_fail hb h _ _
          · exact alike_next hb h c _ _ _

/-! ## Tasks -/

/-- Both runs begin a task, and the pool says the same about it. -/
theorem alike_beginTask (h : Alike R since (r₁, w₁) (r₂, w₂)) (setup : Setup σ) (task : Task) :
    (r₁.beginTask setup task w₁).1 = (r₂.beginTask setup task w₂).1 ∧
      Alike R since (r₁.beginTask setup task w₁).2 (r₂.beginTask setup task w₂).2 := by
  have hstarted : ∀ call, Alike R since (r₁, w₁.record (.callStarted call))
      (r₂, w₂.record (.callStarted call)) := fun call => h.mapWorld fun _ _ hw => hw.record _ rfl
  cases task with
  | build d => exact ⟨rfl, hstarted _⟩
  | convert source =>
    cases h with
    | @intro r n₁ n₂ workspace phase₁ phase₂ _ _ phase world =>
      unfold beginTask
      simp only [Registry.beginTransfer_withFailures]
      cases r.beginTransfer source.id with
      | error e => exact ⟨rfl, .intro workspace phase world⟩
      | ok begun => exact ⟨rfl, .intro workspace phase (world.record _ rfl)⟩
  | persist source =>
    obtain ⟨r, n₁, n₂, hr₁, hr₂⟩ := h.registry
    have hlookup : ∀ n, (r.withFailures n).lookup source.id = r.lookup source.id := fun _ => rfl
    unfold beginTask
    simp only [hr₁, hr₂, hlookup, h.workspace]
    cases r.lookup source.id with
    | error e => exact ⟨rfl, h⟩
    | ok native => exact ⟨rfl, hstarted _⟩

/-- Both runs come back from their build with the same answer. -/
theorem alike_endBuild (hb : Builder.Matched R b₁ b₂) (h : Alike R since (r₁, w₁) (r₂, w₂))
    (setup : Setup σ) (dataset : Dataset) :
    (r₁.endBuild b₁ setup dataset w₁).1 = (r₂.endBuild b₂ setup dataset w₂).1 ∧
      Alike R since (r₁.endBuild b₁ setup dataset w₁).2 (r₂.endBuild b₂ setup dataset w₂).2 := by
  have hreply := h.called fun hm => hb.engine.build hm dataset setup.config
  unfold endBuild
  revert hreply
  generalize b₁.engine.build dataset setup.config w₁.memory = answer₁
  generalize b₂.engine.build dataset setup.config w₂.memory = answer₂
  obtain ⟨reply, m₁⟩ := answer₁
  obtain ⟨_, m₂⟩ := answer₂
  rintro ⟨rfl, hcalled⟩
  replace hcalled := hcalled
    (.build setup.config dataset.docCount dataset.dimension dataset.elementType)
  match reply with
  | .ok native =>
    refine hcalled.withCustodian fun c₁ c₂ hc => ?_
    obtain ⟨htoken, hregistered⟩ := hc.register native
    exact ⟨congrArg Except.ok htoken, hregistered⟩
  | .failed message none => exact hcalled.withCustodian fun c₁ c₂ hc => ⟨rfl, hc⟩
  | .failed message (some native) =>
    refine hcalled.withCustodian fun c₁ c₂ hc => ⟨rfl, ?_⟩
    obtain ⟨htoken, hregistered⟩ := hc.register native
    have hreleased := hregistered.release hb.engine (c₁.register native).1.id
    nth_rewrite 2 [htoken] at hreleased
    exact hreleased
  | .panicked message => exact ⟨rfl, hcalled⟩

/-- Both runs come back from their conversion with the same answer. -/
theorem alike_endConvert (hb : Builder.Matched R b₁ b₂) (h : Alike R since (r₁, w₁) (r₂, w₂))
    (setup : Setup σ) (source : TrackedIndex) (gpu : NativeIndex) :
    (r₁.endConvert b₁ setup source gpu w₁).1 = (r₂.endConvert b₂ setup source gpu w₂).1 ∧
      Alike R since (r₁.endConvert b₁ setup source gpu w₁).2
        (r₂.endConvert b₂ setup source gpu w₂).2 := by
  have hreply := h.called fun hm => hb.engine.convert hm gpu setup.config.cpu
  unfold endConvert
  revert hreply
  generalize b₁.engine.convert gpu setup.config.cpu w₁.memory = answer₁
  generalize b₂.engine.convert gpu setup.config.cpu w₂.memory = answer₂
  obtain ⟨reply, m₁⟩ := answer₁
  obtain ⟨_, m₂⟩ := answer₂
  rintro ⟨rfl, hcalled⟩
  refine (hcalled (.convert gpu)).withCustodian fun c₁ c₂ hc => ?_
  obtain ⟨hend, hfinished⟩ := hc.finishTransfer hb.engine source.id gpu reply
  simp only [hend]
  exact ⟨trivial, hfinished⟩

/-- Both runs come back from their persisting call with the same answer. -/
theorem alike_endPersist (hb : Builder.Matched R b₁ b₂) (h : Alike R since (r₁, w₁) (r₂, w₂))
    (source : TrackedIndex) (cpu : NativeIndex) :
    (r₁.endPersist b₁ source cpu w₁).1 = (r₂.endPersist b₂ source cpu w₂).1 ∧
      Alike R since (r₁.endPersist b₁ source cpu w₁).2 (r₂.endPersist b₂ source cpu w₂).2 := by
  have hreply := h.called fun hm => hb.engine.persist hm cpu
  unfold endPersist
  rw [h.workspace]
  revert hreply
  generalize b₁.engine.persist cpu w₁.memory = answer₁
  generalize b₂.engine.persist cpu w₂.memory = answer₂
  obtain ⟨reply, m₁⟩ := answer₁
  obtain ⟨_, m₂⟩ := answer₂
  rintro ⟨rfl, hcalled⟩
  cases reply with
  | failed message _ => exact ⟨rfl, hcalled _⟩
  | panicked message => exact ⟨rfl, hcalled _⟩
  | ok bytes =>
    cases hspace : r₂.workspace with
    | none => exact ⟨rfl, hcalled _⟩
    | some space =>
      dsimp only [World.record]
      rw [h.disk_eq]
      cases space.write w₂.disk bytes with
      | error e => exact ⟨rfl, hcalled _⟩
      | ok written =>
        have hwritten := (hcalled (.persist cpu space.mode)).withDisk written.2
        exact ⟨rfl, hwritten.withWorkspace (some written.1)⟩

/-- Both runs come back from the call of their task with the same answer. -/
theorem alike_endTask (hb : Builder.Matched R b₁ b₂) (h : Alike R since (r₁, w₁) (r₂, w₂))
    (setup : Setup σ) (task : Task) (subject : Option NativeIndex) :
    (r₁.endTask b₁ setup task subject w₁).1 = (r₂.endTask b₂ setup task subject w₂).1 ∧
      Alike R since (r₁.endTask b₁ setup task subject w₁).2
        (r₂.endTask b₂ setup task subject w₂).2 := by
  match task, subject with
  | .build dataset, _ => exact alike_endBuild hb h setup dataset
  | .convert source, some gpu => exact alike_endConvert hb h setup source gpu
  | .convert source, none => exact ⟨rfl, h⟩
  | .persist source, some cpu => exact alike_endPersist hb h source cpu
  | .persist source, none => exact ⟨rfl, h⟩

/-- Both runs go on with their task. -/
theorem alike_advanceTask (hb : Builder.Matched R b₁ b₂) (h : Alike R since (r₁, w₁) (r₂, w₂))
    (setup : Setup σ) (task : Task) (progress : Progress) :
    (r₁.advanceTask b₁ setup task progress w₁).1 = (r₂.advanceTask b₂ setup task progress w₂).1 ∧
      Alike R since (r₁.advanceTask b₁ setup task progress w₁).2
        (r₂.advanceTask b₂ setup task progress w₂).2 := by
  cases progress with
  | queued => exact alike_beginTask h setup task
  | running subject =>
    obtain ⟨hresult, hended⟩ := alike_endTask hb h setup task subject
    exact ⟨congrArg Progress.returned hresult, hended⟩
  | returned result => exact ⟨rfl, h⟩

/-- Both runs take notice of the same result. -/
theorem alike_notice (hb : Builder.Matched R b₁ b₂) (h : Alike R since (r₁, w₁) (r₂, w₂))
    (c : Commission) (setup : Setup σ) (task : Task) (result : Except BuildError TrackedIndex) :
    Alike R since (r₁.notice b₁ c setup task result w₁) (r₂.notice b₂ c setup task result w₂) := by
  cases task with
  | build dataset =>
    cases result with
    | error e => exact alike_fail hb h _ e
    | ok token => exact alike_next hb h c _ _ _
  | convert source =>
    cases result with
    | error e => exact alike_fail hb h _ e
    | ok token => exact alike_next hb h c _ _ _
  | persist source =>
    have hreleased : Alike R since
        (r₁.withCustodian (fun c => ((), c.release b₁.engine source.id)) w₁).2
        (r₂.withCustodian (fun c => ((), c.release b₂.engine source.id)) w₂).2 :=
      (h.withCustodian fun _ _ hc => ⟨rfl, hc.release hb.engine source.id⟩).2
    cases result with
    | error e => exact alike_fail hb hreleased _ e
    | ok token => exact alike_next hb hreleased c _ _ _

/-- Both runs upload, and end in the same way. -/
theorem alike_upload (hb : Builder.Matched R b₁ b₂) (h : Alike R since (r₁, w₁) (r₂, w₂))
    (c : Commission) (setup : Setup σ) :
    Alike R since (r₁.upload b₁ c setup w₁) (r₂.upload b₂ c setup w₂) := by
  have hsource : r₁.source = r₂.source := by
    unfold source
    rw [h.workspace]
  cases h with
  | @intro r n₁ n₂ workspace phase₁ phase₂ _ _ phase world =>
    rw [upload_eq, upload_eq, hsource]
    generalize Run.source _ = source
    have hwritten := world.write setup.client source c.plan.artifactPath
    revert hwritten
    generalize setup.client.write source c.plan.artifactPath w₁.toSite = written₁
    generalize setup.client.write source c.plan.artifactPath w₂.toSite = written₂
    obtain ⟨result, site₁⟩ := written₁
    obtain ⟨_, site₂⟩ := written₂
    rintro ⟨rfl, hworld⟩
    have hsent : Alike R since
        ({ registry := r.withFailures n₁
           workspace := workspace.map (·.takeSource.2)
           phase := phase₁ }, { w₁ with toSite := site₁ })
        ({ registry := r.withFailures n₂
           workspace := workspace.map (·.takeSource.2)
           phase := phase₂ }, { w₂ with toSite := site₂ }) := .intro _ phase hworld
    cases result with
    | error e => exact alike_fail hb hsent _ e
    | ok u =>
      have hdropped := (alike_dropWorkspace hsent).mapWorld fun _ _ hw =>
        hw.record (.stageObserved .uploading) rfl
      exact alike_finish hb hdropped _ _

/-! ## Moves -/

/-- Both runs make the same step. -/
theorem alike_proceed (hb : Builder.Matched R b₁ b₂) (h : Alike R since (r₁, w₁) (r₂, w₂))
    (c : Commission) (idsFirst : Bool) :
    Alike R since (r₁.proceed b₁ c idsFirst w₁) (r₂.proceed b₂ c idsFirst w₂) := by
  -- what a task does is put into the phase of the run, whatever phase that is
  have hgoesOn : ∀ (setup : Setup σ) (task : Task) (progress : Progress)
      (phase : Progress → Phase σ),
      Alike R since
        ({ (r₁.advanceTask b₁ setup task progress w₁).2.1 with
            phase := phase (r₁.advanceTask b₁ setup task progress w₁).1 },
          (r₁.advanceTask b₁ setup task progress w₁).2.2)
        ({ (r₂.advanceTask b₂ setup task progress w₂).2.1 with
            phase := phase (r₂.advanceTask b₂ setup task progress w₂).1 },
          (r₂.advanceTask b₂ setup task progress w₂).2.2) := by
    intro setup task progress phase
    obtain ⟨hprogress, hadvanced⟩ := alike_advanceTask hb h setup task progress
    rw [hprogress]
    exact hadvanced.withPhase _
  have hphase := h.phase
  unfold proceed
  generalize r₁.phase = phase₁ at hphase
  generalize r₂.phase = phase₂ at hphase
  cases hphase with
  | ended result failedStage r n₁ n₂ => exact h
  | same =>
    cases phase₁ with
    | configuring => exact alike_configure hb h c
    | fetching setup vectors ids => exact alike_fetch hb h c idsFirst setup vectors ids
    | working setup task progress =>
      cases progress with
      | returned result => exact alike_notice hb h c setup task result
      | queued => exact hgoesOn setup task .queued (.working setup task ·)
      | running subject => exact hgoesOn setup task (.running subject) (.working setup task ·)
    | uploading setup => exact alike_upload hb h c setup
    | detached setup task progress =>
      obtain ⟨hprogress, hadvanced⟩ := alike_advanceTask hb h setup task progress
      dsimp only
      revert hprogress hadvanced
      generalize r₁.advanceTask b₁ setup task progress w₁ = after₁
      generalize r₂.advanceTask b₂ setup task progress w₂ = after₂
      obtain ⟨progress, r₁', w₁'⟩ := after₁
      obtain ⟨_, r₂', w₂'⟩ := after₂
      rintro rfl hadvanced
      cases progress with
      | returned result => exact (alike_cleanUp hb hadvanced).withPhase .cancelled
      | queued => exact hadvanced.withPhase _
      | running subject => exact hadvanced.withPhase _
    | ended report => exact h
    | cancelled => exact h
    | aborted reason => exact h

/-- Both runs are cancelled. -/
theorem alike_cancel (hb : Builder.Matched R b₁ b₂) (h : Alike R since (r₁, w₁) (r₂, w₂)) :
    Alike R since (r₁.cancel b₁ w₁) (r₂.cancel b₂ w₂) := by
  have hatOnce := (alike_cleanUp hb h).withPhase .cancelled
  have hphase := h.phase
  unfold cancel
  generalize r₁.phase = phase₁ at hphase
  generalize r₂.phase = phase₂ at hphase
  cases hphase with
  | ended result failedStage r n₁ n₂ => exact h
  | same =>
    cases phase₁ with
    | configuring => exact hatOnce
    | fetching setup vectors ids => exact hatOnce
    | working setup task progress =>
      have hleft : Alike R since
          (if task.takesWorkspace then (r₁, w₁) else r₁.dropWorkspace w₁)
          (if task.takesWorkspace then (r₂, w₂) else r₂.dropWorkspace w₂) := by
        split
        · exact h
        · exact alike_dropWorkspace h
      cases progress with
      | returned result => exact hatOnce
      | queued => exact hleft.withPhase _
      | running subject => exact hleft.withPhase _
    | uploading setup => exact hatOnce
    | detached setup task progress => exact h
    | ended report => exact h
    | cancelled => exact h
    | aborted reason => exact h

/-- Both runs make the same move. -/
theorem alike_move (hb : Builder.Matched R b₁ b₂) (h : Alike R since (r₁, w₁) (r₂, w₂))
    (c : Commission) (m : Move) : Alike R since (r₁.move b₁ c m w₁) (r₂.move b₂ c m w₂) := by
  cases m with
  | proceed idsFirst => exact alike_proceed hb h c idsFirst
  | cancel => exact alike_cancel hb h

/-- The same moves take two runs to the same place. -/
theorem alike_play (hb : Builder.Matched R b₁ b₂) (c : Commission) (ms : List Move)
    (h : Alike R since (r₁, w₁) (r₂, w₂)) :
    Alike R since (play b₁ c ms r₁ w₁) (play b₂ c ms r₂ w₂) := by
  induction ms generalizing r₁ w₁ r₂ w₂ with
  | nil => exact h
  | cons m ms ih => exact ih (alike_move hb h c m)

/-! ## Whole runs -/

/-- Both runs make the same steps in a row. -/
theorem alike_advance (hb : Builder.Matched R b₁ b₂) (c : Commission) (n : Nat) (turn : Turn)
    (h : Alike R since (r₁, w₁) (r₂, w₂)) :
    (advance b₁ c n turn r₁ w₁).1 = (advance b₂ c n turn r₂ w₂).1 ∧
      Alike R since (advance b₁ c n turn r₁ w₁).2 (advance b₂ c n turn r₂ w₂).2 := by
  induction n generalizing turn r₁ w₁ r₂ w₂ with
  | zero => exact ⟨rfl, h⟩
  | succ n ih =>
    have hturn : r₁.chooseDownload turn = r₂.chooseDownload turn := by
      have hphase := h.phase
      unfold chooseDownload
      generalize r₁.phase = phase₁ at hphase
      generalize r₂.phase = phase₂ at hphase
      cases hphase <;> rfl
    unfold advance
    rw [hturn]
    exact ih _ (alike_proceed hb h c _)

/-- Both runs settle down after what was done before. -/
theorem alike_settle (hb : Builder.Matched R b₁ b₂) (c : Commission)
    (before₁ : Turn × Run σ × World ε₁ σ) (before₂ : Turn × Run σ × World ε₂ σ)
    (h : before₁.1 = before₂.1 ∧ Alike R since before₁.2 before₂.2) :
    (before₁.2.1.settle b₁ c before₁.1 before₁.2.2).1 =
      (before₂.2.1.settle b₂ c before₂.1 before₂.2.2).1 ∧
    Alike R since (before₁.2.1.settle b₁ c before₁.1 before₁.2.2).2
      (before₂.2.1.settle b₂ c before₂.1 before₂.2.2).2 := by
  obtain ⟨hturn, hbefore⟩ := h
  have hsteps : before₁.2.1.stepsAhead = before₂.2.1.stepsAhead := by
    have hphase := hbefore.phase
    unfold stepsAhead
    generalize before₁.2.1.phase = phase₁ at hphase
    generalize before₂.2.1.phase = phase₂ at hphase
    cases hphase <;> rfl
  unfold settle
  rw [hsteps, hturn]
  exact alike_advance hb c _ _ hbefore

/-- Both runs go on to their end. -/
theorem alike_complete (hb : Builder.Matched R b₁ b₂) (c : Commission)
    (h : Alike R since (r₁, w₁) (r₂, w₂)) :
    Alike R since (r₁.complete b₁ c w₁) (r₂.complete b₂ c w₂) := by
  have hfirst := alike_settle hb c ({}, r₁, w₁) ({}, r₂, w₂) ⟨rfl, h⟩
  have hthird := alike_settle hb c _ _ (alike_settle hb c _ _ hfirst)
  exact (alike_settle hb c _ _ (alike_settle hb c _ _ hthird)).2

end Run

end VectorIndex
