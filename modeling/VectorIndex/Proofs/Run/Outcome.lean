import VectorIndex.Run.Step
import VectorIndex.Proofs.Custody.Surroundings
import VectorIndex.Proofs.Disk.Following

/-!
# How the steps of a run come out

Whatever a stage does, it ends the run or enters another stage, and in between nothing is
freed.  `Run.Outcome` says so, and the lemmas `outcome_configure` to `outcome_upload` say that
every stage comes out like this.  `Run.cleanUp_spec` describes the end of a run.
-/

set_option autoImplicit false

namespace VectorIndex

variable {ε σ : Type}

/-! ## Quiet changes -/

/-- The surroundings may have changed, but nothing was freed. -/
def World.Quiet (w w' : World ε σ) : Prop :=
  ∃ events, w'.log = w.log ++ events ∧ freedIn events = []

namespace World

/-- Without a new event nothing is freed. -/
theorem Quiet.of_log_eq {w w' : World ε σ} (h : w'.log = w.log) : w.Quiet w' :=
  ⟨[], h.trans (List.append_nil _).symm, rfl⟩

/-- A world is quiet as long as nothing happens. -/
theorem Quiet.refl (w : World ε σ) : w.Quiet w :=
  .of_log_eq rfl

/-- An event that frees nothing is quiet. -/
theorem Quiet.record {w w' : World ε σ} (h : w.Quiet w') {e : Event} (he : e.freed? = none) :
    w.Quiet (w'.record e) := by
  obtain ⟨events, hlog, hfreed⟩ := h
  refine ⟨events ++ [e], ?_, ?_⟩
  · rw [World.record, hlog, List.append_assoc]
  · rw [freedIn_append, hfreed, freedIn, List.filterMap_cons_none he]
    rfl

end World

/-- A step of a read is quiet. -/
theorem Download.quiet_step {τ : Type} [BlobSink τ] (client : BlobClient σ) (path : String)
    (d : Download τ) (w : World ε σ) :
    w.Quiet { w with toSite := (d.step client path w.toSite).2 } := by
  have hread : ∀ n, w.Quiet { w with toSite := w.toSite.record (.blobRead n) } := fun n =>
    (World.Quiet.refl w).record (e := .blobRead n) rfl
  unfold Download.step
  split
  · split <;> exact .of_log_eq rfl
  · split <;> exact .refl w
  · split
    · exact .refl w
    · split
      · exact .refl w
      · split
        · exact .refl w
        · exact hread _
  · exact .refl w

/-- To write an artifact is quiet. -/
theorem BlobClient.quiet_write (client : BlobClient σ) (source : ArtifactSource) (path : String)
    (w : World ε σ) : w.Quiet { w with toSite := (client.write source path w.toSite).2 } := by
  unfold BlobClient.write
  split
  · next size m _ =>
    have hstored : w.Quiet { w with toMedium := m } := .of_log_eq rfl
    exact hstored.record (e := .blobWritten size) rfl
  · exact .of_log_eq rfl

namespace Run

variable (b : Builder ε σ) (c : Commission) (r : Run σ) (w : World ε σ)

/-- The custodian of a run. -/
def custodian (r : Run σ) (w : World ε σ) : Custodian ε σ :=
  { registry := r.registry, world := w }

/-! ## The end of a run -/

/-- Cleaning up removes the workspace and then frees everything that is left. -/
theorem cleanUp_spec : ∃ disk,
    r.cleanUp b w =
      ({ r with
          registry := ((r.custodian { w with disk }).releaseAll b.engine).2.registry
          workspace := none },
        ((r.custodian { w with disk }).releaseAll b.engine).2.world) ∧
      (∀ space, r.workspace = some space → disk = space.remove w.disk) ∧
      (r.workspace = none → disk = w.disk) := by
  obtain ⟨registry, workspace, phase⟩ := r
  cases workspace with
  | none => exact ⟨w.disk, rfl, nofun, fun _ => rfl⟩
  | some space => exact ⟨space.remove w.disk, rfl, by rintro _ ⟨⟩; rfl, nofun⟩

/-- A run ends by cleaning up; it reports the counts after that. -/
theorem finish_eq_cleanUp (result : TaskResult) (failedStage : Option Stage) :
    r.finish b result failedStage w =
      ({ (r.cleanUp b w).1 with
          phase := .ended { result, failedStage, handles := (r.cleanUp b w).1.registry.tally } },
        (r.cleanUp b w).2.record (.runEnded failedStage.isNone)) :=
  rfl

/-! ## Configuring -/

/-- Where nothing goes wrong, configuring makes the workspace and starts the two reads. -/
theorem configure_eq_next {b : Builder ε σ} {c : Commission} {r : Run σ} {w : World ε σ}
    {overrides : Overrides} {config : BuildConfig} {client : BlobClient σ} {m : Medium σ}
    {space : Workspace} {disk : Disk} (hclock : isBeyondClock b c = false)
    (htime : isLate b c .configuring = false)
    (hkind : c.plan.engine = b.engine.kind) (hoverrides : c.plan.effectiveOverrides = .ok overrides)
    (hconfig : overrides.assemble c.plan.shape = .ok config)
    (hfound : b.stores.resolve c.plan w.toMedium = (.ok client, m))
    (hspace : Workspace.create m.disk b.stagingRoot c.plan.stagingMode c.plan.artifactPath
      c.suffix = .ok (space, disk)) :
    r.configure b c w = ({ r with workspace := some space } : Run σ).next b c .configuring .fetching
      (.fetching { config, client }
        (.opening (VectorSink.forElements c.plan.elementType c.plan.vectorBytes))
        (.opening (StagingBuffer.withLimit c.plan.docIdBytes)))
      { w with toMedium := { m with disk } } := by
  unfold configure prepare
  simp only [hclock, htime, Bool.false_eq_true, if_false, hkind, ne_eq, not_true_eq_false,
    hoverrides, hconfig, hfound, hspace]

/-! ## Outcomes -/

end Run

/-- Whether a run enters a stage with this phase. -/
def Phase.isEntry : Phase σ → Bool
  | .fetching .. => true
  | .working _ _ .queued => true
  | .uploading _ => true
  | _ => false

/-- What comes of a stage: the run ends, or it goes on. -/
inductive Run.Outcome (b : Builder ε σ) (r : Run σ) (w : World ε σ) : Run σ × World ε σ → Prop where
  | ends (result : TaskResult) (failedStage : Option Stage) {w' : World ε σ} (quiet : w.Quiet w') :
    Outcome b r w (r.finish b result failedStage w')
  | enters (phase : Phase σ) {w' : World ε σ} (quiet : w.Quiet w') (entry : phase.isEntry = true) :
    Outcome b r w ({ r with phase }, w')

/-- What is done with the index of a task when the task is over. -/
def Task.discard (engine : Engine ε) (c : Custodian ε σ) : Task → Custodian ε σ
  | .persist source => c.release engine source.id
  | .build _ => c
  | .convert _ => c

/-- A workspace has an absolute path that leads to a directory below the root. -/
def Workspace.Placed (space : Workspace) : Prop :=
  Disk.isAbsolute space.directory = true ∧
    ∃ d : Disk, ∃ names, d.locate space.directory = .ok names ∧ names ≠ []

/-- What is staged at first: a file that still has to be made, or nothing. -/
def StagedContent.inMode (mode : StagingMode) (path : String) : StagedContent :=
  match mode with
  | .disk => .file path
  | .memory => .buffer []

/-- What a new workspace is: a fresh directory below the staging root, and what is staged there. -/
theorem Workspace.create_spec {d d' : Disk} {root artifactPath suffix : String}
    {mode : StagingMode} {space : Workspace}
    (h : Workspace.create d root mode artifactPath suffix = .ok (space, d')) :
    ∃ d₁ name, d.makeDirectories root = .ok d₁ ∧
      space.directory = Disk.join (d₁.absolute root) name ∧
      d₁.makeDirectory space.directory = .ok d' ∧
      space.content = .inMode mode (Disk.join space.directory (Text.lastSegment artifactPath)) := by
  unfold Workspace.create at h
  cases hroot : d.makeDirectories root with
  | error e =>
    rw [hroot] at h
    cases h
  | ok d₁ =>
    rw [hroot] at h
    dsimp -zeta only at h
    extract_lets taken directory at h
    cases hmade : d₁.makeDirectory directory with
    | error e =>
      simp only [hmade] at h
      cases h
    | ok made =>
      simp only [hmade] at h
      cases h
      exact ⟨d₁, _, rfl, rfl, hmade, by cases mode <;> rfl⟩

/-- A new workspace has a place. -/
theorem Workspace.placed_of_create {d d' : Disk} {root artifactPath suffix : String}
    {mode : StagingMode} {space : Workspace}
    (h : Workspace.create d root mode artifactPath suffix = .ok (space, d')) : space.Placed := by
  obtain ⟨d₁, name, -, hdirectory, hmade, -⟩ := Workspace.create_spec h
  obtain ⟨names, hlocate, hnode, -⟩ := Disk.exists_locate_of_makeDirectory hmade
  refine ⟨?_, d₁, names, hlocate, Disk.ne_nil_of_node?_eq_none hnode⟩
  rw [hdirectory]
  exact Disk.isAbsolute_join (Disk.isAbsolute_absolute ..) _

namespace Run

variable {b : Builder ε σ} {r : Run σ} {w w' : World ε σ} {phase : Phase σ}

/-- A failure is an outcome. -/
theorem outcome_fail (quiet : w.Quiet w') (stage : Stage) (error : BuildError) :
    Outcome b r w (r.fail b stage error w') :=
  .ends _ _ quiet

/-- To enter a stage, or to be late for it, is an outcome. -/
theorem outcome_enter (c : Commission) (quiet : w.Quiet w') (stage : Stage)
    (hphase : phase.isEntry = true) : Outcome b r w (r.enter b c stage phase w') := by
  unfold enter
  split
  · exact outcome_fail quiet _ _
  · exact .enters phase quiet hphase

/-- To go on to the next stage is an outcome. -/
theorem outcome_next (c : Commission) (quiet : w.Quiet w') (completed stage : Stage)
    (hphase : phase.isEntry = true) :
    Outcome b r w (r.next b c completed stage phase w') :=
  outcome_enter c (quiet.record rfl) stage hphase

/-- A run is prepared without a trace in the log, and where it gets a workspace, this has a
place. -/
theorem prepare_spec {c : Commission} {result : Except BuildError (Setup σ × Workspace)}
    (h : prepare b c w = .ok (result, w')) :
    w'.log = w.log ∧ ∀ setup space, result = .ok (setup, space) → space.Placed := by
  unfold prepare at h
  dsimp only at h
  split at h
  · cases h
    exact ⟨rfl, fun _ _ h => nomatch h⟩
  split at h
  · cases h
  split at h
  · cases h
    exact ⟨rfl, fun _ _ h => nomatch h⟩
  split at h
  · cases h
    exact ⟨rfl, fun _ _ h => nomatch h⟩
  split at h
  · cases h
    exact ⟨rfl, fun _ _ h => nomatch h⟩
  · next hcreate =>
    cases h
    refine ⟨rfl, ?_⟩
    rintro _ _ ⟨⟩
    exact Workspace.placed_of_create hcreate

/-- Configuring breaks off, fails without a workspace, or comes out with one. -/
theorem outcome_configure {c : Commission} {after : Run σ × World ε σ}
    (h : r.configure b c w = after) :
    (∃ reason, after = ({ r with phase := .aborted reason }, w)) ∨
    (∃ result failedStage w', w.Quiet w' ∧ after = r.finish b result failedStage w') ∨
    (∃ space : Workspace, space.Placed ∧ Outcome b { r with workspace := some space } w after) := by
  unfold configure at h
  split at h
  · exact .inl ⟨_, h.symm⟩
  split at h
  · exact .inr (.inl ⟨_, _, w, .refl w, h.symm⟩)
  split at h
  · exact .inl ⟨_, h.symm⟩
  · next e w' hprepare =>
    exact .inr (.inl ⟨_, _, w', .of_log_eq (prepare_spec hprepare).1, h.symm⟩)
  · next setup space w' hprepare =>
    obtain ⟨hlog, hplaced⟩ := prepare_spec hprepare
    refine .inr (.inr ⟨space, hplaced setup space rfl, ?_⟩)
    rw [← h]
    exact outcome_next c (.of_log_eq hlog) _ _ rfl

/-- A step of the reads leads to an outcome. -/
theorem outcome_fetch (b : Builder ε σ) (c : Commission) (idsFirst : Bool) (setup : Setup σ)
    (vectors : Download VectorSink) (ids : Download StagingBuffer) (r : Run σ) (w : World ε σ) :
    Outcome b r w (r.fetch b c idsFirst setup vectors ids w) := by
  have hvectors := vectors.quiet_step setup.client c.plan.vectorPath w
  have hids := ids.quiet_step setup.client c.plan.docIdPath w
  unfold fetch
  dsimp only
  split
  · exact outcome_fail (.refl w) _ _
  · exact outcome_fail (.refl w) _ _
  · split
    · exact outcome_fail (.refl w) _ _
    · exact outcome_next c (.refl w) _ _ rfl
  · exact .enters _ hids rfl
  · exact .enters _ hvectors rfl
  · split
    · exact .enters _ hids rfl
    · exact .enters _ hvectors rfl

/-- After a persisted index was given back, to take notice leads to an outcome. -/
theorem outcome_notice (b : Builder ε σ) (c : Commission) (setup : Setup σ) (task : Task)
    (result : Except BuildError TrackedIndex) (r : Run σ) (w : World ε σ) :
    Outcome b { r with registry := (task.discard b.engine (r.custodian w)).registry }
      (task.discard b.engine (r.custodian w)).world (r.notice b c setup task result w) := by
  cases task with
  | build dataset =>
    cases result with
    | error e => exact outcome_fail (.refl w) _ _
    | ok token => exact outcome_next c (.refl w) _ _ rfl
  | convert source =>
    cases result with
    | error e => exact outcome_fail (.refl w) _ _
    | ok token => exact outcome_next c (.refl w) _ _ rfl
  | persist source =>
    cases result with
    | error e => exact outcome_fail (.refl _) _ _
    | ok token => exact outcome_next c (.refl _) _ _ rfl

/-- After the workspace has handed over its source, the upload leads to an outcome. -/
theorem outcome_upload (b : Builder ε σ) (c : Commission) (setup : Setup σ) (r : Run σ)
    (w : World ε σ) :
    Outcome b { r with workspace := r.workspace.map fun space => space.takeSource.2 } w
      (r.upload b c setup w) := by
  obtain ⟨registry, workspace, phase⟩ := r
  cases workspace with
  | none =>
    have hquiet := setup.client.quiet_write (.buffer []) c.plan.artifactPath w
    unfold upload
    simp only
    generalize setup.client.write (.buffer []) c.plan.artifactPath w.toSite = written at hquiet ⊢
    obtain ⟨e | u, site⟩ := written
    · exact outcome_fail hquiet _ _
    · exact .ends (.success c.plan.artifactName) none (hquiet.record rfl)
  | some space =>
    have hquiet := setup.client.quiet_write space.takeSource.1 c.plan.artifactPath w
    unfold upload
    simp only
    generalize setup.client.write space.takeSource.1 c.plan.artifactPath w.toSite = written
      at hquiet ⊢
    obtain ⟨e | u, site⟩ := written
    · exact outcome_fail hquiet _ _
    · exact .ends (.success c.plan.artifactName) none
        (hquiet.record (e := .stageObserved .uploading) rfl)

end Run

end VectorIndex
