import VectorIndex.Proofs.Run.Accounts

/-!
# What holds throughout a run

A run that is under way has a workspace, a conversion under way has its source, and a run
that has ended holds nothing and reports its counts (`Run.Sound`).  Every move keeps this,
hands over what the engine hands over, and does not lose the workspace without removing its
directory (`Run.Advances`).
-/

set_option autoImplicit false

open scoped List

namespace VectorIndex

variable {ε σ : Type}

/-- The task of a phase and how far it is. -/
def Phase.task? : Phase σ → Option (Task × Progress)
  | .working _ task progress => some (task, progress)
  | .detached _ task progress => some (task, progress)
  | _ => none

/-- Whether there is a workspace in a phase.  A task that was left behind takes it along or not. -/
def Phase.keepsWorkspace : Phase σ → Bool
  | .configuring => false
  | .fetching .. => true
  | .working .. => true
  | .uploading _ => true
  | .ended _ => false
  | .detached _ task _ => task.takesWorkspace
  | .cancelled => false
  | .aborted _ => false

/-- Whether the run has been configured, with whatever result. -/
def Phase.hasStarted : Phase σ → Bool
  | .configuring => false
  | _ => true

namespace Run

/-- What holds in every state of a run. -/
structure Sound (r : Run σ) : Prop where
  tracks : ∀ task progress, r.phase.task? = some (task, progress) →
    task.Tracks r.registry progress
  housed : r.workspace.isSome = r.phase.keepsWorkspace
  placed : ∀ space, r.workspace = some space → space.Placed
  settled : ∀ report, r.phase = .ended report →
    r.registry.held = [] ∧ r.registry.liveCount = 0 ∧ report.handles = r.registry.tally

/-- What becomes of the directory of a run: it stays the run's own or is removed, and without one
the disk is left alone. -/
structure KeepsHouse (r : Run σ) (w : World ε σ) (after : Run σ × World ε σ) : Prop where
  of_some : ∀ space, r.workspace = some space →
    (∃ space', after.1.workspace = some space' ∧ space'.directory = space.directory) ∨
    (after.1.workspace = none ∧ after.2.disk.isDirectory space.directory = false)
  of_none : r.workspace = none → after.1.workspace = none ∧ after.2.disk = w.disk

/-- What one move does. -/
structure Advances (r : Run σ) (w : World ε σ) (given : List Component)
    (after : Run σ × World ε σ) : Prop where
  sound : after.1.Sound
  started : after.1.phase.hasStarted = true
  grows : (r.custodian w).Grows given (after.1.custodian after.2)
  keepsHouse : r.phase.hasStarted = true → KeepsHouse r w after

variable {b : Builder ε σ} {r : Run σ} {w : World ε σ} {after : Run σ × World ε σ}

/-! ## Ends -/

/-- Without a task there is nothing to keep track of. -/
theorem tracks_of_task?_eq_none {phase : Phase σ} (h : phase.task? = none) (registry : Registry)
    (task : Task) (progress : Progress) (htask : phase.task? = some (task, progress)) :
    task.Tracks registry progress := by
  rw [h] at htask
  cases htask

/-- To clean up removes the workspace and nothing else. -/
theorem keepsHouse_cleanUp (b : Builder ε σ) (w : World ε σ)
    (hplaced : ∀ space, r.workspace = some space → space.Placed) :
    KeepsHouse r w (r.cleanUp b w) := by
  obtain ⟨disk, hclean, hsome, hnone⟩ := r.cleanUp_spec b w
  have hdisk : (r.cleanUp b w).2.disk = disk := by
    rw [hclean]
    exact congrArg Medium.disk (Custodian.toMedium_releaseAll b.engine _)
  refine ⟨fun space hspace => .inr ⟨by rw [hclean], ?_⟩, fun hspace => ⟨by rw [hclean], ?_⟩⟩
  · obtain ⟨habs, hlocate⟩ := hplaced space hspace
    rw [hdisk, hsome space hspace]
    exact Disk.isDirectory_removeDirectory habs hlocate w.disk
  · rw [hdisk, hnone hspace]

/-- After cleaning up nothing is held, and no handle is live. -/
theorem settled_cleanUp (b : Builder ε σ) (r : Run σ) (w : World ε σ) :
    (r.cleanUp b w).1.registry.held = [] ∧ (r.cleanUp b w).1.registry.liveCount = 0 := by
  obtain ⟨disk, hclean, -, -⟩ := r.cleanUp_spec b w
  rw [hclean]
  exact ⟨Custodian.held_releaseAll .., Custodian.liveCount_releaseAll ..⟩

/-- After cleaning up there is no workspace. -/
theorem workspace_cleanUp (b : Builder ε σ) (r : Run σ) (w : World ε σ) :
    (r.cleanUp b w).1.workspace = none := by
  obtain ⟨disk, hclean, -, -⟩ := r.cleanUp_spec b w
  rw [hclean]

/-- A run that has ended is sound. -/
theorem sound_finish (b : Builder ε σ) (r : Run σ) (w : World ε σ) (result : TaskResult)
    (failedStage : Option Stage) : (r.finish b result failedStage w).1.Sound := by
  obtain ⟨hheld, hlive⟩ := r.settled_cleanUp b w
  have hnone := r.workspace_cleanUp b w
  rw [finish_eq_cleanUp]
  exact {
    tracks := tracks_of_task?_eq_none rfl _
    housed := by rw [hnone]; rfl
    placed := fun space hspace => nomatch hnone.symm.trans hspace
    settled := by
      rintro _ ⟨⟩
      exact ⟨hheld, hlive, rfl⟩ }

/-- A run that was cleaned up and cancelled is sound. -/
theorem sound_cancelled (b : Builder ε σ) (r : Run σ) (w : World ε σ) :
    ({ (r.cleanUp b w).1 with phase := .cancelled } : Run σ).Sound := by
  have hnone := r.workspace_cleanUp b w
  exact {
    tracks := tracks_of_task?_eq_none rfl _
    housed := congrArg Option.isSome hnone
    placed := fun space hspace => nomatch hnone.symm.trans hspace
    settled := nofun }

/-! ## Stages -/

/-- A run that enters a stage has started. -/
theorem hasStarted_of_isEntry {phase : Phase σ} (h : phase.isEntry = true) :
    phase.hasStarted = true := by
  cases phase <;> first | rfl | cases h

/-- A task that has just been queued has no index yet. -/
theorem tracks_of_isEntry {phase : Phase σ} (h : phase.isEntry = true) {task : Task}
    {progress : Progress} (htask : phase.task? = some (task, progress)) (registry : Registry) :
    task.Tracks registry progress := by
  cases phase with
  | working setup task' progress' =>
    obtain ⟨rfl, rfl⟩ := Prod.mk.inj (Option.some.inj htask)
    cases progress' with
    | queued => cases task' <;> trivial
    | running subject => cases h
    | returned result => cases h
  | detached setup task' progress' => cases h
  | _ => cases htask

/-- A run that keeps its workspace has started. -/
theorem hasStarted_of_keepsWorkspace {phase : Phase σ} (h : phase.keepsWorkspace = true) :
    phase.hasStarted = true := by
  cases phase <;> first | rfl | cases h

/-- A run that enters a stage keeps its workspace. -/
theorem keepsWorkspace_of_isEntry {phase : Phase σ} (h : phase.isEntry = true) :
    phase.keepsWorkspace = true := by
  cases phase <;> first | rfl | cases h

/-- A stage keeps a run with a workspace sound, and removes the workspace if it ends the run. -/
theorem Outcome.sound {space : Workspace} (h : Outcome b r w after)
    (hspace : r.workspace = some space) (hplaced : space.Placed) :
    after.1.Sound ∧ after.1.phase.hasStarted = true ∧
      ((∃ space', after.1.workspace = some space' ∧ space'.directory = space.directory) ∨
        (after.1.workspace = none ∧ after.2.disk.isDirectory space.directory = false)) := by
  have hall : ∀ space', r.workspace = some space' → space'.Placed := by
    rintro _ hs
    obtain rfl := Option.some.inj (hspace.symm.trans hs)
    exact hplaced
  cases h with
  | ends result failedStage quiet =>
    exact ⟨sound_finish .., rfl, (keepsHouse_cleanUp b _ hall).of_some space hspace⟩
  | enters phase quiet entry =>
    refine ⟨?_, hasStarted_of_isEntry entry, .inl ⟨space, hspace, rfl⟩⟩
    exact {
      tracks := fun task progress htask => tracks_of_isEntry entry htask r.registry
      housed := by rw [keepsWorkspace_of_isEntry entry, hspace]; rfl
      placed := hall
      settled := fun report hreport => by
        have hended : phase = .ended report := hreport
        subst hended
        cases entry }

/-! ## Tasks -/

/-- To write into a workspace leaves it in its directory. -/
theorem directory_of_write {space space' : Workspace} {d d' : Disk} {bytes : Bytes}
    (h : space.write d bytes = .ok (space', d')) : space'.directory = space.directory := by
  unfold Workspace.write at h
  split at h
  · next path _ =>
    cases hfile : d.writeFile path bytes with
    | error e =>
      rw [hfile] at h
      cases h
    | ok disk =>
      rw [hfile] at h
      cases h
      rfl
  · cases h
    rfl

/-- To take the source leaves a workspace in its directory. -/
theorem directory_takeSource (space : Workspace) :
    space.takeSource.2.directory = space.directory := by
  unfold Workspace.takeSource
  split <;> rfl

/-- What becomes of the place of a run while the pool does something for a task: its workspace
stays where it is, and without a workspace the disk stays as it is. -/
structure KeepsPlace (r : Run σ) (w : World ε σ) (r' : Run σ) (w' : World ε σ) : Prop where
  of_some : ∀ space, r.workspace = some space →
    ∃ space', r'.workspace = some space' ∧ space'.directory = space.directory
  of_none : r.workspace = none → r'.workspace = none ∧ w'.disk = w.disk

/-- A run with the same workspace on the same disk keeps its place. -/
theorem keepsPlace_of_eq {r' : Run σ} {w' : World ε σ} (hspace : r'.workspace = r.workspace)
    (hdisk : w'.disk = w.disk) : KeepsPlace r w r' w' where
  of_some space h := ⟨space, hspace.trans h, rfl⟩
  of_none h := ⟨hspace.trans h, hdisk⟩

/-- The end of a build leaves a run its place. -/
theorem keepsPlace_endBuild (b : Builder ε σ) (setup : Setup σ) (dataset : Dataset) (r : Run σ)
    (w : World ε σ) :
    KeepsPlace r w (r.endBuild b setup dataset w).2.1 (r.endBuild b setup dataset w).2.2 := by
  unfold endBuild
  generalize b.engine.build dataset setup.config w.memory = answer
  obtain ⟨reply, memory⟩ := answer
  cases reply with
  | ok native => exact keepsPlace_of_eq rfl rfl
  | failed message partialIndex =>
    cases partialIndex with
    | none => exact keepsPlace_of_eq rfl rfl
    | some native =>
      exact keepsPlace_of_eq rfl
        (congrArg Medium.disk (Custodian.toMedium_release b.engine _ _))
  | panicked message => exact keepsPlace_of_eq rfl rfl

/-- The end of a conversion leaves a run its place. -/
theorem keepsPlace_endConvert (b : Builder ε σ) (setup : Setup σ) (source : TrackedIndex)
    (gpu : NativeIndex) (r : Run σ) (w : World ε σ) :
    KeepsPlace r w (r.endConvert b setup source gpu w).2.1
      (r.endConvert b setup source gpu w).2.2 := by
  unfold endConvert
  generalize b.engine.convert gpu setup.config.cpu w.memory = answer
  obtain ⟨reply, memory⟩ := answer
  exact keepsPlace_of_eq rfl
    (congrArg Medium.disk (Custodian.toMedium_finishTransfer b.engine _ gpu reply _))

/-- The end of a persisting call leaves a run its place. -/
theorem keepsPlace_endPersist (b : Builder ε σ) (source : TrackedIndex) (cpu : NativeIndex)
    (r : Run σ) (w : World ε σ) :
    KeepsPlace r w (r.endPersist b source cpu w).2.1 (r.endPersist b source cpu w).2.2 := by
  obtain ⟨registry, workspace, phase⟩ := r
  unfold endPersist
  generalize b.engine.persist cpu w.memory = answer
  obtain ⟨reply, memory⟩ := answer
  cases reply with
  | failed message partialIndex => exact keepsPlace_of_eq rfl rfl
  | panicked message => exact keepsPlace_of_eq rfl rfl
  | ok bytes =>
    cases workspace with
    | none => exact keepsPlace_of_eq rfl rfl
    | some space =>
      dsimp only
      split
      · next space' disk hwrite =>
        refine ⟨?_, nofun⟩
        rintro _ ⟨⟩
        exact ⟨space', rfl, directory_of_write hwrite⟩
      · exact keepsPlace_of_eq rfl rfl

/-- To go on with a task leaves a run its place. -/
theorem keepsPlace_advanceTask (b : Builder ε σ) (setup : Setup σ) (task : Task)
    (progress : Progress) (r : Run σ) (w : World ε σ) :
    KeepsPlace r w (r.advanceTask b setup task progress w).2.1
      (r.advanceTask b setup task progress w).2.2 := by
  cases progress with
  | queued =>
    unfold advanceTask beginTask
    cases task with
    | build dataset => exact keepsPlace_of_eq rfl rfl
    | convert source =>
      dsimp only
      split <;> exact keepsPlace_of_eq rfl rfl
    | persist source =>
      dsimp only
      split <;> exact keepsPlace_of_eq rfl rfl
  | running subject =>
    cases task with
    | build dataset => exact keepsPlace_endBuild b setup dataset r w
    | convert source =>
      cases subject with
      | none => exact keepsPlace_of_eq rfl rfl
      | some gpu => exact keepsPlace_endConvert b setup source gpu r w
    | persist source =>
      cases subject with
      | none => exact keepsPlace_of_eq rfl rfl
      | some cpu => exact keepsPlace_endPersist b source cpu r w
  | returned result => exact keepsPlace_of_eq rfl rfl

/-- The registry of a run keeps track of its task. -/
theorem tracks_advanceTask (b : Builder ε σ) (setup : Setup σ) (task : Task) (progress : Progress)
    (r : Run σ) (w : World ε σ) :
    task.Tracks (r.advanceTask b setup task progress w).2.1.registry
      (r.advanceTask b setup task progress w).1 := by
  cases task with
  | build dataset => exact trivial
  | persist source => exact trivial
  | convert source =>
    cases progress with
    | running subject => exact trivial
    | returned result => exact trivial
    | queued =>
      unfold advanceTask beginTask
      dsimp only
      split
      · exact trivial
      · next native registry hbegin =>
        obtain ⟨hlive, heq⟩ := Custodian.beginTransfer_eq_ok (r.custodian_beginTransfer w hbegin)
        refine ⟨native, rfl, ?_⟩
        have hregistry : registry = r.registry.setSlot source.id (.converting native) :=
          congrArg Custodian.registry heq
        rw [hregistry]
        exact Registry.slot_setSlot_self hlive _

/-! ## Moves -/

/-- The components that the next step of a run hands over. -/
def handsOut (b : Builder ε σ) (r : Run σ) (w : World ε σ) : List Component :=
  match r.phase with
  | .working setup task progress => task.stepHandsOut b setup w.memory progress
  | .detached setup task progress => task.stepHandsOut b setup w.memory progress
  | _ => []

/-- A sound run has a workspace with a place as long as it keeps one. -/
theorem exists_workspace (hr : r.Sound) (h : r.phase.keepsWorkspace = true) :
    ∃ space, r.workspace = some space ∧ space.Placed := by
  obtain ⟨space, hspace⟩ := Option.isSome_iff_exists.1 (hr.housed.trans h)
  exact ⟨space, hspace, hr.placed space hspace⟩

/-- To do nothing is an advance. -/
theorem Advances.refl (hr : r.Sound) (hstarted : r.phase.hasStarted = true) (w : World ε σ) :
    Advances r w [] (r, w) where
  sound := hr
  started := hstarted
  grows := .of_quiet (.refl w) r.registry
  keepsHouse _ := ⟨fun space h => .inl ⟨space, h, rfl⟩, fun h => ⟨h, rfl⟩⟩

/-- A stage that works on a run with a workspace, after the registry has done something. -/
theorem Outcome.advances {r' : Run σ} {w' : World ε σ} {space space' : Workspace}
    (h : Outcome b r' w' after) (hspace : r.workspace = some space)
    (hspace' : r'.workspace = some space') (hdirectory : space'.directory = space.directory)
    (hplaced : space.Placed) (hgrows : (r.custodian w).Grows [] (r'.custodian w')) :
    Advances r w [] after := by
  have hplaced' : space'.Placed := by
    unfold Workspace.Placed
    rw [hdirectory]
    exact hplaced
  obtain ⟨hsound, hstarted, hhouse⟩ := h.sound hspace' hplaced'
  rw [hdirectory] at hhouse
  refine ⟨hsound, hstarted, hgrows.trans h.grows, fun _ => ⟨?_, ?_⟩⟩
  · intro space₀ hspace₀
    obtain rfl := Option.some.inj (hspace.symm.trans hspace₀)
    exact hhouse
  · intro hnone
    cases hnone.symm.trans hspace

/-- Whatever comes of configuring, the account stays as it is. -/
theorem advances_configure (b : Builder ε σ) (c : Commission) (w : World ε σ) (hr : r.Sound)
    (hphase : r.phase = .configuring) : Advances r w [] (r.configure b c w) := by
  have hnone : r.workspace = none := by
    have hhoused := hr.housed
    rw [hphase] at hhoused
    exact Option.isSome_eq_false_iff.1 hhoused |> Option.isNone_iff_eq_none.1
  have hfresh : r.phase.hasStarted = true → KeepsHouse r w (r.configure b c w) := by
    rw [hphase]
    exact nofun
  generalize hafter : r.configure b c w = after at hfresh ⊢
  obtain ⟨reason, rfl⟩ | ⟨result, failedStage, w', hquiet, rfl⟩ | ⟨space, hplaced, hout⟩ :=
    outcome_configure hafter
  · refine ⟨⟨tracks_of_task?_eq_none rfl _, congrArg Option.isSome hnone, ?_, nofun⟩, rfl,
      .of_quiet (.refl w) _, hfresh⟩
    exact fun space hspace => nomatch hnone.symm.trans hspace
  · exact ⟨sound_finish .., rfl,
      (Custodian.Grows.of_quiet hquiet r.registry).trans (r.grows_finish b w' _ _), hfresh⟩
  · obtain ⟨hsound, hstarted, -⟩ := hout.sound rfl hplaced
    exact ⟨hsound, hstarted, hout.grows, hfresh⟩

/-- A task that goes on, whether the run waits for it or has left it behind. -/
theorem advances_advanceTask (b : Builder ε σ) (setup : Setup σ) (task : Task)
    (progress : Progress) (w : World ε σ) (hr : r.Sound)
    (htask : r.phase.task? = some (task, progress)) (phase : Phase σ)
    (htask' : phase.task? = some (task, (r.advanceTask b setup task progress w).1))
    (hkeeps : phase.keepsWorkspace = r.phase.keepsWorkspace) :
    Advances r w (task.stepHandsOut b setup w.memory progress)
      ({ (r.advanceTask b setup task progress w).2.1 with phase },
        (r.advanceTask b setup task progress w).2.2) := by
  have hplace := r.keepsPlace_advanceTask b setup task progress w
  have htracks := r.tracks_advanceTask b setup task progress w
  have hgrows := grows_advanceTask b setup (hr.tracks task progress htask) w
  generalize r.advanceTask b setup task progress w = went at *
  obtain ⟨progress', r', w'⟩ := went
  refine ⟨⟨?_, ?_, ?_, ?_⟩, ?_, hgrows, fun _ => ⟨?_, hplace.of_none⟩⟩
  · intro task₁ progress₁ h₁
    obtain ⟨rfl, rfl⟩ := Prod.mk.inj (Option.some.inj (htask'.symm.trans h₁))
    exact htracks
  -- A task moves neither into a workspace nor out of one.
  · refine Eq.trans ?_ (hr.housed.trans hkeeps.symm)
    cases hspace : r.workspace with
    | none => exact congrArg Option.isSome (hplace.of_none hspace).1
    | some space =>
      obtain ⟨space', hspace', -⟩ := hplace.of_some space hspace
      exact (congrArg Option.isSome hspace').trans rfl
  · intro space' hspace'
    cases hspace : r.workspace with
    | none => exact nomatch (hplace.of_none hspace).1.symm.trans hspace'
    | some space =>
      obtain ⟨space₁, hspace₁, hdirectory⟩ := hplace.of_some space hspace
      obtain rfl := Option.some.inj (hspace₁.symm.trans hspace')
      unfold Workspace.Placed
      rw [hdirectory]
      exact hr.placed space hspace
  · intro report hreport
    have hended : phase = .ended report := hreport
    subst hended
    cases htask'
  · cases phase <;> first | rfl | cases htask'
  · exact fun space hspace => .inl (hplace.of_some space hspace)

/-- Cleaning up after a move takes the run to its end. -/
theorem Advances.cleanUp {given : List Component} {r' : Run σ} {w' : World ε σ}
    (h : Advances r w given (r', w')) :
    Advances r w given ({ (r'.cleanUp b w').1 with phase := .cancelled }, (r'.cleanUp b w').2) := by
  have hhouse := keepsHouse_cleanUp b w' h.sound.placed
  have hnone := r'.workspace_cleanUp b w'
  refine ⟨sound_cancelled b r' w', rfl, ?_, fun hstarted => ⟨fun space hspace => .inr ⟨hnone, ?_⟩,
    fun hspace => ⟨hnone, ?_⟩⟩⟩
  · have hboth := h.grows.trans (r'.grows_cleanUp b w')
    rw [List.append_nil] at hboth
    exact hboth
  · obtain ⟨space', hspace', hdirectory⟩ | ⟨hspace', hgone⟩ :=
      (h.keepsHouse hstarted).of_some space hspace
    -- The move left the directory to the clean-up.
    · obtain ⟨space₁, hspace₁, -⟩ | ⟨-, hremoved⟩ := hhouse.of_some space' hspace'
      · exact nomatch hnone.symm.trans hspace₁
      · exact hdirectory ▸ hremoved
    · exact (congrArg (Disk.isDirectory · space.directory) (hhouse.of_none hspace').2).trans hgone
  · obtain ⟨hspace', hdisk⟩ := (h.keepsHouse hstarted).of_none hspace
    exact (hhouse.of_none hspace').2.trans hdisk

/-- A step advances a sound run, and puts on its account what the engine hands out. -/
theorem advances_proceed (b : Builder ε σ) (c : Commission) (idsFirst : Bool) (w : World ε σ)
    (hr : r.Sound) : Advances r w (r.handsOut b w) (r.proceed b c idsFirst w) := by
  unfold handsOut proceed
  cases hphase : r.phase with
  | configuring => exact advances_configure b c w hr hphase
  | fetching setup vectors ids =>
    obtain ⟨space, hspace, hplaced⟩ := exists_workspace hr (by rw [hphase]; rfl)
    change Advances r w [] (r.fetch b c idsFirst setup vectors ids w)
    exact (outcome_fetch b c idsFirst setup vectors ids r w).advances hspace hspace rfl hplaced
      (.of_quiet (.refl w) r.registry)
  | working setup task progress =>
    have hstep := advances_advanceTask b setup task progress w hr (by rw [hphase]; rfl)
      (.working setup task (r.advanceTask b setup task progress w).1) rfl (by rw [hphase]; rfl)
    cases progress with
    | queued => exact hstep
    | running subject => exact hstep
    | returned result =>
      obtain ⟨space, hspace, hplaced⟩ := exists_workspace hr (by rw [hphase]; rfl)
      change Advances r w [] (r.notice b c setup task result w)
      exact (outcome_notice b c setup task result r w).advances hspace hspace rfl hplaced
        (task.grows_discard b.engine (r.custodian w))
  | uploading setup =>
    obtain ⟨space, hspace, hplaced⟩ := exists_workspace hr (by rw [hphase]; rfl)
    change Advances r w [] (r.upload b c setup w)
    refine (outcome_upload b c setup r w).advances hspace (congrArg (Option.map _) hspace) ?_
      hplaced (.of_quiet (.refl w) r.registry)
    exact directory_takeSource space
  | ended report => exact .refl hr (by rw [hphase]; rfl) w
  | detached setup task progress =>
    have hstep := advances_advanceTask b setup task progress w hr (by rw [hphase]; rfl)
      (.detached setup task (r.advanceTask b setup task progress w).1) rfl (by rw [hphase]; rfl)
    -- When the task that was left behind returns, the clean-up follows in the same move.
    dsimp only
    generalize r.advanceTask b setup task progress w = went at hstep ⊢
    obtain ⟨progress', ⟨registry', workspace', phase'⟩, w'⟩ := went
    cases progress' with
    | queued => exact hstep
    | running subject => exact hstep
    | returned result => cases workspace' <;> exact hstep.cleanUp
  | cancelled => exact .refl hr (by rw [hphase]; rfl) w
  | aborted reason => exact .refl hr (by rw [hphase]; rfl) w

/-- To clean up and to cancel is an advance. -/
theorem advances_cancelled (b : Builder ε σ) (w : World ε σ) (hr : r.Sound) :
    Advances r w [] ({ (r.cleanUp b w).1 with phase := .cancelled }, (r.cleanUp b w).2) :=
  have hhouse := keepsHouse_cleanUp b w hr.placed
  ⟨sound_cancelled b r w, rfl, r.grows_cleanUp b w, fun _ => ⟨hhouse.of_some, hhouse.of_none⟩⟩

/-- A run whose task is left behind: the workspace is removed unless the task needs it. -/
theorem advances_detached (w : World ε σ) (hr : r.Sound) {setup : Setup σ} {task : Task}
    {progress : Progress} (hphase : r.phase = .working setup task progress) :
    Advances r w []
      ({ (if task.takesWorkspace then (r, w) else r.dropWorkspace w).1 with
          phase := .detached setup task progress },
        (if task.takesWorkspace then (r, w) else r.dropWorkspace w).2) := by
  obtain ⟨space, hspace, hplaced⟩ := exists_workspace hr (by rw [hphase]; rfl)
  have htracks := hr.tracks task progress (by rw [hphase]; rfl)
  have htracks' : ∀ task₁ progress₁,
      (Phase.detached setup task progress).task? = some (task₁, progress₁) →
      task₁.Tracks r.registry progress₁ := by
    rintro _ _ ⟨⟩
    exact htracks
  cases htakes : task.takesWorkspace with
  | true =>
    refine ⟨⟨htracks', ?_, hr.placed, nofun⟩, rfl, .of_quiet (.refl w) r.registry,
      fun _ => ⟨fun space' h => .inl ⟨space', h, rfl⟩, fun h => ⟨h, rfl⟩⟩⟩
    exact (congrArg Option.isSome hspace).trans htakes.symm
  | false =>
    obtain ⟨registry, workspace, phase⟩ := r
    cases hspace
    have hquiet : w.Quiet { w with disk := space.remove w.disk } := .of_log_eq rfl
    refine ⟨⟨htracks', htakes.symm, nofun, nofun⟩, rfl, .of_quiet hquiet registry,
      fun _ => ⟨?_, nofun⟩⟩
    rintro _ ⟨⟩
    exact .inr ⟨rfl, Disk.isDirectory_removeDirectory hplaced.1 hplaced.2 w.disk⟩

/-- To cancel a sound run is an advance. -/
theorem advances_cancel (b : Builder ε σ) (w : World ε σ) (hr : r.Sound) :
    Advances r w [] (r.cancel b w) := by
  have hatOnce := advances_cancelled b w hr
  unfold cancel
  cases hphase : r.phase with
  | configuring => exact hatOnce
  | fetching setup vectors ids => exact hatOnce
  | working setup task progress =>
    cases progress with
    | queued => exact advances_detached w hr hphase
    | running subject => exact advances_detached w hr hphase
    | returned result => exact hatOnce
  | uploading setup => exact hatOnce
  | ended report => exact .refl hr (by rw [hphase]; rfl) w
  | detached setup task progress => exact .refl hr (by rw [hphase]; rfl) w
  | cancelled => exact .refl hr (by rw [hphase]; rfl) w
  | aborted reason => exact .refl hr (by rw [hphase]; rfl) w

/-! ## Many moves -/

/-- The components that a move hands over. -/
def moveHandsOut (b : Builder ε σ) (r : Run σ) (w : World ε σ) : Move → List Component
  | .proceed _ => r.handsOut b w
  | .cancel => []

/-- The components that moves hand over, one after the other. -/
def handedOut (b : Builder ε σ) (c : Commission) : List Move → Run σ → World ε σ → List Component
  | [], _, _ => []
  | m :: ms, r, w =>
    r.moveHandsOut b w m ++ handedOut b c ms (r.move b c m w).1 (r.move b c m w).2

/-- A move advances a sound run. -/
theorem advances_move (b : Builder ε σ) (c : Commission) (m : Move) (w : World ε σ)
    (hr : r.Sound) : Advances r w (r.moveHandsOut b w m) (r.move b c m w) := by
  cases m with
  | proceed idsFirst => exact advances_proceed b c idsFirst w hr
  | cancel => exact advances_cancel b w hr

/-- Moves are played one list after the other. -/
theorem play_append (b : Builder ε σ) (c : Commission) (ms ms' : List Move) (r : Run σ)
    (w : World ε σ) :
    play b c (ms ++ ms') r w = play b c ms' (play b c ms r w).1 (play b c ms r w).2 := by
  induction ms generalizing r w with
  | nil => rfl
  | cons m ms ih => exact ih (r.move b c m w).1 (r.move b c m w).2

/-- All states of a run are sound, and the account grows by what is handed over. -/
theorem sound_play (b : Builder ε σ) (c : Commission) (ms : List Move) (w : World ε σ)
    (hr : r.Sound) :
    (play b c ms r w).1.Sound ∧
      (r.custodian w).Grows (handedOut b c ms r w)
        ((play b c ms r w).1.custodian (play b c ms r w).2) := by
  induction ms generalizing r w with
  | nil => exact ⟨hr, .of_quiet (.refl w) r.registry⟩
  | cons m ms ih =>
    have hmove := advances_move b c m w hr
    obtain ⟨hsound, hgrows⟩ := ih (r.move b c m w).2 hmove.sound
    exact ⟨hsound, hmove.grows.trans hgrows⟩

/-- Once a run has a workspace, its directory is the run's own or it is gone. -/
theorem directory_play (b : Builder ε σ) (c : Commission) (ms : List Move) (w : World ε σ)
    (directory : String) (hr : r.Sound) (hstarted : r.phase.hasStarted = true)
    (h : (∃ space, r.workspace = some space ∧ space.directory = directory) ∨
      (r.workspace = none ∧ w.disk.isDirectory directory = false)) :
    (∃ space, (play b c ms r w).1.workspace = some space ∧ space.directory = directory) ∨
      ((play b c ms r w).1.workspace = none ∧
        (play b c ms r w).2.disk.isDirectory directory = false) := by
  induction ms generalizing r w with
  | nil => exact h
  | cons m ms ih =>
    have hmove := advances_move b c m w hr
    have hhouse := hmove.keepsHouse hstarted
    refine ih (r.move b c m w).2 hmove.sound hmove.started ?_
    obtain ⟨space, hspace, rfl⟩ | ⟨hspace, hgone⟩ := h
    · exact hhouse.of_some space hspace
    · obtain ⟨hnone, hdisk⟩ := hhouse.of_none hspace
      exact .inr ⟨hnone, by rw [hdisk]; exact hgone⟩

end Run

end VectorIndex
