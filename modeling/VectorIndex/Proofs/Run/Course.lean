import VectorIndex.Proofs.Blob.Downloads
import VectorIndex.Proofs.Blob.Uploads
import VectorIndex.Proofs.Engine.Cells
import VectorIndex.Proofs.Custody.Slots
import VectorIndex.Proofs.Run.Outcome

/-!
# The course of a run that succeeds

When nothing outside of a run goes wrong, the run stays on course to its success: `Job.OnCourse`
says what is true after each of its steps, and `Job.onCourse_proceed` that the next step keeps
it true, whichever of the two downloads moves.

* Until the index is persisted, the store and the disk are as they were when the workspace was
  made, so that the downloads stay on track and the staged file can still be written.
* The index is always behind the handle that the next task gets, with its rows and its ids in
  the memory of the engine.
* Once it is persisted, what is staged is the file of the artifact.
-/

set_option autoImplicit false

namespace VectorIndex

variable {σ : Type}

/-! ## Staging -/

/-- What was written to a new workspace is what it delivers. -/
theorem Workspace.delivers_of_write {root : String} {d d' : Disk} {space space' : Workspace}
    {bytes : Bytes} (hmade : space.MadeIn root)
    (hempty : ∀ content, space.content = .buffer content → content = [])
    (h : space.write d bytes = .ok (space', d')) :
    space'.MadeIn root ∧ space'.takeSource.1.Delivers root d' bytes := by
  obtain ⟨directory, content⟩ := space
  cases content with
  | file path =>
    cases hwrite : d.writeFile path bytes with
    | error e =>
      simp only [Workspace.write, hwrite] at h
      cases h
    | ok d'' =>
      simp only [Workspace.write, hwrite] at h
      cases h
      exact ⟨hmade, Disk.readFile_writeFile hwrite, _, hmade, rfl⟩
  | buffer content =>
    obtain rfl := hempty content rfl
    cases h
    obtain ⟨d₁, d₂, mode, artifactPath, suffix, made, hcreate, hdirectory, -⟩ := hmade
    exact ⟨⟨d₁, d₂, mode, artifactPath, suffix, made, hcreate, hdirectory, nofun⟩, rfl⟩

/-- The workspace can take an index: a buffer always can, a file has to be writable. -/
def Workspace.Writable (space : Workspace) (d : Disk) : Prop :=
  ∀ path, space.content = .file path → ∃ d', d.writeFile path [] = .ok d'

/-- A workspace that is writable can be written to. -/
theorem Workspace.Writable.exists_write {space : Workspace} {d : Disk} (h : space.Writable d)
    (bytes : Bytes) : ∃ space' d', space.write d bytes = .ok (space', d') := by
  obtain ⟨directory, content⟩ := space
  cases content with
  | file path =>
    obtain ⟨d₁, hwrite⟩ := h path rfl
    obtain ⟨d', hwrite'⟩ := Disk.exists_writeFile hwrite bytes
    refine ⟨{ directory, content := .file path }, d', ?_⟩
    simp only [Workspace.write, hwrite']
    rfl
  | buffer content => exact ⟨_, _, rfl⟩

/-- Handing out what is uploaded leaves the workspace where it was made. -/
theorem Workspace.MadeIn.takeSource {root : String} {space : Workspace} (h : space.MadeIn root) :
    space.takeSource.2.MadeIn root := by
  obtain ⟨directory, content⟩ := space
  cases content with
  | file path => exact h
  | buffer content =>
    obtain ⟨d₁, d₂, mode, artifactPath, suffix, made, hcreate, hdirectory, -⟩ := h
    exact ⟨d₁, d₂, mode, artifactPath, suffix, made, hcreate, hdirectory, nofun⟩

/-! ## Jobs -/

/-- The artifact of two blobs. -/
def artifactOf (config : BuildConfig) (dimension : UInt64) (t : ElementType)
    (vectors ids : Bytes) : Artifact where
  metric := config.metric
  dimension := dimension
  efSearch := config.cpu.efSearch
  efConstruction := config.cpu.efConstruction
  ids := Dataset.idsOf ids
  vectors := Dataset.componentsOf t (t.stage vectors)

/-- A run that was configured, with what it finds around it. -/
structure Job (σ : Type) where
  builder : Builder Arena σ
  commission : Commission
  config : BuildConfig
  transport : Transport σ
  view : StoreView σ
  space : Workspace
  /-- The disk after the workspace was made. -/
  disk : Disk
  /-- The objects in the store before the run. -/
  objects : ObjectPath → Option Bytes
  /-- The blob of vectors. -/
  vectors : Bytes
  /-- The blob of document ids. -/
  ids : Bytes
  /-- Where the artifact is uploaded to. -/
  target : ObjectPath

namespace Job

/-- What the stages of the run work with. -/
def setup (j : Job σ) : Setup σ :=
  ⟨j.config, j.transport.client⟩

/-- The file that is uploaded. -/
def file (j : Job σ) : Bytes :=
  (artifactOf j.config j.commission.plan.dimension j.commission.plan.elementType j.vectors
    j.ids).encode

/-- The rows of the index. -/
def graph (j : Job σ) : FlatGraph :=
  Arena.graphOf j.commission.plan.dimension
    (Dataset.componentsOf j.commission.plan.elementType
      (j.commission.plan.elementType.stage j.vectors)) j.config

/-- Nothing outside of the run goes wrong. -/
structure Sound (j : Job σ) : Prop where
  engine : j.builder.engine = Arena.engine
  untimed : j.builder.timeLimit = none
  works : j.transport.store.Works j.view j.builder.stagingRoot j.target
  ioChunk : 0 < j.transport.transfer.ioChunk.toNat
  vectorsAt : ∃ path, ObjectPath.parse j.commission.plan.vectorPath = .ok path ∧
    j.objects path = some j.vectors
  idsAt : ∃ path, ObjectPath.parse j.commission.plan.docIdPath = .ok path ∧
    j.objects path = some j.ids
  targetAt : ObjectPath.parse j.commission.plan.artifactPath = .ok j.target
  vectorsSize : j.vectors.length = j.commission.plan.docCount.toNat *
    j.commission.plan.dimension.toNat * j.commission.plan.elementType.sourceSize.toNat
  idsSize : j.ids.length = j.commission.plan.docCount.toNat * docIdSize.toNat
  vectorBytes : j.vectors.length = j.commission.plan.vectorBytes.toNat
  idBytes : j.ids.length = j.commission.plan.docIdBytes.toNat
  made : j.space.MadeIn j.builder.stagingRoot
  empty : ∀ content, j.space.content = .buffer content → content = []
  writable : j.space.Writable j.disk

/-- The store and the disk are as they were when the workspace was made. -/
def Untouched (j : Job σ) (m : Medium σ) : Prop :=
  j.view.ready m ∧ j.view.objects m = j.objects ∧ m.disk = j.disk

/-- The index is not staged yet. -/
structure Before (j : Job σ) (r : Run σ) (w : World Arena σ) : Prop where
  workspace : r.workspace = some j.space
  untouched : j.Untouched w.toMedium
  fresh : w.memory.Fresh

/-- A handle stands for the index. -/
def Registered (j : Job σ) (residency : Residency) (token : TrackedIndex) (r : Run σ)
    (w : World Arena σ) : Prop :=
  ∃ native, r.registry.slot? token.id = some (.live native) ∧ native.residency = residency ∧
    w.memory.Holds native j.graph (Dataset.idsOf j.ids)

/-- The artifact is staged. -/
structure Staged (j : Job σ) (r : Run σ) (m : Medium σ) : Prop where
  ready : j.view.ready m
  objects : j.view.objects m = j.objects
  space : ∃ space, r.workspace = some space ∧ space.MadeIn j.builder.stagingRoot ∧
    space.takeSource.1.Delivers j.builder.stagingRoot m.disk j.file

/-- What is true of a run after each of its steps. -/
inductive OnCourse (j : Job σ) (r : Run σ) (w : World Arena σ) : Prop where
  | fetching {vectors : Download VectorSink} {ids : Download StagingBuffer}
    (phase : r.phase = .fetching j.setup vectors ids) (before : j.Before r w)
    (vectorsOnTrack : vectors.OnTrack j.vectors
      (VectorSink.Holds j.commission.plan.elementType j.commission.plan.vectorBytes))
    (idsOnTrack : ids.OnTrack j.ids (StagingBuffer.Holds (some j.commission.plan.docIdBytes)))
  | building {dataset : Dataset} {progress : Progress}
    (phase : r.phase = .working j.setup (.build dataset) progress) (before : j.Before r w)
    (buffers : dataset.buffers =
      some { vectors := j.commission.plan.elementType.stage j.vectors, docIds := j.ids })
    (dimension : dataset.dimension = j.commission.plan.dimension)
    (elementType : dataset.elementType = j.commission.plan.elementType)
    (unfinished : progress = .queued ∨ progress = .running none)
  | built {dataset : Dataset} {token : TrackedIndex}
    (phase : r.phase = .working j.setup (.build dataset) (.returned (.ok token)))
    (before : j.Before r w) (registered : j.Registered .gpu token r w)
  | moving {source : TrackedIndex} (phase : r.phase = .working j.setup (.convert source) .queued)
    (before : j.Before r w) (registered : j.Registered .gpu source r w)
  | converting {source : TrackedIndex} {gpu : NativeIndex}
    (phase : r.phase = .working j.setup (.convert source) (.running (some gpu)))
    (before : j.Before r w) (slot : r.registry.slot? source.id = some (.converting gpu))
    (residency : gpu.residency = .gpu) (holds : w.memory.Holds gpu j.graph (Dataset.idsOf j.ids))
  | converted {source token : TrackedIndex}
    (phase : r.phase = .working j.setup (.convert source) (.returned (.ok token)))
    (before : j.Before r w) (registered : j.Registered .cpu token r w)
  | leaving {source : TrackedIndex} (phase : r.phase = .working j.setup (.persist source) .queued)
    (before : j.Before r w) (registered : j.Registered .cpu source r w)
  | persisting {source : TrackedIndex} {cpu : NativeIndex}
    (phase : r.phase = .working j.setup (.persist source) (.running (some cpu)))
    (before : j.Before r w) (residency : cpu.residency = .cpu)
    (holds : w.memory.Holds cpu j.graph (Dataset.idsOf j.ids))
  | persisted {source token : TrackedIndex}
    (phase : r.phase = .working j.setup (.persist source) (.returned (.ok token)))
    (staged : j.Staged r w.toMedium)
  | uploading (phase : r.phase = .uploading j.setup) (staged : j.Staged r w.toMedium)
  | ended {report : RunReport} (phase : r.phase = .ended report)
    (success : report.result = .success j.commission.plan.artifactName)
    (failedStage : report.failedStage = none)
    (objects : j.view.objects w.toMedium = withObject j.objects j.target j.file)

variable {j : Job σ} {r : Run σ} {w : World Arena σ}

/-! ## Entering stages -/

/-- On a sound journey no stage is entered too late. -/
theorem Sound.next_eq (h : j.Sound) (completed stage : Stage) (phase : Phase σ) (r : Run σ)
    (w : World Arena σ) :
    r.next j.builder j.commission completed stage phase w =
      ({ r with phase }, w.record (.stageObserved completed)) := by
  unfold Run.next Run.enter Run.isLate
  rw [h.untimed]
  rfl

/-! ## Fetching -/

/-- On a sound journey a blob is opened as it was stored. -/
theorem Sound.opens (h : j.Sound) {path : String} {location : ObjectPath} {blob : Bytes}
    (hpath : ObjectPath.parse path = .ok location) (hblob : j.objects location = some blob)
    (hsize : blob.length < 0x10000000000000000) :
    j.setup.client.Opens j.Untouched path blob := by
  rintro m ⟨hready, hobjects, hdisk⟩
  obtain ⟨f, m', hget, hannounced, hchunks, hfault, hdisk', hready', hobjects'⟩ :=
    h.works.get hready (hobjects ▸ hblob)
  refine ⟨{ announced := f.size, chunks := f.chunks, fault := none }, m', ?_,
    ⟨hready', hobjects'.trans hobjects, hdisk'.trans hdisk⟩, ?_, hchunks, rfl⟩
  · change j.transport.openBlob path m = _
    unfold Transport.openBlob
    simp only [hpath, hget, hfault, Option.map_none]
  · change f.size.toNat = blob.length
    rw [hannounced, UInt64.toNat_ofNat_of_lt' hsize]

/-- On a sound journey the vectors are opened as they were stored. -/
theorem Sound.opens_vectors (h : j.Sound) :
    j.setup.client.Opens j.Untouched j.commission.plan.vectorPath j.vectors := by
  obtain ⟨path, hpath, hblob⟩ := h.vectorsAt
  exact h.opens hpath hblob (h.vectorBytes ▸ UInt64.toNat_lt _)

/-- On a sound journey the ids are opened as they were stored. -/
theorem Sound.opens_ids (h : j.Sound) :
    j.setup.client.Opens j.Untouched j.commission.plan.docIdPath j.ids := by
  obtain ⟨path, hpath, hblob⟩ := h.idsAt
  exact h.opens hpath hblob (h.idBytes ▸ UInt64.toNat_lt _)

/-- What was fetched is wrapped as the dataset of the run. -/
theorem Sound.exists_dataset (h : j.Sound) :
    ∃ dataset, Dataset.ofBuffers (j.commission.plan.elementType.stage j.vectors) j.ids
        j.commission.plan.dimension j.commission.plan.docCount
        j.commission.plan.elementType = .ok dataset ∧
      dataset.buffers =
        some { vectors := j.commission.plan.elementType.stage j.vectors, docIds := j.ids } ∧
      dataset.dimension = j.commission.plan.dimension ∧
      dataset.elementType = j.commission.plan.elementType := by
  have hstaged := j.commission.plan.elementType.length_stage h.vectorsSize
  have hle : j.commission.plan.elementType.stagedSize.toNat ≤
      j.commission.plan.elementType.sourceSize.toNat := by
    cases j.commission.plan.elementType <;> decide
  have hfit : j.commission.plan.docCount.toNat * j.commission.plan.dimension.toNat *
      j.commission.plan.elementType.stagedSize.toNat < 0x10000000000000000 := by
    refine Nat.lt_of_le_of_lt (Nat.mul_le_mul_left _ hle) ?_
    rw [← h.vectorsSize, h.vectorBytes]
    exact UInt64.toNat_lt _
  have hidsFit : j.commission.plan.docCount.toNat * docIdSize.toNat < 0x10000000000000000 := by
    rw [← h.idsSize, h.idBytes]
    exact UInt64.toNat_lt _
  exact Dataset.exists_ofBuffers h.idsSize hstaged hidsFit hfit

/-- A step of the reads stays on course, whichever of them moves. -/
theorem onCourse_fetch (h : j.Sound) (idsFirst : Bool) {vectors : Download VectorSink}
    {ids : Download StagingBuffer} (before : j.Before r w)
    (hvectors : vectors.OnTrack j.vectors
      (VectorSink.Holds j.commission.plan.elementType j.commission.plan.vectorBytes))
    (hids : ids.OnTrack j.ids (StagingBuffer.Holds (some j.commission.plan.docIdBytes))) :
    j.OnCourse (r.fetch j.builder j.commission idsFirst j.setup vectors ids w).1
      (r.fetch j.builder j.commission idsFirst j.setup vectors ids w).2 := by
  have hwhole : j.commission.plan.elementType.sourceSize.toNat ∣ j.vectors.length := by
    rw [h.vectorsSize]
    exact Nat.dvd_mul_left ..
  obtain ⟨hvectors', huntouched⟩ := Download.onTrack_step
    (VectorSink.takes h.vectorBytes hwhole) h.opens_vectors hvectors (s := w.toSite)
    before.untouched
  obtain ⟨hids', huntouched'⟩ := Download.onTrack_step
    (StagingBuffer.takes h.idBytes) h.opens_ids hids (s := w.toSite) before.untouched
  -- Only one of the two reads makes its step; the other one stays on track as it is.
  have hmoveVectors := OnCourse.fetching (j := j) (r := { r with
    phase := .fetching j.setup
      (vectors.step j.setup.client j.commission.plan.vectorPath w.toSite).1 ids })
    (w := { w with
      toSite := (vectors.step j.setup.client j.commission.plan.vectorPath w.toSite).2 })
    rfl ⟨before.workspace, huntouched, before.fresh⟩ hvectors' hids
  have hmoveIds := OnCourse.fetching (j := j) (r := { r with
    phase := .fetching j.setup vectors
      (ids.step j.setup.client j.commission.plan.docIdPath w.toSite).1 })
    (w := { w with toSite := (ids.step j.setup.client j.commission.plan.docIdPath w.toSite).2 })
    rfl ⟨before.workspace, huntouched', before.fresh⟩ hvectors hids'
  unfold Run.fetch
  dsimp only
  split
  · next heq => cases (hvectors.of_result? heq).1
  · next heq _ => cases (hids.of_result? heq).1
  · next heqVectors heqIds =>
    obtain ⟨dataset, hwrap, hbuffers, hdimension, htype⟩ := h.exists_dataset
    rw [(hvectors.of_result? heqVectors).2.freeze, (hids.of_result? heqIds).2.freeze, hwrap]
    dsimp only
    rw [h.next_eq]
    exact .building rfl ⟨before.workspace, before.untouched, before.fresh⟩ hbuffers hdimension
      htype (.inl rfl)
  · exact hmoveIds
  · exact hmoveVectors
  · split
    · exact hmoveIds
    · exact hmoveVectors

/-! ## Tasks -/

/-- A build registers the index of the blobs. -/
theorem onCourse_endBuild (h : j.Sound) {dataset : Dataset} (before : j.Before r w)
    (hbuffers : dataset.buffers =
      some { vectors := j.commission.plan.elementType.stage j.vectors, docIds := j.ids })
    (hdimension : dataset.dimension = j.commission.plan.dimension)
    (htype : dataset.elementType = j.commission.plan.elementType) :
    ∃ token r' w', r.endBuild j.builder j.setup dataset w = (.ok token, r', w') ∧
      j.Before r' w' ∧ j.Registered .gpu token r' w' := by
  obtain ⟨native, memory, hbuild, hresidency, hholds⟩ :=
    Arena.build_spec before.fresh hbuffers j.config
  have hfresh := Arena.fresh_build before.fresh dataset j.config
  rw [hbuild] at hfresh
  rw [hdimension, htype] at hholds
  have hcall : j.builder.engine.build dataset j.setup.config w.memory = (.ok native, memory) := by
    rw [h.engine]
    exact hbuild
  unfold Run.endBuild
  simp only [hcall]
  refine ⟨_, _, _, rfl, ⟨before.workspace, before.untouched, hfresh⟩, native, ?_, hresidency,
    hholds⟩
  exact List.getElem?_concat_length

/-- A conversion moves the index to the handle of the copy. -/
theorem onCourse_endConvert (h : j.Sound) {source : TrackedIndex} {gpu : NativeIndex}
    (before : j.Before r w) (hslot : r.registry.slot? source.id = some (.converting gpu))
    (hgpu : gpu.residency = .gpu) (hholds : w.memory.Holds gpu j.graph (Dataset.idsOf j.ids)) :
    ∃ token r' w', r.endConvert j.builder j.setup source gpu w = (.ok token, r', w') ∧
      j.Before r' w' ∧ j.Registered .cpu token r' w' := by
  obtain ⟨copy, memory, hconvert, hcopy⟩ :=
    Arena.convert_spec before.fresh hgpu hholds j.config.cpu
  have hfresh := Arena.fresh_convert before.fresh gpu j.config.cpu
  rw [hconvert] at hfresh
  have hcall : j.builder.engine.convert gpu j.setup.config.cpu w.memory = (.ok copy, memory) := by
    rw [h.engine]
    exact hconvert
  let called : Custodian Arena σ :=
    r.custodian ({ w with memory }.record (.callEnded (.convert gpu)))
  have hmedium := Custodian.toMedium_finishTransfer j.builder.engine source.id gpu (.ok copy) called
  have hmemory : (called.finishTransfer j.builder.engine source.id gpu (.ok copy)).2.world.memory =
      (memory.release gpu.index .gpuIndex).2 := by
    rw [Custodian.memory_finishTransfer, h.engine, hgpu]
    rfl
  -- The copy gets the next handle and takes the id map along.
  have hnew := Custodian.slot_finishTransfer_ok (c := called) j.builder.engine hslot gpu copy
  unfold Run.endConvert
  simp only [hcall]
  refine ⟨⟨r.registry.nextId, .cpu⟩, _, _, rfl, ⟨before.workspace, ?_, ?_⟩, .cpu copy gpu.idMap,
    hnew, rfl, ?_⟩
  · exact hmedium ▸ before.untouched
  · exact hmemory ▸ Arena.fresh_release hfresh gpu.index .gpuIndex
  · exact hmemory ▸ hcopy

/-- Persisting stages the file of the artifact. -/
theorem onCourse_endPersist (h : j.Sound) {source : TrackedIndex} {cpu : NativeIndex}
    (before : j.Before r w) (hcpu : cpu.residency = .cpu)
    (hholds : w.memory.Holds cpu j.graph (Dataset.idsOf j.ids)) :
    ∃ r' w', r.endPersist j.builder source cpu w = (.ok source, r', w') ∧
      j.Staged r' w'.toMedium := by
  have hcall : j.builder.engine.persist cpu w.memory = (.ok j.file, w.memory) := by
    have hartifact : artifactOf j.config j.commission.plan.dimension
        j.commission.plan.elementType j.vectors j.ids =
          Arena.artifactWith j.graph (Dataset.idsOf j.ids) := rfl
    unfold file
    rw [h.engine, hartifact]
    exact Arena.persist_spec hcpu hholds
  obtain ⟨hready, hobjects, hdisk⟩ := before.untouched
  obtain ⟨space, disk, hwrite⟩ := h.writable.exists_write j.file
  obtain ⟨hmade, hdelivers⟩ := Workspace.delivers_of_write h.made h.empty hwrite
  obtain ⟨hobjects', hready'⟩ := h.works.apart (m := w.toMedium)
    (hdisk ▸ Workspace.Change.stage h.made hwrite)
  have hwrite' : j.space.write w.disk j.file = .ok (space, disk) := by
    rw [show w.disk = j.disk from hdisk]
    exact hwrite
  unfold Run.endPersist
  simp only [hcall, before.workspace]
  split
  · next space' disk' heq =>
    cases hwrite'.symm.trans heq
    exact ⟨_, _, rfl, hready' hready, hobjects'.trans hobjects, space, rfl, hmade, hdelivers⟩
  · next heq => cases hwrite'.symm.trans heq

/-- The pool returns with what the call of a running task ends with. -/
theorem advanceTask_running {b : Builder Arena σ} {setup : Setup σ} (task : Task)
    (subject : Option NativeIndex) {result : Except BuildError TrackedIndex} {r' : Run σ}
    {w' : World Arena σ} (h : r.endTask b setup task subject w = (result, r', w')) :
    r.advanceTask b setup task (.running subject) w = (.returned result, r', w') := by
  unfold Run.advanceTask
  dsimp only
  rw [h]

/-- A conversion of a live index is entered, and the index is taken out of use for it. -/
theorem advanceTask_convert {b : Builder Arena σ} {setup : Setup σ} {source : TrackedIndex}
    {native : NativeIndex} (hslot : r.registry.slot? source.id = some (.live native)) :
    r.advanceTask b setup (.convert source) .queued w =
      (.running (some native),
        { r with registry := r.registry.setSlot source.id (.converting native) },
        w.record (.callStarted (.convert native))) := by
  unfold Run.advanceTask Run.beginTask Registry.beginTransfer
  simp only [hslot]

/-- Persisting a live index is entered, and the index stays in use. -/
theorem exists_advanceTask_persist {b : Builder Arena σ} {setup : Setup σ} {source : TrackedIndex}
    {native : NativeIndex} (hslot : r.registry.slot? source.id = some (.live native)) :
    ∃ w', r.advanceTask b setup (.persist source) .queued w = (.running (some native), r, w') ∧
      w'.toMedium = w.toMedium ∧ w'.memory = w.memory := by
  unfold Run.advanceTask Run.beginTask Registry.lookup
  simp only [hslot]
  exact ⟨_, rfl, rfl, rfl⟩

/-- A task that has not returned stays on course when the pool goes on with it. -/
theorem onCourse_advanceTask (h : j.Sound) {task : Task} {progress : Progress}
    (hphase : r.phase = .working j.setup task progress)
    (hprogress : ∀ result, progress ≠ .returned result) (hcourse : j.OnCourse r w) :
    j.OnCourse { (r.advanceTask j.builder j.setup task progress w).2.1 with
        phase := .working j.setup task (r.advanceTask j.builder j.setup task progress w).1 }
      (r.advanceTask j.builder j.setup task progress w).2.2 := by
  cases hcourse with
  | fetching phase => cases phase.symm.trans hphase
  | @building dataset _ phase before hbuffers hdimension htype hunfinished =>
    cases phase.symm.trans hphase
    obtain rfl | rfl := hunfinished
    · exact .building rfl ⟨before.workspace, before.untouched, before.fresh⟩ hbuffers hdimension
        htype (.inr rfl)
    · obtain ⟨token, r', w', hend, before', registered⟩ :=
        onCourse_endBuild h before hbuffers hdimension htype
      rw [advanceTask_running (.build dataset) none hend]
      exact .built rfl ⟨before'.workspace, before'.untouched, before'.fresh⟩ registered
  | @moving source phase before registered =>
    cases phase.symm.trans hphase
    obtain ⟨native, hslot, hresidency, hholds⟩ := registered
    rw [advanceTask_convert hslot]
    exact .converting rfl ⟨before.workspace, before.untouched, before.fresh⟩
      (Registry.slot_setSlot_self hslot _) hresidency hholds
  | @converting source gpu phase before hslot hresidency hholds =>
    cases phase.symm.trans hphase
    obtain ⟨token, r', w', hend, before', registered⟩ :=
      onCourse_endConvert h before hslot hresidency hholds
    rw [advanceTask_running (.convert source) (some gpu) hend]
    exact .converted rfl ⟨before'.workspace, before'.untouched, before'.fresh⟩ registered
  | @leaving source phase before registered =>
    cases phase.symm.trans hphase
    obtain ⟨native, hslot, hresidency, hholds⟩ := registered
    obtain ⟨w', hbegin, hmedium, hmemory⟩ := exists_advanceTask_persist hslot
    rw [hbegin]
    exact .persisting rfl ⟨before.workspace, hmedium ▸ before.untouched, hmemory ▸ before.fresh⟩
      hresidency (hmemory ▸ hholds)
  | @persisting source cpu phase before hresidency hholds =>
    cases phase.symm.trans hphase
    obtain ⟨r', w', hend, staged⟩ := onCourse_endPersist h before hresidency hholds
    rw [advanceTask_running (.persist source) (some cpu) hend]
    exact .persisted rfl ⟨staged.ready, staged.objects, staged.space⟩
  | built phase =>
    cases phase.symm.trans hphase
    exact absurd rfl (hprogress _)
  | converted phase =>
    cases phase.symm.trans hphase
    exact absurd rfl (hprogress _)
  | persisted phase =>
    cases phase.symm.trans hphase
    exact absurd rfl (hprogress _)
  | uploading phase => cases phase.symm.trans hphase
  | ended phase => cases phase.symm.trans hphase

/-- When the run takes notice of a task, the next stage is entered. -/
theorem onCourse_notice (h : j.Sound) {task : Task} {result : Except BuildError TrackedIndex}
    (hphase : r.phase = .working j.setup task (.returned result)) (hcourse : j.OnCourse r w) :
    j.OnCourse (r.notice j.builder j.commission j.setup task result w).1
      (r.notice j.builder j.commission j.setup task result w).2 := by
  cases hcourse with
  | @built dataset token phase before registered =>
    cases phase.symm.trans hphase
    change j.OnCourse (r.next j.builder j.commission .building .converting _ w).1
      (r.next j.builder j.commission .building .converting _ w).2
    rw [h.next_eq]
    exact .moving rfl ⟨before.workspace, before.untouched, before.fresh⟩ registered
  | @converted source token phase before registered =>
    cases phase.symm.trans hphase
    change j.OnCourse (r.next j.builder j.commission .converting .persisting _ w).1
      (r.next j.builder j.commission .converting .persisting _ w).2
    rw [h.next_eq]
    exact .leaving rfl ⟨before.workspace, before.untouched, before.fresh⟩ registered
  | @persisted source token phase staged =>
    cases phase.symm.trans hphase
    let released := (r.custodian w).release j.builder.engine source.id
    have hmedium : released.world.toMedium = w.toMedium := Custodian.toMedium_release ..
    change j.OnCourse
      (({ r with registry := released.registry } : Run σ).next j.builder j.commission .persisting
        .uploading _ released.world).1
      (({ r with registry := released.registry } : Run σ).next j.builder j.commission .persisting
        .uploading _ released.world).2
    rw [h.next_eq]
    refine .uploading rfl ?_
    change j.Staged _ released.world.toMedium
    rw [hmedium]
    exact ⟨staged.ready, staged.objects, staged.space⟩
  | building phase _ _ _ _ hunfinished =>
    cases phase.symm.trans hphase
    obtain hqueued | hrunning := hunfinished
    · cases hqueued
    · cases hrunning
  | fetching phase => cases phase.symm.trans hphase
  | moving phase => cases phase.symm.trans hphase
  | converting phase => cases phase.symm.trans hphase
  | leaving phase => cases phase.symm.trans hphase
  | persisting phase => cases phase.symm.trans hphase
  | uploading phase => cases phase.symm.trans hphase
  | ended phase => cases phase.symm.trans hphase

/-! ## Uploading -/

/-- The end of a run that has no workspace any more leaves the store and the disk alone. -/
theorem toMedium_finish {b : Builder Arena σ} (result : TaskResult) (failedStage : Option Stage)
    (hworkspace : r.workspace = none) :
    (r.finish b result failedStage w).2.toMedium = w.toMedium := by
  obtain ⟨disk, hcleanUp, -, hdisk⟩ := r.cleanUp_spec b w
  obtain rfl := hdisk hworkspace
  rw [Run.finish_eq_cleanUp, hcleanUp]
  exact Custodian.toMedium_releaseAll ..

/-- The upload puts the file of the artifact at its target and ends the run. -/
theorem onCourse_upload (h : j.Sound) (staged : j.Staged r w.toMedium) :
    j.OnCourse (r.upload j.builder j.commission j.setup w).1
      (r.upload j.builder j.commission j.setup w).2 := by
  obtain ⟨registry, workspace, phase⟩ := r
  obtain ⟨hready, hobjects, space, rfl : workspace = some space, hmade, hdelivers⟩ := staged
  obtain ⟨m, hupload, hobjects'⟩ :=
    Transport.upload_spec h.works h.ioChunk h.targetAt hdelivers hready
  have hwrite : j.setup.client.write space.takeSource.1 j.commission.plan.artifactPath w.toSite =
      (.ok (), { w.toSite with toMedium := m }.record (.blobWritten j.file.length)) := by
    unfold BlobClient.write
    rw [show j.setup.client.upload space.takeSource.1 j.commission.plan.artifactPath
      w.toSite.toMedium = _ from hupload]
  -- The workspace is removed after the upload, which the store does not notice.
  have hdropped : j.view.objects { m with disk := space.takeSource.2.remove m.disk } =
      withObject j.objects j.target j.file := by
    rw [(h.works.apart (.remove hmade.takeSource)).1, hobjects', hobjects]
  unfold Run.upload
  simp only [hwrite]
  refine .ended rfl rfl rfl ?_
  rw [toMedium_finish _ _ rfl]
  exact hdropped

/-! ## Steps -/

/-- A step keeps a run on course. -/
theorem onCourse_proceed (h : j.Sound) (idsFirst : Bool) (hcourse : j.OnCourse r w) :
    j.OnCourse (r.proceed j.builder j.commission idsFirst w).1
      (r.proceed j.builder j.commission idsFirst w).2 := by
  have htask : ∀ task progress, r.phase = .working j.setup task progress →
      j.OnCourse (r.proceed j.builder j.commission idsFirst w).1
        (r.proceed j.builder j.commission idsFirst w).2 := by
    intro task progress hphase
    unfold Run.proceed
    rw [hphase]
    cases progress with
    | queued => exact onCourse_advanceTask h hphase nofun hcourse
    | running subject => exact onCourse_advanceTask h hphase nofun hcourse
    | returned result => exact onCourse_notice h hphase hcourse
  cases hcourse with
  | fetching phase before hvectors hids =>
    unfold Run.proceed
    rw [phase]
    exact onCourse_fetch h idsFirst before hvectors hids
  | uploading phase staged =>
    unfold Run.proceed
    rw [phase]
    exact onCourse_upload h staged
  | ended phase success failedStage objects =>
    unfold Run.proceed
    rw [phase]
    exact .ended phase success failedStage objects
  | building phase => exact htask _ _ phase
  | built phase => exact htask _ _ phase
  | moving phase => exact htask _ _ phase
  | converting phase => exact htask _ _ phase
  | converted phase => exact htask _ _ phase
  | leaving phase => exact htask _ _ phase
  | persisting phase => exact htask _ _ phase
  | persisted phase => exact htask _ _ phase

end Job

end VectorIndex
