import VectorIndex.Blob.Memory
import VectorIndex.Settings.Basic
import VectorIndex.Proofs.Artifact.Format
import VectorIndex.Proofs.Request.Acceptance
import VectorIndex.Proofs.Run.Course
import VectorIndex.Proofs.Run.Ending

/-!
# From two blobs to an artifact

A run over the flat engine that is supplied with everything it needs, and whose workspace can be
made and written, succeeds; it adds one object to the store, and this object is read back as the
rows and ids of the two blobs (`Run.artifact_of_blobs`).  What the object is depends on the
request and the blobs only.

The workspace is needed in both staging modes: a run that keeps its index in memory fails like
any other one when its directory cannot be made (`Run.fails_without_workspace`).
-/

set_option autoImplicit false

namespace VectorIndex

variable {σ : Type}

/-- What an artifact holds that was made of two blobs. -/
structure Artifact.Represents (a : Artifact) (request : BuildRequest) (config : BuildConfig)
    (vectors ids : Bytes) : Prop where
  metric : a.metric = config.metric
  dimension : (a.dimension.toNat : Int) = request.dimension.toInt
  efSearch : a.efSearch = config.cpu.efSearch
  efConstruction : a.efConstruction = config.cpu.efConstruction
  idCount : (a.ids.length : Int) = request.docCount.toInt
  id : ∀ i < a.ids.length,
    a.ids[i]? = some (Int64.ofInt (Bytes.signedValue ((ids.drop (i * 4)).take 4)))
  componentCount : (a.vectors.length : Int) = request.docCount.toInt * request.dimension.toInt
  component : ∀ i < a.vectors.length,
    a.vectors[i]? = some (request.elementType.componentAt vectors i)

namespace Run

/-- A run is supplied with everything it needs from outside but a workspace: an accepted request for
its engine whose overrides assemble, all the time it takes, validated transfer settings, and a
store that works and holds the two blobs in the declared sizes.  The medium `m` is what there is
once the store was found. -/
structure Supplied (b : Builder Arena σ) (c : Commission) (w : World Arena σ) (m : Medium σ)
    (t : Transport σ) (view : StoreView σ) (request : BuildRequest) (config : BuildConfig)
    (vectors ids : Bytes) : Prop where
  accepted : request.plan = .ok c.plan
  faiss : request.engine = .faiss
  assembled : ∃ overrides, c.plan.effectiveOverrides = .ok overrides ∧
    overrides.assemble c.plan.shape = .ok config
  engine : b.engine = Arena.engine
  memory : w.memory.Reachable
  untimed : b.timeLimit = none
  validated : ∃ settings : Settings, settings.validate = .ok () ∧
    settings.storage.transfer = t.transfer
  found : b.stores.resolve c.plan w.toMedium = (.ok t.client, m)
  ready : view.ready m
  objects : view.objects m = view.objects w.toMedium
  works : ∀ target, ObjectPath.parse (artifactPath request.vectorPath .faiss) = .ok target →
    t.store.Works view b.stagingRoot target
  vectorsAt : ∃ path, ObjectPath.parse request.vectorPath = .ok path ∧
    view.objects w.toMedium path = some vectors
  idsAt : ∃ path, ObjectPath.parse request.docIdPath = .ok path ∧
    view.objects w.toMedium path = some ids
  vectorsSize : (vectors.length : Int) =
    request.docCount.toInt * request.dimension.toInt * request.elementType.sourceSize.toNat
  idsSize : (ids.length : Int) = request.docCount.toInt * docIdSize.toNat

variable {b : Builder Arena σ} {c : Commission} {w : World Arena σ} {m : Medium σ}
  {t : Transport σ} {view : StoreView σ} {request : BuildRequest} {config : BuildConfig}
  {vectors ids : Bytes} {space : Workspace} {disk : Disk}

/-! ## Sizes -/

/-- The vectors that are supplied have the declared size. -/
theorem Supplied.length_vectors (h : Supplied b c w m t view request config vectors ids) :
    vectors.length =
      c.plan.docCount.toNat * c.plan.dimension.toNat * c.plan.elementType.sourceSize.toNat := by
  have haccepted := BuildRequest.accepted_of_plan h.accepted
  have hsize := h.vectorsSize
  rw [← haccepted.docCount, ← haccepted.dimension, ← haccepted.elementType] at hsize
  exact_mod_cast hsize

/-- The ids that are supplied have the declared size. -/
theorem Supplied.length_ids (h : Supplied b c w m t view request config vectors ids) :
    ids.length = c.plan.docCount.toNat * docIdSize.toNat := by
  have haccepted := BuildRequest.accepted_of_plan h.accepted
  have hsize := h.idsSize
  rw [← haccepted.docCount] at hsize
  exact_mod_cast hsize

/-- The artifact of the blobs holds their elements. -/
theorem Supplied.represents (h : Supplied b c w m t view request config vectors ids) :
    (artifactOf config c.plan.dimension c.plan.elementType vectors ids).Represents request config
      vectors ids := by
  have haccepted := BuildRequest.accepted_of_plan h.accepted
  have hsource : 0 < c.plan.elementType.sourceSize.toNat := by
    cases c.plan.elementType <;> decide
  have hids : (Dataset.idsOf ids).length = c.plan.docCount.toNat := by
    rw [Dataset.length_idsOf, h.length_ids]
    exact Nat.mul_div_cancel _ (by decide)
  have hcomponents : (Dataset.componentsOf c.plan.elementType
      (c.plan.elementType.stage vectors)).length =
        c.plan.docCount.toNat * c.plan.dimension.toNat := by
    rw [ElementType.length_componentsOf_stage, h.length_vectors, Nat.mul_div_cancel _ hsource]
  exact {
    metric := rfl
    dimension := haccepted.dimension
    efSearch := rfl
    efConstruction := rfl
    idCount := by
      rw [← haccepted.docCount]
      exact congrArg Nat.cast hids
    id := fun i hi =>
      Dataset.getElem?_idsOf (Nat.lt_of_lt_of_eq hi (Dataset.length_idsOf ids))
    componentCount := by
      rw [← haccepted.docCount, ← haccepted.dimension, ← Int.natCast_mul]
      exact congrArg Nat.cast hcomponents
    component := fun i hi => by
      rw [← haccepted.elementType]
      exact ElementType.getElem?_componentsOf_stage _
        (Nat.lt_of_lt_of_eq hi (ElementType.length_componentsOf_stage _ vectors)) }

/-- The lengths of the lists in the artifact are words. -/
theorem Supplied.decode_encode (h : Supplied b c w m t view request config vectors ids) :
    Artifact.decode (artifactOf config c.plan.dimension c.plan.elementType vectors ids).encode =
      .ok (artifactOf config c.plan.dimension c.plan.elementType vectors ids) := by
  have haccepted := BuildRequest.accepted_of_plan h.accepted
  have hids : ids.length < 0x10000000000000000 := by
    rw [h.length_ids, haccepted.docIdBytes]
    exact UInt64.toNat_lt _
  have hvectors : vectors.length < 0x10000000000000000 := by
    rw [h.length_vectors, haccepted.vectorBytes]
    exact UInt64.toNat_lt _
  refine Artifact.Countable.decode_encode ⟨?_, ?_⟩
  · change (Dataset.idsOf ids).length < _
    rw [Dataset.length_idsOf]
    exact Nat.lt_of_le_of_lt (Nat.div_le_self ..) hids
  · change (Dataset.componentsOf _ _).length < _
    rw [ElementType.length_componentsOf_stage]
    exact Nat.lt_of_le_of_lt (Nat.div_le_self ..) hvectors

/-! ## The whole run -/

/-- Octets are read from a file one at least at a time. -/
theorem ioChunk_pos_of_validate {settings : Settings} (h : settings.validate = .ok ()) :
    0 < settings.storage.transfer.ioChunk.toNat := by
  refine Nat.pos_of_ne_zero fun hzero => ?_
  have hzero : settings.storage.transfer.ioChunk = 0 := UInt64.toNat_inj.1 hzero
  unfold Settings.validate at h
  dsimp only at h
  split at h
  · cases h
  · split at h
    · cases h
    · cases h

/-- The job of a run. -/
def job (b : Builder Arena σ) (c : Commission) (w : World Arena σ) (t : Transport σ)
    (view : StoreView σ) (config : BuildConfig) (vectors ids : Bytes) (space : Workspace)
    (disk : Disk) (target : ObjectPath) : Job σ where
  builder := b
  commission := c
  config := config
  transport := t
  view := view
  space := space
  disk := disk
  objects := view.objects w.toMedium
  vectors := vectors
  ids := ids
  target := target

/-- With a workspace, nothing outside of a supplied run goes wrong. -/
theorem Supplied.exists_sound (h : Supplied b c w m t view request config vectors ids)
    (hspace : Workspace.create m.disk b.stagingRoot c.plan.stagingMode c.plan.artifactPath
      c.suffix = .ok (space, disk))
    (hwritable : space.Writable disk) :
    ∃ target, ObjectPath.parse (artifactPath request.vectorPath .faiss) = .ok target ∧
      (job b c w t view config vectors ids space disk target).Sound := by
  have haccepted := BuildRequest.accepted_of_plan h.accepted
  obtain ⟨settings, hvalid, htransfer⟩ := h.validated
  obtain ⟨location, hlocation, hvectors⟩ := h.vectorsAt
  obtain ⟨target, htarget⟩ :=
    haccepted.exists_parse_artifactPath (haccepted.vectorPath ▸ hlocation)
  have hpath : c.plan.artifactPath = artifactPath request.vectorPath .faiss :=
    h.faiss ▸ haccepted.artifactPath_eq
  obtain ⟨d₁, name, -, -, -, hcontent⟩ := Workspace.create_spec hspace
  refine ⟨target, hpath ▸ htarget, ?_⟩
  exact {
    engine := h.engine
    untimed := h.untimed
    works := h.works target (hpath ▸ htarget)
    ioChunk := htransfer ▸ ioChunk_pos_of_validate hvalid
    vectorsAt := ⟨location, haccepted.vectorPath ▸ hlocation, hvectors⟩
    idsAt := haccepted.docIdPath ▸ h.idsAt
    targetAt := htarget
    vectorsSize := h.length_vectors
    idsSize := h.length_ids
    vectorBytes := h.length_vectors.trans haccepted.vectorBytes
    idBytes := h.length_ids.trans haccepted.docIdBytes
    made := ⟨m.disk, disk, _, _, _, space, hspace, rfl, fun _ h => h⟩
    empty := by
      intro content hbuffer
      have hbuffer := hcontent.symm.trans hbuffer
      generalize c.plan.stagingMode = mode at hbuffer
      cases mode with
      | disk => cases hbuffer
      | memory => exact (StagedContent.buffer.inj hbuffer).symm
    writable := hwritable }

/-- Configuring sets the run on its course. -/
theorem Supplied.onCourse_configure (h : Supplied b c w m t view request config vectors ids)
    (hspace : Workspace.create m.disk b.stagingRoot c.plan.stagingMode c.plan.artifactPath
      c.suffix = .ok (space, disk))
    {target : ObjectPath} (hsound : (job b c w t view config vectors ids space disk target).Sound) :
    (job b c w t view config vectors ids space disk target).OnCourse
      (({} : Run σ).configure b c w).1 (({} : Run σ).configure b c w).2 := by
  have haccepted := BuildRequest.accepted_of_plan h.accepted
  obtain ⟨overrides, hoverrides, hconfig⟩ := h.assembled
  have hlate : isLate b c .configuring = false := by
    unfold isLate
    rw [h.untimed]
  have hclock : isBeyondClock b c = false := by
    unfold isBeyondClock
    rw [h.untimed]
  have hkind : c.plan.engine = b.engine.kind := by
    rw [haccepted.engine, h.faiss, h.engine]
    rfl
  obtain ⟨hobjects, hready⟩ := hsound.works.apart (m := m) (.make hspace)
  have hconfigure := configure_eq_next (r := ({} : Run σ)) hclock hlate hkind hoverrides hconfig
    h.found hspace
  rw [hconfigure.trans (hsound.next_eq ..)]
  refine .fetching rfl ⟨rfl, ⟨hready h.ready, hobjects.trans h.objects, rfl⟩,
    Arena.fresh_of_reachable h.memory⟩ ?_ ?_
  · exact VectorSink.holds_forElements ..
  · exact StagingBuffer.holds_withLimit _

/-- A supplied run with a workspace succeeds, and the artifact of the blobs is the only object that
it adds to the store. -/
theorem Supplied.run_spec (h : Supplied b c w m t view request config vectors ids)
    (hspace : Workspace.create m.disk b.stagingRoot c.plan.stagingMode c.plan.artifactPath
      c.suffix = .ok (space, disk))
    (hwritable : space.Writable disk) :
    ∃ target report, ObjectPath.parse (artifactPath request.vectorPath .faiss) = .ok target ∧
      (b.run c w).1.report? = some report ∧
      report.result = .success (Text.lastSegment (artifactPath request.vectorPath .faiss)) ∧
      report.failedStage = none ∧
      view.objects (b.run c w).2.toMedium = withObject (view.objects w.toMedium) target
        (artifactOf config c.plan.dimension c.plan.elementType vectors ids).encode := by
  have haccepted := BuildRequest.accepted_of_plan h.accepted
  obtain ⟨target, htarget, hsound⟩ := h.exists_sound hspace hwritable
  let j := job b c w t view config vectors ids space disk target
  -- The run is on course from its first step on; of the phases on course only `ended` is over.
  have hinvariant := complete_of_proceed (b := b) (c := c)
    (P := fun r' w' => (r' = {} ∧ w' = w) ∨ j.OnCourse r' w')
    (fun idsFirst r' w' hcourse => by
      obtain ⟨rfl, rfl⟩ | hcourse := hcourse
      · exact .inr (h.onCourse_configure hspace hsound)
      · exact .inr (Job.onCourse_proceed hsound idsFirst hcourse))
    (.inl ⟨rfl, rfl⟩)
  have hover := b.isOver_run c w
  have hpath : c.plan.artifactPath = artifactPath request.vectorPath .faiss :=
    h.faiss ▸ haccepted.artifactPath_eq
  have hrunning : ∀ {phase : Phase σ}, (b.run c w).1.phase = phase → phase.legs = 0 := by
    rintro _ rfl
    exact isOver_iff_legs.1 hover
  obtain ⟨hstart, -⟩ | hcourse := hinvariant
  · cases hrunning (congrArg Run.phase hstart)
  cases hcourse with
  | @ended report hphase success failedStage objects =>
    refine ⟨target, report, htarget, ?_, hpath ▸ success, failedStage, objects⟩
    unfold report?
    rw [show (b.run c w).1.phase = _ from hphase]
  | fetching phase => cases hrunning phase
  | building phase => cases hrunning phase
  | built phase => cases hrunning phase
  | moving phase => cases hrunning phase
  | converting phase => cases hrunning phase
  | converted phase => cases hrunning phase
  | leaving phase => cases hrunning phase
  | persisting phase => cases hrunning phase
  | persisted phase => cases hrunning phase
  | uploading phase => cases hrunning phase

/-- A supplied run with a workspace succeeds and reports the name of its artifact.  The artifact is
the only object that it adds to the store; read back, it holds the configuration of the request and
the elements of the blobs.  Every other run of this request that is supplied with these blobs
uploads the same octets, whatever its staging mode, its store and the chunks that come from it, its
transfer settings and the state of its engine. -/
theorem artifact_of_blobs (h : Supplied b c w m t view request config vectors ids)
    (hspace : Workspace.create m.disk b.stagingRoot c.plan.stagingMode c.plan.artifactPath
      c.suffix = .ok (space, disk))
    (hwritable : space.Writable disk) :
    ∃ target artifact report,
      ObjectPath.parse (artifactPath request.vectorPath .faiss) = .ok target ∧
      (b.run c w).1.report? = some report ∧
      report.result = .success (Text.lastSegment (artifactPath request.vectorPath .faiss)) ∧
      report.failedStage = none ∧
      view.objects (b.run c w).2.toMedium =
        withObject (view.objects w.toMedium) target artifact.encode ∧
      Artifact.decode artifact.encode = .ok artifact ∧
      artifact.Represents request config vectors ids ∧
      ∀ {σ' : Type} {b' : Builder Arena σ'} {c' : Commission} {w' : World Arena σ'}
        {m' : Medium σ'} {t' : Transport σ'} {view' : StoreView σ'} {config' : BuildConfig}
        {space' : Workspace} {disk' : Disk} (mode : StagingMode),
        Supplied b' c' w' m' t' view' { request with stagingMode := mode } config' vectors ids →
        Workspace.create m'.disk b'.stagingRoot c'.plan.stagingMode c'.plan.artifactPath c'.suffix =
          .ok (space', disk') →
        space'.Writable disk' →
        view'.objects (b'.run c' w').2.toMedium target = some artifact.encode := by
  obtain ⟨target, report, htarget, hreport, hresult, hstage, hobjects⟩ :=
    h.run_spec hspace hwritable
  refine ⟨target, artifactOf config c.plan.dimension c.plan.elementType vectors ids, report,
    htarget, hreport, hresult, hstage, hobjects, h.decode_encode, h.represents, ?_⟩
  intro σ' b' c' w' m' t' view' config' space' disk' mode h' hspace' hwritable'
  obtain ⟨target', report', htarget', -, -, -, hobjects'⟩ := h'.run_spec hspace' hwritable'
  -- What both requests share, their path, shape and overrides, determines target and artifact.
  obtain rfl : target = target' := Except.ok.inj (htarget.symm.trans htarget')
  obtain ⟨hoverrides, hshape, hdimension, htype⟩ :=
    (BuildRequest.accepted_of_plan h.accepted).agree (BuildRequest.accepted_of_plan h'.accepted)
  obtain ⟨overrides, hok, hassembled⟩ := h.assembled
  obtain ⟨overrides', hok', hassembled'⟩ := h'.assembled
  obtain rfl : overrides = overrides' :=
    Except.ok.inj (hok.symm.trans (hoverrides.symm.trans hok'))
  obtain rfl : config = config' := by
    rw [hshape] at hassembled'
    exact Except.ok.inj (hassembled.symm.trans hassembled')
  rw [hobjects', hdimension, htype]
  exact if_pos rfl

/-- A request for two rows of one component each. -/
def twoRows (mode : StagingMode) : BuildRequest where
  containerName := "container"
  vectorPath := "two/rows.knnvec"
  docIdPath := "two/rows.knndid"
  dimension := 1
  docCount := 2
  elementType := .float16
  stagingMode := mode

/-- The run of this request. -/
def twoRowsRun (mode : StagingMode) : Commission where
  plan := {
    repositoryType := "s3", containerName := "container", vectorPath := "two/rows.knnvec"
    docIdPath := "two/rows.knndid", dimension := 1, docCount := 2, elementType := .float16
    engine := .faiss, index := {}, stagingMode := mode, overrides := {}, vectorBytes := 8
    docIdBytes := 8 }
  suffix := "1"

/-- The numbers one and two. -/
def twoRowsVectors : Bytes := [0, 0, 128, 63, 0, 0, 0, 64]

/-- The ids nine and minus one. -/
def twoRowsIds : Bytes := [9, 0, 0, 0, 255, 255, 255, 255]

/-- A transport that gets three octets at a time and uploads in parts. -/
def choppyTransport : Transport MemoryObjects where
  store := MemoryObjects.store.chunked 3
  transfer := { multipartChunk := 20, multipartThreshold := 20, maxConcurrency := 1, ioChunk := 7 }

/-- A builder over this transport. -/
def choppyBuilder : Builder Arena MemoryObjects where
  engine := Arena.engine
  stores := Provider.always choppyTransport.client
  stagingRoot := "/staging"

/-- The blobs on a disk. -/
def twoRowsStored (disk : Disk) : World Arena MemoryObjects where
  store := { objects := [(⟨["two", "rows.knnvec"]⟩, twoRowsVectors),
    (⟨["two", "rows.knndid"]⟩, twoRowsIds)] }
  disk := disk
  memory := {}

/-- Two rows are supplied on every disk and in both staging modes. -/
theorem exists_supplied_twoRows (mode : StagingMode) (disk : Disk) :
    ∃ config, Supplied choppyBuilder (twoRowsRun mode) (twoRowsStored disk)
      (twoRowsStored disk).toMedium choppyTransport MemoryObjects.view (twoRows mode) config
      twoRowsVectors twoRowsIds := by
  obtain ⟨config, hconfig⟩ : ∃ config,
      ({} : Overrides).assemble { docCount := 2, dimension := 1, metric := .l2 } = .ok config :=
    ⟨_, rfl⟩
  have hvectorPath : ObjectPath.parse "two/rows.knnvec" = .ok ⟨["two", "rows.knnvec"]⟩ := by
    decide +kernel
  have hidPath : ObjectPath.parse "two/rows.knndid" = .ok ⟨["two", "rows.knndid"]⟩ := by
    decide +kernel
  exact ⟨config, {
    accepted := by cases mode <;> rfl
    faiss := rfl
    assembled := ⟨_, rfl, hconfig⟩
    engine := rfl
    memory := .empty
    untimed := rfl
    validated := ⟨{
      storage := { transfer := choppyTransport.transfer }
      runs := { stagingDirectory := "/staging" } }, by decide, rfl⟩
    found := rfl
    ready := trivial
    objects := rfl
    works := fun target _ => (MemoryObjects.works _ target).chunked 3
    vectorsAt := ⟨⟨["two", "rows.knnvec"]⟩, hvectorPath, rfl⟩
    idsAt := ⟨⟨["two", "rows.knndid"]⟩, hidPath, rfl⟩
    vectorsSize := rfl
    idsSize := rfl }⟩

/-- The two rows are fetched in chunks that split them, and uploaded from a file in parts. -/
theorem artifact_of_two_rows :
    ∃ (artifact : Artifact) (report : RunReport),
      (choppyBuilder.run (twoRowsRun .disk) (twoRowsStored {})).1.report? = some report ∧
      report.result = .success "rows.faiss" ∧
      MemoryObjects.view.objects
        (choppyBuilder.run (twoRowsRun .disk) (twoRowsStored {})).2.toMedium
          ⟨["two", "rows.faiss"]⟩ = some (Artifact.encode artifact) ∧
      artifact.ids[1]? = some (-1 : Int64) ∧ artifact.vectors[1]? = some 0x40000000 := by
  obtain ⟨config, hsupplied⟩ := exists_supplied_twoRows .disk {}
  have hmade : ((Workspace.create (twoRowsStored {}).disk choppyBuilder.stagingRoot
      (twoRowsRun .disk).plan.stagingMode (twoRowsRun .disk).plan.artifactPath
      (twoRowsRun .disk).suffix).toOption.any fun made =>
        made.1.content = .file "/staging/index-build-1/rows.faiss" ∧
          (made.2.writeFile "/staging/index-build-1/rows.faiss" []).toOption.isSome) = true := by
    decide +kernel
  cases hspace : Workspace.create (twoRowsStored {}).disk choppyBuilder.stagingRoot
      (twoRowsRun .disk).plan.stagingMode (twoRowsRun .disk).plan.artifactPath
      (twoRowsRun .disk).suffix with
  | error e =>
    rw [hspace] at hmade
    cases hmade
  | ok made =>
    obtain ⟨space, disk⟩ := made
    rw [hspace] at hmade
    obtain ⟨hfile, hwrite⟩ := of_decide_eq_true hmade
    have hwritable : space.Writable disk := by
      intro path hpath
      obtain rfl := StagedContent.file.inj (hfile.symm.trans hpath)
      cases hok : disk.writeFile "/staging/index-build-1/rows.faiss" [] with
      | error e =>
        rw [hok] at hwrite
        cases hwrite
      | ok d' => exact ⟨d', rfl⟩
    obtain ⟨target, artifact, report, htarget, hreport, hresult, -, hobjects, -, hrepresents, -⟩ :=
      artifact_of_blobs hsupplied hspace hwritable
    have hname : Text.lastSegment (artifactPath (twoRows .disk).vectorPath .faiss) =
        "rows.faiss" := by
      decide +kernel
    have hparse : ObjectPath.parse (artifactPath (twoRows .disk).vectorPath .faiss) =
        .ok ⟨["two", "rows.faiss"]⟩ := by
      decide +kernel
    obtain rfl := Except.ok.inj (htarget.symm.trans hparse)
    have hids : (artifact.ids.length : Int) = 2 := hrepresents.idCount
    have hcomponents : (artifact.vectors.length : Int) = 2 := hrepresents.componentCount
    refine ⟨artifact, report, hreport, hresult.trans (congrArg _ hname), ?_, ?_, ?_⟩
    · rw [hobjects]
      exact if_pos rfl
    · rw [hrepresents.id 1 (by omega)]
      decide
    · rw [hrepresents.component 1 (by omega)]
      decide +kernel

/-- Without the directory of its workspace, a run that keeps its index in memory fails, although it
is supplied with everything else. -/
theorem fails_without_workspace :
    (∃ config, Supplied choppyBuilder (twoRowsRun .memory)
      (twoRowsStored { nodes := [(["staging"], .file [])] })
      (twoRowsStored { nodes := [(["staging"], .file [])] }).toMedium choppyTransport
      MemoryObjects.view (twoRows .memory) config twoRowsVectors twoRowsIds) ∧
    ((choppyBuilder.run (twoRowsRun .memory)
      (twoRowsStored { nodes := [(["staging"], .file [])] })).1.report?.map RunReport.result) =
        some (.failure "configuring stage failed: io error: File exists (os error 17)") := by
  refine ⟨exists_supplied_twoRows .memory _, by decide +kernel⟩

end Run

end VectorIndex
