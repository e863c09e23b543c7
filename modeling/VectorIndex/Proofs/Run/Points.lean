import VectorIndex.Proofs.Run.Course
import VectorIndex.Proofs.Run.Fetching
import VectorIndex.Proofs.Run.Footing

/-!
# Where a run is, but for its raw handles

A `Point` says how far a run over the flat engine is without naming a raw handle, and
`Scene.Follows` that a run is at a point.  Where a run goes from a point does not depend on anything
that other runs may have done: not on its raw handles, nor on what else is in the arena, in the
store or on the disk (`Scene.exists_leads`).  Its own step is noticed by others only as
`Scene.Effect` says.
-/

set_option autoImplicit false

namespace VectorIndex

variable {σ κ : Type}

/-- How far a run is. -/
inductive Point (κ : Type) where
  | waiting
  | aborted (reason : Abort)
  | fetching (config : BuildConfig) (space : Workspace) (vectors : Download VectorSink)
      (ids : Download StagingBuffer)
  | building (config : BuildConfig) (space : Workspace) (dataset : Dataset) (inside : Bool)
  | unbuilt (config : BuildConfig) (space : Workspace) (dataset : Dataset) (e : BuildError)
  | built (config : BuildConfig) (space : Workspace) (dataset : Dataset) (graph : FlatGraph)
      (ids : List Int64)
  | converting (config : BuildConfig) (space : Workspace) (graph : FlatGraph) (ids : List Int64)
      (inside : Bool)
  | converted (config : BuildConfig) (space : Workspace) (graph : FlatGraph) (ids : List Int64)
  | persisting (config : BuildConfig) (space : Workspace) (graph : FlatGraph) (ids : List Int64)
      (inside : Bool)
  | persisted (config : BuildConfig) (space : Workspace) (content : Bytes) (graph : FlatGraph)
      (ids : List Int64)
  | unstaged (config : BuildConfig) (space : Workspace) (e : BuildError) (graph : FlatGraph)
      (ids : List Int64)
  | uploading (config : BuildConfig) (space : Workspace) (content : Bytes)
  | ended (report : RunReport) (registry : Registry) (left : Option κ)

namespace Point

/-- The handle of the index on the device. -/
def source : TrackedIndex := ⟨⟨0⟩, .gpu⟩

/-- The handle of the index on the host. -/
def derived : TrackedIndex := ⟨⟨1⟩, .cpu⟩

/-- The registry of a run whose index was persisted. -/
def spent : Registry where
  slots := [.transferred ⟨1⟩, .released]
  tally := { registered := 2, released := 2, transferred := 1 }

/-- How far a task is, given the index that it works on. -/
def progress (inside : Bool) (subject : Option NativeIndex) : Progress :=
  if inside then .running subject else .queued

/-- The phase of a run at a point. -/
def phase (client : BlobClient σ) (native : NativeIndex) : Point κ → Phase σ
  | .waiting => .configuring
  | .aborted reason => .aborted reason
  | .fetching config _ vectors ids => .fetching ⟨config, client⟩ vectors ids
  | .building config _ dataset inside =>
    .working ⟨config, client⟩ (.build dataset) (progress inside none)
  | .unbuilt config _ dataset e => .working ⟨config, client⟩ (.build dataset) (.returned (.error e))
  | .built config _ dataset _ _ =>
    .working ⟨config, client⟩ (.build dataset) (.returned (.ok source))
  | .converting config _ _ _ inside =>
    .working ⟨config, client⟩ (.convert source) (progress inside (some native))
  | .converted config _ _ _ => .working ⟨config, client⟩ (.convert source) (.returned (.ok derived))
  | .persisting config _ _ _ inside =>
    .working ⟨config, client⟩ (.persist derived) (progress inside (some native))
  | .persisted config _ _ _ _ =>
    .working ⟨config, client⟩ (.persist derived) (.returned (.ok derived))
  | .unstaged config _ e _ _ => .working ⟨config, client⟩ (.persist derived) (.returned (.error e))
  | .uploading config _ _ => .uploading ⟨config, client⟩
  | .ended report _ _ => .ended report

/-- What a run holds at a point. -/
def holding : Point κ → Holding
  | .built _ _ _ graph ids => .device graph ids
  | .converting _ _ graph ids inside => if inside then .moving graph ids else .device graph ids
  | .converted _ _ graph ids => .host graph ids
  | .persisting _ _ graph ids _ => .host graph ids
  | .persisted _ _ _ graph ids => .host graph ids
  | .unstaged _ _ _ graph ids => .host graph ids
  | .uploading .. => .nothing spent
  | .ended _ registry _ => .nothing registry
  | _ => .nothing {}

/-- Where a run is lodged at a point. -/
def lodging : Point κ → Lodging
  | .waiting => .awaited
  | .aborted _ => .awaited
  | .fetching _ space _ _ => .empty space
  | .building _ space _ _ => .empty space
  | .unbuilt _ space _ _ => .empty space
  | .built _ space _ _ _ => .empty space
  | .converting _ space _ _ _ => .empty space
  | .converted _ space _ _ => .empty space
  | .persisting _ space _ _ _ => .empty space
  | .persisted _ space content _ _ => .staged space content
  | .unstaged _ space _ _ _ => .spoiled space
  | .uploading _ space content => .staged space content
  | .ended .. => .gone

/-- What is to be seen at the target, given what was to be seen there at the start. -/
def left (before : Option κ) : Point κ → Option κ
  | .ended _ _ left => left
  | _ => before

/-- Whether the blobs may still be opened. -/
def reads : Point κ → Bool
  | .waiting => true
  | .fetching .. => true
  | _ => false

end Point

namespace Scene

variable {s : Scene σ κ} {c : Commission} {native : NativeIndex} {r : Run σ} {w : World Arena σ}
  {p p' : Point κ} {own : List RawHandle} {holding : Holding} {lodging : Lodging}
  {left : Option κ} {m : Medium σ} {memory : Arena}

/-- What was to be seen at the target at the start. -/
def before (s : Scene σ κ) (c : Commission) : Option κ :=
  peek s.look s.start c.plan.artifactPath

/-- The blobs are as they were at the start. -/
structure Unread (s : Scene σ κ) (c : Commission) (m : Medium σ) : Prop where
  vectors : peek s.look m c.plan.vectorPath = peek s.look s.start c.plan.vectorPath
  ids : peek s.look m c.plan.docIdPath = peek s.look s.start c.plan.docIdPath

/-- What a run at a point relies on. -/
def FootingAt (s : Scene σ κ) (c : Commission) (p : Point κ) (native : NativeIndex) (r : Run σ)
    (w : World Arena σ) : Prop :=
  s.Footing c p.holding p.lodging (p.left (s.before c)) native r.registry r.workspace w.toMedium
    w.memory

/-- A run is at a point. -/
structure Follows (s : Scene σ κ) (c : Commission) (p : Point κ) (native : NativeIndex) (r : Run σ)
    (w : World Arena σ) : Prop where
  phase : r.phase = p.phase s.client native
  footing : s.FootingAt c p native r w
  unread : p.reads = true → s.Unread c w.toMedium

/-- A run gets to a point, and this is what others notice. -/
def Reaches (s : Scene σ κ) (c : Commission) (own : List RawHandle) (w : World Arena σ)
    (p : Point κ) (after : Run σ × World Arena σ) : Prop :=
  ∃ native, s.Follows c p native after.1 after.2 ∧
    s.Effect c own (p.holding.raws native) w.toMedium after.2.toMedium w.memory after.2.memory

/-- Once a run has given up all that it held, what follows holds nothing in between. -/
theorem Reaches.after {w' : World Arena σ} {ending : Run σ × World Arena σ}
    (h : s.Reaches c [] w' p ending)
    (heffect : s.Effect c own [] w.toMedium w'.toMedium w.memory w'.memory) :
    s.Reaches c own w p ending := by
  obtain ⟨native', hfollows, heffect'⟩ := h
  exact ⟨native', hfollows, heffect.trans heffect' fun _ hraw => nomatch hraw⟩

/-! ## Ends and entries -/

/-- The point where a run ends that holds this. -/
def endPoint (holding : Holding) (left : Option κ) (result : TaskResult)
    (failedStage : Option Stage) : Point κ :=
  .ended { result, failedStage, handles := holding.closed.tally } holding.closed left

/-- A run that ends gets to the point where it has given everything back. -/
theorem reaches_finish (h : s.Sound) (hc : s.Admits c)
    (hfooting : s.Footing c holding lodging left native r.registry r.workspace w.toMedium w.memory)
    (result : TaskResult) (failedStage : Option Stage) :
    s.Reaches c (holding.raws native) w (endPoint holding left result failedStage)
      (r.finish s.builder result failedStage w) := by
  obtain ⟨hphase, hafter, heffect⟩ := finish_spec h hc hfooting result failedStage
  exact ⟨native, ⟨hphase, hafter, nofun⟩, heffect⟩

/-- The point where a run ends that holds this when a stage fails. -/
def failPoint (holding : Holding) (left : Option κ) (stage : Stage) (error : BuildError) : Point κ :=
  endPoint holding left (.failure (StageFailure.message { stage, error })) (some stage)

/-- A run that fails gets to the point where it has given everything back. -/
theorem reaches_fail (h : s.Sound) (hc : s.Admits c)
    (hfooting : s.Footing c holding lodging left native r.registry r.workspace w.toMedium w.memory)
    (stage : Stage) (error : BuildError) :
    s.Reaches c (holding.raws native) w (failPoint holding left stage error)
      (r.fail s.builder stage error w) :=
  reaches_finish h hc hfooting _ _

/-- A step that nobody notices. -/
theorem reaches_quietly (native : NativeIndex) {r : Run σ} {w' : World Arena σ}
    (hphase : r.phase = p.phase s.client native)
    (hfooting : s.Footing c p.holding p.lodging (p.left (s.before c)) native r.registry r.workspace
      w.toMedium w.memory)
    (hunread : p.reads = true → s.Unread c w.toMedium) (hmedium : w'.toMedium = w.toMedium)
    (hmemory : w'.memory = w.memory) : s.Reaches c (p.holding.raws native) w p (r, w') := by
  refine ⟨native, ⟨hphase, ?_, ?_⟩, ?_⟩
  · unfold FootingAt
    rw [hmedium, hmemory]
    exact hfooting
  · rw [hmedium]
    exact hunread
  · rw [hmedium, hmemory]
    exact .refl ..

/-- A stage is entered in time or not, whatever others do. -/
theorem exists_enter (h : s.Sound) (hc : s.Admits c) (p : Point κ) (stage : Stage) :
    ∃ p', ∀ {native : NativeIndex} {r : Run σ} {w : World Arena σ}, s.FootingAt c p native r w →
      (p.reads = true → s.Unread c w.toMedium) →
      s.Reaches c (p.holding.raws native) w p'
        (r.enter s.builder c stage (p.phase s.client native) w) := by
  cases hlate : Run.isLate s.builder c stage with
  | true =>
    refine ⟨failPoint p.holding (p.left (s.before c)) stage
      (.timeout ("deadline passed before " ++ stage.name ++ " stage")), fun hfooting _ => ?_⟩
    unfold Run.enter
    rw [hlate, if_pos rfl]
    exact reaches_fail h hc hfooting _ _
  | false =>
    refine ⟨p, fun hfooting hunread => ?_⟩
    unfold Run.enter
    rw [hlate, if_neg Bool.false_ne_true]
    exact ⟨_, ⟨rfl, hfooting, hunread⟩, .refl ..⟩

/-! ## Configuring -/

/-- Where no workspace was foreseen, none is made. -/
theorem create_of_not_foreseen (h : s.Sound) (hc : s.Admits c) {e : BuildError}
    (hforeseen : s.foreseen c = .error e) (hfollows : s.Follows c .waiting native r w) :
    Workspace.create w.disk s.builder.stagingRoot c.plan.stagingMode c.plan.artifactPath c.suffix =
      .error e := by
  have hawaits : s.start.disk.Awaits s.root c.suffix _ := hfollows.footing.lodged
  obtain ⟨e', he', hcreate⟩ | ⟨space, d', hspace, -⟩ := Workspace.create_foreseen h.rooted
    hc.slash hc.vacant hawaits c.plan.stagingMode c.plan.artifactPath
  · obtain rfl := Except.error.inj (he'.symm.trans hforeseen)
    exact hcreate
  · cases hspace.symm.trans hforeseen

/-- The workspace that was foreseen is made.  The run is lodged there, and neither its blobs nor its
target are touched. -/
theorem exists_create_of_foreseen (h : s.Sound) (hc : s.Admits c) {space : Workspace}
    (hforeseen : s.foreseen c = .ok space) (hfollows : s.Follows c .waiting native r w) :
    ∃ d', Workspace.create w.disk s.builder.stagingRoot c.plan.stagingMode c.plan.artifactPath
        c.suffix = .ok (space, d') ∧
      s.Footing c (.nothing {}) (.empty space) (s.before c) native r.registry (some space)
        { w.toMedium with disk := d' } w.memory ∧
      s.Unread c { w.toMedium with disk := d' } ∧
      s.Effect c [] [] w.toMedium { w.toMedium with disk := d' } w.memory w.memory := by
  have hfooting := hfollows.footing
  have hawaits : s.start.disk.Awaits s.root c.suffix _ := hfooting.lodged
  obtain ⟨e', he', -⟩ | ⟨space', d', hspace', hcreate, hlodges, hfree, hspares⟩ :=
    Workspace.create_foreseen h.rooted hc.slash hc.vacant hawaits c.plan.stagingMode
      c.plan.artifactPath
  · cases he'.symm.trans hforeseen
  obtain rfl := Except.ok.inj (hspace'.symm.trans hforeseen)
  have hmade : Workspace.Change s.root w.disk d' := .make hcreate
  have hlook := h.keyed.apart hmade
  have hhoused : s.Housed c space' d' :=
    ⟨Workspace.directory_of_foreseen hspace',
      ⟨_, _, _, _, _, _, hcreate, rfl, fun _ h => h⟩, hlodges⟩
  refine ⟨d', hcreate, ⟨hfooting.registry, rfl, hfooting.holds, ⟨hhoused, hforeseen, hfree⟩,
    (peek_of_look hlook _).trans hfooting.target⟩, ?_, .of_change h [] w.memory hmade hspares⟩
  exact ⟨(peek_of_look hlook _).trans (hfollows.unread rfl).vectors,
    (peek_of_look hlook _).trans (hfollows.unread rfl).ids⟩

/-- Where a run goes from its start. -/
theorem exists_configure (h : s.Sound) (hc : s.Admits c) :
    ∃ p', ∀ {native : NativeIndex} {r : Run σ} {w : World Arena σ},
      s.Follows c .waiting native r w →
      s.Reaches c [] w p' (r.configure s.builder c w) := by
  have hfail : ∀ {native : NativeIndex} {r : Run σ} {w : World Arena σ} (e : BuildError),
      s.Follows c .waiting native r w →
      s.Reaches c [] w (failPoint (.nothing {}) (s.before c) .configuring e)
        (r.fail s.builder .configuring e w) :=
    fun e hfollows => reaches_fail h hc hfollows.footing _ e
  have habort : ∀ {native : NativeIndex} {r : Run σ} {w : World Arena σ} (reason : Abort),
      s.Follows c .waiting native r w →
      s.Reaches c [] w (.aborted reason) ({ r with phase := .aborted reason }, w) :=
    fun reason hfollows => ⟨_, ⟨rfl, hfollows.footing, nofun⟩, .refl ..⟩
  unfold Run.configure
  cases Run.isBeyondClock s.builder c with
  | true => exact ⟨_, habort .deadline⟩
  | false =>
  cases Run.isLate s.builder c .configuring with
  | true => exact ⟨_, hfail _⟩
  | false =>
  simp only [Bool.false_eq_true, if_false]
  unfold Run.prepare
  by_cases hkind : c.plan.engine = s.builder.engine.kind
  · simp only [hkind, ne_eq, not_true_eq_false, if_false]
    cases c.plan.effectiveOverrides with
    | error reason => exact ⟨_, habort reason⟩
    | ok overrides =>
    dsimp only
    cases overrides.assemble c.plan.shape with
    | error e => exact ⟨_, hfail e⟩
    | ok config =>
    dsimp only
    simp only [h.stores, Provider.always]
    cases hforeseen : s.foreseen c with
    | error e =>
      refine ⟨failPoint (.nothing {}) (s.before c) .configuring e, fun hfollows => ?_⟩
      rw [show Workspace.create _ s.builder.stagingRoot _ _ _ = _ from
        create_of_not_foreseen h hc hforeseen hfollows]
      exact hfail _ hfollows
    | ok space =>
      obtain ⟨p', hp'⟩ := exists_enter h hc (.fetching config space
        (.opening (VectorSink.forElements c.plan.elementType c.plan.vectorBytes))
        (.opening (StagingBuffer.withLimit c.plan.docIdBytes))) .fetching
      refine ⟨p', fun {native r w} hfollows => ?_⟩
      obtain ⟨d', hcreate, hfooting, hunread, heffect⟩ :=
        exists_create_of_foreseen h hc hforeseen hfollows
      rw [show Workspace.create _ s.builder.stagingRoot _ _ _ = _ from hcreate]
      have hreach := @hp' native { r with workspace := some space }
        (World.record { w with toMedium := { w.toMedium with disk := d' } }
          (.stageObserved .configuring)) hfooting fun _ => hunread
      exact hreach.after heffect
  · simp only [ne_eq, hkind, not_false_eq_true, if_true]
    exact ⟨_, hfail _⟩

/-! ## Fetching -/

/-- A step of a read changes nothing but the log. -/
theorem toMedium_step (h : s.Sound) {τ : Type} [BlobSink τ] (path : String) (d : Download τ)
    (site : Site σ) : (d.step s.client path site).2.toMedium = site.toMedium := by
  have hopened := h.keyed.opened path site.toMedium
  unfold Download.step
  split
  · next sink =>
    generalize s.client.openBlob path site.toMedium = answer at hopened
    obtain ⟨answer, m⟩ := answer
    cases answer <;> exact hopened
  · split <;> rfl
  · split
    · rfl
    · split
      · rfl
      · split <;> rfl
  · rfl

/-- A step of a read depends on what is to be seen at its path. -/
theorem step_eq (h : s.Sound) {τ : Type} [BlobSink τ] {path : String} (d : Download τ)
    (site site' : Site σ) (hpeek : peek s.look site.toMedium path = peek s.look site'.toMedium path) :
    (d.step s.client path site).1 = (d.step s.client path site').1 := by
  have hopens := h.keyed.opens path hpeek
  unfold Download.step
  split
  · next sink =>
    generalize s.client.openBlob path site.toMedium = answer at hopens
    generalize s.client.openBlob path site'.toMedium = answer' at hopens
    obtain ⟨answer, m⟩ := answer
    obtain ⟨answer', m'⟩ := answer'
    obtain rfl : answer = answer' := hopens
    cases answer <;> rfl
  · split <;> rfl
  · split
    · rfl
    · split
      · rfl
      · split <;> rfl
  · rfl

/-- Where a run goes while it reads its blobs. -/
theorem exists_fetch (h : s.Sound) (hc : s.Admits c) (idsFirst : Bool) (config : BuildConfig)
    (space : Workspace) (vectors : Download VectorSink) (ids : Download StagingBuffer) :
    ∃ p', ∀ {native : NativeIndex} {r : Run σ} {w : World Arena σ},
      s.Follows c (.fetching config space vectors ids) native r w →
      s.Reaches c [] w p'
        (r.fetch s.builder c idsFirst ⟨config, s.client⟩ vectors ids w) := by
  cases hconclusion : Run.conclusion? c.plan vectors ids with
  | some result =>
    simp only [Run.fetch_of_conclusion idsFirst hconclusion]
    unfold Run.conclude
    cases result with
    | error e =>
      exact ⟨failPoint (.nothing {}) (s.before c) .fetching e,
        fun hfollows => reaches_fail h hc hfollows.footing .fetching e⟩
    | ok dataset =>
      obtain ⟨p', hp'⟩ := exists_enter h hc (.building config space dataset false) .building
      exact ⟨p', fun {native r w} hfollows =>
        @hp' native r (w.record (.stageObserved .fetching)) hfollows.footing nofun⟩
  | none =>
    obtain ⟨idsMove, hfetch⟩ := Run.exists_turn Arena σ idsFirst hconclusion
    simp only [hfetch]
    -- what the read gets is what it would have got at the start
    cases idsMove with
    | true =>
      let read := (ids.step s.client c.plan.docIdPath ⟨s.start, []⟩).1
      refine ⟨.fetching config space vectors read, fun {native r w} hfollows => ?_⟩
      have hread := step_eq h ids w.toSite ⟨s.start, []⟩
        (hfollows.unread rfl).ids
      refine reaches_quietly native ?_ hfollows.footing hfollows.unread
        (toMedium_step h c.plan.docIdPath ids w.toSite) rfl
      exact congrArg (Phase.fetching _ vectors) hread
    | false =>
      let read := (vectors.step s.client c.plan.vectorPath ⟨s.start, []⟩).1
      refine ⟨.fetching config space read ids, fun {native r w} hfollows => ?_⟩
      have hread := step_eq h vectors w.toSite ⟨s.start, []⟩
        (hfollows.unread rfl).vectors
      refine reaches_quietly native ?_ hfollows.footing hfollows.unread
        (toMedium_step h c.plan.vectorPath vectors w.toSite) rfl
      exact congrArg (fun read => Phase.fetching _ read ids) hread

/-! ## Building -/

/-- Where a run goes from a build. -/
theorem exists_endBuild (h : s.Sound) (config : BuildConfig) (space : Workspace)
    (dataset : Dataset) :
    ∃ p', ∀ {native : NativeIndex} {r : Run σ} {w : World Arena σ}, w.memory.Reachable →
      s.Follows c (.building config space dataset true) native r w →
      s.Reaches c [] w p'
        ({ (r.endBuild s.builder ⟨config, s.client⟩ dataset w).2.1 with
            phase := .working ⟨config, s.client⟩ (.build dataset)
              (.returned (r.endBuild s.builder ⟨config, s.client⟩ dataset w).1) },
          (r.endBuild s.builder ⟨config, s.client⟩ dataset w).2.2) := by
  obtain ⟨message, hbuild⟩ | ⟨graph, ids, hbuild⟩ := Arena.build_cases dataset config
  · refine ⟨.unbuilt config space dataset (.build message), fun {native r w} _ hfollows => ?_⟩
    have hcall : s.builder.engine.build dataset config w.memory =
        (.failed message none, w.memory) := by
      rw [h.engine]
      exact hbuild w.memory
    unfold Run.endBuild
    simp only [hcall]
    exact reaches_quietly native rfl hfollows.footing nofun rfl rfl
  · refine ⟨.built config space dataset graph ids, fun {native r w} hreach hfollows => ?_⟩
    obtain ⟨native', memory, hbuilt, hgpu, hholds, hconfined⟩ := hbuild w.memory hreach
    have hcall : s.builder.engine.build dataset config w.memory = (.ok native', memory) := by
      rw [h.engine]
      exact hbuilt
    have hfooting := hfollows.footing
    have hregistry : r.registry = {} := hfooting.registry
    unfold Run.endBuild
    simp only [hcall]
    refine ⟨native', ⟨?_, ⟨?_, hfooting.workspace, ⟨hgpu, hholds⟩, hfooting.lodged,
      hfooting.target⟩, nofun⟩, .of_memory c _ hconfined⟩
    · have htoken : (⟨r.registry.nextId, native'.residency⟩ : TrackedIndex) = Point.source := by
        rw [hregistry, hgpu]
        rfl
      exact congrArg (fun token => Phase.working _ _ (.returned (.ok token))) htoken
    · change (r.registry.add native').2 = _
      rw [hregistry]
      rfl

/-! ## Converting -/

/-- Where a run goes when its conversion begins. -/
theorem reaches_beginConvert (config : BuildConfig) (space : Workspace)
    (graph : FlatGraph) (ids : List Int64)
    (hfollows : s.Follows c (.converting config space graph ids false) native r w) :
    s.Reaches c native.raws w (.converting config space graph ids true)
      ({ (r.beginTask ⟨config, s.client⟩ (.convert Point.source) w).2.1 with
          phase := .working ⟨config, s.client⟩ (.convert Point.source)
            (r.beginTask ⟨config, s.client⟩ (.convert Point.source) w).1 },
        (r.beginTask ⟨config, s.client⟩ (.convert Point.source) w).2.2) := by
  have hfooting := hfollows.footing
  have hregistry : r.registry = (Holding.device graph ids).registry native := hfooting.registry
  unfold Run.beginTask
  rw [hregistry]
  exact ⟨native, ⟨rfl, ⟨rfl, hfooting.workspace, hfooting.holds, hfooting.lodged,
    hfooting.target⟩, nofun⟩, .refl ..⟩

/-- Where a run goes from its conversion. -/
theorem reaches_endConvert (h : s.Sound) (config : BuildConfig) (space : Workspace)
    (graph : FlatGraph) (ids : List Int64) (hreach : w.memory.Reachable)
    (hfollows : s.Follows c (.converting config space graph ids true) native r w) :
    s.Reaches c native.raws w
      (.converted config space (Arena.hostGraph graph config.cpu) ids)
      ({ (r.endConvert s.builder ⟨config, s.client⟩ Point.source native w).2.1 with
          phase := .working ⟨config, s.client⟩ (.convert Point.source)
            (.returned (r.endConvert s.builder ⟨config, s.client⟩ Point.source native w).1) },
        (r.endConvert s.builder ⟨config, s.client⟩ Point.source native w).2.2) := by
  have hfooting := hfollows.footing
  have hcall : s.builder.engine.convert native config.cpu w.memory =
      w.memory.convert native config.cpu := by
    rw [h.engine]
    rfl
  unfold Run.endConvert Run.withCustodian
  simp only [hcall]
  cases hconvert : w.memory.convert native config.cpu with
  | mk reply memory =>
  obtain ⟨copy, -, hmoved, hregistry, hholds, hconfined⟩ := Holding.finishTransfer_spec
    (c := r.custodian (World.record { w with memory } (.callEnded (.convert native)))) hreach
    hfooting.registry hfooting.holds hconvert rfl
  have hmedium := Custodian.toMedium_finishTransfer Arena.engine ⟨0⟩ native reply
    (r.custodian (World.record { w with memory } (.callEnded (.convert native))))
  rw [h.engine]
  dsimp only
  change s.Reaches c native.raws w _ (Run.mk
    ((r.custodian (World.record { w with memory } (.callEnded (.convert native)))).finishTransfer
      Arena.engine ⟨0⟩ native reply).2.registry r.workspace _,
    ((r.custodian (World.record { w with memory } (.callEnded (.convert native)))).finishTransfer
      Arena.engine ⟨0⟩ native reply).2.world)
  refine ⟨.cpu copy native.idMap, ⟨?_, ⟨hregistry, hfooting.workspace, hholds, ?_, ?_⟩, nofun⟩,
    ⟨hconfined, ?_, ?_⟩⟩
  · refine congrArg (fun result => Phase.working _ _ (.returned result)) ?_
    have hreturned : (Custodian.finishTransfer Arena.engine Point.source.id native reply
        { registry := r.registry
          world := World.record { w with memory } (.callEnded (.convert native)) }).1 =
        .moved _ := hmoved
    rw [hreturned]
    rfl
  · exact hmedium ▸ hfooting.lodged
  · exact hmedium ▸ hfooting.target
  · exact hmedium ▸ Disk.Spares.refl ..
  · exact fun q _ => hmedium ▸ rfl

/-! ## Persisting -/

/-- Whether an index can be staged, and in which workspace it is then, can be told at the start. -/
theorem exists_write (h : s.Sound) (hc : s.Admits c) {space : Workspace}
    (hforeseen : s.foreseen c = .ok space) (bytes : Bytes) :
    (∃ e, ∀ d, s.Lodged c d (.empty space) → space.write d bytes = .error e) ∨
    ∃ space', ∀ d, s.Lodged c d (.empty space) → ∃ d', space.write d bytes = .ok (space', d') ∧
      s.Lodged c d' (.staged space' bytes) ∧ Workspace.Change s.root d d' ∧
      d.Spares s.root (s.room c <+: ·) d' := by
  have hcontent : space.content = .inMode c.plan.stagingMode (s.file c) :=
    Workspace.content_of_foreseen hforeseen
  obtain ⟨directory, content⟩ := space
  obtain rfl : content = .inMode c.plan.stagingMode (s.file c) := hcontent
  cases c.plan.stagingMode with
  | memory =>
    refine .inr ⟨{ directory, content := .buffer bytes }, fun d hlodged => ?_⟩
    obtain ⟨hhoused, -, -⟩ := hlodged
    have hwrite : Workspace.write { directory, content := .inMode .memory (s.file c) } d bytes =
        .ok ({ directory, content := .buffer bytes }, d) := rfl
    obtain ⟨d₁, d₂, mode, artifactPath, suffix, made, hcreate, hdirectory, -⟩ := hhoused.made
    refine ⟨d, hwrite, ⟨⟨hhoused.directory, ?_, hhoused.lodges⟩, rfl⟩,
      .stage hhoused.made hwrite, .refl ..⟩
    exact ⟨d₁, d₂, mode, artifactPath, suffix, made, hcreate, hdirectory, nofun⟩
  | disk =>
    have hwrite : ∀ d, s.Lodged c d (.empty ⟨directory, .inMode .disk (s.file c)⟩) →
        d.writeFile (s.file c) bytes =
          (Disk.entry (s.file c) c.plan.artifactName (s.room c)).map fun there =>
            d.setNode there (.file bytes) := by
      rintro d ⟨hhoused, -, hfree⟩
      exact hhoused.lodges.writeFile h.rooted hc.slash hfree hc.named bytes
    cases hentry : Disk.entry (s.file c) c.plan.artifactName (s.room c) with
    | error e =>
      refine .inl ⟨e, fun d hlodged => ?_⟩
      have hfile := hwrite d hlodged
      rw [hentry] at hfile
      simp only [Workspace.write, StagedContent.inMode, hfile]
      rfl
    | ok there =>
      obtain ⟨rfl, -⟩ := Disk.entry_eq_ok hentry
      refine .inr ⟨{ directory, content := .file (s.file c) }, fun d hlodged => ?_⟩
      have hfile := hwrite d hlodged
      rw [hentry] at hfile
      obtain ⟨hhoused, -, -⟩ := hlodged
      have hstaged : Workspace.write { directory, content := .file (s.file c) } d bytes =
          .ok ({ directory, content := .file (s.file c) },
            d.setNode (s.room c ++ [c.plan.artifactName]) (.file bytes)) := by
        simp only [Workspace.write, hfile]
        rfl
      obtain ⟨hlodges, hspares⟩ := hhoused.lodges.setNode hc.vacant c.plan.artifactName bytes
      refine ⟨_, hstaged, ⟨⟨hhoused.directory, hhoused.made, hlodges⟩, rfl, hentry, ?_⟩,
        .stage hhoused.made hstaged, hspares⟩
      exact Disk.node?_setNode_self d (by simp) _

/-- Where a run goes when the engine has serialized its index. -/
theorem exists_endPersist (h : s.Sound) (hc : s.Admits c) (config : BuildConfig)
    (space : Workspace) (graph : FlatGraph) (ids : List Int64) :
    ∃ p', ∀ {native : NativeIndex} {r : Run σ} {w : World Arena σ},
      s.Follows c (.persisting config space graph ids true) native r w →
      s.Reaches c native.raws w p'
        ({ (r.endPersist s.builder Point.derived native w).2.1 with
            phase := .working ⟨config, s.client⟩ (.persist Point.derived)
              (.returned (r.endPersist s.builder Point.derived native w).1) },
          (r.endPersist s.builder Point.derived native w).2.2) := by
  by_cases hforeseen : s.foreseen c = .ok space
  swap
  · exact ⟨.waiting, fun hfollows => absurd hfollows.footing.lodged.2.1 hforeseen⟩
  let bytes := (Arena.artifactWith graph ids).encode
  have hcall : ∀ {native : NativeIndex} {memory : Arena},
      (Holding.host graph ids).Kept native memory →
      s.builder.engine.persist native memory = (.ok bytes, memory) := by
    intro native memory hkept
    rw [h.engine]
    exact Arena.persist_spec hkept.1 hkept.2
  obtain ⟨e, hwrite⟩ | ⟨space', hwrite⟩ := exists_write h hc hforeseen bytes
  · refine ⟨.unstaged config space (.persist (space.writeFailure e)) graph ids,
      fun {native r w} hfollows => ?_⟩
    have hfooting := hfollows.footing
    have hworkspace : r.workspace = some space := hfooting.workspace
    have hrefused := hwrite w.disk hfooting.lodged
    unfold Run.endPersist
    simp only [hcall hfooting.holds, hworkspace]
    unfold World.record
    simp only [hrefused]
    exact ⟨native, ⟨rfl, ⟨hfooting.registry, hworkspace, hfooting.holds, hfooting.lodged.1,
      hfooting.target⟩, nofun⟩, .refl ..⟩
  · refine ⟨.persisted config space' bytes graph ids, fun {native r w} hfollows => ?_⟩
    have hfooting := hfollows.footing
    have hworkspace : r.workspace = some space := hfooting.workspace
    obtain ⟨d', hstaged, hlodged, hchange, hspares⟩ := hwrite w.disk hfooting.lodged
    have hlook := h.keyed.apart hchange
    unfold Run.endPersist
    simp only [hcall hfooting.holds, hworkspace]
    unfold World.record
    simp only [hstaged]
    exact ⟨native, ⟨rfl, ⟨hfooting.registry, rfl, hfooting.holds, hlodged,
      (peek_of_look hlook _).trans hfooting.target⟩, nofun⟩, .of_change h _ _ hchange hspares⟩

/-- A persisted index is not held any more when the run takes notice. -/
theorem release_footing (h : s.Sound) {graph : FlatGraph} {ids : List Int64}
    {registry : Registry} {workspace : Option Workspace}
    (hfooting : s.Footing c (.host graph ids) lodging left native registry workspace w.toMedium
      w.memory) :
    s.Footing c (.nothing Point.spent) lodging left native
        (Custodian.release s.builder.engine ⟨1⟩ ⟨registry, w⟩).registry workspace
        (Custodian.release s.builder.engine ⟨1⟩ ⟨registry, w⟩).world.toMedium
        (Custodian.release s.builder.engine ⟨1⟩ ⟨registry, w⟩).world.memory ∧
      s.Effect c native.raws [] w.toMedium
        (Custodian.release s.builder.engine ⟨1⟩ ⟨registry, w⟩).world.toMedium w.memory
        (Custodian.release s.builder.engine ⟨1⟩ ⟨registry, w⟩).world.memory := by
  rw [h.engine]
  obtain ⟨hregistry, hconfined⟩ := Holding.release_spec
    (c := (⟨registry, w⟩ : Custodian Arena σ)) hfooting.registry hfooting.holds
  have hmedium := Custodian.toMedium_release Arena.engine ⟨1⟩ (⟨registry, w⟩ : Custodian Arena σ)
  rw [hmedium]
  exact ⟨⟨hregistry, hfooting.workspace, ⟨rfl, rfl⟩, hfooting.lodged, hfooting.target⟩,
    .of_memory c _ hconfined⟩

/-! ## Uploading -/

/-- A workspace does not notice an upload. -/
theorem Lodged.of_spared (h : s.Lodged c m.disk lodging) {d : Disk}
    (hspared : m.disk.Spares s.root (fun _ => False) d) : s.Lodged c d lodging :=
  h.of_spares hspared (fun _ _ => not_false) fun _ _ _ => False.elim

/-- A workspace that has handed over its source stays where it is. -/
theorem Housed.takeSource {d : Disk} {space : Workspace} (h : s.Housed c space d) :
    s.Housed c space.takeSource.2 d := by
  obtain ⟨hdirectory, hmade, hlodges⟩ := h
  have htaken : space.takeSource.2.directory = space.directory := by
    obtain ⟨directory, staged⟩ := space
    cases staged <;> rfl
  exact ⟨htaken.trans hdirectory, hmade.takeSource, hlodges⟩

/-- An upload comes to what it would have come to at the start, and leaves the run a workspace that
can go. -/
theorem upload_spec (h : s.Sound) (hc : s.Admits c) {config : BuildConfig} {space : Workspace}
    {content : Bytes} (hfollows : s.Follows c (.uploading config space content) native r w) :
    let alone := s.client.upload (.buffer content) c.plan.artifactPath s.start
    let sent := s.client.upload space.takeSource.1 c.plan.artifactPath w.toMedium
    sent.1 = alone.1 ∧
      s.Footing c (.nothing Point.spent) (.spoiled space.takeSource.2)
        (peek s.look alone.2 c.plan.artifactPath) native r.registry (some space.takeSource.2)
        sent.2 w.memory ∧
      s.Effect c [] [] w.toMedium sent.2 w.memory w.memory := by
  intro alone sent
  have hfooting := hfollows.footing
  have hdelivers := hfooting.lodged.delivers h hc
  have hpeek : peek s.look w.toMedium c.plan.artifactPath =
      peek s.look s.start c.plan.artifactPath := hfooting.target
  have hbuffer : (ArtifactSource.buffer content).Delivers s.root s.start.disk content := rfl
  obtain ⟨hanswer, hafter⟩ := h.keyed.uploads c.plan.artifactPath hdelivers hbuffer hpeek
  have hspared := h.keyed.spared c.plan.artifactPath hdelivers
  have hspoiled : s.Lodged c w.disk (.spoiled space.takeSource.2) :=
    Housed.takeSource hfooting.lodged.1
  exact ⟨hanswer, ⟨hfooting.registry, rfl, hfooting.holds, hspoiled.of_spared hspared, hafter⟩,
    ⟨.refl .., hspared.mono fun _ => False.elim,
      fun q hq => h.keyed.beside c.plan.artifactPath hdelivers q hq⟩⟩

/-- Where a run goes from its upload. -/
theorem exists_upload (h : s.Sound) (hc : s.Admits c) (config : BuildConfig) (space : Workspace)
    (content : Bytes) :
    ∃ p', ∀ {native : NativeIndex} {r : Run σ} {w : World Arena σ},
      s.Follows c (.uploading config space content) native r w →
      s.Reaches c [] w p' (r.upload s.builder c ⟨config, s.client⟩ w) := by
  -- what comes of it is what would have come of it at the start
  let alone := s.client.upload (.buffer content) c.plan.artifactPath s.start
  let after := peek s.look alone.2 c.plan.artifactPath
  have hrun : ∀ {native : NativeIndex} {r : Run σ} {w : World Arena σ},
      s.Follows c (.uploading config space content) native r w →
      r.workspace = some space := fun hfollows => hfollows.footing.workspace
  cases halone : alone.1 with
  | error e =>
    refine ⟨failPoint (.nothing Point.spent) after .uploading e, fun {native r w} hfollows => ?_⟩
    obtain ⟨hanswer, hfooting, heffect⟩ := upload_spec h hc hfollows
    unfold Run.upload BlobClient.write
    simp only [hrun hfollows]
    generalize s.client.upload space.takeSource.1 c.plan.artifactPath w.toMedium = uploaded
      at hanswer hfooting heffect
    obtain ⟨answer, m'⟩ := uploaded
    obtain rfl : answer = .error e := hanswer.trans halone
    have hreach := reaches_fail (r := { r with workspace := some space.takeSource.2 })
      (w := { w with toMedium := m' }) h hc hfooting .uploading e
    exact hreach.after heffect
  | ok size =>
    refine ⟨endPoint (.nothing Point.spent) after (.success c.plan.artifactName) none,
      fun {native r w} hfollows => ?_⟩
    obtain ⟨hanswer, hfooting, heffect⟩ := upload_spec h hc hfollows
    unfold Run.upload BlobClient.write
    simp only [hrun hfollows]
    generalize s.client.upload space.takeSource.1 c.plan.artifactPath w.toMedium = uploaded
      at hanswer hfooting heffect
    obtain ⟨answer, m'⟩ := uploaded
    obtain rfl : answer = .ok size := hanswer.trans halone
    obtain ⟨hdropped, heffect'⟩ := dropWorkspace_spec (r := { r with
      workspace := some space.takeSource.2 }) (w := { w with
        toSite := Site.record { w.toSite with toMedium := m' } (.blobWritten size) })
      h hc hfooting
    dsimp only
    generalize Run.dropWorkspace _ _ = dropped at hdropped heffect'
    obtain ⟨r', w'⟩ := dropped
    have hreach := reaches_finish (r := r') (w := w'.record (.stageObserved .uploading)) h hc
      hdropped (.success c.plan.artifactName) none
    exact (hreach.after heffect').after heffect

/-! ## All steps -/

/-- From a point a run gets to this point, whatever others have done. -/
def Leads (s : Scene σ κ) (c : Commission) (idsFirst : Bool) (p p' : Point κ) : Prop :=
  ∀ ⦃native : NativeIndex⦄ ⦃r : Run σ⦄ ⦃w : World Arena σ⦄, w.memory.Reachable →
    s.Follows c p native r w →
    s.Reaches c (p.holding.raws native) w p' (r.proceed s.builder c idsFirst w)

/-- From its start a run goes where configuring takes it. -/
theorem exists_leads_waiting (h : s.Sound) (hc : s.Admits c) (idsFirst : Bool) :
    ∃ p', s.Leads c idsFirst .waiting p' := by
  obtain ⟨p', hp'⟩ := exists_configure h hc
  refine ⟨p', fun native r w _ hfollows => ?_⟩
  unfold Run.proceed
  rw [hfollows.phase]
  exact hp' hfollows

/-- A run that is over stays where it is. -/
theorem leads_over (idsFirst : Bool)
    (hover : ∀ (native : NativeIndex) (r : Run σ), r.phase = p.phase s.client native →
      r.isOver = true) : s.Leads c idsFirst p p := by
  intro native r w _ hfollows
  rw [Run.proceed_of_isOver s.builder c idsFirst w (hover native r hfollows.phase)]
  exact ⟨native, hfollows, .refl ..⟩

/-- While its blobs are read a run goes where the next move of a read takes it. -/
theorem exists_leads_fetching (h : s.Sound) (hc : s.Admits c) (idsFirst : Bool)
    (config : BuildConfig) (space : Workspace) (vectors : Download VectorSink)
    (ids : Download StagingBuffer) :
    ∃ p', s.Leads c idsFirst (.fetching config space vectors ids) p' := by
  obtain ⟨p', hp'⟩ := exists_fetch h hc idsFirst config space vectors ids
  refine ⟨p', fun native r w _ hfollows => ?_⟩
  unfold Run.proceed
  rw [hfollows.phase]
  exact hp' hfollows

/-- From a task that has not returned a run goes where the pool takes the task. -/
theorem leads_of_advance {config : BuildConfig} {task : Task} {inside : Bool}
    {subject : NativeIndex → Option NativeIndex} (idsFirst : Bool)
    (hphase : ∀ native, p.phase s.client native =
      .working ⟨config, s.client⟩ task (Point.progress inside (subject native)))
    (hreaches : ∀ ⦃native : NativeIndex⦄ ⦃r : Run σ⦄ ⦃w : World Arena σ⦄, w.memory.Reachable →
      s.Follows c p native r w →
      let progress := Point.progress inside (subject native)
      let advanced := r.advanceTask s.builder ⟨config, s.client⟩ task progress w
      s.Reaches c (p.holding.raws native) w p'
        ({ advanced.2.1 with phase := .working ⟨config, s.client⟩ task advanced.1 },
          advanced.2.2)) : s.Leads c idsFirst p p' := by
  intro native r w hreach hfollows
  have hadvanced := hreaches hreach hfollows
  unfold Run.proceed
  rw [hfollows.phase, hphase native]
  cases inside with
  | false => exact hadvanced
  | true => exact hadvanced

/-- From a task that has returned a run goes where it gets when it takes notice of that. -/
theorem leads_of_notice {config : BuildConfig} {task : Task}
    {result : Except BuildError TrackedIndex} (idsFirst : Bool)
    (hphase : ∀ native, p.phase s.client native =
      .working ⟨config, s.client⟩ task (.returned result))
    (hreaches : ∀ ⦃native : NativeIndex⦄ ⦃r : Run σ⦄ ⦃w : World Arena σ⦄,
      s.Follows c p native r w →
      s.Reaches c (p.holding.raws native) w p'
        (r.notice s.builder c ⟨config, s.client⟩ task result w)) : s.Leads c idsFirst p p' := by
  intro native r w _ hfollows
  unfold Run.proceed
  rw [hfollows.phase, hphase native]
  exact hreaches hfollows

/-- A run that builds enters the call, or goes where the build takes it. -/
theorem exists_leads_building (h : s.Sound) (idsFirst : Bool) (config : BuildConfig)
    (space : Workspace) (dataset : Dataset) (inside : Bool) :
    ∃ p', s.Leads c idsFirst (.building config space dataset inside) p' := by
  cases inside with
  | false =>
    refine ⟨.building config space dataset true,
      leads_of_advance idsFirst (fun _ => rfl) fun native _ _ _ hfollows => ?_⟩
    exact reaches_quietly native rfl hfollows.footing nofun rfl rfl
  | true =>
    obtain ⟨p', hp'⟩ := exists_endBuild h config space dataset
    exact ⟨p', leads_of_advance idsFirst (fun _ => rfl) fun _ _ _ hreach hfollows =>
      hp' hreach hfollows⟩

/-- A run that converts enters the call, or goes where the conversion takes it. -/
theorem exists_leads_converting (h : s.Sound) (idsFirst : Bool) (config : BuildConfig)
    (space : Workspace) (graph : FlatGraph) (ids : List Int64) (inside : Bool) :
    ∃ p', s.Leads c idsFirst (.converting config space graph ids inside) p' := by
  cases inside with
  | false =>
    exact ⟨.converting config space graph ids true,
      leads_of_advance idsFirst (fun _ => rfl) fun _ _ _ _ hfollows =>
        reaches_beginConvert config space graph ids hfollows⟩
  | true =>
    exact ⟨.converted config space (Arena.hostGraph graph config.cpu) ids,
      leads_of_advance idsFirst (fun _ => rfl) fun _ _ _ hreach hfollows =>
        reaches_endConvert h config space graph ids hreach hfollows⟩

/-- A run that persists enters the call, or goes where the serialized index takes it. -/
theorem exists_leads_persisting (h : s.Sound) (hc : s.Admits c) (idsFirst : Bool)
    (config : BuildConfig) (space : Workspace) (graph : FlatGraph) (ids : List Int64)
    (inside : Bool) : ∃ p', s.Leads c idsFirst (.persisting config space graph ids inside) p' := by
  cases inside with
  | false =>
    refine ⟨.persisting config space graph ids true,
      leads_of_advance idsFirst (fun _ => rfl) fun native r w _ hfollows => ?_⟩
    have hfooting := hfollows.footing
    have hregistry : r.registry = (Holding.host graph ids).registry native := hfooting.registry
    simp only [Point.progress, Bool.false_eq_true, if_false]
    unfold Run.advanceTask Run.beginTask
    rw [hregistry]
    exact reaches_quietly native rfl
      ⟨hregistry, hfooting.workspace, hfooting.holds, hfooting.lodged, hfooting.target⟩
      nofun rfl rfl
  | true =>
    obtain ⟨p', hp'⟩ := exists_endPersist h hc config space graph ids
    exact ⟨p', leads_of_advance idsFirst (fun _ => rfl) fun _ _ _ _ hfollows => hp' hfollows⟩

/-- A run whose index is built goes on to convert it, or is late. -/
theorem exists_leads_built (h : s.Sound) (hc : s.Admits c) (idsFirst : Bool)
    (config : BuildConfig) (space : Workspace) (dataset : Dataset) (graph : FlatGraph)
    (ids : List Int64) : ∃ p', s.Leads c idsFirst (.built config space dataset graph ids) p' := by
  obtain ⟨p', hp'⟩ := exists_enter h hc (.converting config space graph ids false) .converting
  exact ⟨p', leads_of_notice idsFirst (fun _ => rfl) fun native r w hfollows =>
    @hp' native r (w.record (.stageObserved .building)) hfollows.footing nofun⟩

/-- A run whose index is on the host goes on to persist it, or is late. -/
theorem exists_leads_converted (h : s.Sound) (hc : s.Admits c) (idsFirst : Bool)
    (config : BuildConfig) (space : Workspace) (graph : FlatGraph) (ids : List Int64) :
    ∃ p', s.Leads c idsFirst (.converted config space graph ids) p' := by
  obtain ⟨p', hp'⟩ := exists_enter h hc (.persisting config space graph ids false) .persisting
  exact ⟨p', leads_of_notice idsFirst (fun _ => rfl) fun native r w hfollows =>
    @hp' native r (w.record (.stageObserved .converting)) hfollows.footing nofun⟩

/-- A run whose build has failed fails. -/
theorem leads_unbuilt (h : s.Sound) (hc : s.Admits c) (idsFirst : Bool) (config : BuildConfig)
    (space : Workspace) (dataset : Dataset) (e : BuildError) :
    s.Leads c idsFirst (.unbuilt config space dataset e)
      (failPoint (.nothing {}) (s.before c) .building e) :=
  leads_of_notice idsFirst (fun _ => rfl) fun _ _ _ hfollows =>
    reaches_fail h hc hfollows.footing .building e

/-- A run whose index is staged gives the index back and goes on to upload, or is late. -/
theorem exists_leads_persisted (h : s.Sound) (hc : s.Admits c) (idsFirst : Bool)
    (config : BuildConfig) (space : Workspace) (content : Bytes) (graph : FlatGraph)
    (ids : List Int64) :
    ∃ p', s.Leads c idsFirst (.persisted config space content graph ids) p' := by
  obtain ⟨p', hp'⟩ := exists_enter h hc (.uploading config space content) .uploading
  refine ⟨p', leads_of_notice idsFirst (fun _ => rfl) fun native r w hfollows => ?_⟩
  obtain ⟨hfooting, heffect⟩ := release_footing h hfollows.footing
  let freed := Custodian.release s.builder.engine ⟨1⟩ ⟨r.registry, w⟩
  have hreach := @hp' native { r with registry := freed.registry }
    (freed.world.record (.stageObserved .persisting)) hfooting nofun
  exact hreach.after heffect

/-- A run whose index could not be staged gives the index back and fails. -/
theorem leads_unstaged (h : s.Sound) (hc : s.Admits c) (idsFirst : Bool) (config : BuildConfig)
    (space : Workspace) (e : BuildError) (graph : FlatGraph) (ids : List Int64) :
    s.Leads c idsFirst (.unstaged config space e graph ids)
      (failPoint (.nothing Point.spent) (s.before c) .persisting e) := by
  refine leads_of_notice idsFirst (fun _ => rfl) fun native r w hfollows => ?_
  obtain ⟨hfooting, heffect⟩ := release_footing h hfollows.footing
  let freed := Custodian.release s.builder.engine ⟨1⟩ ⟨r.registry, w⟩
  have hreach := reaches_fail (r := { r with registry := freed.registry }) (w := freed.world)
    h hc hfooting .persisting e
  exact hreach.after heffect

/-- From its upload a run goes where the store takes it. -/
theorem exists_leads_uploading (h : s.Sound) (hc : s.Admits c) (idsFirst : Bool)
    (config : BuildConfig) (space : Workspace) (content : Bytes) :
    ∃ p', s.Leads c idsFirst (.uploading config space content) p' := by
  obtain ⟨p', hp'⟩ := exists_upload h hc config space content
  refine ⟨p', fun native r w _ hfollows => ?_⟩
  unfold Run.proceed
  rw [hfollows.phase]
  exact hp' hfollows

/-- Where a run goes from a point does not depend on what others have done. -/
theorem exists_leads (h : s.Sound) (hc : s.Admits c) (p : Point κ) (idsFirst : Bool) :
    ∃ p', s.Leads c idsFirst p p' := by
  cases p with
  | waiting => exact exists_leads_waiting h hc idsFirst
  | aborted reason =>
    exact ⟨_, leads_over idsFirst fun _ r hphase => by unfold Run.isOver; rw [hphase]; rfl⟩
  | fetching config space vectors ids =>
    exact exists_leads_fetching h hc idsFirst config space vectors ids
  | building config space dataset inside =>
    exact exists_leads_building h idsFirst config space dataset inside
  | unbuilt config space dataset e => exact ⟨_, leads_unbuilt h hc idsFirst config space dataset e⟩
  | built config space dataset graph ids =>
    exact exists_leads_built h hc idsFirst config space dataset graph ids
  | converting config space graph ids inside =>
    exact exists_leads_converting h idsFirst config space graph ids inside
  | converted config space graph ids =>
    exact exists_leads_converted h hc idsFirst config space graph ids
  | persisting config space graph ids inside =>
    exact exists_leads_persisting h hc idsFirst config space graph ids inside
  | persisted config space content graph ids =>
    exact exists_leads_persisted h hc idsFirst config space content graph ids
  | unstaged config space e graph ids =>
    exact ⟨_, leads_unstaged h hc idsFirst config space e graph ids⟩
  | uploading config space content =>
    exact exists_leads_uploading h hc idsFirst config space content
  | ended report registry left =>
    exact ⟨_, leads_over idsFirst fun _ r hphase => by unfold Run.isOver; rw [hphase]; rfl⟩

end Scene

end VectorIndex
