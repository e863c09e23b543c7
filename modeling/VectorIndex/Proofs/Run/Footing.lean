import VectorIndex.Proofs.Blob.Keyed
import VectorIndex.Proofs.Request.Acceptance
import VectorIndex.Proofs.Run.Holdings

/-!
# A run among others

Runs that share an engine, a store and a staging root form a `Scene`.  `Scene.Footing` says what one
of them relies on: the index that it holds in the arena, its workspace, and what is to be seen at
its target.  `Scene.Effect` says what others notice of it.  A run keeps its footing while others act
(`Scene.Footing.of_effect`), and how it ends depends on its footing only (`Scene.finish_spec`).
-/

set_option autoImplicit false

namespace VectorIndex

variable {σ κ : Type}

/-- The name of an artifact can be given to a file. -/
theorem BuildRequest.Accepted.isName_artifactName {r : BuildRequest} {p : Plan}
    (h : r.Accepted p) : Disk.IsName p.artifactName := by
  obtain ⟨stem, -, -, -, hartifact⟩ := h.exists_stem
  obtain ⟨hslash, rest, hlast⟩ := Text.exists_lastSegment hartifact p.engine.no_slash
  have hlong : 2 < p.artifactName.toList.length := by
    have hextension : 2 < ("." ++ p.engine.name).toList.length := by
      cases p.engine <;> decide
    unfold Plan.artifactName
    rw [hlast, List.length_append]
    omega
  refine ⟨h.artifactName_ne_empty, hslash, fun heq => ?_, fun heq => ?_⟩
  · rw [heq] at hlong
    exact absurd hlong (by decide)
  · rw [heq] at hlong
    exact absurd hlong (by decide)

/-- What runs share, and what there was when the first of them started. -/
structure Scene (σ κ : Type) where
  builder : Builder Arena σ
  client : BlobClient σ
  start : Medium σ
  /-- What is to be seen at a location of the store. -/
  look : Medium σ → ObjectPath → κ
  /-- Whether an upload to the first location may be noticed at the second one. -/
  touches : ObjectPath → ObjectPath → Prop

/-- How the workspace of a run is. -/
inductive Lodging where
  /-- It still has to be made. -/
  | awaited
  | empty (space : Workspace)
  | staged (space : Workspace) (content : Bytes)
  /-- It has no use any more but to be removed. -/
  | spoiled (space : Workspace)
  | gone

/-- The workspace that a run has there. -/
def Lodging.workspace : Lodging → Option Workspace
  | .awaited => none
  | .empty space => some space
  | .staged space _ => some space
  | .spoiled space => some space
  | .gone => none

namespace Scene

variable {s : Scene σ κ} {c : Commission} {native : NativeIndex} {holding : Holding}
  {lodging : Lodging} {left : Option κ} {m m' : Medium σ} {d d' : Disk}
  {own own' own'' : List RawHandle} {space : Workspace}

/-! ## Workspaces -/

/-- The staging root of all runs. -/
def root (s : Scene σ κ) : String :=
  s.builder.stagingRoot

/-- Where the directory of a run is. -/
def room (s : Scene σ κ) (c : Commission) : List String :=
  s.start.disk.room s.root c.suffix

/-- What a run gets as its workspace. -/
def foreseen (s : Scene σ κ) (c : Commission) : Except BuildError Workspace :=
  Workspace.foreseen s.start.disk s.root c.plan.stagingMode c.plan.artifactPath c.suffix

/-- The engine and the store that runs share. -/
structure Sound (s : Scene σ κ) : Prop where
  engine : s.builder.engine = Arena.engine
  stores : s.builder.stores = Provider.always s.client
  keyed : s.client.Keyed s.root s.look s.touches
  rooted : s.start.disk.Rooted

/-- A run whose workspace can be told from others. -/
structure Admits (s : Scene σ κ) (c : Commission) : Prop where
  slash : '/' ∉ c.suffix.toList
  vacant : s.start.disk.Awaits s.root c.suffix s.start.disk
  named : Disk.IsName c.plan.artifactName

/-- The directory of a run is there. -/
structure Housed (s : Scene σ κ) (c : Commission) (space : Workspace) (d : Disk) : Prop where
  directory : space.directory = s.start.disk.roomPath s.root c.suffix
  made : space.MadeIn s.root
  lodges : s.start.disk.Lodges s.root c.suffix d

/-- The file of the artifact. -/
def file (s : Scene σ κ) (c : Commission) : String :=
  s.start.disk.fileIn s.root c.suffix c.plan.artifactName

/-- These octets are staged. -/
def Stages (s : Scene σ κ) (c : Commission) (content : Bytes) (d : Disk) : StagedContent → Prop
  | .buffer octets => octets = content
  | .file path =>
    path = s.file c ∧
      Disk.entry (s.file c) c.plan.artifactName (s.room c) =
        .ok (s.room c ++ [c.plan.artifactName]) ∧
      d.node? (s.room c ++ [c.plan.artifactName]) = some (.file content)

/-- The workspace is how it should be. -/
def Lodged (s : Scene σ κ) (c : Commission) (d : Disk) : Lodging → Prop
  | .awaited => s.start.disk.Awaits s.root c.suffix d
  | .empty space =>
    s.Housed c space d ∧ s.foreseen c = .ok space ∧ s.start.disk.Vacant s.root c.suffix d
  | .staged space content => s.Housed c space d ∧ s.Stages c content d space.content
  | .spoiled space => s.Housed c space d
  | .gone => True

/-- A workspace is not noticed from outside its directory. -/
theorem Lodged.of_spares {mine : List String → Prop} (h : s.Lodged c d lodging)
    (hspares : d.Spares s.root mine d') (hroom : ∀ names, s.room c <+: names → ¬ mine names)
    (hvacant : ∀ d₁ here, s.start.disk.makeDirectories s.root = .ok d₁ → mine here →
      d₁.node? here = none) : s.Lodged c d' lodging := by
  have hhoused : ∀ {space}, s.Housed c space d → s.Housed c space d' ∧
      ∀ names, s.room c <+: names → d'.node? names = d.node? names := by
    intro space hspace
    obtain ⟨hlodges, hkept⟩ := hspace.lodges.of_spares hspares hroom hvacant
    exact ⟨⟨hspace.directory, hspace.made, hlodges⟩, hkept⟩
  cases lodging with
  | awaited => exact Disk.Awaits.of_spares h hspares hroom hvacant
  | empty space =>
    obtain ⟨hspace, hforeseen, hfree⟩ := h
    obtain ⟨hspace', hkept⟩ := hhoused hspace
    exact ⟨hspace', hforeseen, fun names hnames hne => (hkept names hnames).trans
      (hfree names hnames hne)⟩
  | staged space content =>
    obtain ⟨hspace, hstages⟩ := h
    obtain ⟨hspace', hkept⟩ := hhoused hspace
    refine ⟨hspace', ?_⟩
    generalize space.content = staged at hstages ⊢
    cases staged with
    | buffer octets => exact hstages
    | file path =>
      obtain ⟨hpath, hentry, hnode⟩ := hstages
      exact ⟨hpath, hentry, (hkept _ (List.prefix_append ..)).trans hnode⟩
  | spoiled space => exact (hhoused h).1
  | gone => trivial

/-- What is staged is what would be uploaded. -/
theorem Lodged.delivers (h : s.Sound) (hc : s.Admits c) {content : Bytes}
    (hlodged : s.Lodged c d (.staged space content)) :
    space.takeSource.1.Delivers s.root d content := by
  obtain ⟨⟨-, hmade, hlodges⟩, hstages⟩ := hlodged
  obtain ⟨directory, staged⟩ := space
  cases staged with
  | buffer octets => exact hstages
  | file path =>
    obtain ⟨hpath, hentry, hnode⟩ := hstages
    have hread : d.readFile (s.file c) = .ok content :=
      hlodges.readFile h.rooted hc.slash hc.named hentry hnode
    exact ⟨hpath ▸ hread, _, hmade, rfl⟩

/-! ## What others notice -/

/-- What a run does with the surroundings. -/
structure Effect (s : Scene σ κ) (c : Commission) (own own' : List RawHandle) (m m' : Medium σ)
    (memory memory' : Arena) : Prop where
  memory : memory.Confined own own' memory'
  disk : m.disk.Spares s.root (s.room c <+: ·) m'.disk
  look : ∀ q, (∀ target, ObjectPath.parse c.plan.artifactPath = .ok target → ¬ s.touches target q) →
    s.look m' q = s.look m q

variable {memory memory' memory'' : Arena} {m'' : Medium σ}

/-- A change of the memory that is confined has no other effect. -/
theorem Effect.of_memory (c : Commission) (m : Medium σ) (h : memory.Confined own own' memory') :
    s.Effect c own own' m m memory memory' :=
  ⟨h, .refl .., fun _ _ => rfl⟩

/-- To do nothing has no effect. -/
theorem Effect.refl (s : Scene σ κ) (c : Commission) (own : List RawHandle) (m : Medium σ)
    (memory : Arena) : s.Effect c own own m m memory memory :=
  .of_memory c m (.refl own memory)

/-- Work on the workspace is not noticed in the arena or in the store. -/
theorem Effect.of_change (h : s.Sound) (own : List RawHandle) (memory : Arena) {disk : Disk}
    (hchange : Workspace.Change s.root m.disk disk)
    (hspares : m.disk.Spares s.root (s.room c <+: ·) disk) :
    s.Effect c own own m { m with disk } memory memory :=
  ⟨.refl own memory, hspares, fun q _ => congrFun (h.keyed.apart hchange) q⟩

/-- What a run does is not noticed more after several steps, as long as it keeps all structures that
it takes on in between. -/
theorem Effect.trans (h : s.Effect c own own' m m' memory memory')
    (h' : s.Effect c own' own'' m' m'' memory' memory'')
    (hsub : ∀ raw ∈ own', raw ∈ own ∨ raw ∈ own'') :
    s.Effect c own own'' m m'' memory memory'' where
  memory := by
    have hgone : ∀ raw, raw ∉ own → raw ∉ own'' → raw ∉ own' := fun raw hraw hraw'' hmem =>
      (hsub raw hmem).elim hraw hraw''
    refine ⟨fun hreach => h'.memory.reachable (h.memory.reachable hreach),
      Nat.le_trans h.memory.next h'.memory.next, fun raw hraw hraw'' => ?_,
      fun raw hraw hraw'' => ?_, fun raw hraw'' hraw => ?_⟩
    · have hraw' := hgone raw hraw hraw''
      exact (h'.memory.kept raw hraw' hraw'').trans (h.memory.kept raw hraw hraw')
    · by_cases hraw' : raw ∈ own'
      · exact h'.memory.freed raw hraw' hraw''
      · exact (h'.memory.kept raw hraw' hraw'').trans (h.memory.freed raw hraw hraw')
    · by_cases hraw' : raw ∈ own'
      · exact h.memory.new raw hraw' hraw
      · exact Nat.le_trans h.memory.next (h'.memory.new raw hraw'' hraw')
  disk := h.disk.trans h'.disk
  look q hq := (h'.look q hq).trans (h.look q hq)

/-! ## Footing -/

/-- What a run relies on. -/
structure Footing (s : Scene σ κ) (c : Commission) (holding : Holding) (lodging : Lodging)
    (left : Option κ) (native : NativeIndex) (registry : Registry) (workspace : Option Workspace)
    (m : Medium σ) (memory : Arena) : Prop where
  registry : registry = holding.registry native
  workspace : workspace = lodging.workspace
  holds : holding.Kept native memory
  lodged : s.Lodged c m.disk lodging
  target : peek s.look m c.plan.artifactPath = left

/-- What is seen at a path depends on the look of the medium alone. -/
theorem peek_of_look (h : s.look m' = s.look m) (path : String) :
    peek s.look m' path = peek s.look m path := by
  unfold peek
  rw [h]

/-- What is to be seen at the location of a path stays, if no target touches it. -/
theorem Effect.peek_eq {c' : Commission} (h : s.Effect c' own own' m m' memory memory')
    {path : String} (hclear : ∀ target, ObjectPath.parse c'.plan.artifactPath = .ok target →
      ∀ q, ObjectPath.parse path = .ok q → ¬ s.touches target q) :
    peek s.look m' path = peek s.look m path := by
  unfold peek
  cases hparse : ObjectPath.parse path with
  | error e => rfl
  | ok q => exact congrArg some (h.look q fun target htarget => hclear target htarget q hparse)

/-- A run does not lose its footing through another one. -/
theorem Footing.of_effect {registry : Registry} {workspace : Option Workspace} {c' : Commission}
    (h : s.Footing c holding lodging left native registry workspace m memory)
    (heffect : s.Effect c' own own' m m' memory memory') (hmemory : memory.Reachable)
    (hc' : s.Admits c') (hsuffix : c.suffix ≠ c'.suffix)
    (hown : ∀ raw ∈ holding.raws native, raw ∉ own)
    (hclear : ∀ target, ObjectPath.parse c'.plan.artifactPath = .ok target →
      ∀ q, ObjectPath.parse c.plan.artifactPath = .ok q → ¬ s.touches target q) :
    s.Footing c holding lodging left native registry workspace m' memory' where
  registry := h.registry
  workspace := h.workspace
  holds := h.holds.of_confined (Arena.fresh_of_reachable hmemory) heffect.memory hown
  lodged := by
    refine h.lodged.of_spares heffect.disk (fun names hnames => ?_) fun d₁ here h₁ hhere => ?_
    · exact Disk.not_prefix_room hsuffix hnames
    · obtain ⟨d₂, h₂, -, hfree⟩ := hc'.vacant.made d₁ h₁
      obtain rfl := Except.ok.inj (h₁.symm.trans h₂)
      exact hfree here hhere
  target := (heffect.peek_eq hclear).trans h.target

/-! ## The end of a run -/

/-- The workspace is removed, wherever it is. -/
theorem Housed.remove (h : s.Sound) (hc : s.Admits c) (hspace : s.Housed c space d) :
    Workspace.Change s.root d (space.remove d) ∧
      d.Spares s.root (s.room c <+: ·) (space.remove d) := by
  refine ⟨.remove hspace.made, ?_⟩
  unfold Workspace.remove
  rw [hspace.directory]
  exact hspace.lodges.remove h.rooted hc.slash hc.vacant

/-- A run that is lodged in a workspace has its room there. -/
theorem Lodged.housed (h : s.Lodged c d lodging) (hworkspace : lodging.workspace = some space) :
    s.Housed c space d := by
  cases lodging with
  | awaited => cases hworkspace
  | empty space' =>
    cases hworkspace
    exact h.1
  | staged space' content =>
    cases hworkspace
    exact h.1
  | spoiled space' =>
    cases hworkspace
    exact h
  | gone => cases hworkspace

/-- A run gives up its workspace and keeps what it holds. -/
theorem dropWorkspace_spec (h : s.Sound) (hc : s.Admits c) {r : Run σ} {w : World Arena σ}
    (hfooting : s.Footing c holding lodging left native r.registry r.workspace w.toMedium w.memory) :
    s.Footing c holding .gone left native (r.dropWorkspace w).1.registry
        (r.dropWorkspace w).1.workspace (r.dropWorkspace w).2.toMedium
        (r.dropWorkspace w).2.memory ∧
      s.Effect c (holding.raws native) (holding.raws native) w.toMedium
        (r.dropWorkspace w).2.toMedium w.memory (r.dropWorkspace w).2.memory := by
  unfold Run.dropWorkspace
  cases hworkspace : r.workspace with
  | none =>
    exact ⟨⟨hfooting.registry, hworkspace, hfooting.holds, trivial, hfooting.target⟩, .refl ..⟩
  | some space =>
    obtain ⟨hchange, hspares⟩ :=
      (hfooting.lodged.housed (hfooting.workspace.symm.trans hworkspace)).remove h hc
    have hlook := h.keyed.apart hchange
    exact ⟨⟨hfooting.registry, rfl, hfooting.holds, trivial,
      (peek_of_look hlook _).trans hfooting.target⟩, .of_change h _ _ hchange hspares⟩

/-- A run that ends has given up everything, and its counts tell what it held. -/
theorem finish_spec (h : s.Sound) (hc : s.Admits c) {r : Run σ} {w : World Arena σ}
    (hfooting : s.Footing c holding lodging left native r.registry r.workspace w.toMedium w.memory)
    (result : TaskResult) (failedStage : Option Stage) :
    (r.finish s.builder result failedStage w).1.phase =
        .ended { result, failedStage, handles := holding.closed.tally } ∧
      s.Footing c (.nothing holding.closed) .gone left native
        (r.finish s.builder result failedStage w).1.registry
        (r.finish s.builder result failedStage w).1.workspace
        (r.finish s.builder result failedStage w).2.toMedium
        (r.finish s.builder result failedStage w).2.memory ∧
      s.Effect c (holding.raws native) [] w.toMedium
        (r.finish s.builder result failedStage w).2.toMedium w.memory
        (r.finish s.builder result failedStage w).2.memory := by
  obtain ⟨hdropped, heffect⟩ := dropWorkspace_spec h hc hfooting
  unfold Run.finish Run.cleanUp
  rw [h.engine]
  generalize r.dropWorkspace w = dropped at hdropped heffect
  obtain ⟨r, w'⟩ := dropped
  obtain ⟨hregistry, hconfined⟩ := Holding.releaseAll_spec
    (c := r.custodian w') hdropped.registry hdropped.holds
  have hmedium := Custodian.toMedium_releaseAll Arena.engine (r.custodian w')
  have hfree : s.Effect c (holding.raws native) [] w'.toMedium
      ((r.custodian w').releaseAll Arena.engine).2.world.toMedium w'.memory
      ((r.custodian w').releaseAll Arena.engine).2.world.memory := by
    rw [hmedium]
    exact .of_memory c _ hconfined
  refine ⟨?_, ⟨hregistry, hdropped.workspace, hfooting.holds.close _, trivial, ?_⟩,
    heffect.trans hfree fun raw hraw => .inl hraw⟩
  · rw [← hregistry]
    rfl
  · refine (?_ : peek s.look _ _ = _).trans hdropped.target
    exact congrArg (fun m => peek s.look m _) hmedium

end Scene

end VectorIndex
