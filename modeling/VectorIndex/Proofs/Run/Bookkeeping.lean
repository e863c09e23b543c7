import VectorIndex.Blob.Memory
import VectorIndex.Engine.Arena
import VectorIndex.Engine.Faulty
import VectorIndex.Proofs.Run.Ending
import VectorIndex.Proofs.Run.Soundness

/-!
# The books of a run

However the engine, the store and the disk behave, and in whatever order the steps of a run
are taken: when a run has ended, every structure that the engine handed out was given back
to it once, the counts of the report agree, and the directory of the run is gone.
-/

set_option autoImplicit false

open scoped List

namespace VectorIndex

variable {ε σ : Type}

namespace Run

/-! ## A whole run as a list of moves -/

/-- Steps in a row are moves of a run. -/
theorem exists_play_advance (b : Builder ε σ) (c : Commission) (n : Nat) (turn : Turn) (r : Run σ)
    (w : World ε σ) : ∃ ms, (advance b c n turn r w).2 = play b c ms r w := by
  induction n generalizing turn r w with
  | zero => exact ⟨[], rfl⟩
  | succ n ih =>
    obtain ⟨ms, hms⟩ := ih (r.chooseDownload turn).2 (r.proceed b c (r.chooseDownload turn).1 w).1
      (r.proceed b c (r.chooseDownload turn).1 w).2
    exact ⟨.proceed (r.chooseDownload turn).1 :: ms, hms⟩

/-- To settle down is to make moves. -/
theorem exists_play_settle (b : Builder ε σ) (c : Commission) {r : Run σ} {w : World ε σ}
    {before : Turn × Run σ × World ε σ} (h : ∃ ms, before.2 = play b c ms r w) :
    ∃ ms, (before.2.1.settle b c before.1 before.2.2).2 = play b c ms r w := by
  obtain ⟨ms, hms⟩ := h
  obtain ⟨ms', hms'⟩ := exists_play_advance b c before.2.1.stepsAhead before.1 before.2.1 before.2.2
  refine ⟨ms ++ ms', ?_⟩
  rw [play_append, ← hms]
  exact hms'

/-- To go on to the end is to make moves. -/
theorem exists_play_complete (b : Builder ε σ) (c : Commission) (r : Run σ) (w : World ε σ) :
    ∃ ms, r.complete b c w = play b c ms r w :=
  exists_play_settle b c (exists_play_settle b c (exists_play_settle b c
    (exists_play_settle b c (exists_play_advance b c r.stepsAhead {} r w))))

/-- A run that has not begun is sound. -/
theorem sound_start : ({} : Run σ).Sound where
  tracks := tracks_of_task?_eq_none rfl _
  housed := rfl
  placed := nofun
  settled := nofun

/-! ## What is true at the end -/

/-- Only a run that has ended has a report. -/
theorem phase_of_report? {r : Run σ} {report : RunReport} (h : r.report? = some report) :
    r.phase = .ended report := by
  unfold report? at h
  split at h
  · next hphase => rw [hphase, Option.some.inj h]
  · cases h

/-- Among components with different raw handles, each is the only one under its raw handle. -/
theorem filter_raw_eq_singleton {given : List Component} (h : (given.map Prod.fst).Nodup)
    {x : Component} (hx : x ∈ given) : (given.filter fun y => y.1 = x.1) = [x] := by
  induction given with
  | nil => cases hx
  | cons y ys ih =>
    obtain ⟨hy, hys⟩ := List.nodup_cons.1 h
    obtain rfl | hmem := List.mem_cons.1 hx
    · have hrest : (ys.filter fun y => y.1 = x.1) = [] := by
        refine List.filter_eq_nil_iff.2 fun z hz heq => hy ?_
        rw [← of_decide_eq_true heq]
        exact List.mem_map_of_mem hz
      rw [List.filter_cons_of_pos (by simp), hrest]
    · have hne : y.1 ≠ x.1 := fun heq => hy (heq ▸ List.mem_map_of_mem hmem)
      rw [List.filter_cons_of_neg (by simpa using hne)]
      exact ih hys hmem

/-- When a run has ended, what was freed during it is what was handed out. -/
theorem freedSince_perm_handedOut (b : Builder ε σ) (c : Commission) (ms : List Move)
    (w : World ε σ) {report : RunReport} (h : (play b c ms {} w).1.phase = .ended report) :
    w.freedSince (play b c ms {} w).2 ~ handedOut b c ms {} w := by
  obtain ⟨hsound, hgrows⟩ := sound_play b c ms w sound_start
  have hlog := World.freedIn_eq_append hgrows.log_extends
  have haccount := hgrows.account
  obtain ⟨hheld, -, -⟩ := hsound.settled report h
  unfold Custodian.account at haccount
  change (play b c ms {} w).1.registry.held ++ freedIn (play b c ms {} w).2.log ~
    freedIn w.log ++ handedOut b c ms {} w at haccount
  -- Nothing is held at the end, so that the account consists of what was freed.
  rw [hheld, List.nil_append, show freedIn (play b c ms {} w).2.log = _ from hlog] at haccount
  exact (List.perm_append_left_iff _).1 haccount

/-- When a run has ended, the counts of its report agree. -/
theorem handles_of_ended (b : Builder ε σ) (c : Commission) (ms : List Move)
    (w : World ε σ) {report : RunReport} (h : (play b c ms {} w).1.phase = .ended report) :
    report.handles.registered = report.handles.released ∧ report.handles.outstanding = .ok 0 := by
  obtain ⟨hsound, hgrows⟩ := sound_play b c ms w sound_start
  obtain ⟨-, hlive, htally⟩ := hsound.settled report h
  have hover : (play b c ms {} w).1.registry.overcount = 0 := hgrows.overcount
  refine ⟨?_, ?_⟩
  · unfold Registry.overcount at hover
    rw [hlive, ← htally] at hover
    omega
  · rw [htally, Registry.outstanding_eq_liveCount hover, hlive]

/-- When a run has ended, every directory that was its own before is gone. -/
theorem isDirectory_of_ended (b : Builder ε σ) (c : Commission) (ms ms' : List Move)
    (w : World ε σ) {report : RunReport} (h : (play b c (ms ++ ms') {} w).1.phase = .ended report)
    {space : Workspace} (hspace : (play b c ms {} w).1.workspace = some space) :
    (play b c (ms ++ ms') {} w).2.disk.isDirectory space.directory = false := by
  obtain ⟨hsound, -⟩ := sound_play b c ms w sound_start
  obtain ⟨hended, -⟩ := sound_play b c (ms ++ ms') w sound_start
  rw [play_append] at h hended ⊢
  have hstarted : (play b c ms {} w).1.phase.hasStarted = true := by
    refine hasStarted_of_keepsWorkspace ?_
    rw [← hsound.housed, hspace]
    rfl
  obtain ⟨space', hspace', -⟩ | ⟨-, hgone⟩ := directory_play b c ms' _ space.directory hsound
    hstarted (.inl ⟨space, hspace, rfl⟩)
  -- A run that has ended keeps no workspace.
  · have hnone := hended.housed
    rw [hspace', h] at hnone
    cases hnone
  · exact hgone

/-- However a run goes, once it has ended, every component that the engine handed out was freed
once, as what it was handed out as, and nothing else was freed; all handles were ended; and every
directory that was the run's own is gone.  A run that is taken to its end is such a run, unless it
broke off.  The engine hands out what building and converting calls return, also with their
failures. -/
theorem everything_given_back (b : Builder ε σ) (c : Commission) (w : World ε σ) :
    (∃ ms, b.run c w = play b c ms {} w ∧ (b.run c w).1.isOver = true) ∧
    ∀ (ms : List Move) (report : RunReport), (play b c ms {} w).1.report? = some report →
      ((handedOut b c ms {} w).map Prod.fst).Nodup →
      (∀ x ∈ handedOut b c ms {} w,
        ((w.freedSince (play b c ms {} w).2).filter fun y => y.1 = x.1) = [x]) ∧
      (∀ x ∈ w.freedSince (play b c ms {} w).2, x ∈ handedOut b c ms {} w) ∧
      report.handles.registered = report.handles.released ∧
      report.handles.outstanding = .ok 0 ∧
      (∀ ms₁ ms₂, ms = ms₁ ++ ms₂ → ∀ space, (play b c ms₁ {} w).1.workspace = some space →
        (play b c ms {} w).2.disk.isDirectory space.directory = false) := by
  refine ⟨?_, fun ms report hreport hd => ?_⟩
  · obtain ⟨ms, hms⟩ := exists_play_complete b c {} w
    exact ⟨ms, hms, b.isOver_run c w⟩
  have h := phase_of_report? hreport
  refine ⟨fun x hx => ?_, fun x hx => ?_, ?_, ?_, ?_⟩
  · have hperm := (freedSince_perm_handedOut b c ms w h).filter fun y => y.1 = x.1
    rw [filter_raw_eq_singleton hd hx] at hperm
    exact List.perm_singleton.1 hperm
  · exact (freedSince_perm_handedOut b c ms w h).mem_iff.1 hx
  · exact (handles_of_ended b c ms w h).1
  · exact (handles_of_ended b c ms w h).2
  · rintro ms₁ ms₂ rfl space hspace
    exact isDirectory_of_ended b c ms₁ ms₂ w h hspace

/-- An engine whose conversions fail after the copy was made. -/
def failingBuilder : Builder Arena MemoryObjects where
  engine := Engine.faulty .faiss (some .convertLate) Arena.engine
  stores := Provider.always (Transport.client { store := MemoryObjects.store })
  stagingRoot := "/staging"

/-- A run over one row of one component. -/
def oneRow : Commission where
  plan := {
    repositoryType := "fs", containerName := "container", vectorPath := "rows.knnvec"
    docIdPath := "rows.knndid", dimension := 1, docCount := 1, elementType := .byte
    engine := .faiss, index := {}, stagingMode := .memory, overrides := {}
    vectorBytes := 1, docIdBytes := 4 }
  suffix := "1"

/-- The blobs of this row. -/
def oneRowStored : World Arena MemoryObjects where
  store := { objects := [(⟨["rows.knnvec"]⟩, [7]), (⟨["rows.knndid"]⟩, [9, 0, 0, 0])] }
  disk := {}
  memory := {}

/-- The steps to the failure of the conversion. -/
def stepsToFailure : List Move :=
  List.replicate 14 (.proceed false)

/-- A failed upload leaves nothing behind of three structures that were handed out. -/
theorem everything_given_back_after_failure :
    handedOut failingBuilder oneRow stepsToFailure {} oneRowStored =
      [(⟨2⟩, .idMap), (⟨1⟩, .gpuIndex), (⟨3⟩, .cpuIndex)] ∧
    ∀ x ∈ handedOut failingBuilder oneRow stepsToFailure {} oneRowStored,
      ((oneRowStored.freedSince
        (play failingBuilder oneRow stepsToFailure {} oneRowStored).2).filter
          fun y => y.1 = x.1) = [x] := by
  have hended : (play failingBuilder oneRow stepsToFailure {} oneRowStored).1.report?.isSome =
      true := by
    decide +kernel
  obtain ⟨report, hreport⟩ := Option.isSome_iff_exists.1 hended
  have hgiven : handedOut failingBuilder oneRow stepsToFailure {} oneRowStored =
      [(⟨2⟩, .idMap), (⟨1⟩, .gpuIndex), (⟨3⟩, .cpuIndex)] := by
    decide +kernel
  refine ⟨hgiven, ?_⟩
  exact ((everything_given_back failingBuilder oneRow oneRowStored).2 stepsToFailure report hreport
    (by rw [hgiven]; decide)).1

end Run

end VectorIndex
