import VectorIndex.Proofs.Run.Alike
import VectorIndex.Proofs.Run.Bookkeeping

/-!
# Runs whose engines refuse differently

Two engines are alike when they differ only in which requests to free a structure they refuse.
Histories of custody and runs come out the same with both, but for the refusals, which are counted
(`refusals_change_no_outcome`).
-/

set_option autoImplicit false

namespace VectorIndex

variable {ε₁ ε₂ σ : Type}

/-- Two builders have engines that are alike, and are the same otherwise. -/
structure Builder.Alike (R : ε₁ → ε₂ → Prop) (b₁ : Builder ε₁ σ) (b₂ : Builder ε₂ σ) : Prop where
  engine : b₁.engine.Alike R b₂.engine
  stores : b₁.stores = b₂.stores
  stagingRoot : b₁.stagingRoot = b₂.stagingRoot
  timeLimit : b₁.timeLimit = b₂.timeLimit

/-- Builders that are alike match, whatever their engines have refused. -/
theorem Builder.Alike.matched {R : ε₁ → ε₂ → Prop} {b₁ : Builder ε₁ σ} {b₂ : Builder ε₂ σ}
    (h : b₁.Alike R b₂) : b₁.Matched (fun _ _ => R) b₂ :=
  ⟨h.engine.matched, h.stores, h.stagingRoot, h.timeLimit⟩

namespace Run

variable {R : Nat → Nat → ε₁ → ε₂ → Prop} {since : List Event}

/-- Two runs that began in these worlds have come to the same phase, and if they have ended, to the
same result and failed stage.  They report what their registries count. -/
structure EndsAlike (start₁ : World ε₁ σ) (after₁ : Run σ × World ε₁ σ) (start₂ : World ε₂ σ)
    (after₂ : Run σ × World ε₂ σ) : Prop where
  outcome : (after₁.1.report?.map fun report => (report.result, report.failedStage)) =
    after₂.1.report?.map fun report => (report.result, report.failedStage)
  isOver : after₁.1.isOver = after₂.1.isOver
  handles₁ : ∀ report, after₁.1.report? = some report → report.handles = after₁.1.registry.tally
  handles₂ : ∀ report, after₂.1.report? = some report → report.handles = after₂.1.registry.tally
  custodian : Custodian.EndsAlike start₁ (after₁.1.custodian after₁.2) start₂
    (after₂.1.custodian after₂.2)

/-- Sound runs that are alike end alike. -/
theorem Alike.ends {start₁ : World ε₁ σ} {after₁ : Run σ × World ε₁ σ} {start₂ : World ε₂ σ}
    {after₂ : Run σ × World ε₂ σ} (h : Alike R since after₁ after₂) (hstart₁ : start₁.log = since)
    (hstart₂ : start₂.log = since) (hsound₁ : after₁.1.Sound) (hsound₂ : after₂.1.Sound) :
    EndsAlike start₁ after₁ start₂ after₂ where
  outcome := by
    obtain ⟨workspace, phase, world⟩ := h
    cases phase <;> rfl
  isOver := by
    obtain ⟨workspace, phase, world⟩ := h
    cases phase <;> rfl
  handles₁ report hreport := (hsound₁.settled report (phase_of_report? hreport)).2.2
  handles₂ report hreport := (hsound₂.settled report (phase_of_report? hreport)).2.2
  custodian := by
    cases h with
    | intro workspace phase world =>
      exact Custodian.Alike.ends ⟨_, _, _, rfl, rfl, world⟩ hstart₁ hstart₂

end Run

open Operation (runAll)

/-- Whether an engine refuses to free a structure has no effect but to be counted.  When two engines
are alike but for that and everything is swept in the same order, whichever it is, any history of
custody gets the same answers from both, and any run comes to the same result and failed stage and
has uploaded the same, after every row of moves and also when it is taken to its end.  The
surroundings, the slots, the counts and the requests to free structures are the same, and so are the
counters of the process; only the failures and the warnings are the refusals of either engine. -/
theorem refusals_change_no_outcome {R : ε₁ → ε₂ → Prop} {b₁ : Builder ε₁ σ} {b₂ : Builder ε₂ σ}
    (hb : b₁.Alike R b₂) (site : Site σ) (sweep : SweepOrder) {m₁ : ε₁} {m₂ : ε₂}
    (hm : R m₁ m₂) :
    let w₁ : World ε₁ σ := { toSite := site, memory := m₁, sweep }
    let w₂ : World ε₂ σ := { toSite := site, memory := m₂, sweep }
    (∀ os, List.Forall₂ StepReport.Alike (runAll b₁.engine (.start w₁) os).1
        (runAll b₂.engine (.start w₂) os).1 ∧
      Custodian.EndsAlike w₁ (runAll b₁.engine (.start w₁) os).2.custodian w₂
        (runAll b₂.engine (.start w₂) os).2.custodian) ∧
    ∀ c, (∀ ms, Run.EndsAlike w₁ (Run.play b₁ c ms {} w₁) w₂ (Run.play b₂ c ms {} w₂)) ∧
      Run.EndsAlike w₁ (b₁.run c w₁) w₂ (b₂.run c w₂) := by
  intro w₁ w₂
  have hworld : World.Alike (fun _ _ => R) site.log 0 0 w₁ w₂ := ⟨rfl, hm, rfl, .start⟩
  refine ⟨fun os => ?_, fun c => ⟨fun ms => ?_, ?_⟩⟩
  · have hstart : HistoryState.Alike (fun _ _ => R) site.log (.start w₁) (.start w₂) :=
      ⟨⟨{}, 0, 0, rfl, rfl, hworld⟩, rfl, rfl⟩
    obtain ⟨hreports, hall⟩ := Operation.alike_runAll hb.matched.engine hstart os
    exact ⟨hreports, hall.custodian.ends rfl rfl⟩
  all_goals
    have hstart : Run.Alike (fun _ _ => R) site.log (({} : Run σ), w₁) (({} : Run σ), w₂) :=
      .intro (r := {}) none (.same .configuring) hworld
  · exact (Run.alike_play hb.matched c ms hstart).ends rfl rfl
      (Run.sound_play b₁ c ms w₁ Run.sound_start).1 (Run.sound_play b₂ c ms w₂ Run.sound_start).1
  · obtain ⟨ms₁, hms₁⟩ := Run.exists_play_complete b₁ c {} w₁
    obtain ⟨ms₂, hms₂⟩ := Run.exists_play_complete b₂ c {} w₂
    refine (Run.alike_complete hb.matched c hstart).ends rfl rfl ?_ ?_
    · rw [hms₁]
      exact (Run.sound_play b₁ c ms₁ w₁ Run.sound_start).1
    · rw [hms₂]
      exact (Run.sound_play b₂ c ms₂ w₂ Run.sound_start).1

/-- An engine that frees structures but says that it did not is like the engine inside. -/
theorem Engine.alike_faulty_release {ε : Type} (inner : Engine ε) :
    inner.Alike Eq (faulty inner.kind (some .release) inner) where
  kind := rfl
  build := by
    rintro m _ rfl dataset config
    unfold faulty
    dsimp only
    obtain ⟨reply, m⟩ := inner.build dataset config m
    cases reply <;> exact ⟨rfl, rfl⟩
  convert := by
    rintro m _ rfl gpu config
    unfold faulty
    dsimp only
    obtain ⟨reply, m⟩ := inner.convert gpu config m
    cases reply <;> exact ⟨rfl, rfl⟩
  persist := by
    rintro m _ rfl cpu
    exact ⟨rfl, rfl⟩
  release := by
    rintro m _ rfl raw kind
    unfold faulty
    dsimp only
    obtain ⟨refusal, m⟩ := inner.release raw kind m
    cases refusal <;> rfl

/-- The flat engine, with a store in memory. -/
def plainBuilder : Builder Arena MemoryObjects :=
  { Run.failingBuilder with engine := Arena.engine }

/-- The flat engine, which now says of everything that it could not be freed. -/
def refusingBuilder : Builder Arena MemoryObjects :=
  { Run.failingBuilder with engine := Engine.faulty .faiss (some .release) Arena.engine }

/-- Three structures are freed in this run, all of them with a warning, and it uploads its artifact
nevertheless. -/
theorem same_upload_when_nothing_is_freed :
    let start := Run.oneRowStored
    let plain := plainBuilder.run Run.oneRow start
    let refusing := refusingBuilder.run Run.oneRow start
    start.refusalsSince plain.2 = 0 ∧ start.refusalsSince refusing.2 = 3 ∧
    refusing.1.registry.tally.failures = 3 ∧
    (plain.1.report?.map fun report => (report.result, report.failedStage)) =
      (refusing.1.report?.map fun report => (report.result, report.failedStage)) ∧
    plain.2.store = refusing.2.store := by
  have halike : plainBuilder.Alike Eq refusingBuilder :=
    ⟨Engine.alike_faulty_release Arena.engine, rfl, rfl, rfl⟩
  have hends := ((refusals_change_no_outcome halike Run.oneRowStored.toSite .registration
    (rfl : Run.oneRowStored.memory = _)).2 Run.oneRow).2
  have hplain : Run.oneRowStored.refusalsSince (plainBuilder.run Run.oneRow Run.oneRowStored).2 =
      0 := by
    decide +kernel
  have hrefusing : Run.oneRowStored.refusalsSince
      (refusingBuilder.run Run.oneRow Run.oneRowStored).2 = 3 := by
    decide +kernel
  refine ⟨hplain, hrefusing, ?_, hends.outcome, congrArg Medium.store hends.custodian.moved.medium⟩
  exact hends.custodian.failures₂.trans hrefusing

end VectorIndex
