import Mathlib.Tactic.Common
import VectorIndex.Run.Step

/-!
# Runs come to an end

`Builder.run` takes the steps of a run in legs, each of which is known to be long enough: up
to the opening of a download, or to the end.  `Phase.legs` counts the legs that are left and
`Phase.stretch` the steps that are left in a leg.  Every step shortens the stretch or ends the
leg (`Run.legs_proceed`), so that five legs take every run to its end
(`Builder.isOver_run`).
-/

set_option autoImplicit false

namespace VectorIndex

variable {ε σ : Type}

namespace Download

variable {τ : Type} [BlobSink τ]

/-- Whether a read has still to be opened. -/
def isOpening : Download τ → Bool
  | .opening _ => true
  | _ => false

/-- A step of a read that has not ended opens it or shortens it. -/
theorem remaining_step (client : BlobClient σ) (path : String) {d : Download τ}
    (h : d.result? = none) (s : Site σ) :
    (d.step client path s).1.isOpening = false ∧
      (d.isOpening = true ∨
        (d.isOpening = false ∧ (d.step client path s).1.remaining < d.remaining)) := by
  cases d with
  | opening sink =>
    refine ⟨?_, .inl rfl⟩
    unfold step
    dsimp only
    split <;> rfl
  | streaming announced chunks fault read sink =>
    cases chunks with
    | nil =>
      unfold step
      dsimp only
      split
      · exact ⟨rfl, .inr ⟨rfl, Nat.one_pos⟩⟩
      · split
        · exact ⟨rfl, .inr ⟨rfl, Nat.one_pos⟩⟩
        · split <;> exact ⟨rfl, .inr ⟨rfl, Nat.one_pos⟩⟩
    | cons chunk chunks =>
      unfold step
      dsimp only
      split
      · exact ⟨rfl, .inr ⟨rfl, Nat.succ_pos _⟩⟩
      · exact ⟨rfl, .inr ⟨rfl, Nat.lt_succ_self _⟩⟩
  | ended result sink => cases h

end Download

/-! ## Measures -/

/-- Steps that are left for a task. -/
def Progress.stepsLeft : Progress → Nat
  | .queued => 3
  | .running _ => 2
  | .returned _ => 1

/-- Steps that are left after a task, until the run has ended. -/
def Task.stepsAfter : Task → Nat
  | .build _ => 7
  | .convert _ => 4
  | .persist _ => 1

/-- A task has at most three steps left. -/
theorem Progress.stepsLeft_le (p : Progress) : p.stepsLeft ≤ 3 := by
  cases p <;> simp [stepsLeft]

/-- Behind a task there are at most seven steps. -/
theorem Task.stepsAfter_le (t : Task) : t.stepsAfter ≤ 7 := by
  cases t <;> simp [stepsAfter]

namespace Phase

/-- Legs that are left: one for every download that has to be opened, one for the downloads when
both are open, and one for the tasks and the upload. -/
def legs : Phase σ → Nat
  | .configuring => 5
  | .fetching _ vectors ids => vectors.isOpening.toNat + ids.isOpening.toNat + 2
  | .working .. => 1
  | .uploading _ => 1
  | .ended _ => 0
  | .detached .. => 1
  | .cancelled => 0
  | .aborted _ => 0

/-- Steps that are left in a leg. -/
def stretch : Phase σ → Nat
  | .configuring => 1
  | .fetching _ vectors ids => vectors.remaining + ids.remaining + 1
  | .working _ task progress => task.stepsAfter + progress.stepsLeft
  | .uploading _ => 1
  | .ended _ => 0
  | .detached _ _ progress => max 1 (progress.stepsLeft - 1)
  | .cancelled => 0
  | .aborted _ => 0

/-- One phase is closer to the end than another. -/
def Closer (p q : Phase σ) : Prop :=
  p.legs < q.legs ∨ (p.legs = q.legs ∧ p.stretch < q.stretch)

/-- Coming closer to the end cannot go on for ever. -/
theorem closer_wf : WellFounded (Closer : Phase σ → Phase σ → Prop) := by
  have hlex := (Prod.lex Nat.lt_wfRel Nat.lt_wfRel).wf
  refine Subrelation.wf (fun {p q} h => ?_) (InvImage.wf (fun p : Phase σ => (p.legs, p.stretch)) hlex)
  obtain hlegs | ⟨hlegs, hstretch⟩ := h
  · exact Prod.Lex.left _ _ hlegs
  · change Prod.Lex _ _ (p.legs, p.stretch) (q.legs, q.stretch)
    rw [hlegs]
    exact Prod.Lex.right _ hstretch

end Phase

namespace Run

variable {b : Builder ε σ} {c : Commission} {r : Run σ} {w : World ε σ}

/-- A run is over exactly if no legs are left. -/
theorem isOver_iff_legs : r.isOver = true ↔ r.phase.legs = 0 := by
  unfold isOver
  cases r.phase <;> simp [Phase.legs]

/-- Without legs left a run is over. -/
theorem isOver_of_legs {r : Run σ} (h : r.phase.legs = 0) : r.isOver = true :=
  isOver_iff_legs.2 h

/-! ## Steps -/

/-- Entering a stage is closer to the end than whatever has more legs, or as many and a longer
stretch. -/
theorem closer_enter {phase q : Phase σ} (stage : Stage) (h : phase.Closer q) :
    (r.enter b c stage phase w).1.phase.Closer q := by
  unfold enter
  split
  · obtain hlegs | ⟨hlegs, hstretch⟩ := h
    · exact .inl (Nat.lt_of_le_of_lt (Nat.zero_le _) hlegs)
    · cases hq : q.legs with
      | zero =>
        refine .inr ⟨hq.symm, ?_⟩
        exact Nat.lt_of_le_of_lt (Nat.zero_le _) hstretch
      | succ n => exact .inl (hq ▸ Nat.succ_pos n)
  · exact h

/-- Configuring brings a run closer to its end. -/
theorem closer_configure (hphase : r.phase = .configuring) :
    (r.configure b c w).1.phase.Closer r.phase := by
  rw [hphase]
  unfold configure
  dsimp only
  repeat' split
  all_goals first
    | exact .inl (Nat.succ_pos 4)
    | exact closer_enter _ (.inl (by decide : 4 < 5))

/-- Reads are closer to the end when fewer are to be opened, or else less remains. -/
theorem closer_fetching {setup : Setup σ} {vectors vectors' : Download VectorSink}
    {ids ids' : Download StagingBuffer}
    (h : vectors'.isOpening.toNat + ids'.isOpening.toNat <
        vectors.isOpening.toNat + ids.isOpening.toNat ∨
      (vectors'.isOpening.toNat + ids'.isOpening.toNat =
          vectors.isOpening.toNat + ids.isOpening.toNat ∧
        vectors'.remaining + ids'.remaining < vectors.remaining + ids.remaining)) :
    (Phase.fetching setup vectors' ids').Closer (.fetching setup vectors ids) := by
  obtain hlegs | ⟨hlegs, hstretch⟩ := h
  · exact .inl (Nat.add_lt_add_right hlegs 2)
  · exact .inr ⟨congrArg (· + 2) hlegs, Nat.add_lt_add_right hstretch 1⟩

/-- A step of the reads brings a run closer to its end. -/
theorem closer_fetch (b : Builder ε σ) (c : Commission) (idsFirst : Bool) (setup : Setup σ)
    (vectors : Download VectorSink) (ids : Download StagingBuffer) (r : Run σ) (w : World ε σ) :
    (r.fetch b c idsFirst setup vectors ids w).1.phase.Closer (.fetching setup vectors ids) := by
  have hends : 1 < (Phase.fetching setup vectors ids).legs := Nat.lt_add_left _ (by decide)
  -- A step of either read opens it, which ends a leg, or shortens it within the leg.
  have hvectors : vectors.result? = none →
      (Phase.fetching setup (vectors.step setup.client c.plan.vectorPath w.toSite).1 ids).Closer
        (.fetching setup vectors ids) := by
    intro hnone
    obtain ⟨hopen, hbefore | ⟨hbefore, hless⟩⟩ :=
      vectors.remaining_step setup.client c.plan.vectorPath hnone w.toSite
    · refine closer_fetching (.inl ?_)
      rw [hopen, hbefore]
      exact Nat.add_lt_add_right Nat.one_pos _
    · refine closer_fetching (.inr ⟨?_, Nat.add_lt_add_right hless _⟩)
      rw [hopen, hbefore]
  have hids : ids.result? = none →
      (Phase.fetching setup vectors (ids.step setup.client c.plan.docIdPath w.toSite).1).Closer
        (.fetching setup vectors ids) := by
    intro hnone
    obtain ⟨hopen, hbefore | ⟨hbefore, hless⟩⟩ :=
      ids.remaining_step setup.client c.plan.docIdPath hnone w.toSite
    · refine closer_fetching (.inl ?_)
      rw [hopen, hbefore]
      exact Nat.add_lt_add_left Nat.one_pos _
    · refine closer_fetching (.inr ⟨?_, Nat.add_lt_add_left hless _⟩)
      rw [hopen, hbefore]
  unfold fetch
  dsimp only
  split
  · exact .inl (Nat.lt_trans Nat.one_pos hends)
  · exact .inl (Nat.lt_trans Nat.one_pos hends)
  · split
    · exact .inl (Nat.lt_trans Nat.one_pos hends)
    · exact closer_enter _ (.inl hends)
  · next hnone => exact hids hnone
  · next hnone _ => exact hvectors hnone
  · next hnone hnone' =>
    split
    · exact hids hnone'
    · exact hvectors hnone

/-- To take notice of a result brings a run closer to its end. -/
theorem closer_notice (b : Builder ε σ) (c : Commission) (setup : Setup σ) (task : Task)
    (result : Except BuildError TrackedIndex) (r : Run σ) (w : World ε σ) :
    (r.notice b c setup task result w).1.phase.Closer
      (.working setup task (.returned result)) := by
  cases result with
  | error e => cases task <;> exact .inl Nat.one_pos
  | ok token =>
    cases task with
    | build dataset => exact closer_enter _ (.inr ⟨rfl, Nat.lt_succ_self 7⟩)
    | convert source => exact closer_enter _ (.inr ⟨rfl, Nat.lt_succ_self 4⟩)
    | persist source => exact closer_enter _ (.inr ⟨rfl, Nat.lt_succ_self 1⟩)

/-- The pool brings a task that has not returned closer to its end. -/
theorem stepsLeft_advanceTask (b : Builder ε σ) (setup : Setup σ) (task : Task)
    (progress : Progress) (h : 1 < progress.stepsLeft) (r : Run σ) (w : World ε σ) :
    (r.advanceTask b setup task progress w).1.stepsLeft < progress.stepsLeft := by
  cases progress with
  | queued =>
    have hrunning : 2 < 3 := by decide
    have hreturned : 1 < 3 := by decide
    unfold advanceTask beginTask
    cases task with
    | build dataset => exact hrunning
    | convert source =>
      dsimp only
      split
      · exact hreturned
      · exact hrunning
    | persist source =>
      dsimp only
      split
      · exact hreturned
      · exact hrunning
  | running subject => exact Nat.lt_succ_self 1
  | returned result => exact absurd h (Nat.lt_irrefl 1)

/-- The upload ends a run. -/
theorem closer_upload (b : Builder ε σ) (c : Commission) (setup : Setup σ) (r : Run σ)
    (w : World ε σ) : (r.upload b c setup w).1.phase.legs = 0 := by
  unfold upload
  dsimp only
  split <;> rfl

/-- The pool brings the task of a cancelled run closer to its end, where the run is over. -/
theorem closer_detached (b : Builder ε σ) (c : Commission) (idsFirst : Bool) (w : World ε σ)
    {setup : Setup σ} {task : Task} {progress : Progress}
    (hphase : r.phase = .detached setup task progress) :
    (r.proceed b c idsFirst w).1.phase.Closer (.detached setup task progress) := by
  have hstep := stepsLeft_advanceTask b setup task progress
  unfold proceed
  rw [hphase]
  dsimp only
  cases progress with
  | queued =>
    have hless := hstep (by decide) r w
    generalize r.advanceTask b setup task .queued w = went at hless ⊢
    obtain ⟨progress', r', w'⟩ := went
    cases progress' with
    -- A task that goes on is not queued again.
    | queued => exact absurd hless (Nat.lt_irrefl 3)
    | running subject => exact .inr ⟨rfl, Nat.lt_succ_self 1⟩
    | returned result => exact .inl Nat.one_pos
  | running subject => exact .inl Nat.one_pos
  | returned result => exact .inl Nat.one_pos

/-- Every step of a run that has not ended is closer to the end. -/
theorem closer_proceed (b : Builder ε σ) (c : Commission) (idsFirst : Bool) (w : World ε σ)
    (h : r.isOver = false) : (r.proceed b c idsFirst w).1.phase.Closer r.phase := by
  cases hphase : r.phase with
  | configuring =>
    have hclose := closer_configure (b := b) (c := c) (w := w) hphase
    unfold proceed
    rw [hphase] at hclose ⊢
    exact hclose
  | fetching setup vectors ids =>
    have hclose := r.closer_fetch b c idsFirst setup vectors ids w
    unfold proceed
    rw [hphase]
    exact hclose
  | working setup task progress =>
    unfold proceed
    rw [hphase]
    cases progress with
    | queued =>
      exact .inr ⟨rfl, Nat.add_lt_add_left
        (stepsLeft_advanceTask b setup task .queued (by decide) r w) _⟩
    | running subject =>
      exact .inr ⟨rfl, Nat.add_lt_add_left
        (stepsLeft_advanceTask b setup task (.running subject) (Nat.lt_succ_self 1) r w) _⟩
    | returned result => exact closer_notice b c setup task result r w
  | uploading setup =>
    have hover := r.closer_upload b c setup w
    unfold proceed
    rw [hphase]
    exact .inl (hover ▸ Nat.one_pos)
  | detached setup task progress => exact closer_detached b c idsFirst w hphase
  | ended report =>
    unfold isOver at h
    rw [hphase] at h
    cases h
  | cancelled =>
    unfold isOver at h
    rw [hphase] at h
    cases h
  | aborted reason =>
    unfold isOver at h
    rw [hphase] at h
    cases h

/-- A run that is not over has steps ahead in its leg. -/
theorem stretch_pos (h : r.isOver = false) : 0 < r.phase.stretch := by
  unfold isOver at h
  cases hphase : r.phase with
  | configuring => exact Nat.one_pos
  | fetching setup vectors ids => exact Nat.succ_pos _
  | working setup task progress => exact Nat.add_pos_left (by cases task <;> exact Nat.succ_pos _) _
  | uploading setup => exact Nat.one_pos
  | detached setup task progress => exact Nat.le_max_left ..
  | _ =>
    rw [hphase] at h
    cases h

/-- A run that is over stays as it is. -/
theorem proceed_of_isOver (b : Builder ε σ) (c : Commission) (idsFirst : Bool) (w : World ε σ)
    (h : r.isOver = true) : r.proceed b c idsFirst w = (r, w) := by
  unfold isOver at h
  unfold proceed
  cases hphase : r.phase <;> rw [hphase] at h <;> first | rfl | cases h

/-- A step adds no legs. -/
theorem legs_proceed_le (b : Builder ε σ) (c : Commission) (idsFirst : Bool) (r : Run σ)
    (w : World ε σ) : (r.proceed b c idsFirst w).1.phase.legs ≤ r.phase.legs := by
  cases h : r.isOver with
  | true => exact Nat.le_of_eq (by rw [proceed_of_isOver b c idsFirst w h])
  | false =>
    obtain hlegs | ⟨hlegs, -⟩ := closer_proceed b c idsFirst w h
    · exact Nat.le_of_lt hlegs
    · exact Nat.le_of_eq hlegs

/-! ## Legs -/

/-- Steps in a row add no legs. -/
theorem legs_advance_le (b : Builder ε σ) (c : Commission) (n : Nat) (turn : Turn) (r : Run σ)
    (w : World ε σ) : (advance b c n turn r w).2.1.phase.legs ≤ r.phase.legs := by
  induction n generalizing turn r w with
  | zero => exact Nat.le_refl _
  | succ n ih => exact Nat.le_trans (ih _ _ _) (legs_proceed_le b c _ r w)

/-- What every step preserves is true at the end of a run. -/
theorem complete_of_proceed {b : Builder ε σ} {c : Commission} {P : Run σ → World ε σ → Prop}
    (hstep : ∀ idsFirst r w, P r w → P (r.proceed b c idsFirst w).1 (r.proceed b c idsFirst w).2)
    {r : Run σ} {w : World ε σ} (h : P r w) : P (r.complete b c w).1 (r.complete b c w).2 := by
  have hadvance : ∀ n turn r w, P r w →
      P (advance b c n turn r w).2.1 (advance b c n turn r w).2.2 := by
    intro n
    induction n with
    | zero => exact fun _ _ _ h => h
    | succ n ih => exact fun turn r w h => ih _ _ _ (hstep (r.chooseDownload turn).1 r w h)
  have hsettle : ∀ turn r w, P r w →
      P (r.settle b c turn w).2.1 (r.settle b c turn w).2.2 := fun turn r w h => hadvance _ _ _ _ h
  unfold complete
  exact hsettle _ _ _ (hsettle _ _ _ (hsettle _ _ _ (hsettle _ _ _ (hsettle _ _ _ h))))

/-- Enough steps end a leg. -/
theorem legs_advance_lt (b : Builder ε σ) (c : Commission) {n : Nat} (turn : Turn) (w : World ε σ)
    (hn : r.phase.stretch ≤ n) (h : r.isOver = false) :
    (advance b c n turn r w).2.1.phase.legs < r.phase.legs := by
  induction n generalizing turn r w with
  | zero => exact absurd (stretch_pos h) (Nat.not_lt.2 hn)
  | succ n ih =>
    change (advance b c n (r.chooseDownload turn).2 (r.proceed b c (r.chooseDownload turn).1 w).1
      (r.proceed b c (r.chooseDownload turn).1 w).2).2.1.phase.legs < _
    obtain hlegs | ⟨hlegs, hstretch⟩ := closer_proceed b c (r.chooseDownload turn).1 w h
    · exact Nat.lt_of_le_of_lt (legs_advance_le ..) hlegs
    · have hnot : (r.proceed b c (r.chooseDownload turn).1 w).1.isOver = false := by
        refine Bool.eq_false_iff.2 fun hover => ?_
        have hzero : r.phase.legs = 0 := hlegs.symm.trans (isOver_iff_legs.1 hover)
        rw [isOver_of_legs hzero] at h
        cases h
      rw [← hlegs]
      exact ih _ _ (by omega) hnot

/-- The steps of a leg are among those that are ahead. -/
theorem stretch_le_stepsAhead (r : Run σ) : r.phase.stretch ≤ r.stepsAhead := by
  unfold stepsAhead
  cases r.phase with
  | working setup task progress =>
    have htask := task.stepsAfter_le
    have hprogress := progress.stepsLeft_le
    simp only [Phase.stretch]
    omega
  | detached setup task progress =>
    have hprogress := progress.stepsLeft_le
    simp only [Phase.stretch]
    omega
  | _ => exact Nat.le_refl _

/-- To settle down takes at least one leg, until none is left. -/
theorem legs_settle (b : Builder ε σ) (c : Commission) (turn : Turn) (w : World ε σ) {n : Nat}
    (h : r.phase.legs ≤ n + 1) : (r.settle b c turn w).2.1.phase.legs ≤ n := by
  cases hover : r.isOver with
  | true =>
    have hle := legs_advance_le b c r.stepsAhead turn r w
    rw [isOver_iff_legs.1 hover] at hle
    exact Nat.le_trans hle (Nat.zero_le n)
  | false =>
    have hlt := legs_advance_lt b c turn w r.stretch_le_stepsAhead hover
    exact Nat.le_of_lt_succ (Nat.lt_of_lt_of_le hlt h)

end Run

/-- Every run comes to an end. -/
theorem Builder.isOver_run (b : Builder ε σ) (c : Commission) (w : World ε σ) :
    (b.run c w).1.isOver = true := by
  refine Run.isOver_of_legs (Nat.le_zero.1 ?_)
  unfold Builder.run Run.complete
  dsimp only
  have h₁ := Run.legs_settle b c {} w (r := {}) (n := 4) (Nat.le_refl 5)
  generalize Run.settle b c {} {} w = s₁ at h₁ ⊢
  have h₂ := Run.legs_settle b c s₁.1 s₁.2.2 h₁
  generalize Run.settle b c s₁.1 s₁.2.1 s₁.2.2 = s₂ at h₂ ⊢
  have h₃ := Run.legs_settle b c s₂.1 s₂.2.2 h₂
  generalize Run.settle b c s₂.1 s₂.2.1 s₂.2.2 = s₃ at h₃ ⊢
  have h₄ := Run.legs_settle b c s₃.1 s₃.2.2 h₃
  generalize Run.settle b c s₃.1 s₃.2.1 s₃.2.2 = s₄ at h₄ ⊢
  exact Run.legs_settle b c s₄.1 s₄.2.2 h₄

end VectorIndex
