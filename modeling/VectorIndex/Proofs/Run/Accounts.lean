import VectorIndex.Proofs.Custody.Slots
import VectorIndex.Proofs.Run.Outcome

/-!
# What a run does to its account

`Custodian.Grows` says that components were handed to a custodian, that nothing was lost or
freed twice, and that no end of a handle was counted too often.  `Run.grows_advanceTask` and
`Run.Outcome.grows` say that the steps of a run are of this kind.  The one thing that has to
be known for this is that a conversion under way still has its source: `Task.Tracks`.
-/

set_option autoImplicit false

open scoped List

namespace VectorIndex

variable {ε σ : Type}

/-! ## Accounts that grow -/

/-- Components were handed to a custodian, and it still holds them or freed them. -/
structure Custodian.Grows (c : Custodian ε σ) (given : List Component) (c' : Custodian ε σ) :
    Prop where
  log_extends : c.world.log <+: c'.world.log
  account : c'.account ~ c.account ++ given
  overcount : c'.registry.overcount = c.registry.overcount

namespace Custodian

/-- An account can grow in two steps. -/
theorem Grows.trans {c₁ c₂ c₃ : Custodian ε σ} {given given' : List Component}
    (h : c₁.Grows given c₂) (h' : c₂.Grows given' c₃) : c₁.Grows (given ++ given') c₃ where
  log_extends := h.log_extends.trans h'.log_extends
  account := by
    calc c₃.account ~ c₂.account ++ given' := h'.account
      _ ~ c₁.account ++ given ++ given' := h.account.append_right _
      _ = c₁.account ++ (given ++ given') := List.append_assoc ..
  overcount := h'.overcount.trans h.overcount

/-- What frees nothing leaves the account as it is. -/
theorem Grows.of_quiet {w w' : World ε σ} (h : w.Quiet w') (r : Registry) :
    Grows { registry := r, world := w } [] { registry := r, world := w' } := by
  obtain ⟨events, hlog, hfreed⟩ := h
  refine ⟨⟨events, hlog.symm⟩, ?_, rfl⟩
  unfold Custodian.account
  rw [hlog, freedIn_append, hfreed, List.append_nil, List.append_nil]

/-- To register an index puts its components on the account. -/
theorem grows_register (native : NativeIndex) (c : Custodian ε σ) :
    c.Grows native.components (c.register native).2 :=
  ⟨log_extends_register native c, account_register native c, overcount_register native c⟩

/-- To release a handle leaves the account as it is. -/
theorem grows_release (engine : Engine ε) (id : HandleId) (c : Custodian ε σ) :
    c.Grows [] (c.release engine id) :=
  ⟨log_extends_release engine id c, by simpa using account_release engine id c,
    overcount_release engine id c⟩

/-- To release everything leaves the account as it is. -/
theorem grows_releaseAll (engine : Engine ε) (c : Custodian ε σ) :
    c.Grows [] (c.releaseAll engine).2 :=
  ⟨log_extends_releaseAll engine c, by simpa using account_releaseAll engine c,
    overcount_releaseAll engine c⟩

/-- A conversion that begins leaves the account as it is. -/
theorem grows_beginTransfer {id : HandleId} {c c' : Custodian ε σ} {native : NativeIndex}
    (h : c.beginTransfer id = .ok (native, c')) : c.Grows [] c' := by
  refine ⟨?_, by simpa using account_beginTransfer h, overcount_beginTransfer h⟩
  obtain ⟨-, rfl⟩ := beginTransfer_eq_ok h
  exact List.prefix_rfl

/-- A conversion hands over its outputs, as long as its source is still there. -/
theorem grows_finishTransfer (engine : Engine ε) {id : HandleId} {gpu : NativeIndex}
    {c : Custodian ε σ} (h : c.registry.slot? id = some (.converting gpu))
    (reply : Reply RawHandle) :
    c.Grows reply.outputs (c.finishTransfer engine id gpu reply).2 := by
  refine ⟨log_extends_finishTransfer engine id gpu reply c, ?_, ?_⟩
  · cases hr : reply.returns with
    | true =>
      have hfin := account_finishTransfer engine h gpu hr
      exact (List.perm_append_right_iff _).1
        (hfin.trans (append_right_comm_perm c.account gpu.components reply.outputs))
    | false =>
      obtain ⟨hfin, hout⟩ := finishTransfer_of_not_returns engine id gpu hr c
      rw [hfin, hout, List.append_nil]
  · cases hr : reply.returns with
    | true =>
      have hfin := overcount_finishTransfer engine h gpu hr
      simp only [Slot.held?, Option.isSome_some, if_true] at hfin
      omega
    | false => rw [(finishTransfer_of_not_returns engine id gpu hr c).1]

end Custodian

/-! ## Outcomes -/

/-- When a task is over, its index is freed or left alone. -/
theorem Task.grows_discard (engine : Engine ε) (task : Task) (c : Custodian ε σ) :
    c.Grows [] (task.discard engine c) := by
  cases task with
  | persist source => exact c.grows_release engine source.id
  | build dataset => exact .of_quiet (.refl c.world) c.registry
  | convert source => exact .of_quiet (.refl c.world) c.registry

namespace Run

variable {b : Builder ε σ} {r : Run σ} {w : World ε σ} {after : Run σ × World ε σ}

/-- To clean up leaves the account as it is. -/
theorem grows_cleanUp (b : Builder ε σ) (r : Run σ) (w : World ε σ) :
    (r.custodian w).Grows [] ((r.cleanUp b w).1.custodian (r.cleanUp b w).2) := by
  obtain ⟨disk, hclean, -, -⟩ := r.cleanUp_spec b w
  rw [hclean]
  have hquiet : w.Quiet { w with disk } := .of_log_eq rfl
  exact (Custodian.Grows.of_quiet hquiet r.registry).trans
    ((r.custodian { w with disk }).grows_releaseAll b.engine)

/-- The end of a run leaves the account as it is. -/
theorem grows_finish (b : Builder ε σ) (r : Run σ) (w : World ε σ) (result : TaskResult)
    (failedStage : Option Stage) :
    (r.custodian w).Grows [] ((r.finish b result failedStage w).1.custodian
      (r.finish b result failedStage w).2) := by
  rw [finish_eq_cleanUp]
  exact (r.grows_cleanUp b w).trans
    (.of_quiet ((World.Quiet.refl (r.cleanUp b w).2).record rfl) (r.cleanUp b w).1.registry)

/-- A step that leads to an outcome leaves the account as it is. -/
theorem Outcome.grows (h : Outcome b r w after) :
    (r.custodian w).Grows [] (after.1.custodian after.2) := by
  cases h with
  | ends result failedStage quiet =>
    exact (Custodian.Grows.of_quiet quiet r.registry).trans (r.grows_finish b _ result failedStage)
  | enters phase quiet entry => exact .of_quiet quiet r.registry

end Run

/-! ## Tasks -/

/-- The components that a building call hands over: the index, or what a failure left behind. -/
def Reply.built : Reply NativeIndex → List Component
  | .ok native => native.components
  | .failed _ (some native) => native.components
  | .failed _ none => []
  | .panicked _ => []

/-- The components that a failed call leaves behind. -/
def Reply.leftover {α : Type} : Reply α → List Component
  | .failed _ (some native) => native.components
  | _ => []

/-- The components that a building or converting call hands over when it comes back: what it made,
and what it left behind if it failed.  A persisting call makes nothing that a run works with; what
it may leave behind is told by `Task.leavesBehind`. -/
def Task.handsOut (b : Builder ε σ) (setup : Setup σ) (memory : ε) :
    Task → Option NativeIndex → List Component
  | .build dataset, _ => (b.engine.build dataset setup.config memory).1.built
  | .convert _, some gpu => (b.engine.convert gpu setup.config.cpu memory).1.outputs
  | .convert _, none => []
  | .persist _, _ => []

/-- The components that a persisting call leaves behind when it fails.  The engine hands them over
with the failure, but of this failure a run keeps the message only: it does not register them, and
it does not free them. -/
def Task.leavesBehind (b : Builder ε σ) (memory : ε) : Task → Option NativeIndex → List Component
  | .persist _, some cpu => (b.engine.persist cpu memory).1.leftover
  | _, _ => []

/-- What the next step of a task hands over. -/
def Task.stepHandsOut (b : Builder ε σ) (setup : Setup σ) (memory : ε) (task : Task) :
    Progress → List Component
  | .running subject => task.handsOut b setup memory subject
  | _ => []

/-- A conversion under way still has its source. -/
def Task.Tracks (registry : Registry) : Task → Progress → Prop
  | .convert source, .running subject =>
    ∃ gpu, subject = some gpu ∧ registry.slot? source.id = some (.converting gpu)
  | _, _ => True

namespace Run

variable {b : Builder ε σ} {setup : Setup σ} {r : Run σ} {w : World ε σ}

/-- The end of a build puts on the account what the engine has built, or left behind. -/
theorem grows_endBuild (b : Builder ε σ) (setup : Setup σ) (dataset : Dataset) (r : Run σ)
    (w : World ε σ) :
    (r.custodian w).Grows (b.engine.build dataset setup.config w.memory).1.built
      ((r.endBuild b setup dataset w).2.1.custodian (r.endBuild b setup dataset w).2.2) := by
  unfold endBuild
  generalize b.engine.build dataset setup.config w.memory = answer
  obtain ⟨reply, memory⟩ := answer
  dsimp only
  generalize hcall : World.record _ _ = called
  have hquiet : w.Quiet called := hcall ▸ (World.Quiet.of_log_eq rfl).record rfl
  have hcalled := Custodian.Grows.of_quiet hquiet r.registry
  cases reply with
  | ok native => exact hcalled.trans (Custodian.grows_register native (r.custodian called))
  | failed message partialIndex =>
    cases partialIndex with
    | none => exact hcalled
    | some native =>
      have hregister := Custodian.grows_register native (r.custodian called)
      have hrelease := Custodian.grows_release b.engine
        ((r.custodian called).register native).1.id ((r.custodian called).register native).2
      have hboth := (hcalled.trans hregister).trans hrelease
      rw [List.append_nil] at hboth
      exact hboth
  | panicked message => exact hcalled

/-- The end of a conversion puts on the account the copy, or what the engine left behind. -/
theorem grows_endConvert (b : Builder ε σ) (setup : Setup σ) {source : TrackedIndex}
    {gpu : NativeIndex} (h : r.registry.slot? source.id = some (.converting gpu)) (w : World ε σ) :
    (r.custodian w).Grows (b.engine.convert gpu setup.config.cpu w.memory).1.outputs
      ((r.endConvert b setup source gpu w).2.1.custodian
        (r.endConvert b setup source gpu w).2.2) := by
  unfold endConvert
  generalize b.engine.convert gpu setup.config.cpu w.memory = answer
  obtain ⟨reply, memory⟩ := answer
  dsimp only
  generalize hcall : World.record _ _ = called
  have hquiet : w.Quiet called := hcall ▸ (World.Quiet.of_log_eq rfl).record rfl
  exact (Custodian.Grows.of_quiet hquiet r.registry).trans
    (Custodian.grows_finishTransfer b.engine (c := r.custodian called) h reply)

/-- The end of a persisting call puts nothing on the account. -/
theorem grows_endPersist (b : Builder ε σ) (source : TrackedIndex) (cpu : NativeIndex) (r : Run σ)
    (w : World ε σ) :
    (r.custodian w).Grows [] ((r.endPersist b source cpu w).2.1.custodian
      (r.endPersist b source cpu w).2.2) := by
  unfold endPersist
  generalize b.engine.persist cpu w.memory = answer
  obtain ⟨reply, memory⟩ := answer
  dsimp only
  generalize hcall : World.record _ _ = called
  have hquiet : w.Quiet called := hcall ▸ (World.Quiet.of_log_eq rfl).record rfl
  have hcalled := Custodian.Grows.of_quiet hquiet r.registry
  split
  · exact hcalled
  · exact hcalled
  · split
    · exact hcalled
    · split
      · next disk _ =>
        have hwritten : called.Quiet { called with disk } := .of_log_eq rfl
        exact hcalled.trans (.of_quiet hwritten r.registry)
      · exact hcalled

/-- The custodian of a run begins a conversion as its registry does. -/
theorem custodian_beginTransfer (r : Run σ) (w : World ε σ) {id : HandleId} {native : NativeIndex}
    {registry : Registry} (h : r.registry.beginTransfer id = .ok (native, registry)) :
    (r.custodian w).beginTransfer id = .ok (native, { registry, world := w }) := by
  unfold Custodian.beginTransfer custodian
  rw [h]

/-- What the pool does for a task hands over what the engine hands over. -/
theorem grows_advanceTask (b : Builder ε σ) (setup : Setup σ) {task : Task} {progress : Progress}
    (h : task.Tracks r.registry progress) (w : World ε σ) :
    (r.custodian w).Grows (task.stepHandsOut b setup w.memory progress)
      ((r.advanceTask b setup task progress w).2.1.custodian
        (r.advanceTask b setup task progress w).2.2) := by
  cases progress with
  | queued =>
    have hstarted : ∀ call, (r.custodian w).Grows [] (r.custodian (w.record (.callStarted call))) :=
      fun call => .of_quiet ((World.Quiet.refl w).record rfl) r.registry
    cases task with
    | build dataset => exact hstarted _
    | convert source =>
      unfold advanceTask beginTask
      dsimp only
      split
      · exact .of_quiet (.refl w) r.registry
      · next native registry hbegin =>
        exact (Custodian.grows_beginTransfer (r.custodian_beginTransfer w hbegin)).trans
          (.of_quiet ((World.Quiet.refl w).record rfl) registry)
    | persist source =>
      unfold advanceTask beginTask
      dsimp only
      split
      · exact .of_quiet (.refl w) r.registry
      · exact hstarted _
  | running subject =>
    cases task with
    | build dataset => exact r.grows_endBuild b setup dataset w
    | convert source =>
      -- The slot was marked when the call began, and nobody has touched it since.
      obtain ⟨gpu, rfl, hslot⟩ := h
      exact grows_endConvert b setup hslot w
    | persist source =>
      cases subject with
      | none => exact .of_quiet (.refl w) r.registry
      | some cpu => exact r.grows_endPersist b source cpu w
  | returned result => exact .of_quiet (.refl w) r.registry

end Run

end VectorIndex
