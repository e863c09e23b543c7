import VectorIndex.Proofs.Custody.Account

/-!
# Errands

An errand is an operation on a custodian whose indexes come from an engine: an index is built and
then registered, and the closure of a transfer converts the index that it is given once, whatever
else it does before and after.  What only reads is left out.

`Engine.watched` is an engine that notes in what state every request to free something has left its
memory.  Errands are run with it as with the engine itself (`Errand.forget_runAll`).
-/

set_option autoImplicit false

namespace VectorIndex

variable {ε σ : Type}

/-- The same engine, which also notes every state in which a request to free something has left its
memory. -/
def Engine.watched (inner : Engine ε) : Engine (ε × List ε) where
  kind := inner.kind
  build dataset config m :=
    let (reply, memory) := inner.build dataset config m.1
    (reply, memory, m.2)
  convert gpu config m :=
    let (reply, memory) := inner.convert gpu config m.1
    (reply, memory, m.2)
  persist cpu m :=
    let (reply, memory) := inner.persist cpu m.1
    (reply, memory, m.2)
  release raw kind m :=
    let (refusal, memory) := inner.release raw kind m.1
    (refusal, memory, m.2 ++ [memory])

/-- An engine that is watched builds as ever, and nothing is noted. -/
@[simp]
theorem Engine.build_watched (inner : Engine ε) (dataset : Dataset) (config : BuildConfig)
    (m : ε × List ε) : inner.watched.build dataset config m =
      ((inner.build dataset config m.1).1, (inner.build dataset config m.1).2, m.2) :=
  rfl

/-- An engine that is watched converts as ever, and nothing is noted. -/
@[simp]
theorem Engine.convert_watched (inner : Engine ε) (gpu : NativeIndex) (config : SearchConfig)
    (m : ε × List ε) : inner.watched.convert gpu config m =
      ((inner.convert gpu config m.1).1, (inner.convert gpu config m.1).2, m.2) :=
  rfl

/-! ## Errands -/

/-- What the closure of a transfer makes of the answer of the engine. -/
inductive Verdict where
  | asAnswered
  /-- A failure, with the copy as what is left over. -/
  | failing (message : String)
  | panicking (message : String)

/-- The answer of the closure. -/
def Verdict.on : Verdict → Reply RawHandle → Reply RawHandle
  | .asAnswered, reply => reply
  | .failing message, .ok raw => .failed message (some (.cpu raw none))
  | .failing message, .failed _ partialIndex => .failed message partialIndex
  | .failing _, .panicked message => .panicked message
  | .panicking message, _ => .panicked message

/-- An operation on a custodian, with the calls of the engine that belong to it. -/
inductive Errand where
  /-- Builds an index, which then waits to be registered. -/
  | build (dataset : Dataset) (config : BuildConfig)
  /-- Registers one of the indexes that wait. -/
  | register (which : Nat)
  | lookup (id : HandleId) (during : List Errand)
  /-- Converts an index once, between other errands. -/
  | transfer (id : HandleId) (before : List Errand) (config : SearchConfig) (after : List Errand)
    (verdict : Verdict)
  | release (id : HandleId)
  | releaseAll

/-- A custodian, and the indexes that were built and wait to be registered. -/
structure Harbour (ε σ : Type) where
  custodian : Custodian ε σ
  waiting : List NativeIndex := []

/-- The harbour after a call of the engine. -/
def Harbour.remember (s : Harbour ε σ) (memory : ε) : Harbour ε σ :=
  { s with custodian := { s.custodian with world := { s.custodian.world with memory } } }

namespace Errand

mutual

/-- Does one errand. -/
def run (engine : Engine ε) (s : Harbour ε σ) : Errand → Harbour ε σ
  | .build dataset config =>
    match engine.build dataset config s.custodian.world.memory with
    | (.ok native, memory) => { s.remember memory with waiting := native :: s.waiting }
    | (_, memory) => s.remember memory
  | .register which =>
    match s.waiting[which]? with
    | none => s
    | some native =>
      { custodian := (s.custodian.register native).2, waiting := s.waiting.eraseIdx which }
  | .lookup id during =>
    match s.custodian.registry.lookup id with
    | .error _ => s
    | .ok _ => runAll engine s during
  | .transfer id before config after verdict =>
    match s.custodian.beginTransfer id with
    | .error _ => s
    | .ok (gpu, custodian) =>
      let s := runAll engine { s with custodian } before
      let (reply, memory) := engine.convert gpu config s.custodian.world.memory
      let s := runAll engine (s.remember memory) after
      { s with custodian := (s.custodian.finishTransfer engine id gpu (verdict.on reply)).2 }
  | .release id => { s with custodian := s.custodian.release engine id }
  | .releaseAll => { s with custodian := (s.custodian.releaseAll engine).2 }

/-- Does errands one after the other. -/
def runAll (engine : Engine ε) (s : Harbour ε σ) : List Errand → Harbour ε σ
  | [] => s
  | e :: es => runAll engine (run engine s e) es

end

/-- A transfer that begins is what is done before the call, the call, what is done after it, and the
end of the transfer. -/
theorem run_transfer (engine : Engine ε) {s : Harbour ε σ} {id : HandleId} {gpu : NativeIndex}
    {c : Custodian ε σ} {before after : List Errand} {config : SearchConfig} {verdict : Verdict}
    {reply : Reply RawHandle} {memory : ε} (hbegun : s.custodian.beginTransfer id = .ok (gpu, c))
    (hconvert : engine.convert gpu config
      (runAll engine { s with custodian := c } before).custodian.world.memory = (reply, memory)) :
    run engine s (.transfer id before config after verdict) =
      let s := runAll engine { s with custodian := c } before
      let s := runAll engine (s.remember memory) after
      { s with custodian := (s.custodian.finishTransfer engine id gpu (verdict.on reply)).2 } := by
  rw [run]
  simp only [hbegun, hconvert]

end Errand

/-! ## Watching -/

/-- The same world, without what was noted about the engine. -/
def World.forget (w : World (ε × List ε) σ) : World ε σ :=
  { w with memory := w.memory.1 }

namespace Custodian

variable (engine : Engine ε)

/-- The same custodian, without what was noted about the engine. -/
def forget (c : Custodian (ε × List ε) σ) : Custodian ε σ where
  registry := c.registry
  world := c.world.forget

/-- Components are freed in the same way when the engine is watched. -/
theorem forget_freeAll (xs : List Component) (c : Custodian (ε × List ε) σ) :
    (c.freeAll engine.watched xs).forget = c.forget.freeAll engine xs := by
  induction xs generalizing c with
  | nil => rfl
  | cons x xs ih =>
    have hrefusal : (c.forget.world.free engine x.1 x.2).1 =
        (c.world.free engine.watched x.1 x.2).1 := rfl
    have hworld : (c.forget.world.free engine x.1 x.2).2 =
        (c.world.free engine.watched x.1 x.2).2.forget := by
      unfold World.free Engine.watched World.forget
      dsimp only [forget, World.forget]
      split <;> rfl
    rw [freeAll_cons, freeAll_cons, ih, hrefusal, hworld]
    rfl

/-- A handle is released in the same way when the engine is watched. -/
theorem forget_release (id : HandleId) (c : Custodian (ε × List ε) σ) :
    (c.release engine.watched id).forget = c.forget.release engine id := by
  have hregistry : c.forget.registry = c.registry := rfl
  unfold release
  rw [hregistry]
  cases c.registry.retire id with
  | none => rfl
  | some p => exact forget_freeAll engine _ _

/-- Indexes are swept in the same way when the engine is watched. -/
theorem forget_releaseAll_go (natives : List NativeIndex) (c : Custodian (ε × List ε) σ) :
    (releaseAll.go engine.watched natives c).forget = releaseAll.go engine natives c.forget := by
  induction natives generalizing c with
  | nil => rfl
  | cons native natives ih =>
    rw [releaseAll.go, releaseAll.go, ih, forget_freeAll]
    rfl

/-- A conversion begins in the same way when the engine is watched. -/
theorem forget_beginTransfer (id : HandleId) (c : Custodian (ε × List ε) σ) :
    c.forget.beginTransfer id =
      (c.beginTransfer id).map fun begun => (begun.1, begun.2.forget) := by
  unfold beginTransfer forget
  dsimp only
  cases c.registry.beginTransfer id <;> rfl

/-- A conversion ends in the same way when the engine is watched. -/
theorem forget_finishTransfer (id : HandleId) (gpu : NativeIndex) (reply : Reply RawHandle)
    (c : Custodian (ε × List ε) σ) :
    (c.finishTransfer engine.watched id gpu reply).2.forget =
      (c.forget.finishTransfer engine id gpu reply).2 := by
  match reply with
  | .ok raw => exact forget_freeAll engine _ _
  | .failed message none => exact forget_freeAll engine _ _
  | .failed message (some native) =>
    have hsource : (freeAll engine.watched gpu.components (c.settle id none)).forget =
        freeAll engine gpu.components (c.forget.settle id none) := forget_freeAll engine _ _
    change _ = ((freeAll engine gpu.components (c.forget.settle id none)).register native).2.release
      engine ((freeAll engine gpu.components (c.forget.settle id none)).register native).1.id
    rw [← hsource]
    exact forget_release engine _ _
  | .panicked message => rfl

end Custodian

/-- The same harbour, without what was noted about the engine. -/
def Harbour.forget (s : Harbour (ε × List ε) σ) : Harbour ε σ where
  custodian := s.custodian.forget
  waiting := s.waiting

/-- Without the notes the memory is that of the engine itself. -/
@[simp]
theorem Harbour.memory_forget (s : Harbour (ε × List ε) σ) :
    s.forget.custodian.world.memory = s.custodian.world.memory.1 :=
  rfl

/-- The same indexes wait in a harbour without the notes. -/
@[simp]
theorem Harbour.waiting_forget (s : Harbour (ε × List ε) σ) : s.forget.waiting = s.waiting :=
  rfl

/-- The registry is the same without the notes. -/
@[simp]
theorem Harbour.registry_forget (s : Harbour (ε × List ε) σ) :
    s.forget.custodian.registry = s.custodian.registry :=
  rfl

/-- To write back a state of the engine and to forget the notes can change places. -/
@[simp]
theorem Harbour.forget_remember (s : Harbour (ε × List ε) σ) (m : ε × List ε) :
    (s.remember m).forget = s.forget.remember m.1 :=
  rfl

namespace Errand

mutual

/-- An errand does the same when the engine is watched. -/
theorem forget_run (engine : Engine ε) (s : Harbour (ε × List ε) σ) (e : Errand) :
    (run engine.watched s e).forget = run engine s.forget e := by
  match e with
  | .build dataset config =>
    rw [run, run, Engine.build_watched, s.memory_forget]
    generalize engine.build dataset config s.custodian.world.memory.1 = answer
    obtain ⟨reply, memory⟩ := answer
    cases reply <;> rfl
  | .register which =>
    rw [run, run, s.waiting_forget]
    cases s.waiting[which]? <;> rfl
  | .lookup id during =>
    rw [run, run, s.registry_forget]
    cases s.custodian.registry.lookup id with
    | error e => rfl
    | ok native => exact forget_runAll engine s during
  | .transfer id before config after verdict =>
    have hforget : s.forget.custodian.beginTransfer id = _ := s.custodian.forget_beginTransfer id
    cases hbegun : s.custodian.beginTransfer id with
    | error e =>
      rw [hbegun] at hforget
      rw [run, run, hbegun, hforget]
      rfl
    | ok p =>
      obtain ⟨gpu, c⟩ := p
      rw [hbegun] at hforget
      rw [run_transfer engine.watched hbegun (Engine.convert_watched ..),
        run_transfer engine hforget rfl]
      have hbefore : runAll engine { s.forget with custodian := c.forget } before =
          (runAll engine.watched { s with custodian := c } before).forget :=
        (forget_runAll engine { s with custodian := c } before).symm
      rw [hbefore]
      generalize runAll engine.watched { s with custodian := c } before = s₁
      have hafter := forget_runAll engine (s₁.remember
        ((engine.convert gpu config s₁.custodian.world.memory.1).2, s₁.custodian.world.memory.2))
        after
      rw [Harbour.forget_remember] at hafter
      refine (congrArg (fun c => Harbour.mk c _)
        (Custodian.forget_finishTransfer engine id gpu _ _)).trans ?_
      dsimp only [Harbour.memory_forget]
      rw [← hafter]
      rfl
  | .release id =>
    rw [run, run]
    exact congrArg (fun c => Harbour.mk c s.waiting)
      (Custodian.forget_release engine id s.custodian)
  | .releaseAll =>
    rw [run, run]
    exact congrArg (fun c => Harbour.mk c s.waiting)
      (Custodian.forget_releaseAll_go engine
        (s.custodian.world.sweep.arrange s.custodian.registry.slots)
        { s.custodian with registry := s.custodian.registry.retireAll })

/-- An engine does the same when it is watched. -/
theorem forget_runAll (engine : Engine ε) (s : Harbour (ε × List ε) σ) (es : List Errand) :
    (runAll engine.watched s es).forget = runAll engine s.forget es := by
  match es with
  | [] => rw [runAll, runAll]
  | e :: es => rw [runAll, runAll, forget_runAll engine _ es, forget_run engine s e]

end

end Errand

end VectorIndex
