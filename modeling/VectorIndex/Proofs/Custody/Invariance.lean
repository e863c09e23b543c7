import VectorIndex.Proofs.Custody.Ownership

/-!
# Invariants of a history

A history is a nest of a few elementary steps: registering, here or with the other custodian,
releasing one handle or all of them, and the two ends of a conversion.  A property that none of
these steps breaks holds at every boundary of every history (`Custodian.Invariant.boundary`).  The
step that ends a conversion may rely on the slot of the source, which is still marked unless
everything was released in the meantime.
-/

set_option autoImplicit false

namespace VectorIndex

variable {ε σ : Type}

/-- No elementary step breaks a property of a custodian and of the registry of the other one. -/
structure Custodian.Invariant (engine : Engine ε) (P : Registry → Custodian ε σ → Prop) : Prop where
  register : ∀ {foreign c} (native : NativeIndex), P foreign c → P foreign (c.register native).2
  elsewhere : ∀ {foreign c} (native : NativeIndex), P foreign c →
    P (foreign.add native).2 { c with world := c.world.record (.handle .registered) }
  release : ∀ {foreign c} (id : HandleId), P foreign c → P foreign (c.release engine id)
  releaseAll : ∀ {foreign c}, P foreign c → P foreign (c.releaseAll engine).2
  begins : ∀ {foreign c c'} {id : HandleId} {gpu : NativeIndex},
    c.beginTransfer id = .ok (gpu, c') → P foreign c → P foreign c'
  finishes : ∀ {foreign c} {id : HandleId} {s : Slot} (gpu : NativeIndex) (reply : Reply RawHandle),
    c.registry.slot? id = some s → s = .converting gpu ∨ s = .released →
    P foreign c → P foreign (c.finishTransfer engine id gpu reply).2

namespace Custodian.Invariant

variable {engine : Engine ε} {P : Registry → Custodian ε σ → Prop}

/-- To register with another custodian any number of times keeps the property. -/
theorem registerTimes (hP : Invariant engine P) (own : Registry) (native : NativeIndex) (n : Nat)
    (t : Option TrackedIndex) (c : Custodian ε σ) (hc : P c.registry { c with registry := own }) :
    P (Operation.registerTimes native n t c).2.registry
      { registry := own, world := (Operation.registerTimes native n t c).2.world } := by
  induction n generalizing t c with
  | zero => exact hc
  | succ n ih => exact ih _ _ (hP.elsewhere native hc)

/-- What a conversion does to both registries, when what is done during it keeps the property. -/
theorem transfer (hP : Invariant engine P) {h : HistoryState ε σ} (hh : P h.foreign h.custodian)
    (name : String) (derived : Option String) (reply : Reply RawHandle) {during : List Operation}
    (hduring : ∀ inside : HistoryState ε σ, P inside.foreign inside.custodian →
      P (Operation.runAll engine inside during).2.foreign
        (Operation.runAll engine inside during).2.custodian) :
    P (Operation.act engine h (.transfer name derived during reply)).2.2.foreign
      (Operation.act engine h (.transfer name derived during reply)).2.2.custodian := by
  match hl : h.names.lookup name with
  | none =>
    rw [Operation.act, hl]
    exact hh
  | some (_, false) =>
    rw [Operation.act, hl]
    exact hh
  | some (source, true) =>
    cases hb : (h.giveUp name).custodian.beginTransfer source.id with
    | error e =>
      rw [Operation.act]
      simp only [hl, hb]
      exact hh
    | ok p =>
      obtain ⟨gpu, custodian⟩ := p
      have hinside := hduring { h.giveUp name with custodian } (hP.begins hb hh)
      have hslot := (Operation.evolves_runAll engine { h.giveUp name with custodian }
        during).slot_during hb
      have hends := hP.finishes gpu reply hslot (by split <;> simp) hinside
      rw [Operation.custodian_act_transfer engine hl hb]
      rw [Operation.act]
      simp only [hl, hb]
      generalize (Operation.runAll engine _ during).2.custodian.finishTransfer engine source.id gpu
        reply = ended at hends ⊢
      obtain ⟨t | e | m, c⟩ := ended
      · cases derived <;> exact hends
      · exact hends
      · exact hends

/-- A lookup keeps what is kept by what is done during it. -/
theorem lookup {h : HistoryState ε σ} (hh : P h.foreign h.custodian)
    (name : String) {during : List Operation}
    (hduring : P (Operation.runAll engine h during).2.foreign
      (Operation.runAll engine h during).2.custodian) :
    P (Operation.act engine h (.lookup name during)).2.2.foreign
      (Operation.act engine h (.lookup name during)).2.2.custodian := by
  rw [Operation.act]
  split
  · exact hh
  · split
    · exact hh
    · exact hduring

mutual

/-- Every operation keeps the property. -/
theorem run (hP : Invariant engine P) {h : HistoryState ε σ} (hh : P h.foreign h.custodian)
    (o : Operation) :
    P (Operation.run engine h o).2.foreign (Operation.run engine h o).2.custodian := by
  rw [Operation.run_snd]
  match o with
  | .register native name =>
    rw [Operation.act]
    exact hP.register native hh
  | .registerForeign native times name =>
    have htimes := hP.registerTimes h.custodian.registry native times none
      { h.custodian with registry := h.foreign } hh
    rw [Operation.act]
    split
    · next t c hc =>
      rw [hc] at htimes
      exact htimes
    · exact hh
  | .transfer name derived during reply =>
    exact hP.transfer hh name derived reply fun _ hinside => hP.runAll hinside during
  | .lookup name during => exact lookup hh name (hP.runAll hh during)
  | .release name =>
    rw [Operation.act]
    split
    · exact hh
    · exact hP.release _ hh
  | .releaseAll =>
    rw [Operation.act]
    exact hP.releaseAll hh
  | .state _ =>
    rw [Operation.act]
    exact hh
  | .outstanding =>
    rw [Operation.act]
    exact hh
  | .describe =>
    rw [Operation.act]
    exact hh
  | .stats =>
    rw [Operation.act]
    exact hh
  | .drop =>
    rw [Operation.act]
    exact hP.releaseAll hh

/-- A history keeps an invariant. -/
theorem runAll (hP : Invariant engine P) {h : HistoryState ε σ} (hh : P h.foreign h.custodian)
    (os : List Operation) :
    P (Operation.runAll engine h os).2.foreign (Operation.runAll engine h os).2.custodian := by
  match os with
  | [] =>
    rw [Operation.runAll]
    exact hh
  | o :: os =>
    rw [Operation.runAll_cons_snd]
    exact hP.runAll (hP.run hh o) os

end

/-- An invariant holds at every boundary, also inside of what is done during an operation. -/
theorem boundary (hP : Invariant engine P) {h h' : HistoryState ε σ} {os : List Operation}
    {given : List Component} (hb : Operation.Boundary engine h os given h')
    (hh : P h.foreign h.custodian) : P h'.foreign h'.custodian := by
  induction hb with
  | here h os => exact hh
  | later rest ih => exact ih (hP.run hh _)
  | converting claim begun inside ih => exact ih (hP.begins begun hh)
  | looking claim found inside ih => exact ih hh

end Custodian.Invariant

end VectorIndex
