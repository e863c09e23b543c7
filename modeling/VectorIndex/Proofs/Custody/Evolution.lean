import VectorIndex.Custody.History
import VectorIndex.Proofs.Custody.Slots

/-!
# How a custodian evolves

`Custodian.Evolves` describes what operations do to a custodian, however deep they are
nested in each other, together with their footprint: the components that were handed over,
the sources that were freed under their conversion and then once more, and whether
everything was released at some point.  Every history is such an evolution
(`Operation.evolves_runAll`), so that what is true of all evolutions is proved by a plain
induction: `Evolves.account`, `Evolves.overcount` and `Evolves.slot_converting`.
-/

set_option autoImplicit false

open scoped List

namespace VectorIndex

variable {ε σ : Type}

/-! ## Footprints -/

/-- What operations leave behind. -/
structure Footprint where
  /-- The components that were handed over. -/
  given : List Component := []
  /-- Sources that were freed under their conversion, and freed once more when it returned. -/
  doubled : List NativeIndex := []
  /-- Whether everything was released at some point. -/
  sweeps : Bool := false

namespace Footprint

/-- The footprint of some operations and then of others. -/
def and (f g : Footprint) : Footprint where
  given := f.given ++ g.given
  doubled := f.doubled ++ g.doubled
  sweeps := f.sweeps || g.sweeps

/-- The footprint of a conversion, given that of what happened during it. -/
def conclude (gpu : NativeIndex) (reply : Reply RawHandle) (f : Footprint) : Footprint where
  given := f.given ++ reply.outputs
  doubled := f.doubled ++ if f.sweeps && reply.returns then [gpu] else []
  sweeps := f.sweeps

/-- The components that were freed twice. -/
def excess (f : Footprint) : List Component :=
  f.doubled.flatMap NativeIndex.components

/-- A conversion hands over its outputs besides what was handed over during it. -/
theorem given_conclude (gpu : NativeIndex) (reply : Reply RawHandle) (f : Footprint) :
    (f.conclude gpu reply).given = f.given ++ reply.outputs :=
  rfl

/-- A conversion that returns after a sweep frees the components of its source for the second
time. -/
theorem excess_conclude (gpu : NativeIndex) (reply : Reply RawHandle) (f : Footprint) :
    (f.conclude gpu reply).excess =
      f.excess ++ if f.sweeps && reply.returns then gpu.components else [] := by
  unfold excess conclude
  rw [List.flatMap_append]
  split <;> simp

end Footprint

namespace Operation

mutual

/-- The footprint of an operation that is done in a state. -/
def footprint (engine : Engine ε) (h : HistoryState ε σ) : Operation → Footprint
  | .register native _ => { given := native.components }
  | .transfer name _ during reply =>
    match h.names.lookup name with
    | none | some (_, false) => {}
    | some (source, true) =>
      match (h.giveUp name).custodian.beginTransfer source.id with
      | .error _ => {}
      | .ok (gpu, custodian) =>
        (footprintAll engine { h.giveUp name with custodian } during).conclude gpu reply
  | .lookup name during =>
    match h.names.lookup name with
    | none => {}
    | some (t, _) =>
      match h.custodian.registry.lookup t.id with
      | .error _ => {}
      | .ok _ => footprintAll engine h during
  | .releaseAll => { sweeps := true }
  | .drop => { sweeps := true }
  | .registerForeign .. => {}
  | .release _ => {}
  | .state _ => {}
  | .outstanding => {}
  | .describe => {}
  | .stats => {}

/-- The footprint of operations that are done one after the other. -/
def footprintAll (engine : Engine ε) (h : HistoryState ε σ) : List Operation → Footprint
  | [] => {}
  | o :: os => (footprint engine h o).and (footprintAll engine (run engine h o).2 os)

end

end Operation

/-! ## Slots -/

/-- What may become of a slot while operations are done: that of a live handle is free to change,
that of a conversion under way is emptied when everything is released, and all others stay. -/
def Slot.Kept (sweeps : Bool) : Slot → Slot → Prop
  | .live _, _ => True
  | .converting native, s => s = if sweeps then .released else .converting native
  | .transferred into, s => s = .transferred into
  | .released, s => s = .released

/-- A slot that stays the same is kept. -/
theorem Slot.kept_refl (s : Slot) : s.Kept false s := by
  cases s <;> first | exact trivial | rfl

/-- Slots can be kept twice. -/
theorem Slot.Kept.trans {a b : Bool} {s t u : Slot} (hs : s.Kept a t) (ht : t.Kept b u) :
    s.Kept (a || b) u := by
  cases s with
  | live _ => exact trivial
  | converting native =>
    cases hs
    cases a <;> exact ht
  | transferred into =>
    cases hs
    exact ht
  | released =>
    cases hs
    exact ht

/-! ## Evolutions -/

/-- What operations make of a custodian. -/
inductive Custodian.Evolves (engine : Engine ε) :
    Custodian ε σ → Footprint → Custodian ε σ → Prop where
  | refl (c : Custodian ε σ) : Evolves engine c {} c
  /-- Another custodian registered indexes. -/
  | elsewhere (c : Custodian ε σ) (n : Nat) :
    Evolves engine c {}
      { c with world := c.world.recordAll (List.replicate n (.handle .registered)) }
  | register (c : Custodian ε σ) (native : NativeIndex) :
    Evolves engine c { given := native.components } (c.register native).2
  | release (c : Custodian ε σ) (id : HandleId) : Evolves engine c {} (c.release engine id)
  | releaseAll (c : Custodian ε σ) : Evolves engine c { sweeps := true } (c.releaseAll engine).2
  /-- The first and the third custodian are those before the conversion and after what happened
  during it. -/
  | transfer {c c₁ c₂ : Custodian ε σ} {id : HandleId} {gpu : NativeIndex} {f : Footprint}
    (reply : Reply RawHandle) (begun : c.beginTransfer id = .ok (gpu, c₁))
    (during : Evolves engine c₁ f c₂) :
    Evolves engine c (f.conclude gpu reply) (c₂.finishTransfer engine id gpu reply).2
  | trans {c c₁ c₂ : Custodian ε σ} {f g : Footprint} (first : Evolves engine c f c₁)
    (second : Evolves engine c₁ g c₂) : Evolves engine c (f.and g) c₂

namespace Operation

/-- Registering with another custodian is seen in the log only. -/
theorem registerTimes_world (native : NativeIndex) (n : Nat) (t : Option TrackedIndex)
    (c : Custodian ε σ) : (registerTimes native n t c).2.world =
      c.world.recordAll (List.replicate n (.handle .registered)) := by
  induction n generalizing t c with
  | zero => simp [registerTimes, World.recordAll]
  | succ n ih =>
    rw [registerTimes, ih]
    simp [Custodian.register, World.record, World.recordAll, List.replicate_succ]

/-- A conversion that begins ends in the state that it makes of what happened during it. -/
theorem custodian_act_transfer (engine : Engine ε) {h : HistoryState ε σ} {name : String}
    {source : TrackedIndex} {gpu : NativeIndex} {custodian : Custodian ε σ}
    (hl : h.names.lookup name = some (source, true))
    (hb : (h.giveUp name).custodian.beginTransfer source.id = .ok (gpu, custodian))
    (derived : Option String) (during : List Operation) (reply : Reply RawHandle) :
    (act engine h (.transfer name derived during reply)).2.2.custodian =
      ((runAll engine { h.giveUp name with custodian } during).2.custodian.finishTransfer engine
        source.id gpu reply).2 := by
  rw [act]
  simp only [hl, hb]
  generalize (runAll engine _ during).2.custodian.finishTransfer engine source.id gpu reply = ended
  obtain ⟨t | e | m, c⟩ := ended
  · cases derived <;> rfl
  · rfl
  · rfl

/-- The state after an operation is what the operation itself leaves. -/
theorem run_snd (engine : Engine ε) (h : HistoryState ε σ) (o : Operation) :
    (run engine h o).2 = (act engine h o).2.2 := by
  rw [run]
  split
  · next ha => rw [ha]
  · next ha => rw [ha]

/-- Operations are done one after the other. -/
theorem runAll_cons_snd (engine : Engine ε) (h : HistoryState ε σ) (o : Operation)
    (os : List Operation) :
    (runAll engine h (o :: os)).2 = (runAll engine (run engine h o).2 os).2 := by
  rw [runAll]

open Custodian (Evolves)

section nested

variable {engine : Engine ε} {during : List Operation}

/-- A conversion is an evolution, when what is done during it is one. -/
theorem evolves_transfer (h : HistoryState ε σ) (name : String) (derived : Option String)
    (reply : Reply RawHandle)
    (hduring : ∀ inside : HistoryState ε σ, Evolves engine inside.custodian
      (footprintAll engine inside during) (runAll engine inside during).2.custodian) :
    Evolves engine h.custodian (footprint engine h (.transfer name derived during reply))
      (act engine h (.transfer name derived during reply)).2.2.custodian := by
  match hl : h.names.lookup name with
  | none =>
    rw [footprint, act, hl]
    exact .refl _
  | some (_, false) =>
    rw [footprint, act, hl]
    exact .refl _
  | some (source, true) =>
    cases hb : (h.giveUp name).custodian.beginTransfer source.id with
    | error e =>
      rw [footprint, act]
      simp only [hl, hb]
      exact .refl _
    | ok p =>
      obtain ⟨gpu, custodian⟩ := p
      rw [custodian_act_transfer engine hl hb, footprint]
      simp only [hl, hb]
      exact .transfer reply hb (hduring { h.giveUp name with custodian })

/-- A lookup evolves as what is done during it. -/
theorem evolves_lookup (h : HistoryState ε σ) (name : String)
    (hduring : ∀ inside : HistoryState ε σ, Evolves engine inside.custodian
      (footprintAll engine inside during) (runAll engine inside during).2.custodian) :
    Evolves engine h.custodian (footprint engine h (.lookup name during))
      (act engine h (.lookup name during)).2.2.custodian := by
  match hl : h.names.lookup name with
  | none =>
    rw [footprint, act, hl]
    exact .refl _
  | some (t, _) =>
    cases hn : h.custodian.registry.lookup t.id with
    | error e =>
      rw [footprint, act]
      simp only [hl, hn]
      exact .refl _
    | ok native =>
      rw [footprint, act]
      simp only [hl, hn]
      exact hduring h

end nested

-- The induction follows the nesting: a conversion or a look-up contains a shorter history.
mutual

/-- Every operation is an evolution with its footprint. -/
theorem evolves_run (engine : Engine ε) (h : HistoryState ε σ) (o : Operation) :
    Evolves engine h.custodian (footprint engine h o) (run engine h o).2.custodian := by
  rw [run_snd]
  match o with
  | .register native name =>
    rw [footprint, act]
    exact .register _ _
  | .registerForeign native times name =>
    rw [footprint, act]
    split
    · next t c hc =>
      have hw := registerTimes_world native times none { h.custodian with registry := h.foreign }
      rw [hc] at hw
      change Evolves engine h.custodian {} { h.custodian with world := c.world }
      rw [show c.world = _ from hw]
      exact .elsewhere _ _
    · exact .refl _
  | .transfer name derived during reply =>
    exact evolves_transfer h name derived reply fun inside => evolves_runAll engine inside during
  | .lookup name during =>
    exact evolves_lookup h name fun inside => evolves_runAll engine inside during
  | .release name =>
    rw [footprint, act]
    split
    · exact .refl _
    · exact .release _ _
  | .releaseAll =>
    rw [footprint, act]
    exact .releaseAll _
  | .state name =>
    rw [footprint, act]
    exact .refl _
  | .outstanding =>
    rw [footprint, act]
    exact .refl _
  | .describe =>
    rw [footprint, act]
    exact .refl _
  | .stats =>
    rw [footprint, act]
    exact .refl _
  | .drop =>
    rw [footprint, act]
    exact .releaseAll _

/-- A history is an evolution. -/
theorem evolves_runAll (engine : Engine ε) (h : HistoryState ε σ) (os : List Operation) :
    Evolves engine h.custodian (footprintAll engine h os) (runAll engine h os).2.custodian := by
  match os with
  | [] =>
    rw [footprintAll, runAll]
    exact .refl _
  | o :: os =>
    rw [footprintAll, runAll_cons_snd]
    exact .trans (evolves_run engine h o) (evolves_runAll engine (run engine h o).2 os)

end

end Operation

/-! ## What all evolutions have in common -/

namespace Custodian.Evolves

variable {engine : Engine ε} {c c' : Custodian ε σ} {f : Footprint}

/-- Evolutions only add to the log. -/
theorem log_extends (h : Evolves engine c f c') : c.world.log <+: c'.world.log := by
  induction h with
  | refl c => exact List.prefix_rfl
  | elsewhere c n => exact List.prefix_append _ _
  | register c native => exact log_extends_register native c
  | release c id => exact log_extends_release engine id c
  | releaseAll c => exact log_extends_releaseAll engine c
  | transfer reply begun _ ih =>
    obtain ⟨-, rfl⟩ := beginTransfer_eq_ok begun
    exact ih.trans (log_extends_finishTransfer engine _ _ reply _)
  | trans _ _ ih₁ ih₂ => exact ih₁.trans ih₂

/-- Slots that are not live stay as they are, except that a conversion under way loses its source
when everything is released. -/
theorem slot_kept (h : Evolves engine c f c') {id : HandleId} {s : Slot}
    (hs : c.registry.slot? id = some s) :
    ∃ s', c'.registry.slot? id = some s' ∧ s.Kept f.sweeps s' := by
  induction h generalizing id s with
  | refl c => exact ⟨s, hs, s.kept_refl⟩
  | elsewhere c n => exact ⟨s, hs, s.kept_refl⟩
  | register c native => exact ⟨s, slot_register hs native, s.kept_refl⟩
  | release c other =>
    by_cases hlive : ∃ native, s = .live native
    · obtain ⟨native, rfl⟩ := hlive
      obtain ⟨s', hs'⟩ := exists_slot_release engine hs other
      exact ⟨s', hs', trivial⟩
    · exact ⟨s, slot_release_of_not_live engine hs (fun n hn => hlive ⟨n, hn⟩) other, s.kept_refl⟩
  | releaseAll c =>
    exact ⟨_, slot_releaseAll engine hs, by cases s <;> first | exact trivial | exact rfl⟩
  | @transfer c c₁ c₂ source gpu f reply begun _ ih =>
    obtain ⟨hlive, rfl⟩ := beginTransfer_eq_ok begun
    obtain ⟨t, ht, -⟩ := ih (Registry.slot_setSlot_self hlive _)
    by_cases hid : id = source
    · subst hid
      obtain rfl : s = .live gpu := Option.some.inj (hs.symm.trans hlive)
      exact ⟨_, slot_finishTransfer_self engine ht gpu reply, trivial⟩
    · obtain ⟨s', hs', hkept⟩ := ih ((c.registry.slot_setSlot_ne hid _).trans hs)
      exact ⟨s', slot_finishTransfer_ne engine hs' ht hid gpu reply, hkept⟩
  | trans _ _ ih₁ ih₂ =>
    obtain ⟨s₁, hs₁, hkept₁⟩ := ih₁ hs
    obtain ⟨s₂, hs₂, hkept₂⟩ := ih₂ hs₁
    exact ⟨s₂, hs₂, hkept₁.trans hkept₂⟩

/-- During a conversion its source stays marked, unless everything is released. -/
theorem slot_converting (h : Evolves engine c f c') {id : HandleId} {native : NativeIndex}
    (hs : c.registry.slot? id = some (.converting native)) :
    c'.registry.slot? id = some (if f.sweeps then .released else .converting native) := by
  obtain ⟨s', hs', rfl⟩ := h.slot_kept hs
  exact hs'

/-- After what happened during a conversion, the slot of its source. -/
theorem slot_during {c₁ : Custodian ε σ} {id : HandleId} {gpu : NativeIndex}
    (begun : c.beginTransfer id = .ok (gpu, c₁)) (during : Evolves engine c₁ f c') :
    c'.registry.slot? id = some (if f.sweeps then .released else .converting gpu) := by
  obtain ⟨hlive, rfl⟩ := beginTransfer_eq_ok begun
  exact during.slot_converting (Registry.slot_setSlot_self hlive _)

/-- A source is freed twice only when everything was released under its conversion. -/
theorem doubled_of_not_sweeps (h : Evolves engine c f c') (hf : f.sweeps = false) :
    f.doubled = [] := by
  induction h with
  | @transfer _ _ _ _ gpu f reply _ _ ih =>
    have hinside : f.sweeps = false := hf
    rw [Footprint.conclude, ih hinside, hinside]
    rfl
  | trans _ _ ih₁ ih₂ =>
    obtain ⟨hf₁, hf₂⟩ := Bool.or_eq_false_iff.1 hf
    rw [Footprint.and, ih₁ hf₁, ih₂ hf₂]
    rfl
  | _ => rfl

/-- The account grows by what is handed over, and by what is freed for the second time. -/
theorem account (h : Evolves engine c f c') : c'.account ~ c.account ++ f.given ++ f.excess := by
  induction h with
  | refl c => simp [Footprint.excess]
  | elsewhere c n =>
    have hlog : freedIn (List.replicate n (.handle .registered)) = [] := by
      simp [freedIn, List.filterMap_replicate, Event.freed?]
    simp [Custodian.account, World.recordAll, freedIn_append, hlog, Footprint.excess]
  | register c native => simpa [Footprint.excess] using account_register native c
  | release c id => simpa [Footprint.excess] using account_release engine id c
  | releaseAll c => simpa [Footprint.excess] using account_releaseAll engine c
  | @transfer c c₁ c₂ source gpu f reply begun during ih =>
    have hbefore : c₂.account ~ c.account ++ f.given ++ f.excess :=
      ih.trans (((account_beginTransfer begun).append_right _).append_right _)
    cases hr : reply.returns with
    | false =>
      obtain ⟨hfin, hout⟩ := finishTransfer_of_not_returns engine source gpu hr c₂
      rw [hfin, f.given_conclude, hout, f.excess_conclude, hr, Bool.and_false, List.append_nil]
      simpa using hbefore
    | true =>
      have hfin := account_finishTransfer engine (slot_during begun during) gpu hr
      rw [f.given_conclude, f.excess_conclude, hr, Bool.and_true]
      cases hsw : f.sweeps with
      | true =>
        simp only [hsw, if_true, Slot.components, List.append_nil] at hfin ⊢
        calc _ ~ c₂.account ++ gpu.components ++ reply.outputs := hfin
          _ ~ c₂.account ++ reply.outputs ++ gpu.components := append_right_comm_perm ..
          _ ~ c.account ++ f.given ++ f.excess ++ reply.outputs ++ gpu.components :=
            (hbefore.append_right _).append_right _
          _ ~ c.account ++ f.given ++ reply.outputs ++ f.excess ++ gpu.components :=
            (append_right_comm_perm ..).append_right _
          _ = c.account ++ (f.given ++ reply.outputs) ++ (f.excess ++ gpu.components) := by
            simp only [List.append_assoc]
      | false =>
        simp only [hsw, Bool.false_eq_true, if_false, Slot.components, List.append_nil] at hfin ⊢
        -- The source was held until the end, so its components cancel.
        have hcancel := (List.perm_append_right_iff _).1
          (hfin.trans (append_right_comm_perm c₂.account gpu.components reply.outputs))
        calc _ ~ c₂.account ++ reply.outputs := hcancel
          _ ~ c.account ++ f.given ++ f.excess ++ reply.outputs := hbefore.append_right _
          _ ~ c.account ++ f.given ++ reply.outputs ++ f.excess := append_right_comm_perm ..
          _ = c.account ++ (f.given ++ reply.outputs) ++ f.excess := by
            simp only [List.append_assoc]
  | @trans c c₁ c₂ f g _ _ ih₁ ih₂ =>
    calc c₂.account ~ c₁.account ++ g.given ++ g.excess := ih₂
      _ ~ c.account ++ f.given ++ f.excess ++ g.given ++ g.excess :=
        (ih₁.append_right _).append_right _
      _ ~ c.account ++ f.given ++ g.given ++ f.excess ++ g.excess :=
        (append_right_comm_perm ..).append_right _
      _ = c.account ++ (f.and g).given ++ (f.and g).excess := by
        simp [Footprint.and, Footprint.excess]

/-- The ends of the sources that were freed under their conversion are counted too often, and no
others. -/
theorem overcount (h : Evolves engine c f c') :
    c'.registry.overcount = c.registry.overcount + f.doubled.length := by
  induction h with
  | refl c => simp
  | elsewhere c n => simp
  | register c native => simpa using overcount_register native c
  | release c id => simpa using overcount_release engine id c
  | releaseAll c => simpa using overcount_releaseAll engine c
  | @transfer c c₁ c₂ source gpu f reply begun during ih =>
    have hbefore := overcount_beginTransfer begun
    cases hr : reply.returns with
    | false =>
      obtain ⟨hfin, -⟩ := finishTransfer_of_not_returns engine source gpu hr c₂
      rw [hfin, ih, hbefore]
      simp [Footprint.conclude, hr]
    | true =>
      have hfin := overcount_finishTransfer engine (slot_during begun during) gpu hr
      cases hsw : f.sweeps <;>
        simp [hsw, Slot.held?, Footprint.conclude, hr] at hfin ⊢ <;> omega
  | @trans c c₁ c₂ f g _ _ ih₁ ih₂ =>
    rw [ih₂, ih₁, Footprint.and, List.length_append]
    omega

end Custodian.Evolves

end VectorIndex
