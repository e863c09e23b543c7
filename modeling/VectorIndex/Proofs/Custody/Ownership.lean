import Mathlib
import VectorIndex.Engine.Arena
import VectorIndex.Proofs.Custody.Evolution

/-!
# Every component has one owner

A history is orderly when nothing in it releases everything while a conversion is under
way.  A boundary of a history is a point before, between or after its operations, also of
those that are done inside of others.  At every boundary of an orderly history a component
that was handed over is either held by one slot and was never freed, or it is held by none
and was freed once; and when the custodian is given up everything was freed once.
-/

set_option autoImplicit false

open scoped List

namespace VectorIndex

variable {ε σ : Type}

namespace Operation

/-! ## Orderly histories -/

mutual

/-- Whether an operation does not release everything, at any depth. -/
def sparing : Operation → Bool
  | .transfer _ _ during _ => sparingAll during
  | .lookup _ during => sparingAll during
  | .releaseAll => false
  | .drop => false
  | .register .. => true
  | .registerForeign .. => true
  | .release _ => true
  | .state _ => true
  | .outstanding => true
  | .describe => true
  | .stats => true

/-- Whether no operation releases everything. -/
def sparingAll : List Operation → Bool
  | [] => true
  | o :: os => sparing o && sparingAll os

end

mutual

/-- Whether everything is released only while no conversion is under way. -/
def orderly : Operation → Bool
  | .transfer _ _ during _ => sparingAll during
  | .lookup _ during => orderlyAll during
  | .register .. => true
  | .registerForeign .. => true
  | .release _ => true
  | .releaseAll => true
  | .state _ => true
  | .outstanding => true
  | .describe => true
  | .stats => true
  | .drop => true

/-- Whether all operations are orderly. -/
def orderlyAll : List Operation → Bool
  | [] => true
  | o :: os => orderly o && orderlyAll os

end

mutual

/-- Operations that release not everything are orderly. -/
theorem orderly_of_sparing {o : Operation} (h : sparing o = true) : orderly o = true := by
  match o with
  | .transfer _ _ during _ => exact h
  | .lookup _ during => exact orderlyAll_of_sparingAll h
  | .register .. => rfl
  | .registerForeign .. => rfl
  | .release _ => rfl
  | .releaseAll => rfl
  | .state _ => rfl
  | .outstanding => rfl
  | .describe => rfl
  | .stats => rfl
  | .drop => rfl

/-- What is done while everything is spared is orderly. -/
theorem orderlyAll_of_sparingAll {os : List Operation} (h : sparingAll os = true) :
    orderlyAll os = true := by
  match os with
  | [] => rfl
  | o :: os =>
    obtain ⟨ho, hos⟩ := Bool.and_eq_true_iff.1 h
    exact Bool.and_eq_true_iff.2 ⟨orderly_of_sparing ho, orderlyAll_of_sparingAll hos⟩

end

mutual

/-- What does not release everything leaves no trace of such a release. -/
theorem sweeps_footprint (engine : Engine ε) (h : HistoryState ε σ) {o : Operation}
    (ho : sparing o = true) : (footprint engine h o).sweeps = false := by
  match o with
  | .transfer name _ during reply =>
    rw [footprint]
    split
    · rfl
    · rfl
    · split
      · rfl
      · exact sweeps_footprintAll engine _ ho
  | .lookup name during =>
    rw [footprint]
    split
    · rfl
    · split
      · rfl
      · exact sweeps_footprintAll engine _ ho
  | .register .. => rfl
  | .registerForeign .. => rfl
  | .release _ => rfl
  | .state _ => rfl
  | .outstanding => rfl
  | .describe => rfl
  | .stats => rfl

/-- What spares everything leaves no footprint of a sweep. -/
theorem sweeps_footprintAll (engine : Engine ε) (h : HistoryState ε σ) {os : List Operation}
    (hos : sparingAll os = true) : (footprintAll engine h os).sweeps = false := by
  match os with
  | [] => rfl
  | o :: os =>
    obtain ⟨ho, hos⟩ := Bool.and_eq_true_iff.1 hos
    rw [footprintAll, Footprint.and, sweeps_footprint engine h ho, sweeps_footprintAll engine _ hos]
    rfl

end

mutual

/-- An orderly operation frees nothing twice. -/
theorem doubled_footprint (engine : Engine ε) (h : HistoryState ε σ) {o : Operation}
    (ho : orderly o = true) : (footprint engine h o).doubled = [] := by
  match o with
  | .transfer name _ during reply =>
    rw [footprint]
    split
    · rfl
    · rfl
    · split
      · rfl
      · next custodian _ =>
        -- What an orderly conversion contains never releases everything.
        have hsw := sweeps_footprintAll engine { h.giveUp name with custodian } ho
        have hdoubled := (evolves_runAll engine _ during).doubled_of_not_sweeps hsw
        rw [Footprint.conclude, hsw, hdoubled]
        rfl
  | .lookup name during =>
    rw [footprint]
    split
    · rfl
    · split
      · rfl
      · exact doubled_footprintAll engine _ ho
  | .register .. => rfl
  | .registerForeign .. => rfl
  | .release _ => rfl
  | .releaseAll => rfl
  | .state _ => rfl
  | .outstanding => rfl
  | .describe => rfl
  | .stats => rfl
  | .drop => rfl

/-- An orderly history frees nothing twice. -/
theorem doubled_footprintAll (engine : Engine ε) (h : HistoryState ε σ) {os : List Operation}
    (hos : orderlyAll os = true) : (footprintAll engine h os).doubled = [] := by
  match os with
  | [] => rfl
  | o :: os =>
    obtain ⟨ho, hos⟩ := Bool.and_eq_true_iff.1 hos
    rw [footprintAll, Footprint.and, doubled_footprint engine h ho,
      doubled_footprintAll engine _ hos]
    rfl

end

/-! ## Boundaries -/

/-- A state in which a history is before, between or after operations, at any depth, with the
components that were handed over until then. -/
inductive Boundary (engine : Engine ε) :
    HistoryState ε σ → List Operation → List Component → HistoryState ε σ → Prop where
  | here (h : HistoryState ε σ) (os : List Operation) : Boundary engine h os [] h
  | later {h h' : HistoryState ε σ} {o : Operation} {os : List Operation} {given : List Component}
    (rest : Boundary engine (run engine h o).2 os given h') :
    Boundary engine h (o :: os) ((footprint engine h o).given ++ given) h'
  /-- Inside of a conversion. -/
  | converting {h h' : HistoryState ε σ} {name : String} {source : TrackedIndex}
    {gpu : NativeIndex} {custodian : Custodian ε σ} {derived : Option String}
    {during os : List Operation} {reply : Reply RawHandle} {given : List Component}
    (claim : h.names.lookup name = some (source, true))
    (begun : (h.giveUp name).custodian.beginTransfer source.id = .ok (gpu, custodian))
    (inside : Boundary engine { h.giveUp name with custodian } during given h') :
    Boundary engine h (.transfer name derived during reply :: os) given h'
  /-- While an index that was looked up is used. -/
  | looking {h h' : HistoryState ε σ} {name : String} {t : TrackedIndex} {stands : Bool}
    {native : NativeIndex} {during os : List Operation} {given : List Component}
    (claim : h.names.lookup name = some (t, stands))
    (found : h.custodian.registry.lookup t.id = .ok native)
    (inside : Boundary engine h during given h') :
    Boundary engine h (.lookup name during :: os) given h'

namespace Boundary

variable {engine : Engine ε} {h h' : HistoryState ε σ} {os : List Operation}
  {given : List Component}

/-- The end of a history is a boundary. -/
theorem ending (engine : Engine ε) (h : HistoryState ε σ) (os : List Operation) :
    Boundary engine h os (footprintAll engine h os).given (runAll engine h os).2 := by
  induction os generalizing h with
  | nil =>
    rw [footprintAll, runAll]
    exact .here h []
  | cons o os ih =>
    rw [footprintAll, runAll_cons_snd]
    exact .later (ih _)

/-- A boundary of a history comes after its start. -/
theorem log_extends (hb : Boundary engine h os given h') :
    h.custodian.world.log <+: h'.custodian.world.log := by
  induction hb with
  | here h os => exact List.prefix_rfl
  | later rest ih => exact (evolves_run engine _ _).log_extends.trans ih
  | converting claim begun inside ih =>
    obtain ⟨-, rfl⟩ := Custodian.beginTransfer_eq_ok begun
    exact ih
  | looking claim found inside ih => exact ih

/-- At every boundary of an orderly history, the account has grown by what was handed over. -/
theorem account (hb : Boundary engine h os given h') (hos : orderlyAll os = true) :
    h'.custodian.account ~ h.custodian.account ++ given := by
  induction hb with
  | here h os => simp
  | @later h h' o os given rest ih =>
    obtain ⟨ho, hos⟩ := Bool.and_eq_true_iff.1 hos
    have hrun := (evolves_run engine h o).account
    rw [Footprint.excess, doubled_footprint engine h ho, List.flatMap_nil, List.append_nil] at hrun
    calc h'.custodian.account ~ (run engine h o).2.custodian.account ++ given := ih hos
      _ ~ h.custodian.account ++ (footprint engine h o).given ++ given := hrun.append_right _
      _ = h.custodian.account ++ ((footprint engine h o).given ++ given) := List.append_assoc ..
  | converting claim begun inside ih =>
    have hduring := orderlyAll_of_sparingAll (Bool.and_eq_true_iff.1 hos).1
    exact (ih hduring).trans ((Custodian.account_beginTransfer begun).append_right _)
  | looking claim found inside ih => exact ih (Bool.and_eq_true_iff.1 hos).1

/-- At every boundary of an orderly history, as many ends of handles were counted as there were. -/
theorem overcount (hb : Boundary engine h os given h') (hos : orderlyAll os = true) :
    h'.custodian.registry.overcount = h.custodian.registry.overcount := by
  induction hb with
  | here h os => rfl
  | @later h h' o os given rest ih =>
    obtain ⟨ho, hos⟩ := Bool.and_eq_true_iff.1 hos
    have hrun := (evolves_run engine h o).overcount
    rw [doubled_footprint engine h ho] at hrun
    exact (ih hos).trans (hrun.trans (Int.add_zero _))
  | converting claim begun inside ih =>
    have hduring := orderlyAll_of_sparingAll (Bool.and_eq_true_iff.1 hos).1
    exact (ih hduring).trans (Custodian.overcount_beginTransfer begun)
  | looking claim found inside ih => exact ih (Bool.and_eq_true_iff.1 hos).1

end Boundary

end Operation

/-! ## One owner -/

/-- A history begins with a custodian that was never used. -/
def HistoryState.start (w : World ε σ) : HistoryState ε σ :=
  { custodian := { registry := {}, world := w } }

namespace Operation

variable {engine : Engine ε} {w : World ε σ} {h : HistoryState ε σ} {os : List Operation}
  {given : List Component}

/-! ## Giving up the custodian -/

/-- A history is still orderly when the custodian is dropped at its end. -/
theorem orderlyAll_concat_drop {os : List Operation} (hos : orderlyAll os = true) :
    orderlyAll (os ++ [.drop]) = true := by
  induction os with
  | nil => rfl
  | cons o os ih =>
    obtain ⟨ho, hos⟩ := Bool.and_eq_true_iff.1 hos
    exact Bool.and_eq_true_iff.2 ⟨ho, ih hos⟩

/-- A custodian that is dropped releases everything. -/
theorem runAll_concat_drop (engine : Engine ε) (h : HistoryState ε σ) (os : List Operation) :
    (runAll engine h (os ++ [.drop])).2.custodian =
      ((runAll engine h os).2.custodian.releaseAll engine).2 := by
  induction os generalizing h with
  | nil =>
    rw [List.nil_append, runAll_cons_snd, runAll, run_snd, act, runAll]
  | cons o os ih => rw [List.cons_append, runAll_cons_snd, ih, ← runAll_cons_snd]

/-- To drop a custodian hands nothing over. -/
theorem given_concat_drop (engine : Engine ε) (h : HistoryState ε σ) (os : List Operation) :
    (footprintAll engine h (os ++ [.drop])).given = (footprintAll engine h os).given := by
  induction os generalizing h with
  | nil => rfl
  | cons o os ih =>
    rw [List.cons_append, footprintAll, footprintAll]
    exact congrArg (_ ++ ·) (ih _)

/-! ## The invariant -/

/-- A component that was handed over is held or was freed, as often as it was handed over. -/
theorem Boundary.holders_add_freed (hb : Boundary engine (.start w) os given h)
    (hos : orderlyAll os = true) (x : Component) :
    h.custodian.registry.holders x + (w.freedSince h.custodian.world).count x = given.count x := by
  have hacc := (hb.account hos).count_eq x
  have hlog := World.freedIn_eq_append hb.log_extends
  simp only [HistoryState.start] at hacc hlog
  simp only [Custodian.account, hlog, List.count_append] at hacc
  have hempty : (Registry.held {}).count x = 0 := rfl
  rw [Registry.holders_eq_count]
  omega

/-- An index that is not live cannot be used: whatever is tried with its handle, nor with a handle
that was never given out, the custodian stays as it is. -/
theorem custodian_run_of_not_live (engine : Engine ε) {h : HistoryState ε σ} {name : String}
    {t : TrackedIndex} {stands : Bool} (hl : h.names.lookup name = some (t, stands))
    (hdead : ∀ native, h.custodian.registry.slot? t.id ≠ some (.live native)) :
    (run engine h (.release name)).2.custodian = h.custodian ∧
    (∀ during, (run engine h (.lookup name during)).2.custodian = h.custodian) ∧
    (∀ derived during reply,
      (run engine h (.transfer name derived during reply)).2.custodian = h.custodian) := by
  refine ⟨?_, fun during => ?_, fun derived during reply => ?_⟩
  · rw [run_snd, act]
    simp only [hl]
    obtain ⟨native, hslot, -⟩ | ⟨-, heq⟩ := Custodian.release_cases engine t.id h.custodian
    · exact absurd hslot (hdead native)
    · exact heq
  · rw [run_snd, act]
    simp only [hl]
    cases hn : h.custodian.registry.lookup t.id with
    | error e => rfl
    | ok native => exact absurd (Registry.slot_of_lookup hn) (hdead native)
  · rw [run_snd, act]
    cases stands with
    | false => simp only [hl]
    | true =>
      simp only [hl]
      cases hb : (h.giveUp name).custodian.beginTransfer t.id with
      | error e => rfl
      | ok p => exact absurd (Custodian.beginTransfer_eq_ok hb).1 (hdead p.1)

/-- Every component that was handed over has one owner: at every boundary of an orderly history it
is held by one slot and was never freed, or is held by none and was freed once; a handle that is not
live has no part in this; and giving up the custodian leaves everything freed once. -/
theorem one_owner_at_every_boundary (engine : Engine ε) (w : World ε σ) (os : List Operation)
    (hos : orderlyAll os = true) :
    (∀ given h, Boundary engine (.start w) os given h → given.Nodup → ∀ x ∈ given,
      (h.custodian.registry.holders x = 1 ∧ (w.freedSince h.custodian.world).count x = 0) ∨
      (h.custodian.registry.holders x = 0 ∧ (w.freedSince h.custodian.world).count x = 1)) ∧
    (∀ (h : HistoryState ε σ) (name : String) (t : TrackedIndex) (stands : Bool),
      h.names.lookup name = some (t, stands) →
      (∀ native, h.custodian.registry.slot? t.id ≠ some (.live native)) →
      (run engine h (.release name)).2.custodian = h.custodian ∧
      (∀ during, (run engine h (.lookup name during)).2.custodian = h.custodian) ∧
      (∀ derived during reply,
        (run engine h (.transfer name derived during reply)).2.custodian = h.custodian)) ∧
    ((footprintAll engine (.start w) os).given.Nodup →
      ∀ x ∈ (footprintAll engine (.start w) os).given,
        (w.freedSince
          (runAll engine (.start w) (os ++ [.drop])).2.custodian.world).count x = 1) := by
  refine ⟨fun given h hb hd x hx => ?_, fun h name t stands hl hdead => ?_, fun hd x hx => ?_⟩
  · have hsum := hb.holders_add_freed hos x
    rw [hd.count, if_pos hx] at hsum
    omega
  · exact custodian_run_of_not_live engine hl hdead
  -- Giving up is one more operation; after it no slot holds anything.
  · have hend := Boundary.ending engine (.start w) (os ++ [.drop])
    have hsum := hend.holders_add_freed (orderlyAll_concat_drop hos) x
    rw [given_concat_drop, hd.count, if_pos hx, runAll_concat_drop] at hsum
    rw [runAll_concat_drop]
    rw [Registry.holders_eq_count, Custodian.held_releaseAll, List.count_nil] at hsum
    omega

/-- A conversion with another one inside of it, which fails and leaves a copy behind, and with
releases of its own source; later the copy is converted again, and that breaks off. -/
def nestedHistory : List Operation :=
  [.register (.gpu ⟨1⟩ (some ⟨2⟩)) "outer",
    .register (.gpu ⟨3⟩ none) "inner",
    .transfer "outer" (some "copy")
      [.release "outer",
        .transfer "inner" none [.register (.cpu ⟨4⟩ none) "other"]
          (.failed "lost" (some (.cpu ⟨5⟩ none))),
        .lookup "other" [.release "other", .release "inner"]]
      (.ok ⟨6⟩),
    .release "outer",
    .transfer "copy" none [] (.panicked "broke off")]

/-- A world of the flat engine in which nothing has happened. -/
def untouchedWorld : World Arena Unit :=
  { store := (), disk := {}, memory := {} }

/-- All that was handed over is freed once while conversions nest, fail and panic. -/
theorem one_owner_when_conversions_nest :
    orderlyAll nestedHistory = true ∧
    (footprintAll Arena.engine (.start untouchedWorld) nestedHistory).given =
      [(⟨2⟩, .idMap), (⟨1⟩, .gpuIndex), (⟨3⟩, .gpuIndex), (⟨4⟩, .cpuIndex), (⟨5⟩, .cpuIndex),
        (⟨6⟩, .cpuIndex)] ∧
    ∀ x ∈ (footprintAll Arena.engine (.start untouchedWorld) nestedHistory).given,
      (untouchedWorld.freedSince (runAll Arena.engine (.start untouchedWorld)
        (nestedHistory ++ [.drop])).2.custodian.world).count x = 1 := by
  have horderly : orderlyAll nestedHistory = true := by decide
  have hgiven : (footprintAll Arena.engine (.start untouchedWorld) nestedHistory).given =
      [(⟨2⟩, .idMap), (⟨1⟩, .gpuIndex), (⟨3⟩, .gpuIndex), (⟨4⟩, .cpuIndex), (⟨5⟩, .cpuIndex),
        (⟨6⟩, .cpuIndex)] := by
    cbv
  refine ⟨horderly, hgiven, ?_⟩
  exact (one_owner_at_every_boundary Arena.engine untouchedWorld nestedHistory horderly).2.2
    (by rw [hgiven]; decide)

end Operation

end VectorIndex
