import VectorIndex.Custody.History
import VectorIndex.Proofs.Engine.Conservation
import VectorIndex.Proofs.Run.Alike
import VectorIndex.Proofs.Run.Bookkeeping
import VectorIndex.Proofs.Run.Points

/-!
# Runs that free one structure at a time

In one step of a run the engine may be called, the registry is brought up to date, and structures
are freed.  A gradual run makes the same steps, but what is to be freed is due afterwards and takes
another step for each structure (`Gradual.step`), so that other runs may call the engine in between.

A step of a gradual run is one of a run whose engine puts off freeing (`Engine.deferring`).  This
engine matches the engine inside, which it lags behind by what is due (`Arena.matched_deferring`).
So the step takes the run to the point where the same step of the run itself takes it
(`Scene.Stands.proceed`), and freeing what is due leaves it there (`Scene.Stands.free`).
-/

set_option autoImplicit false

namespace VectorIndex

variable {ε σ κ : Type}

/-! ## Engines that put off freeing -/

/-- What an engine remembers that has put off freeing structures. -/
structure Deferred (ε : Type) where
  memory : ε
  /-- The structures that are to be freed, the first one first. -/
  due : List Component := []

/-- What an engine remembers after it was asked to free structures, one after the other. -/
def Engine.memoryAfter (engine : Engine ε) (due : List Component) (memory : ε) : ε :=
  due.foldl (fun memory x => (engine.release x.1 x.2 memory).2) memory

/-- An engine that notes what it is asked to free, and frees it before the next call. -/
def Engine.deferring (inner : Engine ε) : Engine (Deferred ε) where
  kind := inner.kind
  build dataset config d :=
    let (reply, memory) := inner.build dataset config (inner.memoryAfter d.due d.memory)
    (reply, { memory })
  convert gpu config d :=
    let (reply, memory) := inner.convert gpu config (inner.memoryAfter d.due d.memory)
    (reply, { memory })
  persist cpu d :=
    let (reply, memory) := inner.persist cpu (inner.memoryAfter d.due d.memory)
    (reply, { memory })
  release raw kind d := (none, { d with due := d.due ++ [(raw, kind)] })

/-- The same builder with an engine that puts off freeing. -/
def Builder.deferring (b : Builder ε σ) : Builder (Deferred ε) σ where
  engine := b.engine.deferring
  stores := b.stores
  stagingRoot := b.stagingRoot
  timeLimit := b.timeLimit

/-- The same world for an engine that puts off freeing and has nothing to free. -/
def World.deferring (w : World ε σ) : World (Deferred ε) σ :=
  { w with memory := { memory := w.memory } }

/-! ## Gradual runs -/

/-- A run and what it still has to free. -/
structure Gradual (σ : Type) where
  run : Run σ := {}
  due : List Component := []

namespace Gradual

/-- Whether the run will not move any more and has freed everything. -/
def isOver (g : Gradual σ) : Bool :=
  g.run.isOver && g.due.isEmpty

/-- The report of a run that has freed everything, with the counts of then. -/
def report? (g : Gradual σ) : Option RunReport :=
  if g.due.isEmpty then
    g.run.report?.map fun report => { report with handles := g.run.registry.tally }
  else none

/-- The next step.  As long as something is due, the first of it is freed; otherwise the run makes a
step, in which `idsFirst` chooses one of two downloads that can both move. -/
def step (b : Builder ε σ) (c : Commission) (idsFirst : Bool) (g : Gradual σ) (w : World ε σ) :
    Gradual σ × World ε σ :=
  match g.due with
  | x :: rest =>
    let (_, run, w) := g.run.withCustodian (fun c => ((), c.freeAll b.engine [x])) w
    ({ run, due := rest }, w)
  | [] =>
    let (run, after) := g.run.proceed b.deferring c idsFirst w.deferring
    -- that a structure was freed is recorded when it is freed
    let events := (after.log.drop w.log.length).filter (!·.isRelease)
    ({ run, due := after.memory.due },
      { after with memory := after.memory.memory, log := w.log ++ events })

/-- Where nothing is due, a run makes a step that puts off freeing. -/
theorem step_of_due_eq_nil {b : Builder ε σ} {c : Commission} {idsFirst : Bool} {g : Gradual σ}
    {w : World ε σ} (hdue : g.due = []) {after : Run σ × World (Deferred ε) σ}
    (hafter : g.run.proceed b.deferring c idsFirst w.deferring = after) :
    (g.step b c idsFirst w).1 = { run := after.1, due := after.2.memory.due } ∧
      (g.step b c idsFirst w).2.toMedium = after.2.toMedium ∧
      (g.step b c idsFirst w).2.memory = after.2.memory.memory := by
  unfold step
  rw [hdue]
  dsimp only
  rw [hafter]
  exact ⟨rfl, rfl, rfl⟩

end Gradual

/-! ## What is due in an arena -/

namespace Arena

variable {a a' start : Arena} {raw : RawHandle} {kind : StructureKind} {due rest : List Component}
  {x : Component} {own own' : List RawHandle}

/-- All that is due is there, once and as what it is to be freed as. -/
structure Owes (a : Arena) (due : List Component) : Prop where
  nodup : (due.map Prod.fst).Nodup
  there : ∀ x ∈ due, ∃ s, a.find? x.1 = some s ∧ s.kind = x.2

/-- It is all right that nothing is due. -/
theorem Owes.nil (a : Arena) : a.Owes [] :=
  ⟨List.nodup_nil, fun _ hx => nomatch hx⟩

/-- What is due was given out. -/
theorem Owes.number_lt (h : a.Owes due) (hfresh : a.Fresh) :
    ∀ raw ∈ due.map Prod.fst, raw.number < a.next := by
  intro raw hraw
  obtain ⟨x, hx, rfl⟩ := List.mem_map.1 hraw
  obtain ⟨s, hfind, -⟩ := h.there x hx
  exact number_lt_of_find? hfresh hfind

/-- What is due is not noticed by neighbours. -/
theorem Owes.of_confined (h : a.Owes due) (hfresh : a.Fresh) (hconfined : a.Confined own own' a')
    (hown : ∀ raw ∈ due.map Prod.fst, raw ∉ own) : a'.Owes due where
  nodup := h.nodup
  there x hx := by
    have hraw : x.1 ∈ due.map Prod.fst := List.mem_map_of_mem hx
    obtain ⟨s, hfind, hkind⟩ := h.there x hx
    refine ⟨s, ?_, hkind⟩
    rw [hconfined.find?_of_lt (h.number_lt hfresh _ hraw) (hown _ hraw), hfind]

/-- The first structure that is due is freed without a failure, and the others stay due. -/
theorem Owes.release (h : a.Owes (x :: rest)) :
    a.release x.1 x.2 = (none, a.erase x.1) ∧ (a.erase x.1).Owes rest := by
  obtain ⟨hfirst, hrest⟩ := List.nodup_cons.1 h.nodup
  obtain ⟨s, hfind, hkind⟩ := h.there x List.mem_cons_self
  refine ⟨hkind ▸ release_eq hfind, hrest, fun y hy => ?_⟩
  have hne : y.1 ≠ x.1 := fun heq => hfirst (heq ▸ List.mem_map_of_mem hy)
  rw [find?_erase_of_ne hne]
  exact h.there y (List.mem_cons_of_mem _ hy)

/-- After everything due was freed, all else is as it was. -/
theorem Owes.find?_memoryAfter (h : a.Owes due) (raw : RawHandle) :
    (engine.memoryAfter due a).find? raw =
      if raw ∈ due.map Prod.fst then none else a.find? raw := by
  induction due generalizing a with
  | nil => rfl
  | cons x rest ih =>
    obtain ⟨hrelease, howes⟩ := h.release
    have hstep : engine.memoryAfter (x :: rest) a =
        engine.memoryAfter rest (a.release x.1 x.2).2 := rfl
    rw [hstep, hrelease, ih howes, List.map_cons]
    by_cases hraw : raw = x.1
    · simp [hraw, find?_erase_self]
    · simp only [find?_erase_of_ne hraw, List.mem_cons, hraw, false_or]

/-- A request that is met after everything due was freed may also wait. -/
theorem Owes.concat (h : a.Owes due)
    (hmet : ((engine.memoryAfter due a).release raw kind).1 = none) :
    a.Owes (due ++ [(raw, kind)]) := by
  obtain ⟨s, hfind, hkind⟩ := (release_eq_none_iff ..).1 hmet
  rw [h.find?_memoryAfter] at hfind
  by_cases hraw : raw ∈ due.map Prod.fst
  · rw [if_pos hraw] at hfind
    cases hfind
  · rw [if_neg hraw] at hfind
    refine ⟨?_, fun x hx => ?_⟩
    · rw [List.map_append, List.map_singleton, List.nodup_append]
      refine ⟨h.nodup, List.nodup_singleton raw, fun raw₁ hmem raw₂ hsingle heq => hraw ?_⟩
      rwa [heq, List.mem_singleton.1 hsingle] at hmem
    · obtain hx | hx := List.mem_append.1 hx
      · exact h.there x hx
      · rw [List.mem_singleton.1 hx]
        exact ⟨s, hfind, hkind⟩

/-! ## An engine that lags behind -/

/-- An arena some time later: what was given up has not come back. -/
structure Later (start a : Arena) : Prop where
  reachable : a.Reachable
  next : start.next ≤ a.next
  gone : ∀ raw, raw.number < start.next → start.find? raw = none → a.find? raw = none

/-- No time has passed. -/
theorem Later.refl (h : a.Reachable) : a.Later a :=
  ⟨h, Nat.le_refl _, fun _ _ hgone => hgone⟩

/-- A call takes some time. -/
theorem Later.perform (h : start.Later a) (call : Call) : start.Later (a.perform call) := by
  have hstep := transition (fresh_of_reachable h.reachable) call
  refine ⟨?_, Nat.le_trans h.next hstep.next_mono, fun raw hlt hgone => ?_⟩
  · cases call with
    | build dataset config => exact h.reachable.build dataset config
    | convert gpu config => exact h.reachable.convert gpu config
    | persist cpu => exact h.reachable.persist cpu
    | release raw kind => exact h.reachable.release raw kind
  · exact hstep.find?_of_gone (Nat.lt_of_lt_of_le hlt h.next) (h.gone raw hlt hgone)

/-- Freeing structures takes some time. -/
theorem Later.memoryAfter (h : start.Later a) (due : List Component) :
    start.Later (engine.memoryAfter due a) := by
  induction due generalizing a with
  | nil => exact h
  | cons x rest ih => exact ih (h.perform (.release x.1 x.2))

/-- An engine that puts off freeing has refused nothing and is behind the engine itself by what is
due, which is all there as long as the engine itself has refused nothing either. -/
structure Lags (start : Arena) (n₁ n₂ : Nat) (a : Arena) (d : Deferred Arena) : Prop where
  unrefused : n₂ = 0
  memory : a = engine.memoryAfter d.due d.memory
  owes : n₁ = 0 → d.memory.Owes d.due
  later : start.Later d.memory

/-- An engine that has nothing to free is not behind. -/
theorem Lags.of_later {n₁ : Nat} (h : start.Later a) : start.Lags n₁ 0 a { memory := a } :=
  ⟨rfl, rfl, fun _ => .nil a, h⟩

/-- An engine that puts off freeing matches the engine inside. -/
theorem matched_deferring (start : Arena) : engine.Matched (Lags start) engine.deferring where
  kind := rfl
  build {n₁ n₂ a d} h dataset config := by
    obtain ⟨rfl, rfl, -, hlater⟩ := h
    exact ⟨rfl, .of_later ((hlater.memoryAfter d.due).perform (.build dataset config))⟩
  convert {n₁ n₂ a d} h gpu config := by
    obtain ⟨rfl, rfl, -, hlater⟩ := h
    exact ⟨rfl, .of_later ((hlater.memoryAfter d.due).perform (.convert gpu config))⟩
  persist {n₁ n₂ a d} h cpu := by
    obtain ⟨rfl, rfl, -, hlater⟩ := h
    exact ⟨rfl, .of_later ((hlater.memoryAfter d.due).perform (.persist cpu))⟩
  release {n₁ n₂ a d} h raw kind := by
    obtain ⟨rfl, rfl, howes, hlater⟩ := h
    refine ⟨rfl, ?_, fun hzero => ?_, hlater⟩
    · exact (List.foldl_concat (fun memory x => (engine.release x.1 x.2 memory).2) d.memory
        (raw, kind) d.due).symm
    · obtain ⟨hbefore, hrefusal⟩ := Nat.add_eq_zero_iff.1 hzero
      refine (howes hbefore).concat ?_
      rwa [List.length_eq_zero_iff, Option.toList_eq_nil_iff] at hrefusal

/-- What is due belongs to the run as well, as long as it was not freed. -/
theorem Lags.confined {n₂ : Nat} {d : Deferred Arena} (h : start.Lags 0 n₂ a d)
    (hconfined : start.Confined own own' a) :
    start.Confined own (own' ++ d.due.map Prod.fst) d.memory := by
  obtain ⟨-, rfl, howes, hlater⟩ := h
  have howes := howes rfl
  refine ⟨fun _ => hlater.reachable, hlater.next, fun raw hraw hnot => ?_, fun raw hraw hnot => ?_,
    fun raw hraw hnot => ?_⟩
  · obtain ⟨hraw', hdue⟩ := not_or.1 (mt List.mem_append.2 hnot)
    rw [← hconfined.kept raw hraw hraw', howes.find?_memoryAfter, if_neg hdue]
  · obtain ⟨hraw', hdue⟩ := not_or.1 (mt List.mem_append.2 hnot)
    rw [← hconfined.freed raw hraw hraw', howes.find?_memoryAfter, if_neg hdue]
  · by_cases hraw' : raw ∈ own'
    · exact hconfined.new raw hraw' hnot
    · -- what the run did not have before and has to free is new, for it has not come back
      have hdue := (List.mem_append.1 hraw).resolve_left hraw'
      have hgone := hconfined.kept raw hnot hraw'
      rw [howes.find?_memoryAfter, if_pos hdue] at hgone
      obtain ⟨x, hx, rfl⟩ := List.mem_map.1 hdue
      obtain ⟨s, hfind, -⟩ := howes.there x hx
      by_contra hlt
      cases hfind.symm.trans (hlater.gone x.1 (Nat.not_le.1 hlt) hgone.symm)

end Arena

/-- What is held is not due, and is there already before what is due was freed. -/
theorem Holding.Kept.of_lags {holding : Holding} {native : NativeIndex} {start a : Arena} {n₂ : Nat}
    {d : Deferred Arena} (h : holding.Kept native a) (hlags : start.Lags 0 n₂ a d) :
    holding.Kept native d.memory ∧
      ∀ raw ∈ holding.raws native, raw ∉ d.due.map Prod.fst := by
  obtain ⟨-, rfl, howes, -⟩ := hlags
  have howes := howes rfl
  have hspared : ∀ raw ∈ holding.raws native, raw ∉ d.due.map Prod.fst := by
    intro raw hraw hdue
    have hsome := h.isSome_find? raw hraw
    rw [howes.find?_memoryAfter, if_pos hdue] at hsome
    cases hsome
  refine ⟨h.of_find? fun raw hraw => ?_, hspared⟩
  rw [howes.find?_memoryAfter, if_neg (hspared raw hraw)]

/-! ## Steps of gradual runs -/

/-- A builder matches the same builder with an engine that puts off freeing. -/
theorem Builder.matched_deferring {b : Builder Arena σ} (h : b.engine = Arena.engine)
    (start : Arena) : b.Matched (Arena.Lags start) b.deferring where
  engine := by
    unfold deferring
    rw [h]
    exact Arena.matched_deferring start
  stores := rfl
  stagingRoot := rfl
  timeLimit := rfl

/-- A run that has refused nothing is the same when its engine puts off freeing. -/
theorem Run.Alike.of_lags {start : Arena} {since : List Event} {after : Run σ × World Arena σ}
    {after' : Run σ × World (Deferred Arena) σ} (h : Alike (Arena.Lags start) since after after')
    (hsound : after.1.Sound) (hsound' : after'.1.Sound)
    (hfailures : after.1.registry.tally.failures = 0) :
    after'.1 = after.1 ∧ after'.2.toMedium = after.2.toMedium ∧
      start.Lags 0 0 after.2.memory after'.2.memory := by
  cases h with
  | @intro r n₁ n₂ workspace phase₁ phase₂ _ _ phase world =>
    have hlags := world.memory
    obtain rfl : n₁ = 0 := hfailures
    obtain rfl := hlags.unrefused
    refine ⟨?_, world.medium.symm, hlags⟩
    cases phase with
    | same => rfl
    | ended result failedStage r' n₁ n₂ =>
      have htally₁ := (hsound.settled _ rfl).2.2
      have htally₂ := (hsound'.settled _ rfl).2.2
      dsimp only at htally₁ htally₂
      rw [htally₁, htally₂]

namespace Scene

variable {s : Scene σ κ} {c : Commission} {p p' : Point κ} {native : NativeIndex} {g : Gradual σ}
  {w : World Arena σ}

/-- A gradual run is at a point, and what is due is there beside what it holds. -/
structure Stands (s : Scene σ κ) (c : Commission) (p : Point κ) (native : NativeIndex)
    (g : Gradual σ) (w : World Arena σ) : Prop where
  sound : g.run.Sound
  follows : s.Follows c p native g.run w
  owes : w.memory.Owes g.due
  spared : ∀ raw ∈ p.holding.raws native, raw ∉ g.due.map Prod.fst

end Scene

/-- The raw handles that belong to a gradual run at a point. -/
def Gradual.raws (p : Point κ) (native : NativeIndex) (g : Gradual σ) : List RawHandle :=
  p.holding.raws native ++ g.due.map Prod.fst

namespace Scene

variable {s : Scene σ κ} {c : Commission} {p p' : Point κ} {native : NativeIndex} {g : Gradual σ}
  {w : World Arena σ}

/-- A gradual run gets to a point, and this is what others notice. -/
def Arrives (s : Scene σ κ) (c : Commission) (own : List RawHandle) (w : World Arena σ)
    (p : Point κ) (after : Gradual σ × World Arena σ) : Prop :=
  ∃ native, s.Stands c p native after.1 after.2 ∧
    s.Effect c own (after.1.raws p native) w.toMedium after.2.toMedium w.memory after.2.memory

/-- All that belongs to a gradual run was given out. -/
theorem Stands.number_lt (h : s.Stands c p native g w) (hmemory : w.memory.Reachable) :
    ∀ raw ∈ g.raws p native, raw.number < w.memory.next := by
  have hfresh := Arena.fresh_of_reachable hmemory
  intro raw hraw
  obtain hraw | hraw := List.mem_append.1 hraw
  · exact h.follows.footing.holds.number_lt hfresh raw hraw
  · exact h.owes.number_lt hfresh raw hraw

/-- A run stays at its point as long as it finds what it holds and its surroundings. -/
theorem Follows.of_medium {r : Run σ} {w' : World Arena σ} (hfollows : s.Follows c p native r w)
    (hmedium : w'.toMedium = w.toMedium) (hholds : p.holding.Kept native w'.memory) :
    s.Follows c p native r w' where
  phase := hfollows.phase
  footing := by
    have hfooting := hfollows.footing
    unfold FootingAt at hfooting ⊢
    rw [hmedium]
    exact { hfooting with holds := hholds }
  unread := by
    rw [hmedium]
    exact hfollows.unread

/-- A gradual run that has something to free stays at its point. -/
theorem Stands.free (h : s.Sound) (hstands : s.Stands c p native g w) {x : Component}
    {rest : List Component} (hdue : g.due = x :: rest) (idsFirst : Bool) :
    s.Arrives c (g.raws p native) w p (g.step s.builder c idsFirst w) := by
  obtain ⟨run, due⟩ := g
  obtain rfl : due = x :: rest := hdue
  obtain ⟨raw, kind⟩ := x
  obtain ⟨structure', hfind, rfl⟩ := hstands.owes.there _ List.mem_cons_self
  obtain ⟨w', hmemory, hfree⟩ :=
    Custodian.exists_freeAll_cons (c := run.custodian w) hfind []
  have hmedium : w'.toMedium = w.toMedium := by
    have hfreed := Custodian.toMedium_freeAll Arena.engine [(raw, structure'.kind)]
      (run.custodian w)
    rwa [hfree] at hfreed
  have hstep : Gradual.step s.builder c idsFirst ⟨run, (raw, structure'.kind) :: rest⟩ w =
      (⟨run, rest⟩, w') := by
    unfold Gradual.step Run.withCustodian
    rw [h.engine]
    change (Gradual.mk { run with registry := ((run.custodian w).freeAll Arena.engine
      [(raw, structure'.kind)]).registry } rest, ((run.custodian w).freeAll Arena.engine
      [(raw, structure'.kind)]).world) = _
    rw [hfree]
    rfl
  have hspared : ∀ raw' ∈ p.holding.raws native, raw' ≠ raw ∧ raw' ∉ rest.map Prod.fst :=
    fun raw' hraw' => not_or.1 (mt List.mem_cons.2 (hstands.spared raw' hraw'))
  rw [hstep]
  refine ⟨native, ⟨hstands.sound, hstands.follows.of_medium hmedium ?_, ?_,
    fun raw' hraw' => (hspared raw' hraw').2⟩, ?_⟩
  · rw [hmemory]
    exact hstands.follows.footing.holds.of_find? fun raw' hraw' =>
      Arena.find?_erase_of_ne (hspared raw' hraw').1
  · rw [hmemory]
    exact hstands.owes.release.2
  · rw [hmedium, hmemory]
    refine .of_memory c _ (.erase hfind fun raw' => ?_)
    simp only [Gradual.raws, List.map_cons, List.mem_append, List.mem_cons]
    tauto

/-- A gradual run that has nothing to free gets to the point where the run itself gets. -/
theorem Stands.proceed (h : s.Sound) (hstands : s.Stands c p native g w)
    (hmemory : w.memory.Reachable) (hdue : g.due = []) {idsFirst : Bool}
    (hreach : s.Reaches c (p.holding.raws native) w p'
      (g.run.proceed s.builder c idsFirst w)) :
    s.Arrives c (g.raws p native) w p' (g.step s.builder c idsFirst w) := by
  obtain ⟨native', hfollows, heffect⟩ := hreach
  have hfailures : ∀ {native : NativeIndex} {p : Point κ} {r : Run σ} {w : World Arena σ},
      s.Follows c p native r w → r.registry.tally.failures = 0 := by
    intro native p r w hfollows
    rw [hfollows.footing.registry]
    exact hfollows.footing.holds.failures
  have hstart : Run.Alike (Arena.Lags w.memory) w.log (g.run, w) (g.run, w.deferring) := by
    have hregistry : g.run.registry = g.run.registry.withFailures 0 := by
      rw [← hfailures hstands.follows]
      rfl
    have hworld : World.Alike (Arena.Lags w.memory) w.log 0 0 w w.deferring :=
      ⟨rfl, .of_later (.refl hmemory), rfl, .start⟩
    have halike := Run.Alike.intro (r := g.run.registry) g.run.workspace (.same g.run.phase) hworld
    rwa [← hregistry] at halike
  have halike := Run.alike_proceed (Builder.matched_deferring h.engine w.memory) hstart c idsFirst
  have hsound := (Run.sound_play s.builder c [.proceed idsFirst] w hstands.sound).1
  have hsound' :=
    (Run.sound_play s.builder.deferring c [.proceed idsFirst] w.deferring hstands.sound).1
  change (g.run.proceed s.builder c idsFirst w).1.Sound at hsound
  change (g.run.proceed s.builder.deferring c idsFirst w.deferring).1.Sound at hsound'
  generalize hafter' : g.run.proceed s.builder.deferring c idsFirst w.deferring = after'
    at halike hsound'
  generalize g.run.proceed s.builder c idsFirst w = after at hfollows heffect halike hsound
  obtain ⟨hrun, hmedium, hlags⟩ := halike.of_lags hsound hsound' (hfailures hfollows)
  obtain ⟨hholds, hspared⟩ := hfollows.footing.holds.of_lags hlags
  obtain ⟨hgradual, hmedium', hmemory'⟩ := Gradual.step_of_due_eq_nil hdue hafter'
  rw [hrun] at hgradual
  rw [hmedium] at hmedium'
  have hown : g.raws p native = p.holding.raws native := by
    unfold Gradual.raws
    rw [hdue, List.map_nil, List.append_nil]
  unfold Arrives
  rw [hgradual, hmedium', hmemory', hown]
  refine ⟨native', ⟨hsound, hfollows.of_medium hmedium' (hmemory' ▸ hholds), ?_, hspared⟩,
    hlags.confined heffect.memory, heffect.disk, heffect.look⟩
  rw [hmemory']
  exact hlags.owes rfl

end Scene

end VectorIndex
