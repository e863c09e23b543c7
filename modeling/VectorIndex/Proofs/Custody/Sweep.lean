import VectorIndex.Proofs.Custody.Ownership

/-!
# Releasing everything during a conversion

A conversion keeps its source to itself while it is under way, and when it returns it ends
the life of its source, whatever has become of the slot in between.  If everything is
released in the meantime, the source is freed a second time, its id map is lost to the
copy that now owns it, and the end of its handle is counted twice.
`transfer_harmless_iff` says that none of this happens exactly when nothing released
everything during the conversion.
-/

set_option autoImplicit false

open scoped List

namespace VectorIndex

variable {ε σ : Type}

/-- A component of a slot is held. -/
theorem Registry.mem_held {r : Registry} {id : HandleId} {s : Slot} {x : Component}
    (hs : r.slot? id = some s) (hx : x ∈ s.components) : x ∈ r.held :=
  List.mem_flatMap.2 ⟨s, List.mem_of_getElem? hs, hx⟩

/-- A structure was freed at least as often in a longer log. -/
theorem count_freedIn_le {log log' : List Event} (h : log <+: log') (x : Component) :
    (freedIn log).count x ≤ (freedIn log').count x :=
  (h.sublist.filterMap Event.freed?).count_le x

/-- Counted from any point of time, a component was freed as often as before it and since then. -/
theorem World.count_freedSince {start now : World ε σ} (h : start.log <+: now.log) (x : Component) :
    (freedIn now.log).count x = (freedIn start.log).count x + (start.freedSince now).count x := by
  rw [World.freedIn_eq_append h, List.count_append]

/-- The graph of an index is one of its components. -/
theorem NativeIndex.graph_mem_components (n : NativeIndex) :
    (n.index, n.residency.graphKind) ∈ n.components :=
  List.mem_append_right _ (List.mem_singleton.2 rfl)

/-- The map of an index is one of its components, if it has one. -/
theorem NativeIndex.idMap_mem_components {n : NativeIndex} {idMap : RawHandle}
    (h : n.idMap = some idMap) : (idMap, .idMap) ∈ n.components := by
  simp [components, h]

namespace Custodian

/-- The graph of a source is freed when its conversion returns, whether it succeeded or not. -/
theorem graph_freed_finishTransfer (engine : Engine ε) (id : HandleId) (gpu : NativeIndex)
    {reply : Reply RawHandle} (hr : reply.returns = true) (c : Custodian ε σ) :
    (freedIn c.world.log).count (gpu.index, gpu.residency.graphKind) <
      (freedIn (c.finishTransfer engine id gpu reply).2.world.log).count
        (gpu.index, gpu.residency.graphKind) := by
  cases reply with
  | ok raw =>
    change _ < (freedIn (freeAll engine { gpu with idMap := none }.components
      (settle id (some c.registry.nextId) (c.register (.cpu raw gpu.idMap)).2)).world.log).count _
    rw [freedIn_freeAll, freedIn_settle, List.count_append]
    have hregister : freedIn (c.register (.cpu raw gpu.idMap)).2.world.log = freedIn c.world.log :=
      World.freedIn_record _ rfl
    rw [hregister]
    simp [NativeIndex.components]
  | failed message partialIndex =>
    have hfree : (freedIn c.world.log).count (gpu.index, gpu.residency.graphKind) <
        (freedIn (freeAll engine gpu.components (c.settle id none)).world.log).count
          (gpu.index, gpu.residency.graphKind) := by
      rw [freedIn_freeAll, freedIn_settle, List.count_append]
      simp [NativeIndex.components]
    cases partialIndex with
    | none => exact hfree
    | some native =>
      refine Nat.lt_of_lt_of_le hfree (count_freedIn_le ?_ _)
      exact (log_extends_register native _).trans (log_extends_release engine _ _)
  | panicked message => cases hr

/-- When everything is released during a conversion, its source is freed there and then. -/
theorem Evolves.freed_of_sweeps {engine : Engine ε} {c c' : Custodian ε σ} {f : Footprint}
    (h : Evolves engine c f c') {id : HandleId} {native : NativeIndex} {x : Component}
    (hs : c.registry.slot? id = some (.converting native)) (hx : x ∈ native.components)
    (hf : f.sweeps = true) :
    (freedIn c.world.log).count x < (freedIn c'.world.log).count x := by
  induction h with
  | releaseAll c =>
    rw [(freedIn_releaseAll engine c).count_eq, List.count_append]
    have hheld := List.count_pos_iff.2 (Registry.mem_held hs hx)
    omega
  | @transfer c c₁ c₂ source gpu f reply begun during ih =>
    obtain ⟨hlive, rfl⟩ := beginTransfer_eq_ok begun
    have hne : id ≠ source := by
      rintro rfl
      cases hs.symm.trans hlive
    refine Nat.lt_of_lt_of_le (ih ((c.registry.slot_setSlot_ne hne _).trans hs) hf) ?_
    exact count_freedIn_le (log_extends_finishTransfer engine source gpu reply c₂) x
  | @trans c c₁ c₂ f g first second ih₁ ih₂ =>
    cases hsw : f.sweeps with
    | true => exact Nat.lt_of_lt_of_le (ih₁ hs hsw) (count_freedIn_le second.log_extends x)
    | false =>
      have hs₁ := first.slot_converting hs
      rw [hsw] at hs₁
      have hg : g.sweeps = true := by simpa [Footprint.and, hsw] using hf
      exact Nat.lt_of_le_of_lt (count_freedIn_le first.log_extends x) (ih₂ hs₁ hg)
  | _ => exact nomatch hf

section transfer

variable {engine : Engine ε} {c c₁ c₂ : Custodian ε σ} {f : Footprint} {id : HandleId}
  {gpu : NativeIndex} {reply : Reply RawHandle}

/-- When everything is released during a conversion, its source is freed before it returns. -/
theorem Evolves.freed_during (begun : c.beginTransfer id = .ok (gpu, c₁))
    (during : Evolves engine c₁ f c₂) (hf : f.sweeps = true) {x : Component}
    (hx : x ∈ gpu.components) :
    (freedIn c.world.log).count x < (freedIn c₂.world.log).count x := by
  obtain ⟨hlive, rfl⟩ := beginTransfer_eq_ok begun
  exact during.freed_of_sweeps (Registry.slot_setSlot_self hlive _) hx hf

/-- A source that was freed during a conversion is still freed when the conversion has returned. -/
theorem Evolves.freed_after (begun : c.beginTransfer id = .ok (gpu, c₁))
    (during : Evolves engine c₁ f c₂) (hf : f.sweeps = true) {w : World ε σ}
    (hw : w.log <+: c.world.log) {x : Component} (hx : x ∈ gpu.components) :
    x ∈ w.freedSince (c₂.finishTransfer engine id gpu reply).2.world := by
  have hfirst := during.freed_during begun hf hx
  obtain ⟨-, rfl⟩ := beginTransfer_eq_ok begun
  have hlater := log_extends_finishTransfer engine id gpu reply c₂
  have hsince := World.count_freedSince (hw.trans (during.log_extends.trans hlater)) x
  have hbefore := count_freedIn_le hw x
  have hkept := count_freedIn_le hlater x
  refine List.count_pos_iff.1 ?_
  omega

/-- The graph of a source that was freed during a conversion is freed for the second time when the
conversion returns. -/
theorem Evolves.graph_freed_twice (begun : c.beginTransfer id = .ok (gpu, c₁))
    (during : Evolves engine c₁ f c₂) (hf : f.sweeps = true) (hr : reply.returns = true)
    {w : World ε σ} (hw : w.log <+: c.world.log) :
    1 < (w.freedSince (c₂.finishTransfer engine id gpu reply).2.world).count
      (gpu.index, gpu.residency.graphKind) := by
  have hfirst := during.freed_during begun hf gpu.graph_mem_components
  obtain ⟨-, rfl⟩ := beginTransfer_eq_ok begun
  have hlater := log_extends_finishTransfer engine id gpu reply c₂
  have hsince := World.count_freedSince (hw.trans (during.log_extends.trans hlater))
    (gpu.index, gpu.residency.graphKind)
  have hbefore := count_freedIn_le hw (gpu.index, gpu.residency.graphKind)
  have hagain := graph_freed_finishTransfer engine id gpu hr c₂
  omega

/-- The slot of a source loses its end exactly when everything was released during a conversion that
succeeds. -/
theorem Evolves.slot_revived_iff (begun : c.beginTransfer id = .ok (gpu, c₁))
    (during : Evolves engine c₁ f c₂) (reply : Reply RawHandle) :
    (c₂.registry.slot? id = some .released ∧
        (c₂.finishTransfer engine id gpu reply).2.registry.slot? id ≠ some .released) ↔
      f.sweeps = true ∧ ∃ raw, reply = .ok raw := by
  have hslot := during.slot_during begun
  rw [slot_finishTransfer_self engine hslot, hslot]
  cases hsweeps : f.sweeps <;> cases reply <;> simp [Reply.sourceSlot]

/-- After a conversion that returns, ends of handles were counted too often exactly when everything
was released during it or they had been before. -/
theorem Evolves.overcount_transfer (begun : c.beginTransfer id = .ok (gpu, c₁))
    (during : Evolves engine c₁ f c₂) (hr : reply.returns = true)
    (hc : c.registry.overcount = 0) :
    ((c₂.finishTransfer engine id gpu reply).2.registry.overcount = 0 ↔ f.sweeps = false) ∧
    0 ≤ (c₂.finishTransfer engine id gpu reply).2.registry.overcount := by
  have hover := (Evolves.transfer reply begun during).overcount
  rw [hc, Footprint.conclude, hr, Bool.and_true, List.length_append] at hover
  cases hsweeps : f.sweeps with
  | true =>
    simp only [hsweeps, if_true, List.length_singleton] at hover
    refine ⟨⟨fun hzero => ?_, nofun⟩, ?_⟩ <;> omega
  | false =>
    rw [hsweeps, during.doubled_of_not_sweeps hsweeps] at hover
    exact ⟨⟨fun _ => rfl, fun _ => hover⟩, Int.le_of_eq hover.symm⟩

end transfer

end Custodian

namespace Operation

variable {engine : Engine ε} {w : World ε σ} {h : HistoryState ε σ} {os : List Operation}
  {given : List Component} {name : String} {source : TrackedIndex} {gpu : NativeIndex}
  {custodian : Custodian ε σ}

/-- What is held and what was freed after more has happened at a boundary. -/
theorem Boundary.count_held_add_freed (hb : Boundary engine (.start w) os given h)
    (hos : orderlyAll os = true) {f : Footprint} {c' : Custodian ε σ}
    (he : h.custodian.Evolves engine f c') (x : Component) :
    c'.registry.held.count x + (w.freedSince c'.world).count x =
      given.count x + f.given.count x + f.excess.count x := by
  have hbefore := (hb.account hos).count_eq x
  have hafter := he.account.count_eq x
  have hlog := World.count_freedSince (hb.log_extends.trans he.log_extends) x
  have hempty : (Registry.held {}).count x = 0 := rfl
  simp only [HistoryState.start, Custodian.account, List.count_append] at hbefore hafter hlog
  omega

/-- As long as not everything was released, a component that was handed over once is held or was
freed at most once. -/
theorem Boundary.count_le_one (hb : Boundary engine (.start w) os given h)
    (hos : orderlyAll os = true) {f : Footprint} {c' : Custodian ε σ}
    (he : h.custodian.Evolves engine f c') (hf : f.sweeps = false) (hd : (given ++ f.given).Nodup)
    (x : Component) :
    c'.registry.held.count x + (w.freedSince c'.world).count x ≤ 1 := by
  have hsum := hb.count_held_add_freed hos he x
  have hle := List.nodup_iff_count.1 hd x
  rw [Footprint.excess, he.doubled_of_not_sweeps hf, List.flatMap_nil, List.count_nil] at hsum
  rw [List.count_append] at hle
  omega

/-- Without an overcount, the outstanding handles can be counted at every later boundary of an
orderly continuation. -/
theorem Boundary.exists_outstanding {later : List Operation} {given' : List Component}
    {h' : HistoryState ε σ} (hb : Boundary engine h later given' h')
    (hlater : orderlyAll later = true) (hover : h.custodian.registry.overcount = 0) :
    ∃ n, h'.custodian.registry.tally.outstanding = .ok n :=
  ⟨_, Registry.outstanding_eq_liveCount ((hb.overcount hlater).trans hover)⟩

/-- With an overcount, the outstanding handles cannot be counted once everything was released. -/
theorem outstanding_releaseAll_of_overcount (hover : 0 < h.custodian.registry.overcount) :
    (run engine h .releaseAll).2.custodian.registry.tally.outstanding = .error .overflow := by
  have hkept := Custodian.overcount_releaseAll engine h.custodian
  rw [Registry.overcount, Custodian.liveCount_releaseAll] at hkept
  rw [run_snd, act]
  change (h.custodian.releaseAll engine).2.registry.tally.outstanding = _
  unfold HandleTally.outstanding
  rw [if_neg (by omega)]

/-- A conversion of a live index is harmless exactly when not everything was released during it:
then no component of the source is freed twice, the id map of a live copy was not freed, the slot of
the source does not come back from its end, and however the history goes on, the outstanding handles
can be counted. -/
theorem transfer_harmless_iff (hb : Boundary engine (.start w) os given h)
    (hos : orderlyAll os = true) (hl : h.names.lookup name = some (source, true))
    (hbegin : (h.giveUp name).custodian.beginTransfer source.id = .ok (gpu, custodian))
    (derived : Option String) (during : List Operation) {reply : Reply RawHandle}
    (hr : reply.returns = true)
    (hd : (given ++ (footprint engine h (.transfer name derived during reply)).given).Nodup) :
    let returned := (runAll engine { h.giveUp name with custodian } during).2.custodian
    let sweeps := (footprintAll engine { h.giveUp name with custodian } during).sweeps
    let after := (run engine h (.transfer name derived during reply)).2
    ((∀ x ∈ gpu.components, (w.freedSince after.custodian.world).count x ≤ 1) ↔
      sweeps = false) ∧
    (∀ raw idMap, reply = .ok raw → gpu.idMap = some idMap →
      after.custodian.registry.slot? returned.registry.nextId =
        some (.live (.cpu raw (some idMap))) ∧
      ((idMap, .idMap) ∈ w.freedSince after.custodian.world ↔ sweeps = true)) ∧
    ((returned.registry.slot? source.id = some .released ∧
        after.custodian.registry.slot? source.id ≠ some .released) ↔
      sweeps = true ∧ ∃ raw, reply = .ok raw) ∧
    ((∀ later given' h', Boundary engine after later given' h' → orderlyAll later = true →
        ∃ n, h'.custodian.registry.tally.outstanding = .ok n) ↔
      sweeps = false) := by
  intro returned sweeps after
  have hinside : Custodian.Evolves engine custodian _ returned :=
    evolves_runAll engine { h.giveUp name with custodian } during
  have hwhole := evolves_run engine h (.transfer name derived during reply)
  have hfoot : footprint engine h (.transfer name derived during reply) =
      (footprintAll engine { h.giveUp name with custodian } during).conclude gpu reply := by
    rw [footprint]
    simp only [hl, hbegin]
  have hafter : after.custodian =
      (returned.finishTransfer engine source.id gpu reply).2 :=
    (congrArg _ (run_snd engine h _)).trans (custodian_act_transfer engine hl hbegin ..)
  have honce : sweeps = false → ∀ x, after.custodian.registry.held.count x +
      (w.freedSince after.custodian.world).count x ≤ 1 := fun hsweeps =>
    hb.count_le_one hos hwhole (by rw [hfoot]; exact hsweeps) hd
  refine ⟨⟨fun hle => ?_, fun hsweeps x _ => ?_⟩, fun raw idMap hreply hidMap => ?_, ?_, ?_⟩
  · refine Bool.eq_false_iff.2 fun hsweeps => ?_
    -- The graph of the source would be freed once more.
    have htwice := hinside.graph_freed_twice hbegin hsweeps hr hb.log_extends
    rw [← hafter] at htwice
    exact Nat.not_lt.2 (hle _ gpu.graph_mem_components) htwice
  · exact Nat.le_trans (Nat.le_add_left ..) (honce hsweeps x)
  · subst hreply
    have hlive := Custodian.slot_finishTransfer_ok engine (hinside.slot_during hbegin) gpu raw
    rw [hidMap, ← hafter] at hlive
    refine ⟨hlive, fun hmem => ?_, fun hsweeps => ?_⟩
    · by_contra hnot
      -- The live copy holds the map, so that it was not freed as well.
      have hsum := honce (Bool.eq_false_iff.2 hnot) (idMap, .idMap)
      have hheld := List.count_pos_iff.2 (Registry.mem_held hlive
        (NativeIndex.idMap_mem_components (n := .cpu raw (some idMap)) rfl))
      have hfreed := List.count_pos_iff.2 hmem
      omega
    · rw [hafter]
      exact hinside.freed_after hbegin hsweeps hb.log_extends
        (NativeIndex.idMap_mem_components hidMap)
  · rw [hafter]
    exact hinside.slot_revived_iff hbegin reply
  · obtain ⟨hzero, hnonneg⟩ := hinside.overcount_transfer hbegin hr
      ((hb.overcount hos).trans (rfl : (Registry.overcount {}) = 0))
    rw [← hafter] at hzero hnonneg
    refine ⟨fun hall => hzero.1 ?_, fun hsweeps later given' h' hlater hol => ?_⟩
    · by_contra hover
      -- An overcount comes to light when everything is released once more.
      obtain ⟨n, hn⟩ := hall [.releaseAll] _ _ (.ending engine after [.releaseAll]) rfl
      rw [runAll_cons_snd, runAll, outstanding_releaseAll_of_overcount (by omega)] at hn
      cases hn
    · exact hlater.exists_outstanding hol (hzero.2 hsweeps)

/-- One live index, and nothing else has happened. -/
def sourceRegistered : HistoryState Arena Unit :=
  (runAll Arena.engine (.start untouchedWorld)
    [.register (.gpu ⟨1⟩ (some ⟨2⟩)) "source"]).2

/-- The conversion of this index, with everything released during it. -/
def sweptConversion (reply : Reply RawHandle) : HistoryState Arena Unit :=
  (run Arena.engine sourceRegistered (.transfer "source" (some "copy") [.releaseAll] reply)).2

/-- Everything is released during a conversion that succeeds: its source is freed twice, the id map
of the live copy was freed, and at some point the outstanding handles cannot be counted. -/
theorem transfer_harmful_when_swept :
    (¬∀ x ∈ (NativeIndex.gpu ⟨1⟩ (some ⟨2⟩)).components,
      (untouchedWorld.freedSince (sweptConversion (.ok ⟨3⟩)).custodian.world).count x ≤ 1) ∧
    (⟨2⟩, .idMap) ∈ untouchedWorld.freedSince (sweptConversion (.ok ⟨3⟩)).custodian.world ∧
    ¬∀ later given' h', Boundary Arena.engine (sweptConversion (.ok ⟨3⟩)) later given' h' →
      orderlyAll later = true → ∃ n, h'.custodian.registry.tally.outstanding = .ok n := by
  have hbegin : (sourceRegistered.giveUp "source").custodian.beginTransfer ⟨0⟩ =
      .ok (.gpu ⟨1⟩ (some ⟨2⟩), { sourceRegistered.custodian with
        registry := sourceRegistered.custodian.registry.setSlot ⟨0⟩
          (.converting (.gpu ⟨1⟩ (some ⟨2⟩))) }) := by
    cbv
  have hgiven : (footprintAll Arena.engine (.start untouchedWorld)
      [.register (.gpu ⟨1⟩ (some ⟨2⟩)) "source"]).given ++
      (footprint Arena.engine sourceRegistered
        (.transfer "source" (some "copy") [.releaseAll] (.ok ⟨3⟩))).given =
      [(⟨2⟩, .idMap), (⟨1⟩, .gpuIndex), (⟨3⟩, .cpuIndex)] := by
    cbv
  have hnamed : sourceRegistered.names.lookup "source" = some (⟨⟨0⟩, .gpu⟩, true) := by
    cbv
  have hreturns : (Reply.ok (⟨3⟩ : RawHandle)).returns = true := rfl
  obtain ⟨htwice, hmap, -, hcounted⟩ := transfer_harmless_iff
    (Boundary.ending Arena.engine (.start untouchedWorld) _) (by decide) hnamed hbegin
    (some "copy") [.releaseAll] hreturns (hgiven ▸ by decide)
  refine ⟨fun hle => ?_, ?_, fun hall => ?_⟩
  · exact Bool.false_ne_true (htwice.1 hle).symm
  · exact (hmap ⟨3⟩ ⟨2⟩ rfl rfl).2.2 rfl
  · exact Bool.false_ne_true (hcounted.1 hall).symm

/-- Everything is released during a conversion that fails: its source is freed twice, and for the
one handle that was registered two ends were counted. -/
theorem source_freed_twice_when_swept :
    untouchedWorld.freedSince (sweptConversion (.failed "lost" none)).custodian.world =
      [(⟨2⟩, .idMap), (⟨1⟩, .gpuIndex), (⟨2⟩, .idMap), (⟨1⟩, .gpuIndex)] ∧
    (sweptConversion (.failed "lost" none)).custodian.registry.tally.registered = 1 ∧
    (sweptConversion (.failed "lost" none)).custodian.registry.tally.released = 2 := by
  cbv

end Operation

end VectorIndex
