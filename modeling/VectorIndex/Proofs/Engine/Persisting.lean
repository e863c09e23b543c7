import VectorIndex.Proofs.Engine.Conservation

/-!
# What may be persisted

A map wraps the index that it was built with until a conversion is given the map, and from then on
the copy that the last such conversion has made.  Therefore a host index can be persisted with a map
as long as both are there and the last conversion that was given the map has made this index
(`Arena.Follows`, `Arena.persist_follows_last_conversion`).  What is in the arena is read off the
transcript for that (`Arena.Kept`).
-/

set_option autoImplicit false

namespace VectorIndex

namespace Arena

variable {a a' : Arena} {raw idMap : RawHandle} {t earlier later : Transcript}
  {entry : Call × Outcome} {calls : List Call}

/-! ## Reading transcripts -/

/-- A structure is taken back in the course of a transcript. -/
def Released (raw : RawHandle) (t : Transcript) : Prop :=
  raw ∈ (takenBack t).map Prod.fst

/-- The copy that a conversion has made which was given a map. -/
def givenCopy? (idMap : RawHandle) : Call × Outcome → Option RawHandle
  | (.convert gpu _, .converted copy) => if gpu.idMap = some idMap then some copy else none
  | _ => none

/-- The copy of the last conversion that was given a map. -/
def lastCopy? (idMap : RawHandle) (t : Transcript) : Option RawHandle :=
  t.reverse.findSome? (givenCopy? idMap)

/-- What is released in two transcripts in a row is released in one of them. -/
theorem released_append :
    Released raw (earlier ++ later) ↔ Released raw earlier ∨ Released raw later := by
  unfold Released takenBack
  rw [List.flatMap_append, List.map_append, List.mem_append]

/-- One entry releases what it returns. -/
theorem released_singleton : Released raw [entry] ↔ raw ∈ (returned entry).map Prod.fst := by
  unfold Released takenBack
  rw [List.flatMap_singleton]

/-- The last copy for a map is that of the last entry, or of the ones before. -/
theorem lastCopy?_concat (idMap : RawHandle) (t : Transcript) (entry : Call × Outcome) :
    lastCopy? idMap (t ++ [entry]) = (givenCopy? idMap entry).or (lastCopy? idMap t) := by
  unfold lastCopy?
  rw [List.reverse_append, List.reverse_singleton, List.singleton_append, List.findSome?_cons]
  cases givenCopy? idMap entry <;> rfl

/-- An entry gives a copy to a map exactly if it is a conversion that was given the map. -/
theorem givenCopy?_eq_some_iff {copy : RawHandle} :
    givenCopy? idMap entry = some copy ↔
      ∃ c : Conversion, c.entry = entry ∧ c.gpu.idMap = some idMap ∧ c.copy = copy := by
  constructor
  · intro h
    unfold givenCopy? at h
    split at h
    · next gpu config copy' =>
      split at h
      · next hgiven => exact ⟨⟨gpu, config, copy'⟩, rfl, hgiven, Option.some.inj h⟩
      · cases h
    · cases h
  · rintro ⟨c, rfl, hgiven, rfl⟩
    exact if_pos hgiven

/-- The last conversion that was given a map is followed by none that was given it too. -/
theorem lastCopy?_eq_some_iff {copy : RawHandle} :
    lastCopy? idMap t = some copy ↔
      ∃ (c : Conversion) (earlier later : Transcript), t = earlier ++ c.entry :: later ∧
        c.gpu.idMap = some idMap ∧ c.copy = copy ∧
        ∀ c' : Conversion, c'.entry ∈ later → c'.gpu.idMap ≠ some idMap := by
  unfold lastCopy?
  rw [List.findSome?_eq_some_iff]
  constructor
  · rintro ⟨front, entry, back, ht, hentry, hnone⟩
    obtain ⟨c, rfl, hgiven, hcopy⟩ := givenCopy?_eq_some_iff.1 hentry
    refine ⟨c, back.reverse, front.reverse, ?_, hgiven, hcopy, fun c' hc' hgiven' => ?_⟩
    · rw [← List.reverse_reverse t, ht, List.reverse_append, List.reverse_cons, List.append_assoc]
      rfl
    · have hsome := givenCopy?_eq_some_iff.2 ⟨c', rfl, hgiven', rfl⟩
      exact nomatch (hnone _ (List.mem_reverse.1 hc')).symm.trans hsome
  · rintro ⟨c, earlier, later, rfl, hgiven, hcopy, hlast⟩
    refine ⟨later.reverse, c.entry, earlier.reverse, ?_, ?_, fun entry hentry => ?_⟩
    · rw [List.reverse_append, List.reverse_cons, List.append_assoc]
      rfl
    · exact givenCopy?_eq_some_iff.2 ⟨c, rfl, hgiven, hcopy⟩
    · cases hsome : givenCopy? idMap entry with
      | none => rfl
      | some copy' =>
        obtain ⟨c', rfl, hgiven', -⟩ := givenCopy?_eq_some_iff.1 hsome
        exact absurd hgiven' (hlast c' (List.mem_reverse.1 hentry))

/-- A release hands nothing out. -/
theorem structures_eq_nil (h : raw ∈ (returned entry).map Prod.fst) : entry.2.structures = [] := by
  unfold returned at h
  split at h
  · rfl
  · cases h

/-- What is not released up to an entry is neither released before it nor by it. -/
theorem not_released_concat : ¬ Released raw (t ++ [entry]) ↔
    ¬ Released raw t ∧ raw ∉ (returned entry).map Prod.fst := by
  rw [released_append, released_singleton, not_or]

/-- What is released later is released. -/
theorem Released.of_later (h : Released raw later) : Released raw (earlier ++ entry :: later) := by
  rw [List.append_cons, released_append]
  exact .inr h

/-- What was handed out was not released before. -/
theorem not_released_of_later (ht : transcript calls = earlier ++ entry :: later)
    (hraw : raw ∈ entry.2.structures.map Prod.fst) (h : ¬ Released raw later) :
    ¬ Released raw (transcript calls) := by
  have hearlier : transcript (calls.take earlier.length) = earlier := by
    rw [← take_transcript, ht, List.take_left]
  have hbefore : Balanced earlier (replay (calls.take earlier.length)) := by
    have hbalanced := balanced (calls.take earlier.length)
    rwa [hearlier] at hbalanced
  have hnodup := (balanced calls).nodup_handedOut
  unfold handedOut at hnodup
  rw [ht, List.flatMap_append, List.flatMap_cons, List.map_append, List.nodup_append] at hnodup
  obtain ⟨-, -, hdisjoint⟩ := hnodup
  rw [ht, released_append, ← List.singleton_append, released_append, released_singleton]
  rintro (hreleased | hentry | hlater)
  · obtain ⟨c, hc, rfl⟩ := List.mem_map.1 hreleased
    have hout : c ∈ handedOut earlier := hbefore.mem_handedOut (.inr hc)
    refine hdisjoint c.1 (List.mem_map_of_mem hout) c.1 ?_ rfl
    rw [List.map_append]
    exact List.mem_append_left _ hraw
  · rw [structures_eq_nil hentry] at hraw
    cases hraw
  · exact h hlater

/-- A build that takes place is in the transcript. -/
theorem Build.In.entry_mem {x : Build} (h : x.In calls) : x.entry ∈ transcript calls := by
  obtain ⟨before, after, rfl, hbuild⟩ := h
  have houtcome : (replay before).outcome (.build x.dataset x.config) =
      .built (.gpu x.index (some x.idMap)) := by
    simp only [outcome, hbuild, Outcome.ofReply]
  unfold transcript
  rw [transcribe_append, transcribe]
  change _ ∈ _ ++ (_, (replay before).outcome _) :: _
  rw [houtcome]
  exact List.mem_append_cons_self

/-- Builds with the same entry are the same. -/
theorem Build.entry_injective : Function.Injective Build.entry := by
  rintro ⟨dataset, config, index, idMap⟩ ⟨dataset', config', index', idMap'⟩ h
  cases h
  rfl

/-- Conversions with the same entry are the same. -/
theorem Conversion.entry_injective : Function.Injective Conversion.entry := by
  rintro ⟨gpu, config, copy⟩ ⟨gpu', config', copy'⟩ h
  cases h
  rfl

/-! ## What is left as it was -/

/-- A graph stays as it is until it is released. -/
theorem Transition.find?_graph {residency : Residency} {graph : FlatGraph}
    (h : Transition a entry a') (hfind : a.find? raw = some (graphIn residency graph))
    (hkept : raw ∉ (returned entry).map Prod.fst) :
    a'.find? raw = some (graphIn residency graph) := by
  cases h with
  | refused => exact hfind
  | built => exact find?_alloc (find?_alloc hfind _) _
  | @converted c graph' idMap target ids hgraph hgiven hmap hcopy =>
    have hne : raw ≠ idMap := by
      apply ne_of_find? hfind hmap
      cases residency <;> nofun
    exact (find?_replace_of_ne hne _).trans (find?_alloc hfind _)
  | stranded => exact find?_alloc hfind _
  | persisted => exact hfind
  | released hfind' =>
    refine (find?_erase_of_ne ?_).trans hfind
    rintro rfl
    exact hkept List.mem_cons_self

/-- A map stays as it is, unless a conversion is given the map. -/
theorem Transition.find?_idMap {ids : List Int64} {target : RawHandle}
    (h : Transition a entry a') (hfind : a.find? raw = some (.idMap ids target))
    (hkept : raw ∉ (returned entry).map Prod.fst) :
    a'.find? raw = some (.idMap ids ((givenCopy? raw entry).getD target)) := by
  cases h with
  | refused call => cases call <;> exact hfind
  | built => exact find?_alloc (find?_alloc hfind _) _
  | @converted c graph idMap target' ids' hgraph hgiven hmap hcopy =>
    by_cases heq : raw = idMap
    · subst heq
      cases hfind.symm.trans hmap
      have hcopied : givenCopy? raw c.entry = some c.copy := if_pos hgiven
      rw [hcopied]
      exact find?_replace_self (find?_alloc hmap _) _
    · have hother : givenCopy? raw c.entry = none :=
        if_neg fun hsame => heq (Option.some.inj (hsame.symm.trans hgiven))
      rw [hother]
      exact (find?_replace_of_ne heq _).trans (find?_alloc hfind _)
  | stranded => exact find?_alloc hfind _
  | persisted => exact hfind
  | released hfind' =>
    refine (find?_erase_of_ne ?_).trans hfind
    rintro rfl
    exact hkept List.mem_cons_self

/-! ## What is new -/

/-- A build allocates the graph of its rows and a map of its ids that wraps the graph. -/
theorem Transition.of_build {x : Build} (h : Transition a x.entry a') (hfresh : a.Fresh) :
    ∃ graph ids, x.Made graph ∧ x.dataset.docIds = .ok ids ∧ x.idMap = ⟨a.next + 1⟩ ∧
      a'.find? x.index = some (.gpu graph) ∧ a'.find? x.idMap = some (.idMap ids x.index) := by
  generalize hentry : x.entry = entry at h
  cases h
  case built x' graph ids hgraph hids hindex hidMap =>
    obtain rfl := Build.entry_injective hentry
    refine ⟨graph, ids, hgraph, hids, hidMap, ?_, ?_⟩
    · rw [hindex]
      exact find?_alloc (find?_alloc_self hfresh _) _
    · rw [hidMap]
      exact find?_alloc_self (fresh_alloc hfresh _) _
  all_goals exact nomatch congrArg Prod.snd hentry

/-- A conversion allocates the copy of its source, whose map was allocated before. -/
theorem Transition.of_conversion {c : Conversion} (h : Transition a c.entry a')
    (hfresh : a.Fresh) :
    ∃ graph idMap, a.find? c.gpu.index = some (.gpu graph) ∧ c.gpu.idMap = some idMap ∧
      idMap.number < a.next ∧ a'.find? c.copy = some (.cpu (hostGraph graph c.config)) := by
  generalize hentry : c.entry = entry at h
  cases h
  case converted c' graph idMap target ids hgraph hgiven hmap hcopy =>
    obtain rfl := Conversion.entry_injective hentry
    have hlt := number_lt_of_find? hfresh hmap
    refine ⟨graph, idMap, hgraph, hgiven, hlt, ?_⟩
    have hne : c.copy ≠ idMap := by
      rintro rfl
      rw [hcopy] at hlt
      exact Nat.lt_irrefl _ hlt
    rw [find?_replace_of_ne hne, hcopy]
    exact find?_alloc_self hfresh _
  all_goals exact nomatch congrArg Prod.snd hentry

/-! ## What a transcript says about the arena -/

/-- Indexes, copies and maps are there until they are released.  A map wraps the copy of the last
conversion that was given it, or else the index that it was built with. -/
structure Kept (t : Transcript) (a : Arena) : Prop where
  rows : ∀ {x : Build}, x.entry ∈ t → ¬ Released x.index t →
    ∃ graph, x.Made graph ∧ a.find? x.index = some (.gpu graph)
  copies : ∀ {c : Conversion}, c.entry ∈ t →
    ∃ (x : Build) (graph : FlatGraph), x.entry ∈ t ∧ x.index = c.gpu.index ∧ x.Made graph ∧
      (¬ Released c.copy t → a.find? c.copy = some (.cpu (hostGraph graph c.config)))
  given : ∀ {c : Conversion} {idMap : RawHandle}, c.entry ∈ t → c.gpu.idMap = some idMap →
    idMap.number < a.next
  maps : ∀ {y : Build}, y.entry ∈ t → ¬ Released y.idMap t →
    ∃ ids, y.dataset.docIds = .ok ids ∧
      a.find? y.idMap = some (.idMap ids ((lastCopy? y.idMap t).getD y.index))

/-- No conversion was given a map that is still to be made. -/
theorem Kept.lastCopy?_eq_none (h : Kept t a) (hnext : a.next ≤ idMap.number) :
    lastCopy? idMap t = none := by
  cases hlast : lastCopy? idMap t with
  | none => rfl
  | some copy =>
    obtain ⟨c, earlier, later, rfl, hgiven, -⟩ := lastCopy?_eq_some_iff.1 hlast
    exact absurd (h.given List.mem_append_cons_self hgiven) (Nat.not_lt.2 hnext)

/-- What is kept up to a call is kept after it. -/
theorem Kept.step (h : Kept t a) (hfresh : a.Fresh)
    (hrows : ∀ {raw graph}, a.find? raw = some (.gpu graph) →
      ∃ x : Build, x.entry ∈ t ∧ x.index = raw ∧ x.Made graph)
    (hstep : Transition a entry a') : Kept (t ++ [entry]) a' := by
  constructor
  · intro x hx hkept
    obtain ⟨hbefore, hnow⟩ := not_released_concat.1 hkept
    obtain hold | hnew := List.mem_append.1 hx
    · obtain ⟨graph, hmade, hfind⟩ := h.rows hold hbefore
      have hfind : a.find? x.index = some (graphIn .gpu graph) := hfind
      exact ⟨graph, hmade, hstep.find?_graph hfind hnow⟩
    · obtain rfl := List.mem_singleton.1 hnew
      obtain ⟨graph, ids, hmade, -, -, hfind, -⟩ := hstep.of_build hfresh
      exact ⟨graph, hmade, hfind⟩
  · intro c hc
    obtain hold | hnew := List.mem_append.1 hc
    · obtain ⟨x, graph, hx, hindex, hmade, hcopy⟩ := h.copies hold
      refine ⟨x, graph, List.mem_append_left _ hx, hindex, hmade, fun hkept => ?_⟩
      obtain ⟨hbefore, hnow⟩ := not_released_concat.1 hkept
      have hfind : a.find? c.copy = some (graphIn .cpu (hostGraph graph c.config)) := hcopy hbefore
      exact hstep.find?_graph hfind hnow
    · obtain rfl := List.mem_singleton.1 hnew
      obtain ⟨graph, idMap, hgraph, -, -, hcopy⟩ := hstep.of_conversion hfresh
      obtain ⟨x, hx, hindex, hmade⟩ := hrows hgraph
      exact ⟨x, graph, List.mem_append_left _ hx, hindex, hmade, fun _ => hcopy⟩
  · intro c idMap hc hgiven
    apply Nat.lt_of_lt_of_le _ hstep.next_mono
    obtain hold | hnew := List.mem_append.1 hc
    · exact h.given hold hgiven
    · obtain rfl := List.mem_singleton.1 hnew
      obtain ⟨graph, idMap', -, hgiven', hlt, -⟩ := hstep.of_conversion hfresh
      rwa [Option.some.inj (hgiven.symm.trans hgiven')]
  · intro y hy hkept
    obtain ⟨hbefore, hnow⟩ := not_released_concat.1 hkept
    rw [lastCopy?_concat]
    obtain hold | hnew := List.mem_append.1 hy
    · obtain ⟨ids, hids, hfind⟩ := h.maps hold hbefore
      refine ⟨ids, hids, ?_⟩
      rw [hstep.find?_idMap hfind hnow]
      cases givenCopy? y.idMap entry <;> rfl
    · obtain rfl := List.mem_singleton.1 hnew
      obtain ⟨graph, ids, -, hids, hidMap, -, hfind⟩ := hstep.of_build hfresh
      have hnext : a.next ≤ y.idMap.number := by
        rw [hidMap]
        exact Nat.le_succ _
      rw [h.lastCopy?_eq_none hnext]
      exact ⟨ids, hids, hfind⟩

/-- In every history, what was not released is kept. -/
theorem kept (calls : List Call) : Kept (transcript calls) (replay calls) := by
  induction calls using List.reverseRecOn with
  | nil =>
    constructor
    · exact fun hx => nomatch hx
    · exact fun hc => nomatch hc
    · exact fun hc => nomatch hc
    · exact fun hy => nomatch hy
  | append_singleton calls call ih =>
    rw [transcript_concat, replay_concat]
    have hfresh := (balanced calls).fresh
    refine ih.step hfresh (fun hfind => ?_) (transition hfresh call)
    obtain ⟨x, hx, hindex, hmade⟩ := (traced_replay calls).rows hfind
    exact ⟨x, hx.entry_mem, hindex, hmade⟩

/-! ## Persisting -/

/-- An index was made by a conversion and not released since, its map was made by a build and not
released since, and no later conversion was given the map. -/
structure Follows (t : Transcript) (cpu : NativeIndex) (c : Conversion) (y : Build) : Prop where
  copy : c.copy = cpu.index
  given : c.gpu.idMap = cpu.idMap
  map : cpu.idMap = some y.idMap
  last : ∃ earlier later, t = earlier ++ c.entry :: later ∧ ¬ Released cpu.index later ∧
    ∀ c' : Conversion, c'.entry ∈ later → c'.gpu.idMap ≠ cpu.idMap
  built : ∃ earlier later, t = earlier ++ y.entry :: later ∧ ¬ Released y.idMap later

variable {cpu : NativeIndex} {c : Conversion} {y : Build}

/-- A map that was given to no later conversion still wraps the copy. -/
theorem Follows.lastCopy?_eq (h : Follows t cpu c y) : lastCopy? y.idMap t = some cpu.index := by
  obtain ⟨earlier, later, ht, -, hlast⟩ := h.last
  rw [lastCopy?_eq_some_iff]
  refine ⟨c, earlier, later, ht, h.given.trans h.map, h.copy, ?_⟩
  rw [← h.map]
  exact hlast

/-- What is found was not released. -/
theorem not_released_of_find? {s : Structure} (h : (replay calls).find? raw = some s) :
    ¬ Released raw (transcript calls) := by
  have hbalanced := balanced calls
  have hmem : (raw, s.kind) ∈ (replay calls).inventory :=
    (mem_inventory_iff hbalanced.nodup_keys).2 ⟨s, h, rfl⟩
  exact (hbalanced.mem_inventory_iff.1 hmem).2

/-- What follows the last conversion is there, with its map. -/
theorem Follows.holds (h : Follows (transcript calls) cpu c y) :
    ∃ (x : Build) (graph : FlatGraph) (ids : List Int64), x.entry ∈ transcript calls ∧
      x.index = c.gpu.index ∧ x.Made graph ∧ y.dataset.docIds = .ok ids ∧
      (replay calls).Holds (.cpu cpu.index cpu.idMap) (hostGraph graph c.config) ids := by
  obtain ⟨earlier, later, ht, hindex, -⟩ := h.last
  obtain ⟨before, after, ht', hidMap⟩ := h.built
  have hc : c.entry ∈ transcript calls := ht ▸ List.mem_append_cons_self
  have hy : y.entry ∈ transcript calls := ht' ▸ List.mem_append_cons_self
  have hcopyKept : ¬ Released c.copy (transcript calls) := by
    apply not_released_of_later ht
    · exact List.mem_cons_self
    · rwa [h.copy]
  have hidMapKept : ¬ Released y.idMap (transcript calls) := by
    apply not_released_of_later ht'
    · exact List.mem_cons_self
    · exact hidMap
  obtain ⟨x, graph, hx, hrows, hmade, hcopy⟩ := (kept calls).copies hc
  obtain ⟨ids, hids, hmap⟩ := (kept calls).maps hy hidMapKept
  rw [h.lastCopy?_eq] at hmap
  refine ⟨x, graph, ids, hx, hrows, hmade, hids, ?_, y.idMap, h.map, hmap⟩
  rw [← h.copy]
  exact hcopy hcopyKept

/-- A map that wraps a host index was given to the conversion that has made the index, and to none
after it. -/
theorem lastCopy?_of_find? {index : RawHandle} {graph : FlatGraph} {ids : List Int64}
    (hy : y.entry ∈ transcript calls) (hcopy : (replay calls).find? index = some (.cpu graph))
    (hmap : (replay calls).find? y.idMap = some (.idMap ids index)) :
    lastCopy? y.idMap (transcript calls) = some index := by
  obtain ⟨ids', -, hmap'⟩ := (kept calls).maps hy (not_released_of_find? hmap)
  have htarget : (lastCopy? y.idMap (transcript calls)).getD y.index = index := by
    injection hmap'.symm.trans hmap with hsame
    injection hsame
  cases hlast : lastCopy? y.idMap (transcript calls) with
  | some copy =>
    rw [hlast] at htarget
    exact congrArg some htarget
  | none =>
    -- the map would still wrap the device index that it was built with
    rw [hlast] at htarget
    have htarget : y.index = index := htarget
    have hrows := (kept calls).rows hy
    rw [htarget] at hrows
    obtain ⟨graph', -, hgpu⟩ := hrows (not_released_of_find? hcopy)
    exact nomatch hcopy.symm.trans hgpu

/-- What has an artifact follows the last conversion. -/
theorem exists_follows_of_artifact {file : Artifact} (h : (replay calls).artifact cpu = .ok file) :
    ∃ c y, Follows (transcript calls) cpu c y := by
  obtain ⟨graph, idMap, ids, hcopy, hgiven, hmap, -⟩ := artifact_inversion h
  obtain ⟨y, hy, rfl, -⟩ := (traced_replay calls).ids hmap
  have hlast := lastCopy?_of_find? hy.entry_mem hcopy hmap
  obtain ⟨c, earlier, later, ht, hc, hcopied, hno⟩ := lastCopy?_eq_some_iff.1 hlast
  obtain ⟨before, after, ht'⟩ := List.append_of_mem hy.entry_mem
  refine ⟨c, y, hcopied, hc.trans hgiven.symm, hgiven, ?_, ?_⟩
  · refine ⟨earlier, later, ht, fun hreleased => not_released_of_find? hcopy ?_, ?_⟩
    · rw [ht]
      exact hreleased.of_later
    · rw [hgiven]
      exact hno
  · refine ⟨before, after, ht', fun hreleased => not_released_of_find? hmap ?_⟩
    rw [ht']
    exact hreleased.of_later

/-- After every history an index can be persisted exactly if it follows the last conversion that was
given its map.  What is appended has the rows, the dimension and the metric of the index that this
conversion has copied, the search parameters that the conversion was given, and the ids of the map.
Otherwise the buffer stays as it is. -/
theorem persist_follows_last_conversion (calls : List Call) (cpu : NativeIndex) (buffer : Bytes) :
    (∀ c y, Follows (transcript calls) cpu c y →
      ∃ (x : Build) (vectors : List UInt32) (ids : List Int64), x.entry ∈ transcript calls ∧
        x.index = c.gpu.index ∧ x.dataset.components = .ok vectors ∧ y.dataset.docIds = .ok ids ∧
        engine.persistInto cpu buffer (replay calls) =
          (.ok (), buffer ++ (artifactWith
            (hostGraph (graphOf x.dataset.dimension vectors x.config) c.config) ids).encode,
            replay calls)) ∧
    ((∀ c y, ¬ Follows (transcript calls) cpu c y) →
      ∃ message, engine.persistInto cpu buffer (replay calls) =
        (.failed message none, buffer, replay calls)) := by
  constructor
  · intro c y hfollows
    obtain ⟨x, graph, ids, hx, hindex, ⟨vectors, hvectors, rfl⟩, hids, hholds⟩ := hfollows.holds
    refine ⟨x, vectors, ids, hx, hindex, hvectors, hids, ?_⟩
    have hpersist : engine.persist (.cpu cpu.index cpu.idMap) (replay calls) =
        (.ok (artifactWith _ ids).encode, replay calls) := persist_spec rfl hholds
    change engine.persist cpu (replay calls) = _ at hpersist
    unfold Engine.persistInto
    rw [hpersist]
  · intro hnone
    cases hartifact : (replay calls).artifact cpu with
    | ok file =>
      obtain ⟨c, y, hfollows⟩ := exists_follows_of_artifact hartifact
      exact absurd hfollows (hnone c y)
    | error message =>
      refine ⟨message, ?_⟩
      have hpersist : engine.persist cpu (replay calls) = (.failed message none, replay calls) := by
        change (replay calls).persist cpu = _
        unfold persist
        rw [hartifact]
      unfold Engine.persistInto
      rw [hpersist]

/-- The rows of one dataset can be persisted with the ids of another one when the conversion was
given its map, but no more once the map was given to another conversion. -/
theorem given_away_map_is_not_persisted :
    let cpu : NativeIndex := .cpu ⟨5⟩ (some ⟨4⟩)
    let more : List Call := swappedMaps ++ [.convert (.gpu ⟨3⟩ (some ⟨4⟩)) {}]
    (∃ bytes, engine.persistInto cpu [1] (replay swappedMaps) =
      (.ok (), [1] ++ bytes, replay swappedMaps)) ∧
    ∃ message, engine.persistInto cpu [1] (replay more) =
      (.failed message none, [1], replay more) := by
  intro cpu more
  let x : Build := ⟨twoRows, {}, ⟨1⟩, ⟨2⟩⟩
  let y : Build := ⟨anotherRow, {}, ⟨3⟩, ⟨4⟩⟩
  let c : Conversion := ⟨.gpu ⟨1⟩ (some ⟨4⟩), {}, ⟨5⟩⟩
  constructor
  · have hfirst : (replay []).outcome (.build twoRows {}) = x.entry.2 := by
      decide +kernel
    have hsecond : (replay [.build twoRows {}]).outcome (.build anotherRow {}) = y.entry.2 := by
      decide +kernel
    have hthird : (replay [.build twoRows {}, .build anotherRow {}]).outcome
        (.convert c.gpu c.config) = c.entry.2 := by
      decide +kernel
    have ht : transcript swappedMaps = [x.entry, y.entry, c.entry] := by
      change [(Call.build twoRows {}, (replay []).outcome _),
        (.build anotherRow {}, (replay [.build twoRows {}]).outcome _),
        (.convert c.gpu c.config, (replay [.build twoRows {}, .build anotherRow {}]).outcome _)] = _
      rw [hfirst, hsecond, hthird]
      rfl
    have hfollows : Follows (transcript swappedMaps) cpu c y := by
      rw [ht]
      refine ⟨rfl, rfl, rfl, ⟨[x.entry, y.entry], [], rfl, ?_, nofun⟩, [x.entry], [c.entry], rfl,
        ?_⟩
      · exact List.not_mem_nil
      · exact List.not_mem_nil
    obtain ⟨_, _, _, -, -, -, -, hpersist⟩ :=
      (persist_follows_last_conversion swappedMaps cpu [1]).1 c y hfollows
    exact ⟨_, hpersist⟩
  · have hlast : lastCopy? ⟨4⟩ (transcript more) = some ⟨6⟩ := by
      decide +kernel
    apply (persist_follows_last_conversion more cpu [1]).2
    intro c' y' hfollows
    have hmap : y'.idMap = ⟨4⟩ := (Option.some.inj hfollows.map).symm
    have hcopy := hfollows.lastCopy?_eq
    rw [hmap, hlast] at hcopy
    exact absurd hcopy (by decide)

end Arena

end VectorIndex
