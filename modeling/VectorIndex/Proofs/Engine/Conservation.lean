import Mathlib.Data.List.Induction
import Mathlib.Data.List.Nodup
import VectorIndex.Proofs.Engine.Provenance

/-!
# Conservation in the arena

A transcript is a history together with what the caller was told (`Arena.transcript`).  It names
every structure that was handed out, also by a failing call, and every one that was taken back.
What is allocated and what was taken back are together what was handed out (`Arena.Balanced`), and
this accounts for every structure, because raw handles count up from one.

`Arena.Transition` says all that a call can do.  The balance is kept by each transition
(`Arena.Balanced.step`), and so by every history (`Arena.balanced`).
-/

set_option autoImplicit false

open scoped List

namespace VectorIndex

namespace Arena

variable {a a' : Arena} {raw : RawHandle} {kind : StructureKind} {s s' : Structure}

/-! ## Transcripts -/

/-- What the caller is told at the end of a call. -/
inductive Outcome where
  | built (native : NativeIndex)
  | converted (copy : RawHandle)
  | persisted (bytes : Bytes)
  | released
  | failed (message : String) (partialIndex : Option NativeIndex)
  | panicked (message : String)
  deriving DecidableEq, Repr

/-- The outcome that goes with a reply. -/
def Outcome.ofReply {α : Type} (success : α → Outcome) : Reply α → Outcome
  | .ok x => success x
  | .failed message partialIndex => .failed message partialIndex
  | .panicked message => .panicked message

/-- What comes of a call. -/
def outcome (a : Arena) : Call → Outcome
  | .build dataset config => .ofReply .built (a.build dataset config).1
  | .convert gpu config => .ofReply .converted (a.convert gpu config).1
  | .persist cpu => .ofReply .persisted (a.persist cpu).1
  | .release raw kind =>
    match (a.release raw kind).1 with
    | none => .released
    | some message => .failed message none

/-- Calls with their outcomes, the first one first. -/
abbrev Transcript : Type := List (Call × Outcome)

/-- What is written down while calls are made. -/
def transcribe (a : Arena) : List Call → Transcript
  | [] => []
  | call :: calls => (call, a.outcome call) :: transcribe (a.perform call) calls

/-- The transcript of a history, which starts with an empty arena. -/
def transcript (calls : List Call) : Transcript :=
  transcribe {} calls

/-- Calls are written down one list after the other. -/
theorem transcribe_append (a : Arena) (calls more : List Call) :
    transcribe a (calls ++ more) =
      transcribe a calls ++ transcribe (calls.foldl perform a) more := by
  induction calls generalizing a with
  | nil => rfl
  | cons call calls ih =>
    rw [List.cons_append, transcribe, transcribe, ih, List.cons_append, List.foldl_cons]

/-- One more call adds its entry to the transcript. -/
theorem transcript_concat (calls : List Call) (call : Call) :
    transcript (calls ++ [call]) = transcript calls ++ [(call, (replay calls).outcome call)] :=
  transcribe_append {} calls [call]

/-- The beginning of a transcript is the transcript of the beginning. -/
theorem take_transcript (n : Nat) (calls : List Call) :
    (transcript calls).take n = transcript (calls.take n) := by
  have htake : ∀ a, (transcribe a calls).take n = transcribe a (calls.take n) := by
    induction calls generalizing n with
    | nil =>
      intro a
      rw [transcribe, List.take_nil, List.take_nil, transcribe]
    | cons call calls ih =>
      intro a
      cases n with
      | zero => rfl
      | succ n => rw [transcribe, List.take_succ_cons, List.take_succ_cons, transcribe, ih]
  exact htake {}

/-- The structures that an outcome names: those of an index that was built, or left behind by a
failure, or a copy. -/
def Outcome.structures : Outcome → List Component
  | .built native => native.components
  | .converted copy => [(copy, .cpuIndex)]
  | .failed _ (some native) => native.components
  | _ => []

/-- The structure that was taken back, if the call was a release that succeeded. -/
def returned : Call × Outcome → List Component
  | (.release raw kind, .released) => [(raw, kind)]
  | _ => []

/-- All structures that were handed out. -/
def handedOut (t : Transcript) : List Component :=
  t.flatMap fun entry => entry.2.structures

/-- All structures that were taken back. -/
def takenBack (t : Transcript) : List Component :=
  t.flatMap returned

/-- One more entry hands out the structures that it names. -/
theorem handedOut_concat (t : Transcript) (entry : Call × Outcome) :
    handedOut (t ++ [entry]) = handedOut t ++ entry.2.structures := by
  unfold handedOut
  rw [List.flatMap_append, List.flatMap_singleton]

/-- One more entry takes back what it returns. -/
theorem takenBack_concat (t : Transcript) (entry : Call × Outcome) :
    takenBack (t ++ [entry]) = takenBack t ++ returned entry := by
  unfold takenBack
  rw [List.flatMap_append, List.flatMap_singleton]

/-! ## What a call can do -/

/-- The entry of a build in a transcript. -/
def Build.entry (x : Build) : Call × Outcome :=
  (.build x.dataset x.config, .built (.gpu x.index (some x.idMap)))

/-- The entry of a conversion in a transcript. -/
def Conversion.entry (c : Conversion) : Call × Outcome :=
  (.convert c.gpu c.config, .converted c.copy)

/-- A call with its outcome, and the arena before and after it. -/
inductive Transition (a : Arena) : Call × Outcome → Arena → Prop where
  /-- The call fails and changes nothing. -/
  | refused (call : Call) (message : String) : Transition a (call, .failed message none) a
  | built {x : Build} {graph : FlatGraph} {ids : List Int64} (hgraph : x.Made graph)
    (hids : x.dataset.docIds = .ok ids) (hindex : x.index = ⟨a.next⟩)
    (hidMap : x.idMap = ⟨a.next + 1⟩) :
    Transition a x.entry ((a.alloc (.gpu graph)).2.alloc (.idMap ids x.index)).2
  | converted {c : Conversion} {graph : FlatGraph} {idMap target : RawHandle} {ids : List Int64}
    (hgraph : a.find? c.gpu.index = some (.gpu graph)) (hgiven : c.gpu.idMap = some idMap)
    (hmap : a.find? idMap = some (.idMap ids target)) (hcopy : c.copy = ⟨a.next⟩) :
    Transition a c.entry
      ((a.alloc (.cpu (hostGraph graph c.config))).2.replace idMap (.idMap ids c.copy))
  /-- The copy is made, but the map turns out to be none. -/
  | stranded {gpu : NativeIndex} {config : SearchConfig} {graph : FlatGraph} {message : String} :
    Transition a (.convert gpu config, .failed message (some (.cpu ⟨a.next⟩ none)))
      (a.alloc (.cpu (hostGraph graph config))).2
  | persisted (cpu : NativeIndex) (bytes : Bytes) : Transition a (.persist cpu, .persisted bytes) a
  | released {raw : RawHandle} {s : Structure} (hfind : a.find? raw = some s) :
    Transition a (.release raw s.kind, .released) (a.erase raw)

/-- A build is one of the transitions. -/
theorem transition_build (a : Arena) (dataset : Dataset) (config : BuildConfig) :
    Transition a (.build dataset config, a.outcome (.build dataset config))
      (a.perform (.build dataset config)) := by
  obtain ⟨message, hbuild⟩ | ⟨vectors, ids, hvectors, hids, hbuild⟩ :=
    build_inversion a dataset config
  · simp only [outcome, perform, hbuild]
    exact .refused _ message
  · simp only [outcome, perform, hbuild]
    exact Transition.built (x := ⟨dataset, config, ⟨a.next⟩, ⟨a.next + 1⟩⟩)
      ⟨vectors, hvectors, rfl⟩ hids rfl rfl

/-- A conversion is one of the transitions. -/
theorem transition_convert (h : a.Fresh) (gpu : NativeIndex) (config : SearchConfig) :
    Transition a (.convert gpu config, a.outcome (.convert gpu config))
      (a.perform (.convert gpu config)) := by
  obtain ⟨message, hconvert⟩ | ⟨graph, idMap, hgraph, hgiven, hconvert⟩ :=
    convert_inversion a gpu config
  · simp only [outcome, perform, hconvert]
    exact .refused _ message
  · obtain ⟨message, hconvert⟩ | ⟨ids, target, hmap, hconvert⟩ := hconvert
    · simp only [outcome, perform, hconvert]
      exact .stranded
    · -- the map is not the copy, so it was there before
      obtain ⟨-, hs⟩ | ⟨-, hmap⟩ := find?_alloc_cases h hmap
      · cases hs
      · simp only [outcome, perform, hconvert]
        exact Transition.converted (c := ⟨gpu, config, ⟨a.next⟩⟩) hgraph hgiven hmap rfl

/-- A persisting call is one of the transitions. -/
theorem transition_persist (a : Arena) (cpu : NativeIndex) :
    Transition a (.persist cpu, a.outcome (.persist cpu)) (a.perform (.persist cpu)) := by
  rw [perform_persist]
  unfold outcome persist
  dsimp only
  split
  · exact .persisted cpu _
  · exact .refused _ _

/-- A release is one of the transitions. -/
theorem transition_release (a : Arena) (raw : RawHandle) (kind : StructureKind) :
    Transition a (.release raw kind, a.outcome (.release raw kind))
      (a.perform (.release raw kind)) := by
  cases hfind : a.find? raw with
  | none =>
    simp only [outcome, perform, release, hfind]
    exact .refused _ _
  | some s =>
    by_cases hkind : s.kind = kind
    · subst hkind
      simp only [outcome, perform, release_eq hfind]
      exact .released hfind
    · simp only [outcome, perform, release, hfind, if_neg hkind]
      exact .refused _ _

/-- Every call is a transition. -/
theorem transition (h : a.Fresh) (call : Call) :
    Transition a (call, a.outcome call) (a.perform call) := by
  cases call with
  | build dataset config => exact transition_build a dataset config
  | convert gpu config => exact transition_convert h gpu config
  | persist cpu => exact transition_persist a cpu
  | release raw kind => exact transition_release a raw kind

/-! ## Inventories -/

/-- What is allocated, with its kinds. -/
def inventory (a : Arena) : List Component :=
  a.cells.map fun cell => (cell.1, cell.2.kind)

/-- The inventory is as long as the count of live structures. -/
theorem length_inventory (a : Arena) : a.inventory.length = a.liveCount :=
  List.length_map _

/-- The inventory lists the raw handles that are in use. -/
theorem map_fst_inventory (a : Arena) : a.inventory.map Prod.fst = a.keys := by
  unfold inventory keys
  rw [List.map_map]
  rfl

/-- The inventory has a structure exactly if it is found there, with its kind. -/
theorem mem_inventory_iff (h : a.keys.Nodup) :
    (raw, kind) ∈ a.inventory ↔ ∃ s, a.find? raw = some s ∧ s.kind = kind := by
  unfold inventory
  rw [List.mem_map]
  constructor
  · rintro ⟨⟨raw', s⟩, hcell, heq⟩
    cases heq
    exact ⟨s, Association.lookup_of_mem hcell h, rfl⟩
  · rintro ⟨s, hfind, rfl⟩
    exact ⟨(raw, s), Association.mem_of_lookup hfind, rfl⟩

/-- What is allocated goes to the end of the inventory. -/
theorem inventory_alloc (a : Arena) (s : Structure) :
    (a.alloc s).2.inventory = a.inventory ++ [(⟨a.next⟩, s.kind)] :=
  List.map_append

/-- A structure in the place of another one of its kind makes no difference. -/
theorem inventory_replace (h : a.keys.Nodup) (hfind : a.find? raw = some s)
    (hkind : s'.kind = s.kind) : (a.replace raw s').inventory = a.inventory := by
  unfold inventory replace
  rw [List.map_map]
  refine List.map_congr_left fun cell hcell => ?_
  change (fun c : RawHandle × Structure => (c.1, c.2.kind))
    (if cell.1 = raw then (raw, s') else cell) = _
  split
  · next heq =>
    have hcell : (raw, cell.2) ∈ a.cells := heq ▸ hcell
    have hsame : some cell.2 = some s := (Association.lookup_of_mem hcell h).symm.trans hfind
    rw [heq, Option.some.inj hsame, ← hkind]
  · rfl

/-- What is freed goes off the inventory. -/
theorem inventory_erase (h : a.keys.Nodup) (hfind : a.find? raw = some s) :
    ((a.erase raw).inventory ++ [(raw, s.kind)]).Perm a.inventory := by
  obtain ⟨front, back, hcells⟩ := List.append_of_mem (Association.mem_of_lookup hfind)
  unfold keys at h
  rw [hcells, List.map_append, List.map_cons, List.nodup_middle, List.nodup_cons,
    List.mem_append, not_or] at h
  have hkept : ∀ cells : List (RawHandle × Structure), raw ∉ cells.map Prod.fst →
      cells.filter (fun c => c.1 ≠ raw) = cells := by
    intro cells hraw
    rw [List.filter_eq_self]
    intro c hc
    apply decide_eq_true
    exact fun heq => hraw (heq ▸ List.mem_map_of_mem hc)
  have herased : (a.erase raw).cells = front ++ back := by
    change a.cells.filter _ = _
    rw [hcells, List.filter_append, List.filter_cons_of_neg (by simp), hkept front h.1.1,
      hkept back h.1.2]
  unfold inventory
  rw [herased, hcells, List.map_append, List.map_append, List.map_cons]
  calc front.map _ ++ back.map _ ++ [(raw, s.kind)]
      ~ (raw, s.kind) :: (front.map _ ++ back.map _) := List.perm_append_singleton _ _
    _ ~ front.map _ ++ (raw, s.kind) :: back.map _ := List.perm_middle.symm

/-! ## The balance -/

/-- What is allocated and what was taken back are what was handed out, under raw handles that count
up from one. -/
structure Balanced (t : Transcript) (a : Arena) : Prop where
  next : a.next = (handedOut t).length + 1
  numbered : ((handedOut t).map fun c => c.1.number) ~ List.range' 1 (handedOut t).length
  balance : a.inventory ++ takenBack t ~ handedOut t

variable {t : Transcript} {entry : Call × Outcome}

/-- Raw handles that were handed out are below the next one. -/
theorem Balanced.number_lt (h : Balanced t a) {c : Component} (hc : c ∈ handedOut t) :
    0 < c.1.number ∧ c.1.number < a.next := by
  have hmem : c.1.number ∈ List.range' 1 (handedOut t).length :=
    h.numbered.mem_iff.1 (List.mem_map_of_mem (f := fun c : Component => c.1.number) hc)
  rw [List.mem_range'_1] at hmem
  rw [h.next]
  omega

/-- What is there or was taken back was handed out. -/
theorem Balanced.mem_handedOut (h : Balanced t a) {c : Component}
    (hc : c ∈ a.inventory ∨ c ∈ takenBack t) : c ∈ handedOut t :=
  h.balance.mem_iff.1 (List.mem_append.2 hc)

/-- A balanced arena is fresh. -/
theorem Balanced.fresh (h : Balanced t a) : a.Fresh := by
  intro cell hcell
  have hmem : (cell.1, cell.2.kind) ∈ a.inventory :=
    List.mem_map_of_mem (f := fun c : RawHandle × Structure => (c.1, c.2.kind)) hcell
  exact (h.number_lt (h.mem_handedOut (.inl hmem))).2

/-- No raw handle is handed out twice. -/
theorem Balanced.nodup_handedOut (h : Balanced t a) : ((handedOut t).map Prod.fst).Nodup := by
  have hnumbers : ((handedOut t).map fun c => c.1.number).Nodup :=
    h.numbered.nodup_iff.2 List.nodup_range'
  apply List.Nodup.of_map RawHandle.number
  rwa [List.map_map]

/-- Nothing is there that was taken back, and nothing is there twice. -/
theorem Balanced.nodup (h : Balanced t a) :
    (a.inventory.map Prod.fst ++ (takenBack t).map Prod.fst).Nodup := by
  rw [← List.map_append, (h.balance.map Prod.fst).nodup_iff]
  exact h.nodup_handedOut

/-- No raw handle is in use twice. -/
theorem Balanced.nodup_keys (h : Balanced t a) : a.keys.Nodup := by
  rw [← map_fst_inventory]
  exact (List.nodup_append.1 h.nodup).1

/-- The balance is kept by a call that hands out structures under the next raw handles. -/
theorem Balanced.grow (h : Balanced t a) (hreturned : returned entry = [])
    (hnext : a'.next = a.next + entry.2.structures.length)
    (hnumbers : (entry.2.structures.map fun c => c.1.number) ~
      List.range' a.next entry.2.structures.length)
    (hinventory : a'.inventory ~ a.inventory ++ entry.2.structures) :
    Balanced (t ++ [entry]) a' := by
  refine ⟨?_, ?_, ?_⟩
  · rw [hnext, h.next, handedOut_concat, List.length_append]
    omega
  · rw [handedOut_concat, List.map_append, List.length_append, ← List.range'_append_1]
    apply h.numbered.append
    rw [Nat.add_comm, ← h.next]
    exact hnumbers
  · rw [takenBack_concat, hreturned, List.append_nil, handedOut_concat]
    calc a'.inventory ++ takenBack t
        ~ a.inventory ++ entry.2.structures ++ takenBack t := hinventory.append_right _
      _ = a.inventory ++ (entry.2.structures ++ takenBack t) := List.append_assoc ..
      _ ~ a.inventory ++ (takenBack t ++ entry.2.structures) :=
        List.perm_append_comm.append_left _
      _ = a.inventory ++ takenBack t ++ entry.2.structures := (List.append_assoc ..).symm
      _ ~ handedOut t ++ entry.2.structures := h.balance.append_right _

/-- The balance is kept by a release. -/
theorem Balanced.shrink (h : Balanced t a) (hfind : a.find? raw = some s) :
    Balanced (t ++ [(.release raw s.kind, .released)]) (a.erase raw) := by
  have hsame : handedOut (t ++ [(Call.release raw s.kind, Outcome.released)]) = handedOut t := by
    rw [handedOut_concat]
    exact List.append_nil _
  refine ⟨?_, ?_, ?_⟩
  · rw [hsame]
    exact h.next
  · rw [hsame]
    exact h.numbered
  · rw [hsame, takenBack_concat]
    calc (a.erase raw).inventory ++ (takenBack t ++ [(raw, s.kind)])
        ~ (a.erase raw).inventory ++ ([(raw, s.kind)] ++ takenBack t) :=
          List.perm_append_comm.append_left _
      _ = (a.erase raw).inventory ++ [(raw, s.kind)] ++ takenBack t := (List.append_assoc ..).symm
      _ ~ a.inventory ++ takenBack t := (inventory_erase h.nodup_keys hfind).append_right _
      _ ~ handedOut t := h.balance

/-- One transition keeps the balance. -/
theorem Balanced.step (h : Balanced t a) (hstep : Transition a entry a') :
    Balanced (t ++ [entry]) a' := by
  cases hstep with
  | refused call message =>
    apply h.grow
    · cases call <;> rfl
    · rfl
    · exact List.Perm.refl _
    · exact (List.append_nil _).symm ▸ List.Perm.refl _
  | @built x graph ids hgraph hids hindex hidMap =>
    have hstructures : x.entry.2.structures = [(x.idMap, .idMap), (x.index, .gpuIndex)] := rfl
    apply h.grow
    · rfl
    · rfl
    · -- the map comes first among the components, but its raw handle is the second one
      rw [hstructures, hindex, hidMap]
      exact List.Perm.swap ..
    · rw [inventory_alloc, inventory_alloc, hstructures, hindex, hidMap, List.append_assoc]
      exact (List.Perm.swap ..).append_left _
  | @converted c graph idMap target ids hgraph hgiven hmap hcopy =>
    have hstructures : c.entry.2.structures = [(c.copy, .cpuIndex)] := rfl
    apply h.grow
    · rfl
    · rfl
    · rw [hstructures, hcopy]
      exact List.Perm.refl _
    · have hkeys := nodup_alloc h.fresh h.nodup_keys (.cpu (hostGraph graph c.config))
      have hkind : (Structure.idMap ids c.copy).kind = (Structure.idMap ids target).kind := rfl
      rw [inventory_replace hkeys (find?_alloc hmap _) hkind, inventory_alloc, hstructures, hcopy]
      exact List.Perm.refl _
  | stranded =>
    apply h.grow
    · rfl
    · rfl
    · exact List.Perm.refl _
    · rw [inventory_alloc]
      exact List.Perm.refl _
  | persisted cpu bytes =>
    apply h.grow
    · rfl
    · rfl
    · exact List.Perm.refl _
    · exact (List.append_nil _).symm ▸ List.Perm.refl _
  | released hfind => exact h.shrink hfind

/-- Every history keeps the balance. -/
theorem balanced (calls : List Call) : Balanced (transcript calls) (replay calls) := by
  induction calls using List.reverseRecOn with
  | nil => exact ⟨rfl, List.Perm.refl _, List.Perm.refl _⟩
  | append_singleton calls call ih =>
    rw [transcript_concat, replay_concat]
    exact ih.step (transition ih.fresh call)

/-! ## Conservation -/

/-- A structure is released as what it is, or not at all. -/
theorem release_eq_none_iff (a : Arena) (raw : RawHandle) (kind : StructureKind) :
    (a.release raw kind).1 = none ↔ ∃ s, a.find? raw = some s ∧ s.kind = kind := by
  constructor
  · intro h
    unfold release at h
    split at h
    · cases h
    · next s hfind =>
      split at h
      · next hkind => exact ⟨s, hfind, hkind⟩
      · cases h
  · rintro ⟨s, hfind, rfl⟩
    rw [release_eq hfind]

/-- What is in the inventory was handed out and not taken back. -/
theorem Balanced.mem_inventory_iff (h : Balanced t a) {c : Component} :
    c ∈ a.inventory ↔ c ∈ handedOut t ∧ c.1 ∉ (takenBack t).map Prod.fst := by
  obtain ⟨-, -, hdisjoint⟩ := List.nodup_append.1 h.nodup
  constructor
  · intro hc
    refine ⟨h.mem_handedOut (.inl hc), fun hback => ?_⟩
    exact hdisjoint c.1 (List.mem_map_of_mem hc) c.1 hback rfl
  · rintro ⟨hout, hback⟩
    have hmem := h.balance.mem_iff.2 hout
    rw [List.mem_append] at hmem
    exact hmem.resolve_right fun hc => hback (List.mem_map_of_mem hc)

/-- A call that fails only adds what it names. -/
theorem Transition.atomic {call : Call} {message : String} {partialIndex : Option NativeIndex}
    (h : Transition a (call, .failed message partialIndex) a') :
    ∃ new : List (RawHandle × Structure),
      a' = { next := a.next + new.length, cells := a.cells ++ new } ∧
      (new.map fun cell => (cell.1, cell.2.kind)) =
        (Outcome.failed message partialIndex).structures ∧
      ∀ cell ∈ new, a.next ≤ cell.1.number := by
  generalize hentry : (call, Outcome.failed message partialIndex) = entry at h
  cases h
  case refused call message =>
    cases hentry
    refine ⟨[], ?_, rfl, nofun⟩
    rw [List.append_nil]
    rfl
  case stranded gpu config graph message =>
    cases hentry
    refine ⟨[(⟨a.next⟩, .cpu (hostGraph graph config))], rfl, rfl, fun cell hcell => ?_⟩
    obtain rfl := List.mem_singleton.1 hcell
    exact Nat.le_refl _
  -- no other call fails
  all_goals exact nomatch congrArg Prod.snd hentry

/-- After a history nothing is lost, nothing is there twice, and what fails leaves nothing behind
that it does not name. -/
structure Conserved (calls : List Call) : Prop where
  /-- Every allocation is handed out. -/
  allocations : (replay calls).next = (handedOut (transcript calls)).length + 1
  /-- The raw handles that were handed out are the numbers from one on, each of them once. -/
  numbered : ((handedOut (transcript calls)).map fun c => c.1.number) ~
    List.range' 1 (handedOut (transcript calls)).length
  /-- They are words as long as fewer structures were allocated than there are words other than
  zero, and so is the next one. -/
  words : (handedOut (transcript calls)).length < 0xFFFFFFFFFFFFFFFF →
    (replay calls).next < 0x10000000000000000 ∧
      ∀ c ∈ handedOut (transcript calls), 0 < c.1.number ∧ c.1.number < 0x10000000000000000
  /-- The next call hands out raw handles that were never seen before. -/
  fresh : ∀ call, ∀ c ∈ ((replay calls).outcome call).structures,
    ∀ old ∈ handedOut (transcript calls), old.1.number < c.1.number
  /-- Nothing is taken back twice. -/
  once : ((takenBack (transcript calls)).map Prod.fst).Nodup
  /-- What was handed out can be released until it was. -/
  releasable : ∀ raw kind, ((replay calls).release raw kind).1 = none ↔
    (raw, kind) ∈ handedOut (transcript calls) ∧
      raw ∉ (takenBack (transcript calls)).map Prod.fst
  /-- This is what is allocated. -/
  allocated : ∀ raw kind, ((replay calls).release raw kind).1 = none ↔
    ∃ s, (replay calls).find? raw = some s ∧ s.kind = kind
  /-- What is live was handed out and not taken back. -/
  live : (replay calls).liveCount + (takenBack (transcript calls)).length =
    (handedOut (transcript calls)).length
  /-- A call that fails only adds the structures that it names, under new raw handles. -/
  atomic : ∀ call message partialIndex,
    (replay calls).outcome call = .failed message partialIndex →
    ∃ new : List (RawHandle × Structure),
      (replay calls).perform call =
        { next := (replay calls).next + new.length, cells := (replay calls).cells ++ new } ∧
      (new.map fun cell => (cell.1, cell.2.kind)) =
        (Outcome.failed message partialIndex).structures ∧
      ∀ cell ∈ new, ∀ old ∈ handedOut (transcript calls), old.1 ≠ cell.1

/-- The structures of a transition have the next raw handles. -/
theorem Transition.next_le (h : Transition a entry a') :
    ∀ c ∈ entry.2.structures, a.next ≤ c.1.number := by
  cases h with
  | refused => exact nofun
  | @built x graph ids hgraph hids hindex hidMap =>
    intro c (hc : c ∈ [(x.idMap, StructureKind.idMap), (x.index, .gpuIndex)])
    rw [hindex, hidMap, List.mem_cons, List.mem_singleton] at hc
    obtain rfl | rfl := hc
    · exact Nat.le_succ _
    · exact Nat.le_refl _
  | @converted c graph idMap target ids hgraph hgiven hmap hcopy =>
    intro c' (hc' : c' ∈ [(c.copy, StructureKind.cpuIndex)])
    obtain rfl := List.mem_singleton.1 hc'
    exact Nat.le_of_eq (congrArg RawHandle.number hcopy).symm
  | stranded =>
    intro c hc
    obtain rfl := List.mem_singleton.1 hc
    exact Nat.le_refl _
  | persisted => exact nofun
  | released => exact nofun

/-- The next raw handle counts up. -/
theorem Transition.next_mono (h : Transition a entry a') : a.next ≤ a'.next := by
  cases h with
  | refused => exact Nat.le_refl _
  | built => exact Nat.le_add_right _ 2
  | converted => exact Nat.le_succ _
  | stranded => exact Nat.le_succ _
  | persisted => exact Nat.le_refl _
  | released => exact Nat.le_refl _

/-- What was given up does not come back. -/
theorem Transition.find?_of_gone (h : Transition a entry a') (hlt : raw.number < a.next)
    (hgone : a.find? raw = none) : a'.find? raw = none := by
  have hnew : raw ≠ (⟨a.next⟩ : RawHandle) := fun heq => by simp [heq] at hlt
  cases h with
  | refused => exact hgone
  | built hgraph hids hindex hidMap =>
    have hsecond : raw ≠ (⟨a.next + 1⟩ : RawHandle) := by
      rintro rfl
      exact Nat.not_lt.2 (Nat.le_succ a.next) hlt
    exact (find?_alloc_of_ne hsecond _).trans ((find?_alloc_of_ne hnew _).trans hgone)
  | converted hgraph hgiven hmap hcopy =>
    have hmapped := ne_of_find?_none hgone hmap
    exact (find?_replace_of_ne hmapped _).trans ((find?_alloc_of_ne hnew _).trans hgone)
  | stranded => exact (find?_alloc_of_ne hnew _).trans hgone
  | persisted => exact hgone
  | released hfind => exact (find?_erase_of_ne (ne_of_find?_none hgone hfind)).trans hgone

/-- Structures are conserved over every history of calls, whatever their arguments are. -/
theorem structures_are_conserved (calls : List Call) : Conserved calls := by
  have h := balanced calls
  constructor
  · exact h.next
  · exact h.numbered
  · intro hfew
    have hnext : (replay calls).next < 0x10000000000000000 := by
      rw [h.next]
      omega
    refine ⟨hnext, fun c hc => ?_⟩
    obtain ⟨hpos, hlt⟩ := h.number_lt hc
    exact ⟨hpos, Nat.lt_trans hlt hnext⟩
  · intro call c hc old hold
    calc old.1.number < (replay calls).next := (h.number_lt hold).2
      _ ≤ c.1.number := (transition h.fresh call).next_le c hc
  · exact (List.nodup_append.1 h.nodup).2.1
  · intro raw kind
    rw [release_eq_none_iff, ← mem_inventory_iff h.nodup_keys, h.mem_inventory_iff]
  · exact release_eq_none_iff _
  · rw [← length_inventory, ← List.length_append]
    exact h.balance.length_eq
  · intro call message partialIndex hfailed
    have hstep := transition h.fresh call
    rw [hfailed] at hstep
    obtain ⟨new, ha', hnew, hnext⟩ := hstep.atomic
    refine ⟨new, ha', hnew, fun cell hcell old hold heq => ?_⟩
    have hlt := (h.number_lt hold).2
    rw [heq] at hlt
    exact absurd (hnext cell hcell) (Nat.not_le.2 hlt)

/-- A copy that was made for a map that is gone is named by the failure.  It can be released
once. -/
theorem stranded_copy_is_released_once :
    let calls : List Call :=
      [.build twoRows {}, .release ⟨2⟩ .idMap, .convert (.gpu ⟨1⟩ (some ⟨2⟩)) {}]
    handedOut (transcript calls) = [(⟨2⟩, .idMap), (⟨1⟩, .gpuIndex), (⟨3⟩, .cpuIndex)] ∧
      (replay calls).liveCount = 2 ∧ ((replay calls).release ⟨3⟩ .cpuIndex).1 = none ∧
      ((replay (calls ++ [.release ⟨3⟩ .cpuIndex])).release ⟨3⟩ .cpuIndex).1 ≠ none := by
  intro calls
  have hout : handedOut (transcript calls) =
      [(⟨2⟩, .idMap), (⟨1⟩, .gpuIndex), (⟨3⟩, .cpuIndex)] := by
    decide +kernel
  have hback : takenBack (transcript calls) = [(⟨2⟩, .idMap)] := by
    decide +kernel
  have hbackAfter : takenBack (transcript (calls ++ [.release ⟨3⟩ .cpuIndex])) =
      [(⟨2⟩, .idMap), (⟨3⟩, .cpuIndex)] := by
    decide +kernel
  have h := structures_are_conserved calls
  have hafter := structures_are_conserved (calls ++ [.release ⟨3⟩ .cpuIndex])
  refine ⟨hout, ?_, ?_, ?_⟩
  · have hlive := h.live
    rw [hout, hback] at hlive
    exact Nat.add_right_cancel hlive
  · rw [h.releasable, hout, hback]
    decide
  · rw [ne_eq, hafter.releasable, hbackAfter]
    intro hreleasable
    exact hreleasable.2 (by decide)

end Arena

end VectorIndex
