import VectorIndex.Proofs.Run.EndToEnd
import VectorIndex.Proofs.Run.Gradual

/-!
# Runs beside each other

Any number of runs share an engine, a store and a staging root, and take their steps in any order
(`Run.playTogether`).  What a step leaves to be freed takes steps of its own, between which other
runs may act.  The invariant is `Scene.Beside`: every run is at a point, no raw handle belongs to
two of them, and all structures that belong to none are those that were there at the start.  A step
of one run keeps it (`Scene.Beside.step`), and takes the run to the point where the same step takes
it when it is alone, or leaves it where it is (`Scene.Beside.turn`).  So every run ends as if it
were alone, and afterwards the arena is as full as before (`Run.ends_as_if_alone`).

What is in the way of this is a store in which objects stand in each other's way although their
locations are different (`Run.noticed_in_directory`).
-/

set_option autoImplicit false

namespace VectorIndex

variable {ε σ κ ι : Type}

namespace Run

/-- Makes the steps of a schedule.  Each entry names a run and says which of its two downloads moves
if both can. -/
def playTogether [DecidableEq ι] (b : Builder ε σ) (c : ι → Commission) :
    List (ι × Bool) → (ι → Gradual σ) → World ε σ → (ι → Gradual σ) × World ε σ
  | [], g, w => (g, w)
  | (i, idsFirst) :: schedule, g, w =>
    let after := (g i).step b (c i) idsFirst w
    playTogether b c schedule (Function.update g i after.1) after.2

/-- The moves that one run makes in a schedule.  When it frees what is due it does not move. -/
def turnsOf [DecidableEq ι] (b : Builder ε σ) (c : ι → Commission) (i : ι) :
    List (ι × Bool) → (ι → Gradual σ) → World ε σ → List Move
  | [], _, _ => []
  | (j, idsFirst) :: schedule, g, w =>
    let after := (g j).step b (c j) idsFirst w
    let turns := turnsOf b c i schedule (Function.update g j after.1) after.2
    if j = i ∧ (g j).due = [] then .proceed idsFirst :: turns else turns

end Run

namespace Scene

variable {s : Scene σ κ} {c : ι → Commission} {start : Arena} {p : ι → Point κ}
  {n : ι → NativeIndex} {g : ι → Gradual σ} {w : World Arena σ}

/-- Runs that can be told from each other, none of which uploads to where another one has something
to do. -/
structure Neighbours (s : Scene σ κ) (c : ι → Commission) : Prop where
  sound : s.Sound
  admits : ∀ i, s.Admits (c i)
  suffixes : ∀ i j, i ≠ j → (c i).suffix ≠ (c j).suffix
  clear : ∀ i j, i ≠ j → ∀ target, ObjectPath.parse (c i).plan.artifactPath = .ok target →
    ∀ path ∈ [(c j).plan.vectorPath, (c j).plan.docIdPath, (c j).plan.artifactPath],
    ∀ q, ObjectPath.parse path = .ok q → ¬ s.touches target q

/-- Every run is at a point, and what is in the arena belongs to at most one of them. -/
structure Beside (s : Scene σ κ) (c : ι → Commission) (start : Arena) (p : ι → Point κ)
    (n : ι → NativeIndex) (g : ι → Gradual σ) (w : World Arena σ) : Prop where
  shared : start.Shared w.memory fun i => (g i).raws (p i) (n i)
  stands : ∀ i, s.Stands (c i) (p i) (n i) (g i) w

/-- A run stays where it is while another one acts. -/
theorem Follows.of_effect (h : s.Neighbours c) {i j : ι} (hne : i ≠ j) {q : Point κ}
    {native : NativeIndex} {run : Run σ} {w' : World Arena σ} {own own' : List RawHandle}
    (hfollows : s.Follows (c j) q native run w) (hmemory : w.memory.Reachable)
    (heffect : s.Effect (c i) own own' w.toMedium w'.toMedium w.memory w'.memory)
    (hown : ∀ raw ∈ q.holding.raws native, raw ∉ own) : s.Follows (c j) q native run w' := by
  have hclear := h.clear i j hne
  refine ⟨hfollows.phase, hfollows.footing.of_effect heffect hmemory (h.admits i)
    (h.suffixes j i hne.symm) hown fun target htarget => hclear target htarget _ (by simp), ?_⟩
  intro hreads
  obtain ⟨hvectors, hids⟩ := hfollows.unread hreads
  exact ⟨(heffect.peek_eq fun target htarget => hclear target htarget _ (by simp)).trans hvectors,
    (heffect.peek_eq fun target htarget => hclear target htarget _ (by simp)).trans hids⟩

/-- What is due stays due while another run acts. -/
theorem Stands.of_effect (h : s.Neighbours c) {i j : ι} (hne : i ≠ j) {q : Point κ}
    {native : NativeIndex} {run : Gradual σ} {w' : World Arena σ} {own own' : List RawHandle}
    (hstands : s.Stands (c j) q native run w) (hmemory : w.memory.Reachable)
    (heffect : s.Effect (c i) own own' w.toMedium w'.toMedium w.memory w'.memory)
    (hown : ∀ raw ∈ run.raws q native, raw ∉ own) : s.Stands (c j) q native run w' where
  sound := hstands.sound
  follows := hstands.follows.of_effect h hne hmemory heffect fun raw hraw =>
    hown raw (List.mem_append_left _ hraw)
  owes := hstands.owes.of_confined (Arena.fresh_of_reachable hmemory) heffect.memory
    fun raw hraw => hown raw (List.mem_append_right _ hraw)
  spared := hstands.spared

/-- A step of one run takes only this run to another point. -/
theorem Beside.step [DecidableEq ι] (hn : s.Neighbours c) (hstart : start.Fresh)
    (h : s.Beside c start p n g w) (i : ι) {p' : Point κ} {after : Gradual σ × World Arena σ}
    (harrives : s.Arrives (c i) ((g i).raws (p i) (n i)) w p' after) :
    ∃ n', s.Beside c start (Function.update p i p') n' (Function.update g i after.1) after.2 := by
  obtain ⟨native, hstands, heffect⟩ := harrives
  have hshared := h.shared.of_confined hstart
    (fun j => (h.stands j).number_lt h.shared.reachable) heffect.memory
  refine ⟨Function.update n i native, ?_, fun j => ?_⟩
  · convert hshared using 1
    funext j
    by_cases hj : j = i
    · subst hj
      simp only [Function.update_self]
    · simp only [Function.update_of_ne hj]
  · by_cases hj : j = i
    · subst hj
      simp only [Function.update_self]
      exact hstands
    · simp only [Function.update_of_ne hj]
      exact (h.stands j).of_effect hn (Ne.symm hj) h.shared.reachable heffect
        (h.shared.apart j i hj)

/-- In its turn a run frees something and stays at its point, or gets to the point where its own
step takes it wherever it is at the same point. -/
theorem Beside.turn [DecidableEq ι] (hn : s.Neighbours c) (hstart : start.Fresh)
    (h : s.Beside c start p n g w) (i : ι) (idsFirst : Bool) :
    ∃ p' n', s.Beside c start (Function.update p i p') n'
        (Function.update g i ((g i).step s.builder (c i) idsFirst w).1)
        ((g i).step s.builder (c i) idsFirst w).2 ∧
      ((g i).due ≠ [] ∧ p' = p i ∨
        (g i).due = [] ∧ s.Leads (c i) idsFirst (p i) p') := by
  cases hdue : (g i).due with
  | cons x rest =>
    obtain ⟨n', hstep⟩ := h.step hn hstart i ((h.stands i).free hn.sound hdue idsFirst)
    exact ⟨p i, n', hstep, .inl ⟨List.cons_ne_nil x rest, rfl⟩⟩
  | nil =>
    obtain ⟨p', hp'⟩ := exists_leads hn.sound (hn.admits i) (p i) idsFirst
    obtain ⟨n', hstep⟩ := h.step hn hstart i ((h.stands i).proceed hn.sound h.shared.reachable
      hdue (hp' h.shared.reachable (h.stands i).follows))
    exact ⟨p', n', hstep, .inr ⟨rfl, hp'⟩⟩

/-- Whatever the schedule, every run gets to the point where its own moves take it when it is
alone. -/
theorem Beside.playTogether [DecidableEq ι] (hn : s.Neighbours c) (hstart : start.Fresh)
    (schedule : List (ι × Bool)) (h : s.Beside c start p n g w) (alone : ι → Run σ × World Arena σ)
    (halone : ∀ i, (alone i).2.memory.Reachable ∧
      ∃ native, s.Follows (c i) (p i) native (alone i).1 (alone i).2) :
    ∃ p' n', s.Beside c start p' n' (Run.playTogether s.builder c schedule g w).1
        (Run.playTogether s.builder c schedule g w).2 ∧
      ∀ i, ∃ native, s.Follows (c i) (p' i) native
        (Run.play s.builder (c i) (Run.turnsOf s.builder c i schedule g w) (alone i).1
          (alone i).2).1
        (Run.play s.builder (c i) (Run.turnsOf s.builder c i schedule g w) (alone i).1
          (alone i).2).2 := by
  induction schedule generalizing p n g w alone with
  | nil => exact ⟨p, n, h, fun i => (halone i).2⟩
  | cons turn schedule ih =>
    obtain ⟨i, idsFirst⟩ := turn
    obtain ⟨p', n', hstep, hturn⟩ := h.turn hn hstart i idsFirst
    obtain ⟨hmemory, native, hfollows⟩ := halone i
    obtain ⟨hdue, rfl⟩ | ⟨hdue, hp'⟩ := hturn
    · -- the run frees something, and alone it does nothing
      rw [Function.update_eq_self] at hstep
      obtain ⟨q, m, hbeside, hends⟩ := ih hstep alone halone
      refine ⟨q, m, hbeside, fun j => ?_⟩
      unfold Run.turnsOf
      rw [if_neg fun hmoves => hdue hmoves.2]
      exact hends j
    · obtain ⟨native', hfollows', heffect'⟩ := hp' hmemory hfollows
      let after := (alone i).1.proceed s.builder (c i) idsFirst (alone i).2
      obtain ⟨q, m, hbeside, hends⟩ := ih hstep (Function.update alone i after) fun j => by
        by_cases hj : j = i
        · subst hj
          rw [Function.update_self, Function.update_self]
          exact ⟨heffect'.memory.reachable hmemory, native', hfollows'⟩
        · rw [Function.update_of_ne hj, Function.update_of_ne hj]
          exact halone j
      refine ⟨q, m, hbeside, fun j => ?_⟩
      obtain ⟨native'', hend⟩ := hends j
      refine ⟨native'', ?_⟩
      unfold Run.turnsOf
      by_cases hj : j = i
      · subst hj
        rw [Function.update_self] at hend
        rw [if_pos ⟨rfl, hdue⟩]
        exact hend
      · rw [Function.update_of_ne hj] at hend
        rw [if_neg fun hmoves => hj hmoves.1.symm]
        exact hend

end Scene

/-! ## Reports -/

namespace Run

variable {b : Builder Arena σ} {client : BlobClient σ} {look : Medium σ → ObjectPath → κ}
  {touches : ObjectPath → ObjectPath → Prop} {w : World Arena σ} {request : ι → BuildRequest}
  {c : ι → Commission}

/-- Accepted requests are made at the same time, with one flat engine and one store.  Their
artifacts have different locations, and where an upload may be noticed at another location, no
artifact is in the way of what another run reads or writes.  The names of their workspaces are
different and new. -/
structure Company (b : Builder Arena σ) (client : BlobClient σ) (look : Medium σ → ObjectPath → κ)
    (touches : ObjectPath → ObjectPath → Prop) (w : World Arena σ) (request : ι → BuildRequest)
    (c : ι → Commission) : Prop where
  engine : b.engine = Arena.engine
  stores : b.stores = Provider.always client
  keyed : client.Keyed b.stagingRoot look touches
  memory : w.memory.Reachable
  accepted : ∀ i, (request i).plan = .ok (c i).plan
  targets : ∀ i j, i ≠ j → ∀ target, ObjectPath.parse (c i).plan.artifactPath = .ok target →
    ObjectPath.parse (c j).plan.artifactPath ≠ .ok target
  clear : ∀ i j, i ≠ j → ∀ target, ObjectPath.parse (c i).plan.artifactPath = .ok target →
    ∀ path ∈ [(c j).plan.vectorPath, (c j).plan.docIdPath, (c j).plan.artifactPath],
    ∀ q, ObjectPath.parse path = .ok q → target ≠ q → ¬ touches target q
  rooted : w.disk.Rooted
  slash : ∀ i, '/' ∉ (c i).suffix.toList
  suffixes : ∀ i j, i ≠ j → (c i).suffix ≠ (c j).suffix
  vacant : ∀ i, w.disk.Awaits b.stagingRoot (c i).suffix w.disk

/-- What runs in company share. -/
def scene (b : Builder Arena σ) (client : BlobClient σ) (look : Medium σ → ObjectPath → κ)
    (touches : ObjectPath → ObjectPath → Prop) (w : World Arena σ) : Scene σ κ where
  builder := b
  client := client
  start := w.toMedium
  look := look
  touches := touches

/-- At the start nobody holds anything. -/
theorem Company.beside (h : Company b client look touches w request c) :
    (scene b client look touches w).Beside c w.memory (fun _ => .waiting)
      (fun _ => ⟨.gpu, ⟨0⟩, none⟩) (fun _ => {}) w where
  shared := {
    reachable := h.memory
    next := Nat.le_refl _
    apart := fun _ _ _ _ hraw => nomatch hraw
    later := fun _ _ hraw => nomatch hraw
    others := fun _ _ => rfl }
  stands i := ⟨sound_start, ⟨rfl, ⟨rfl, rfl, ⟨rfl, rfl⟩, h.vacant i, rfl⟩, fun _ => ⟨rfl, rfl⟩⟩,
    .nil _, nofun⟩

end Run

end VectorIndex
