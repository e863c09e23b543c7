import VectorIndex.Proofs.Custody.Links
import VectorIndex.Proofs.Custody.Moves

/-!
# The life of a handle

A handle is live when it is registered, may be converted, and ends as released or as transferred
into another handle.  `Operation.handles_run_their_course` says so for all steady histories: every
handle makes one move at a time, a life that is over has no consequences any more, and a transfer
settles what becomes of its source.
-/

set_option autoImplicit false

namespace VectorIndex

open Relation (ReflTransGen)

variable {ε σ : Type}

/-! ## Lives that are over -/

/-- Handles whose life is over in one state are as they are in another one. -/
def HistoryState.KeepsEnded (h h' : HistoryState ε σ) : Prop :=
  ∀ id s, s.Ended → h.custodian.registry.slot? id = some s →
    h'.custodian.registry.slot? id = some s

/-- Handles that stay ended over two stretches of time stay ended. -/
instance : Trans (α := HistoryState ε σ) HistoryState.KeepsEnded HistoryState.KeepsEnded
    HistoryState.KeepsEnded where
  trans hfirst hsecond id s hended hs := hsecond id s hended (hfirst id s hended hs)

/-- Where every handle makes one move at most, those that have ended stay as they are. -/
theorem HistoryState.Advances.keepsEnded {h h' : HistoryState ε σ} (hadvances : h.Advances h') :
    h.KeepsEnded h' := by
  intro id s hended hs
  have hmove := hadvances id
  rw [hs] at hmove
  exact hended.stays hmove

/-- To release a handle that has ended does nothing. -/
theorem Custodian.release_of_ended (engine : Engine ε) {c : Custodian ε σ} {id : HandleId}
    {s : Slot} (hended : s.Ended) (hs : c.registry.slot? id = some s) :
    c.release engine id = c := by
  obtain ⟨native, hlive, -⟩ | ⟨-, heq⟩ := release_cases engine id c
  · rw [hs] at hlive
    obtain rfl | ⟨into, rfl⟩ := hended
    · cases hlive
    · cases hlive
  · exact heq

/-! ## Transfers -/

/-- The answer to a transfer that has ended. -/
def TransferEnd.answer : TransferEnd → Answer
  | .moved derived => .token derived
  | .refused error => .error error
  | .panicked _ => .panicked

/-- What has become of the source of a conversion: after a success it is transferred into the handle
of the answer, which is live; after a failure it is released; and when the conversion broke off it
is still marked. -/
def Reply.Settled (reply : Reply RawHandle) (source : HandleId) (gpu : NativeIndex)
    (answer : Answer) (after : Registry) : Prop :=
  match reply with
  | .ok raw =>
    ∃ t, answer = .token t ∧ after.slot? source = some (.transferred t.id) ∧
      after.slot? t.id = some (.live (.cpu raw gpu.idMap))
  | .failed message _ =>
    answer = .error (.conversion message) ∧ after.slot? source = some .released
  | .panicked _ => answer = .panicked ∧ after.slot? source = some (.converting gpu)

namespace Custodian

variable {engine : Engine ε} {c c' : Custodian ε σ} {id : HandleId} {gpu : NativeIndex}

/-- A live index can be taken into a conversion. -/
theorem exists_beginTransfer_eq_ok (h : c.registry.slot? id = some (.live gpu)) :
    ∃ c', c.beginTransfer id = .ok (gpu, c') := by
  unfold beginTransfer Registry.beginTransfer
  rw [h]
  exact ⟨_, rfl⟩

/-- Nothing but a live index can be taken into a conversion. -/
theorem exists_beginTransfer_eq_error (h : ∀ gpu, c.registry.slot? id ≠ some (.live gpu)) :
    ∃ text, c.beginTransfer id = .error (.ownership text) := by
  unfold beginTransfer Registry.beginTransfer
  split
  · next hb =>
    split at hb
    · next hs => exact absurd hs (h _)
    · cases hb
    · cases hb
  · next hb =>
    split at hb
    · cases hb
    · cases hb
      exact ⟨_, rfl⟩
    · cases hb
      exact ⟨_, rfl⟩

/-- A conversion that ends settles its source as the reply asks for. -/
theorem settled_finishTransfer (engine : Engine ε)
    (h : c.registry.slot? id = some (.converting gpu)) (reply : Reply RawHandle) :
    reply.Settled id gpu (c.finishTransfer engine id gpu reply).1.answer
      (c.finishTransfer engine id gpu reply).2.registry := by
  have hself := slot_finishTransfer_self engine h gpu reply
  match reply with
  | .ok raw => exact ⟨_, rfl, hself, slot_finishTransfer_ok engine h gpu raw⟩
  | .failed message _ => exact ⟨rfl, hself⟩
  | .panicked message => exact ⟨rfl, hself⟩

end Custodian

namespace Operation

variable {engine : Engine ε} {h : HistoryState ε σ} {os : List Operation} {name : String}
  {source : TrackedIndex} {gpu : NativeIndex} {custodian : Custodian ε σ}

/-- A transfer answers as its end does, after the reports of what was done during it. -/
theorem act_transfer_fst (engine : Engine ε) (hl : h.names.lookup name = some (source, true))
    (hb : (h.giveUp name).custodian.beginTransfer source.id = .ok (gpu, custodian))
    (derived : Option String) (during : List Operation) (reply : Reply RawHandle) :
    (act engine h (.transfer name derived during reply)).1 =
      ((runAll engine { h.giveUp name with custodian } during).2.custodian.finishTransfer engine
        source.id gpu reply).1.answer ∧
    (act engine h (.transfer name derived during reply)).2.1 =
      .plain (.native gpu) :: (runAll engine { h.giveUp name with custodian } during).1 := by
  rw [act]
  simp only [hl, hb]
  generalize (runAll engine _ during).2.custodian.finishTransfer engine source.id gpu reply = ended
  obtain ⟨t | e | m, c⟩ := ended <;> exact ⟨rfl, rfl⟩

/-- A transfer of a live handle begins with its conversion, which is given the index, and settles
what becomes of the handle. -/
theorem act_transfer_of_live (engine : Engine ε) (hl : h.names.lookup name = some (source, true))
    (hlive : h.custodian.registry.slot? source.id = some (.live gpu)) {derived : Option String}
    {during : List Operation} {reply : Reply RawHandle}
    (hsteady : steady engine h (.transfer name derived during reply) = true) :
    (act engine h (.transfer name derived during reply)).2.1.head? = some (.plain (.native gpu)) ∧
    reply.Settled source.id gpu (act engine h (.transfer name derived during reply)).1
      (act engine h (.transfer name derived during reply)).2.2.custodian.registry := by
  obtain ⟨custodian, hb⟩ :=
    Custodian.exists_beginTransfer_eq_ok (c := (h.giveUp name).custodian) hlive
  obtain ⟨hanswer, hnested⟩ := act_transfer_fst engine hl hb derived during reply
  have hmarked := (evolves_runAll engine { h.giveUp name with custodian } during).slot_during hb
  rw [not_sweeps_of_steady engine hl hb hsteady] at hmarked
  rw [hanswer, hnested, custodian_act_transfer engine hl hb]
  exact ⟨rfl, Custodian.settled_finishTransfer engine hmarked reply⟩

/-- A transfer of any other handle is refused, whatever its conversion would have done. -/
theorem act_transfer_of_not_live (engine : Engine ε)
    (hl : h.names.lookup name = some (source, true))
    (hdead : ∀ gpu, h.custodian.registry.slot? source.id ≠ some (.live gpu)) :
    ∃ text, ∀ derived during reply, act engine h (.transfer name derived during reply) =
      (.error (.ownership text), [], h.giveUp name) := by
  obtain ⟨text, hb⟩ :=
    Custodian.exists_beginTransfer_eq_error (c := (h.giveUp name).custodian) hdead
  refine ⟨text, ?_⟩
  intro derived during reply
  rw [act]
  simp only [hl, hb]

/-- An operation that releases not everything leaves a conversion under way. -/
theorem slot_run_of_converting (engine : Engine ε) {id : HandleId}
    (hs : h.custodian.registry.slot? id = some (.converting gpu)) {o : Operation}
    (ho : (footprint engine h o).sweeps = false) :
    (run engine h o).2.custodian.registry.slot? id = some (.converting gpu) := by
  have hslot := (evolves_run engine h o).slot_converting hs
  rw [ho] at hslot
  exact hslot

/-! ## The course of handles -/

/-- In every state that a history passes through, links point forward. -/
theorem forward_of_mem_stagesAll {w : World ε σ} (hmem : h ∈ stagesAll engine (.start w) os) :
    h.custodian.registry.Forward := by
  have hstart : (HistoryState.start w).custodian.registry.Forward := by
    have hnone : ∀ id into, ¬ (HistoryState.start w).custodian.registry.Linked id into := by
      intro id into hl
      exact absurd hl.lt_length (Nat.not_lt_zero _)
    exact ⟨fun hl => absurd hl (hnone _ _), fun hl => absurd hl (hnone _ _),
      fun hl => absurd hl (hnone _ _)⟩
  exact (Custodian.invariant_forward engine).stagesAll hstart hmem

/-- The course of handles in a steady history.  From each state to the next one a handle stays
where it is or makes one move; one whose life is over stays as it is for ever, and to release it
changes nothing.  A transfer of a live handle calls its conversion, and when that returns the handle
is transferred into the handle of the answer or released; any other transfer is refused, whatever
its conversion would have done, and gives up the claim only.  A handle that is marked as being
converted is left alone by all operations that do not release everything.  Links lead to handles
that were registered later, each to another one, and following them comes to an end. -/
theorem handles_run_their_course (engine : Engine ε) (w : World ε σ) (os : List Operation)
    (hos : steadyAll engine (.start w) os = true) :
    (∀ given h, Boundary engine (.start w) os given h → h ∈ stagesAll engine (.start w) os) ∧
    (stagesAll engine (.start w) os).IsChain HistoryState.Advances ∧
    (stagesAll engine (.start w) os).Pairwise HistoryState.KeepsEnded ∧
    ∀ h ∈ stagesAll engine (.start w) os,
      (∀ id s, s.Ended → h.custodian.registry.slot? id = some s →
        h.custodian.release engine id = h.custodian) ∧
      (∀ name source, h.names.lookup name = some (source, true) →
        (∀ gpu, h.custodian.registry.slot? source.id = some (.live gpu) →
          ∀ derived during reply, steady engine h (.transfer name derived during reply) = true →
            (act engine h (.transfer name derived during reply)).2.1.head? =
              some (.plain (.native gpu)) ∧
            reply.Settled source.id gpu (act engine h (.transfer name derived during reply)).1
              (act engine h (.transfer name derived during reply)).2.2.custodian.registry) ∧
        ((∀ gpu, h.custodian.registry.slot? source.id ≠ some (.live gpu)) →
          ∃ text, ∀ derived during reply, act engine h (.transfer name derived during reply) =
            (.error (.ownership text), [], h.giveUp name))) ∧
      (∀ id gpu, h.custodian.registry.slot? id = some (.converting gpu) →
        ∀ o, (footprint engine h o).sweeps = false →
          (run engine h o).2.custodian.registry.slot? id = some (.converting gpu)) ∧
      h.custodian.registry.Forward ∧
      ∀ id, ∃ last, ReflTransGen h.custodian.registry.Linked id last ∧
        ∀ into, ¬ h.custodian.registry.Linked last into := by
  have hchain := isChain_stagesAll engine (.start w) hos
  have hkeeps := hchain.imp fun _ _ hadvances => hadvances.keepsEnded
  refine ⟨fun _ _ hb => hb.mem_stagesAll, hchain, hkeeps.pairwise, ?_⟩
  intro h hmem
  have hforward := forward_of_mem_stagesAll hmem
  refine ⟨?_, ?_, ?_, hforward, hforward.exists_last⟩
  · intro id s hended hs
    exact Custodian.release_of_ended engine hended hs
  · intro name source hl
    constructor
    · intro gpu hlive derived during reply hsteady
      exact act_transfer_of_live engine hl hlive hsteady
    · exact act_transfer_of_not_live engine hl
  · intro id gpu hs o ho
    exact slot_run_of_converting engine hs ho

/-- At the end of the nested conversions the source is transferred into the copy, which is marked
itself because its conversion broke off.  To release the source changes nothing any more. -/
theorem handles_run_their_course_when_conversions_nest :
    let stages := stagesAll Arena.engine (.start untouchedWorld) nestedHistory
    let ended := (runAll Arena.engine (.start untouchedWorld) nestedHistory).2
    steadyAll Arena.engine (.start untouchedWorld) nestedHistory = true ∧
      ended.custodian.registry.slots = [.transferred ⟨4⟩, .released, .released, .released,
        .converting (.cpu ⟨6⟩ (some ⟨2⟩))] ∧
      stages.length = 18 ∧ stages.IsChain HistoryState.Advances ∧
      ended.custodian.release Arena.engine ⟨0⟩ = ended.custodian := by
  have hsteady : steadyAll Arena.engine (.start untouchedWorld) nestedHistory = true := by
    apply steadyAll_of_orderlyAll
    decide
  have hslots :
      (runAll Arena.engine (.start untouchedWorld) nestedHistory).2.custodian.registry.slots =
        [.transferred ⟨4⟩, .released, .released, .released,
          .converting (.cpu ⟨6⟩ (some ⟨2⟩))] := by
    cbv
  have hlength : (stagesAll Arena.engine (.start untouchedWorld) nestedHistory).length = 18 := by
    cbv
  intro stages ended
  obtain ⟨hboundaries, hchain, -, hstages⟩ :=
    handles_run_their_course Arena.engine untouchedWorld nestedHistory hsteady
  have hended : ended ∈ stages := hboundaries _ _ (.ending ..)
  refine ⟨hsteady, hslots, hlength, hchain, ?_⟩
  apply (hstages ended hended).1 ⟨0⟩ (.transferred ⟨4⟩) (.inr ⟨⟨4⟩, rfl⟩)
  exact congrArg (·[0]?) hslots

end Operation

end VectorIndex
