import VectorIndex.Blob.Sink
import VectorIndex.Proofs.Grouping

/-!
# What sinks make of what they are given

A sink may be asked to make room, to take a chunk or to accept the end, in any order
(`SinkCall`).  The octets that it has accepted, by its own answers (`BlobSink.accepted`), determine
what it shows from then on: how they were cut into chunks and what was refused in between makes no
difference (`BlobSink.Shows`, `sinks_show_what_they_accepted`).

`BlobSink.Follows` is what a single call does to a sink that works by a rule.  A buffer that narrows
follows its rule because it has narrowed the full groups of all octets accepted so far and carries
the rest of them (`NarrowingBuffer.Holds`), whichever of the three ways a chunk takes: all of it
goes to the carry, or it completes the carry first, or there is nothing to complete.
-/

set_option autoImplicit false

namespace VectorIndex

open Grouping

/-! ## Calls and replies -/

/-- What may be asked of a sink. -/
inductive SinkCall where
  | reserve (size : UInt64)
  | write (chunk : Bytes)
  | finish

namespace SinkCall

/-- The octets that a call brings. -/
def octets : SinkCall → Bytes
  | write chunk => chunk
  | reserve _ => []
  | finish => []

/-- The octets of a call that are accepted with an answer. -/
def taken (call : SinkCall) : Except BuildError Unit → Bytes
  | .ok _ => call.octets
  | .error _ => []

/-- A sink takes no more octets than it is given. -/
theorem length_taken_le (call : SinkCall) (answer : Except BuildError Unit) :
    (call.taken answer).length ≤ call.octets.length := by
  cases answer with
  | ok done => exact Nat.le_refl _
  | error e => exact Nat.zero_le _

end SinkCall

/-- What is seen of a sink after a call. -/
structure SinkReply where
  answer : Except BuildError Unit
  received : UInt64
  staged : Bytes

/-- How a sink is to work: the most octets that it accepts, what it stages for the octets that it
has accepted, and what it says when they have come to their end. -/
structure SinkRule where
  limit : Option UInt64
  stage : Bytes → Bytes
  verdict : Bytes → Except BuildError Unit

namespace SinkRule

/-- So many octets stay within the limit. -/
def Admits (rule : SinkRule) (size : Nat) : Prop :=
  ∀ most, rule.limit = some most → size ≤ most.toNat

/-- Octets are staged as they are. -/
def verbatim (limit : Option UInt64) : SinkRule where
  limit := limit
  stage blob := blob
  verdict _ := .ok ()

/-- The full numbers are staged in their narrowed form, and there must be no more than full
numbers. -/
def narrowing (limit : Option UInt64) : SinkRule where
  limit := limit
  stage blob := (groups 4 blob).flatMap narrowed
  verdict blob :=
    if blob.length % 4 = 0 then .ok ()
    else .error (.dataset
      ("f32 vector blob ended with " ++ toString (blob.length % 4) ++ " dangling bytes"))

end SinkRule

namespace BlobSink

variable {τ : Type} [BlobSink τ]

/-- Asks a sink. -/
def ask : SinkCall → τ → Except BuildError Unit × τ
  | .reserve size, s => (.ok (), reserve size s)
  | .write chunk, s => writeChunk chunk s
  | .finish, s => finish s

/-- A sink after some calls. -/
def after : List SinkCall → τ → τ
  | [], s => s
  | call :: calls, s => after calls (ask call s).2

/-- The octets that a sink accepts in some calls. -/
def accepted : List SinkCall → τ → Bytes
  | [], _ => []
  | call :: calls, s => call.taken (ask call s).1 ++ accepted calls (ask call s).2

/-- What is seen of a sink, call after call. -/
def replies (freeze : τ → Bytes) : List SinkCall → τ → List SinkReply
  | [], _ => []
  | call :: calls, s =>
    { answer := (ask call s).1
      received := received (ask call s).2
      staged := freeze (ask call s).2 } :: replies freeze calls (ask call s).2

/-! ## Rules -/

/-- A sink works by a rule, where `Holds part s` says that `s` has accepted exactly this part. -/
structure Follows (freeze : τ → Bytes) (rule : SinkRule) (Holds : Bytes → τ → Prop) : Prop where
  received : ∀ {part s}, Holds part s → (BlobSink.received s).toNat = part.length
  staged : ∀ {part s}, Holds part s → freeze s = rule.stage part
  reserve : ∀ {part s} (size : UInt64), Holds part s → Holds part (BlobSink.reserve size s)
  accept : ∀ {part chunk s}, Holds part s → part.length + chunk.length < 0x10000000000000000 →
    rule.Admits (part.length + chunk.length) →
      ∃ s', writeChunk chunk s = (.ok (), s') ∧ Holds (part ++ chunk) s'
  refuse : ∀ {part chunk s}, Holds part s → part.length + chunk.length < 0x10000000000000000 →
    ¬ rule.Admits (part.length + chunk.length) →
      writeChunk chunk s = (.error (overLimit rule.limit), s)
  finish : ∀ {part s}, Holds part s → BlobSink.finish s = (rule.verdict part, s)

/-- What a sink shows that has accepted a part of a blob.  The next chunk is accepted exactly if it
stays within the limit, and a call that brings nothing or is refused changes no later reply. -/
structure Shows (freeze : τ → Bytes) (rule : SinkRule) (part : Bytes) (s : τ) : Prop where
  received : (BlobSink.received s).toNat = part.length
  staged : freeze s = rule.stage part
  finish : (BlobSink.finish s).1 = rule.verdict part
  accepts_iff : ∀ chunk, part.length + chunk.length < 0x10000000000000000 →
    ((writeChunk chunk s).1 = .ok () ↔ rule.Admits (part.length + chunk.length))
  blames_limit : ∀ chunk e, part.length + chunk.length < 0x10000000000000000 →
    (writeChunk chunk s).1 = .error e → e = overLimit rule.limit
  unmoved : ∀ call later, part.length + call.octets.length +
      (later.flatMap SinkCall.octets).length < 0x10000000000000000 →
    call.taken (ask call s).1 = [] → replies freeze later (ask call s).2 = replies freeze later s

namespace Follows

variable {freeze : τ → Bytes} {rule : SinkRule} {Holds : Bytes → τ → Prop} {part : Bytes} {s s' : τ}

/-- After a call a sink has accepted what the call brought, unless it was refused. -/
theorem ask (h : Follows freeze rule Holds) (hs : Holds part s) {call : SinkCall}
    (hsize : part.length + call.octets.length < 0x10000000000000000) :
    Holds (part ++ call.taken (BlobSink.ask call s).1) (BlobSink.ask call s).2 := by
  cases call with
  | reserve size =>
    change Holds (part ++ []) (BlobSink.reserve size s)
    rw [List.append_nil]
    exact h.reserve size hs
  | write chunk =>
    change part.length + chunk.length < 0x10000000000000000 at hsize
    change Holds (part ++ (SinkCall.write chunk).taken (writeChunk chunk s).1) (writeChunk chunk s).2
    by_cases hadmits : rule.Admits (part.length + chunk.length)
    · obtain ⟨s', hwrite, hs'⟩ := h.accept hs hsize hadmits
      rw [hwrite]
      exact hs'
    · rw [h.refuse hs hsize hadmits]
      change Holds (part ++ []) s
      rwa [List.append_nil]
  | finish =>
    change Holds (part ++ SinkCall.finish.taken (BlobSink.finish s).1) (BlobSink.finish s).2
    rw [h.finish hs]
    have hnone : SinkCall.finish.taken (rule.verdict part) = [] := by
      cases rule.verdict part <;> rfl
    rwa [hnone, List.append_nil]

/-- Sinks that have accepted the same answer alike. -/
theorem answer_eq (h : Follows freeze rule Holds) (hs : Holds part s) (hs' : Holds part s')
    {call : SinkCall} (hsize : part.length + call.octets.length < 0x10000000000000000) :
    (BlobSink.ask call s).1 = (BlobSink.ask call s').1 := by
  cases call with
  | reserve size => rfl
  | write chunk =>
    change part.length + chunk.length < 0x10000000000000000 at hsize
    change (writeChunk chunk s).1 = (writeChunk chunk s').1
    by_cases hadmits : rule.Admits (part.length + chunk.length)
    · obtain ⟨_, hwrite, -⟩ := h.accept hs hsize hadmits
      obtain ⟨_, hwrite', -⟩ := h.accept hs' hsize hadmits
      rw [hwrite, hwrite']
    · rw [h.refuse hs hsize hadmits, h.refuse hs' hsize hadmits]
  | finish =>
    change (BlobSink.finish s).1 = (BlobSink.finish s').1
    rw [h.finish hs, h.finish hs']

/-- The octets that are left to come after a call. -/
theorem left_lt {call : SinkCall} {calls : List SinkCall} (answer : Except BuildError Unit)
    (hsize : part.length + ((call :: calls).flatMap SinkCall.octets).length <
      0x10000000000000000) :
    part.length + call.octets.length < 0x10000000000000000 ∧
      (part ++ call.taken answer).length + (calls.flatMap SinkCall.octets).length <
        0x10000000000000000 := by
  have htaken := call.length_taken_le answer
  rw [List.flatMap_cons, List.length_append] at hsize
  rw [List.length_append]
  omega

/-- After some calls a sink has accepted what it accepted in each of them. -/
theorem after (h : Follows freeze rule Holds) (hs : Holds part s) {calls : List SinkCall}
    (hsize : part.length + (calls.flatMap SinkCall.octets).length < 0x10000000000000000) :
    Holds (part ++ accepted calls s) (BlobSink.after calls s) := by
  induction calls generalizing part s with
  | nil =>
    change Holds (part ++ []) s
    rwa [List.append_nil]
  | cons call calls ih =>
    obtain ⟨hcall, hrest⟩ := left_lt (BlobSink.ask call s).1 hsize
    unfold accepted BlobSink.after
    rw [← List.append_assoc]
    exact ih (h.ask hs hcall) hrest

/-- Sinks that have accepted the same show the same in all calls that follow. -/
theorem replies_eq (h : Follows freeze rule Holds) (hs : Holds part s) (hs' : Holds part s')
    {calls : List SinkCall}
    (hsize : part.length + (calls.flatMap SinkCall.octets).length < 0x10000000000000000) :
    replies freeze calls s = replies freeze calls s' := by
  induction calls generalizing part s s' with
  | nil => rfl
  | cons call calls ih =>
    obtain ⟨hcall, hrest⟩ := left_lt (BlobSink.ask call s).1 hsize
    have hanswer := h.answer_eq hs hs' hcall
    have hnext := h.ask hs hcall
    have hnext' := h.ask hs' hcall
    rw [← hanswer] at hnext'
    have hreceived : BlobSink.received (BlobSink.ask call s).2 =
        BlobSink.received (BlobSink.ask call s').2 :=
      UInt64.toNat_inj.1 ((h.received hnext).trans (h.received hnext').symm)
    have hstaged : freeze (BlobSink.ask call s).2 = freeze (BlobSink.ask call s').2 :=
      (h.staged hnext).trans (h.staged hnext').symm
    unfold replies
    rw [hanswer, hreceived, hstaged, ih hnext hnext' hrest]

/-- A sink that works by a rule shows what it has accepted. -/
theorem shows_of_holds (h : Follows freeze rule Holds) (hs : Holds part s) :
    Shows freeze rule part s where
  received := h.received hs
  staged := h.staged hs
  finish := by rw [h.finish hs]
  accepts_iff := by
    intro chunk hsize
    by_cases hadmits : rule.Admits (part.length + chunk.length)
    · obtain ⟨_, hwrite, -⟩ := h.accept hs hsize hadmits
      rw [hwrite]
      exact ⟨fun _ => hadmits, fun _ => rfl⟩
    · rw [h.refuse hs hsize hadmits]
      exact ⟨nofun, fun hadmits' => absurd hadmits' hadmits⟩
  blames_limit := by
    intro chunk e hsize he
    by_cases hadmits : rule.Admits (part.length + chunk.length)
    · obtain ⟨_, hwrite, -⟩ := h.accept hs hsize hadmits
      rw [hwrite] at he
      cases he
    · rw [h.refuse hs hsize hadmits] at he
      exact (Except.error.inj he).symm
  unmoved := by
    intro call later hsize hnone
    have hcall := h.ask hs (Nat.lt_of_le_of_lt (Nat.le_add_right ..) hsize)
    rw [hnone, List.append_nil] at hcall
    exact h.replies_eq hcall hs (by omega)

end Follows

end BlobSink

/-! ## Limits -/

/-- Octets that are received are counted without overflow while they fit the counter. -/
theorem toNat_received {received : UInt64} {size : Nat}
    (h : received.toNat + size < 0x10000000000000000) :
    (received + UInt64.ofNat size).toNat = received.toNat + size := by
  have hsize : (UInt64.ofNat size).toNat = size :=
    UInt64.toNat_ofNat_of_lt' (Nat.lt_of_le_of_lt (Nat.le_add_left ..) h)
  rw [UInt64.toNat_add, hsize, Nat.mod_eq_of_lt h]

/-- As long as the count of octets fits into a word, exactly the chunks that leave it below the
limit are accepted. -/
theorem withinLimit_iff {rule : SinkRule} {limit : Option UInt64} {received : UInt64} {n size : Nat}
    (hlimit : limit = rule.limit) (hreceived : received.toNat = n)
    (h : n + size < 0x10000000000000000) :
    withinLimit limit received size = true ↔ rule.Admits (n + size) := by
  subst hlimit hreceived
  have hsize : (UInt64.ofNat size).toNat = size :=
    UInt64.toNat_ofNat_of_lt' (Nat.lt_of_le_of_lt (Nat.le_add_left ..) h)
  have hsum : received.toNat + (UInt64.ofNat size).toNat < 0x10000000000000000 := by rwa [hsize]
  unfold withinLimit Word.addCapped SinkRule.Admits
  cases rule.limit with
  | none => exact ⟨fun _ => nofun, fun _ => rfl⟩
  | some most =>
    rw [if_pos hsum]
    dsimp only
    rw [toNat_received h, decide_eq_true_iff]
    exact ⟨fun hle _ hmost => Option.some.inj hmost ▸ hle, fun hall => hall most rfl⟩

/-! ## Buffers -/

namespace StagingBuffer

/-- A buffer has accepted a part of a blob. -/
structure Holds (limit : Option UInt64) (part : Bytes) (b : StagingBuffer) : Prop where
  content : b.content.toList = part
  received : b.received.toNat = part.length
  bound : b.limit = limit

variable {limit : Option UInt64} {part chunk : Bytes} {b : StagingBuffer}

/-- A new buffer holds nothing. -/
theorem holds_empty (limit : Option UInt64) : Holds limit [] { limit } :=
  ⟨rfl, rfl, rfl⟩

/-- A buffer is frozen to what it holds. -/
theorem Holds.freeze (h : Holds limit part b) : b.freeze = part :=
  h.content

/-- A chunk that is written is held behind the others. -/
theorem Holds.write (h : Holds limit part b)
    (hsize : part.length + chunk.length < 0x10000000000000000) :
    Holds limit (part ++ chunk) { b with
      content := b.content.appendList chunk
      received := b.received + UInt64.ofNat chunk.length } where
  content := by
    change (b.content ++ chunk).toList = part ++ chunk
    rw [Array.toList_appendList, h.content]
  received := by
    rw [← h.received] at hsize
    rw [toNat_received hsize, h.received, List.length_append]
  bound := h.bound

/-- A buffer stages octets as they are. -/
theorem follows (limit : Option UInt64) :
    BlobSink.Follows freeze (.verbatim limit) (Holds limit) where
  received h := h.received
  staged h := h.freeze
  reserve _ h := ⟨h.content, h.received, h.bound⟩
  accept h hsize hadmits :=
    ⟨_, if_pos ((withinLimit_iff h.bound h.received hsize).2 hadmits), h.write hsize⟩
  refuse := by
    intro part chunk b h hsize hadmits
    have hwrite : b.writeChunk chunk = (.error (overLimit b.limit), b) :=
      if_neg (mt (withinLimit_iff h.bound h.received hsize).1 hadmits)
    rw [h.bound] at hwrite
    exact hwrite
  finish _ := rfl

end StagingBuffer

namespace NarrowingBuffer

/-! ### Numbers that arrive in pieces -/

/-- A buffer has taken in octets that were left over together with new ones: the full numbers among
them are narrowed, and the rest is carried. -/
structure Absorbed (pending : Bytes) (b b' : NarrowingBuffer) : Prop where
  content : b'.content.toList = b.content.toList ++ (groups 4 pending).flatMap narrowed
  carry : b'.carry = pending.drop (pending.length / 4 * 4)
  received : b'.received = b.received
  limit : b'.limit = b.limit

/-- Numbers are pushed one after the other, and nothing else changes. -/
theorem foldl_push (numbers : List Bytes) (b : NarrowingBuffer) :
    (numbers.foldl push b).content.toList = b.content.toList ++ numbers.flatMap narrowed ∧
      (numbers.foldl push b).received = b.received ∧ (numbers.foldl push b).limit = b.limit := by
  induction numbers generalizing b with
  | nil => exact ⟨(List.append_nil _).symm, rfl, rfl⟩
  | cons number numbers ih =>
    obtain ⟨hcontent, hreceived, hlimit⟩ := ih (b.push number)
    refine ⟨?_, hreceived, hlimit⟩
    have hpush : (b.push number).content.toList = b.content.toList ++ narrowed number :=
      Array.toList_appendList ..
    rw [List.foldl_cons, hcontent, hpush, List.append_assoc, List.flatMap_cons]

/-- To take the numbers out of octets absorbs these octets. -/
theorem absorbed_takeNumbers (octets : Bytes) (b : NarrowingBuffer) :
    Absorbed octets b (b.takeNumbers octets) := by
  obtain ⟨hcontent, hreceived, hlimit⟩ := foldl_push (groups 4 octets) b
  exact ⟨hcontent, rfl, hreceived, hlimit⟩

/-- A chunk is absorbed together with what was carried, whether there was anything or not and
whether the chunk completes it or not. -/
theorem absorbed_absorb (chunk : Bytes) (b : NarrowingBuffer) :
    Absorbed (b.carry ++ chunk) b (b.absorb chunk) := by
  have hcarry := b.carry_lt
  unfold absorb
  split
  · next hempty =>
    rw [List.isEmpty_iff.1 hempty, List.nil_append]
    exact absorbed_takeNumbers chunk b
  · dsimp only
    split
    · next hshort =>
      -- the chunk is too short to complete the number, so all of it is carried
      have hall : chunk.take (4 - b.carry.length) = chunk := by
        refine List.take_of_length_le ?_
        rw [List.length_append, List.length_take] at hshort
        omega
      simp only [hall] at hshort ⊢
      have hdrop : (b.carry ++ chunk).length / 4 * 4 = 0 := by omega
      refine ⟨?_, ?_, rfl, rfl⟩
      · rw [groups_of_short hshort]
        exact (List.append_nil _).symm
      · rw [hdrop]
        rfl
    · next hfull =>
      -- the completed number comes before the others
      have hlength : (b.carry ++ chunk.take (4 - b.carry.length)).length = 4 := by
        rw [List.length_append, List.length_take] at hfull ⊢
        omega
      have hpending : b.carry ++ chunk =
          (b.carry ++ chunk.take (4 - b.carry.length)) ++ chunk.drop (4 - b.carry.length) := by
        rw [List.append_assoc, List.take_append_drop]
      generalize b.carry ++ chunk.take (4 - b.carry.length) = number at hlength hpending
      generalize chunk.drop (4 - b.carry.length) = rest at hpending
      have hrest := absorbed_takeNumbers rest (b.push number)
      have hpush : (b.push number).content.toList = b.content.toList ++ narrowed number :=
        Array.toList_appendList ..
      rw [hpending]
      refine ⟨?_, ?_, hrest.received, hrest.limit⟩
      · rw [hrest.content, hpush, groups_append (by decide) hlength, List.flatMap_cons,
          List.append_assoc]
      · have hdrop : (number ++ rest).length / 4 * 4 = number.length + rest.length / 4 * 4 := by
          rw [List.length_append, hlength]
          omega
        rw [hrest.carry, hdrop, ← List.drop_drop, List.drop_left]

/-- What is carried and a further chunk hold the numbers that the chunk completes. -/
theorem groups_carry (part chunk : Bytes) :
    groups 4 (part ++ chunk) =
      groups 4 part ++ groups 4 (part.drop (part.length / 4 * 4) ++ chunk) := by
  have hle : part.length / 4 * 4 ≤ part.length := Nat.div_mul_le_self ..
  have hdvd : 4 ∣ (part.take (part.length / 4 * 4)).length := by
    rw [List.length_take_of_le hle]
    exact Nat.dvd_mul_left ..
  conv_lhs => rw [← List.take_append_drop (part.length / 4 * 4) part, List.append_assoc]
  rw [groups_append_of_dvd (by decide) hdvd, groups_take (by decide)]

/-- What is carried next is the rest of everything received. -/
theorem drop_carry (part chunk : Bytes) :
    (part.drop (part.length / 4 * 4) ++ chunk).drop
        ((part.drop (part.length / 4 * 4) ++ chunk).length / 4 * 4) =
      (part ++ chunk).drop ((part ++ chunk).length / 4 * 4) := by
  have hle : part.length / 4 * 4 ≤ part.length := Nat.div_mul_le_self ..
  have hlength : (part ++ chunk).length =
      part.length / 4 * 4 + (part.drop (part.length / 4 * 4) ++ chunk).length := by
    rw [List.length_append, List.length_append, List.length_drop]
    omega
  rw [hlength, Nat.add_comm (part.length / 4 * 4), Nat.add_mul_div_right _ _ (by decide),
    Nat.add_mul, Nat.add_comm _ (part.length / 4 * 4), ← List.drop_drop,
    List.drop_append_of_le_length hle]

/-! ### The rule -/

/-- A buffer has narrowed the full numbers of a part of a blob and carries the rest. -/
structure Holds (limit : Option UInt64) (part : Bytes) (b : NarrowingBuffer) : Prop where
  content : b.content.toList = (groups 4 part).flatMap narrowed
  carry : b.carry = part.drop (part.length / 4 * 4)
  received : b.received.toNat = part.length
  bound : b.limit = limit

/-- A new narrowing buffer holds nothing. -/
theorem holds_empty (limit : Option UInt64) : Holds limit [] { limit } where
  content := by rw [groups_of_short (by decide)]; rfl
  carry := rfl
  received := rfl
  bound := rfl

variable {limit : Option UInt64} {part chunk : Bytes} {b : NarrowingBuffer}

/-- A chunk that is absorbed is held behind the others, across the border of numbers. -/
theorem Holds.write (h : Holds limit part b)
    (hsize : part.length + chunk.length < 0x10000000000000000) :
    Holds limit (part ++ chunk)
      (absorb chunk { b with received := b.received + UInt64.ofNat chunk.length }) := by
  obtain ⟨hcontent, hcarry, hreceived, hlimit⟩ :=
    absorbed_absorb chunk { b with received := b.received + UInt64.ofNat chunk.length }
  dsimp only at hcontent hcarry hreceived hlimit
  refine ⟨?_, ?_, ?_, hlimit.trans h.bound⟩
  · rw [hcontent, h.content, h.carry, groups_carry part chunk, List.flatMap_append]
  · rw [hcarry, h.carry, drop_carry]
  · rw [← h.received] at hsize
    rw [hreceived, toNat_received hsize, h.received, List.length_append]

/-- As many octets are carried as there are behind the last full number. -/
theorem Holds.length_carry (h : Holds limit part b) : b.carry.length = part.length % 4 := by
  rw [h.carry, List.length_drop]
  omega

/-- A buffer stages the narrowed form of the full numbers. -/
theorem follows (limit : Option UInt64) :
    BlobSink.Follows freeze (.narrowing limit) (Holds limit) where
  received h := h.received
  staged h := h.content
  reserve _ h := ⟨h.content, h.carry, h.received, h.bound⟩
  accept h hsize hadmits :=
    ⟨_, if_pos ((withinLimit_iff h.bound h.received hsize).2 hadmits), h.write hsize⟩
  refuse := by
    intro part chunk b h hsize hadmits
    have hwrite : b.writeChunk chunk = (.error (overLimit b.limit), b) :=
      if_neg (mt (withinLimit_iff h.bound h.received hsize).1 hadmits)
    rw [h.bound] at hwrite
    exact hwrite
  finish := by
    intro part b h
    have hcarry := h.length_carry
    change b.finish = ((SinkRule.narrowing limit).verdict part, b)
    unfold finish SinkRule.narrowing
    dsimp only
    rw [← hcarry]
    by_cases hempty : b.carry = []
    · rw [hempty]
      rfl
    · have hlength : b.carry.length ≠ 0 := mt List.eq_nil_of_length_eq_zero hempty
      rw [if_neg hlength, if_neg (by rwa [List.isEmpty_iff])]

end NarrowingBuffer

/-! ## Sinks of either kind -/

/-- A sink that passes every call on to another one shows what that one shows. -/
theorem BlobSink.replies_map {τ τ' : Type} [BlobSink τ] [BlobSink τ'] {freeze : τ → Bytes}
    {freeze' : τ' → Bytes} (f : τ → τ')
    (hask : ∀ call s, ask call (f s) = ((ask call s).1, f (ask call s).2))
    (hreceived : ∀ s : τ, received (f s) = received s) (hfreeze : ∀ s, freeze' (f s) = freeze s)
    (calls : List SinkCall) (s : τ) : replies freeze' calls (f s) = replies freeze calls s := by
  induction calls generalizing s with
  | nil => rfl
  | cons call calls ih =>
    unfold replies
    rw [hask, hreceived, hfreeze, ih]

/-- A sink for vectors shows what the buffer shows that it is made of. -/
theorem VectorSink.replies_forElements (t : ElementType) (most : UInt64) (calls : List SinkCall) :
    BlobSink.replies freeze calls (forElements t most) =
      if t = .float16 then
        BlobSink.replies NarrowingBuffer.freeze calls (NarrowingBuffer.withLimit most)
      else BlobSink.replies StagingBuffer.freeze calls (StagingBuffer.withLimit most) := by
  have hraw : ∀ b : StagingBuffer, BlobSink.replies freeze calls (raw b) =
      BlobSink.replies StagingBuffer.freeze calls b :=
    BlobSink.replies_map raw (by rintro (size | chunk | _) b <;> rfl) (fun _ => rfl)
      (fun _ => rfl) calls
  have hnarrowing : ∀ b : NarrowingBuffer, BlobSink.replies freeze calls (narrowing b) =
      BlobSink.replies NarrowingBuffer.freeze calls b :=
    BlobSink.replies_map narrowing (by rintro (size | chunk | _) b <;> rfl) (fun _ => rfl)
      (fun _ => rfl) calls
  cases t with
  | float16 => exact hnarrowing _
  | _ => exact hraw _

/-- Whatever a sink has been asked, it shows the octets that it has accepted, and nothing else makes
a difference to it: a buffer shows them as they are, one that narrows shows the narrowed form of the
full numbers among them, and a sink for vectors shows what the buffer for their element type
does. -/
theorem sinks_show_what_they_accepted (limit : Option UInt64) (calls : List SinkCall)
    (hsize : (calls.flatMap SinkCall.octets).length < 0x10000000000000000) :
    BlobSink.Shows StagingBuffer.freeze (.verbatim limit)
        (BlobSink.accepted calls ({ limit } : StagingBuffer))
        (BlobSink.after calls ({ limit } : StagingBuffer)) ∧
      BlobSink.Shows NarrowingBuffer.freeze (.narrowing limit)
        (BlobSink.accepted calls ({ limit } : NarrowingBuffer))
        (BlobSink.after calls ({ limit } : NarrowingBuffer)) ∧
      ∀ (t : ElementType) (most : UInt64),
        BlobSink.replies VectorSink.freeze calls (.forElements t most) =
          if t = .float16 then
            BlobSink.replies NarrowingBuffer.freeze calls (NarrowingBuffer.withLimit most)
          else BlobSink.replies StagingBuffer.freeze calls (StagingBuffer.withLimit most) := by
  have hall : ([] : Bytes).length + (calls.flatMap SinkCall.octets).length < 0x10000000000000000 := by
    rwa [List.length_nil, Nat.zero_add]
  refine ⟨?_, ?_, fun t most => VectorSink.replies_forElements t most calls⟩
  · have hfollows := StagingBuffer.follows limit
    exact hfollows.shows_of_holds (hfollows.after (StagingBuffer.holds_empty limit) hall)
  · have hfollows := NarrowingBuffer.follows limit
    exact hfollows.shows_of_holds (hfollows.after (NarrowingBuffer.holds_empty limit) hall)

/-- The number one arrives in two pieces; between them a chunk is too long, the end is announced too
early, and room is made. -/
theorem one_arrives_around_a_refusal :
    let calls : List SinkCall :=
      [.write [0x00, 0x00], .write [1, 2, 3, 4, 5], .finish, .reserve 9, .write [0x80, 0x3F]]
    let b := BlobSink.after calls ({ limit := some 4 } : NarrowingBuffer)
    (calls.flatMap SinkCall.octets).length < 0x10000000000000000 ∧ b.freeze = [0x00, 0x3C] ∧
      (BlobSink.finish b).1 = .ok () ∧ (BlobSink.writeChunk [0] b).1 ≠ .ok () := by
  intro calls b
  have hsize : (calls.flatMap SinkCall.octets).length < 0x10000000000000000 := by decide
  have haccepted : BlobSink.accepted calls ({ limit := some 4 } : NarrowingBuffer) =
      [0x00, 0x00, 0x80, 0x3F] := by decide +kernel
  obtain ⟨-, hshows, -⟩ := sinks_show_what_they_accepted (some 4) calls hsize
  rw [haccepted] at hshows
  refine ⟨hsize, hshows.staged.trans (by decide +kernel), hshows.finish, fun hfifth => ?_⟩
  have hadmits := (hshows.accepts_iff [0] (by decide)).1 hfifth 4 rfl
  exact absurd hadmits (by decide)

end VectorIndex
