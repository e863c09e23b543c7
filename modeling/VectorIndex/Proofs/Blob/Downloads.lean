import VectorIndex.Blob.Client
import VectorIndex.Proofs.Blob.Sinks
import VectorIndex.Proofs.Dataset.Elements

/-!
# Blobs as they are received

A sink that works by a rule judges a blob in the same way in whatever chunks it is delivered
(`BlobSink.Follows.judges`): it is accepted, or it is refused for a reason that it gives on its own.
So do a sink that keeps the octets and one that narrows the numbers (`StagingBuffer.judges`,
`NarrowingBuffer.judges`).  A blob of the expected size is not refused (`BlobSink.Takes`).

`Download.Judged` is what is true of a read of any blob at every step, and `Download.OnTrack` of a
read of a blob that the sink takes; a read that has ended on track has delivered the blob.
-/

set_option autoImplicit false

namespace VectorIndex

open Grouping

/-! ## Sinks -/

/-- A sink takes a blob in any chunks, where `Holds part s` says that `s` has accepted this part of
it. -/
structure BlobSink.Takes {τ : Type} [BlobSink τ] (blob : Bytes) (Holds : Bytes → τ → Prop) :
    Prop where
  reserve : ∀ {s : τ} (size : UInt64), Holds [] s → Holds [] (BlobSink.reserve size s)
  write : ∀ {s : τ} {part chunk : Bytes}, (part ++ chunk).length ≤ blob.length → Holds part s →
    ∃ s', BlobSink.writeChunk chunk s = (.ok (), s') ∧ Holds (part ++ chunk) s'
  finish : ∀ {s : τ}, Holds blob s → ∃ s', BlobSink.finish s = (.ok (), s') ∧ Holds blob s'

/-- The answer of a sink: it accepts and is in some state then, or it refuses for some reason. -/
def BlobSink.Answers {τ : Type} (Accepts : τ → Prop) (Refused : BuildError → Prop) :
    Except BuildError Unit × τ → Prop
  | (.ok _, s) => Accepts s
  | (.error e, _) => Refused e

/-- A sink that refuses for no reason accepts. -/
theorem BlobSink.Answers.eq_ok {τ : Type} {Accepts : τ → Prop} {answer : Except BuildError Unit × τ}
    (h : Answers Accepts (fun _ => False) answer) : ∃ s, answer = (.ok (), s) ∧ Accepts s := by
  obtain ⟨result, s⟩ := answer
  cases result with
  | error e => exact h.elim
  | ok done => exact ⟨s, rfl, h⟩

/-- An answer can be read with other states and other reasons. -/
theorem BlobSink.Answers.map {τ τ' : Type} {Accepts : τ → Prop} {Accepts' : τ' → Prop}
    {Refused Refused' : BuildError → Prop} (f : τ → τ') (haccepts : ∀ s, Accepts s → Accepts' (f s))
    (hrefused : ∀ e, Refused e → Refused' e) {answer : Except BuildError Unit × τ}
    (h : Answers Accepts Refused answer) : Answers Accepts' Refused' (answer.1, f answer.2) := by
  obtain ⟨result, s⟩ := answer
  cases result with
  | error e => exact hrefused e h
  | ok done => exact haccepts s h

/-- A sink judges a blob in any chunks: it refuses only for reasons that are good for the blob, and
it accepts the end only of a blob that is whole. -/
structure BlobSink.Judges {τ : Type} [BlobSink τ] (blob : Bytes) (Holds : Bytes → τ → Prop)
    (Whole : Prop) (Refused : BuildError → Prop) : Prop where
  reserve : ∀ {s : τ} (size : UInt64), Holds [] s → Holds [] (BlobSink.reserve size s)
  write : ∀ {s : τ} {part chunk : Bytes}, (part ++ chunk).length ≤ blob.length → Holds part s →
    Answers (Holds (part ++ chunk)) Refused (BlobSink.writeChunk chunk s)
  finish : ∀ {s : τ}, Holds blob s →
    Answers (fun s' => Holds blob s' ∧ Whole) Refused (BlobSink.finish s)

/-- A blob that there is no reason to refuse is taken. -/
theorem BlobSink.Judges.takes {τ : Type} [BlobSink τ] {blob : Bytes} {Holds : Bytes → τ → Prop}
    {Whole : Prop} {Refused : BuildError → Prop} (h : BlobSink.Judges blob Holds Whole Refused)
    (hnone : ∀ e, ¬ Refused e) : BlobSink.Takes blob Holds where
  reserve := h.reserve
  write hle hholds :=
    ((h.write hle hholds).map id (fun _ hs => hs) fun e he => hnone e he).eq_ok
  finish hholds := ((h.finish hholds).map id (fun _ hs => hs.1) fun e he => hnone e he).eq_ok

/-- A sink that takes a blob has no reason to refuse it. -/
theorem BlobSink.Takes.judges {τ : Type} [BlobSink τ] {blob : Bytes} {Holds : Bytes → τ → Prop}
    (h : BlobSink.Takes blob Holds) : BlobSink.Judges blob Holds True (fun _ => False) where
  reserve := h.reserve
  write := by
    intro s part chunk hle hholds
    obtain ⟨s', hwrite, hs'⟩ := h.write hle hholds
    rw [hwrite]
    exact hs'
  finish := by
    intro s hholds
    obtain ⟨s', hfinish, hs'⟩ := h.finish hholds
    rw [hfinish]
    exact ⟨hs', trivial⟩

/-- A sink that works by a rule judges every blob: it refuses those that pass the limit, and those
at whose end the rule objects. -/
theorem BlobSink.Follows.judges {τ : Type} [BlobSink τ] {freeze : τ → Bytes} {rule : SinkRule}
    {Holds : Bytes → τ → Prop} (h : BlobSink.Follows freeze rule Holds) {blob : Bytes}
    (hblob : blob.length < 0x10000000000000000) :
    BlobSink.Judges blob Holds (rule.verdict blob = .ok ()) (fun e =>
      (¬ rule.Admits blob.length ∧ e = overLimit rule.limit) ∨ rule.verdict blob = .error e) where
  reserve size hs := h.reserve size hs
  write := by
    intro s part chunk hle hs
    rw [List.length_append] at hle
    have hsize : part.length + chunk.length < 0x10000000000000000 := Nat.lt_of_le_of_lt hle hblob
    by_cases hadmits : rule.Admits (part.length + chunk.length)
    · obtain ⟨s', hwrite, hs'⟩ := h.accept hs hsize hadmits
      rw [hwrite]
      exact hs'
    · rw [h.refuse hs hsize hadmits]
      exact .inl ⟨fun hall => hadmits fun most hmost => Nat.le_trans hle (hall most hmost), rfl⟩
  finish := by
    intro s hs
    rw [h.finish hs]
    cases hverdict : rule.verdict blob with
    | ok done => exact ⟨hs, rfl⟩
    | error e => exact .inr rfl

/-- A blob is judged for weaker reasons, too. -/
theorem BlobSink.Judges.imp {τ : Type} [BlobSink τ] {blob : Bytes} {Holds : Bytes → τ → Prop}
    {Whole Whole' : Prop} {Refused Refused' : BuildError → Prop}
    (h : BlobSink.Judges blob Holds Whole Refused) (hwhole : Whole → Whole')
    (hrefused : ∀ e, Refused e → Refused' e) : BlobSink.Judges blob Holds Whole' Refused' where
  reserve := h.reserve
  write hle hs := (h.write hle hs).map id (fun _ hs' => hs') hrefused
  finish hs := (h.finish hs).map id (fun _ hs' => ⟨hs'.1, hwhole hs'.2⟩) hrefused

/-- A rule refuses only what is larger than its limit. -/
theorem SinkRule.lt_of_not_admits {rule : SinkRule} {limit : UInt64} (hlimit : rule.limit = some limit)
    {size : Nat} (h : ¬ rule.Admits size) : limit.toNat < size := by
  refine Nat.lt_of_not_le fun hle => h fun most hmost => ?_
  obtain rfl := Option.some.inj (hlimit.symm.trans hmost)
  exact hle

namespace StagingBuffer

/-- A new buffer has accepted nothing. -/
theorem holds_withLimit (limit : UInt64) : Holds (some limit) [] (withLimit limit) :=
  holds_empty (some limit)

/-- Blobs that pass the limit are refused, and no others. -/
def Refuses (limit : UInt64) (blob : Bytes) (e : BuildError) : Prop :=
  limit.toNat < blob.length ∧ e = overLimit (some limit)

/-- A buffer judges by the size alone. -/
theorem judges {limit : UInt64} {blob : Bytes} (hblob : blob.length < 0x10000000000000000) :
    BlobSink.Judges blob (Holds (some limit)) True (Refuses limit blob) := by
  refine ((follows (some limit)).judges hblob).imp (fun _ => trivial) fun e he => ?_
  obtain ⟨hbeyond, he⟩ | hverdict := he
  · exact ⟨SinkRule.lt_of_not_admits rfl hbeyond, he⟩
  · cases hverdict

/-- A buffer takes every blob that is as large as its limit. -/
theorem takes {limit : UInt64} {blob : Bytes} (hblob : blob.length = limit.toNat) :
    BlobSink.Takes blob (Holds (some limit)) :=
  (judges (hblob ▸ limit.toNat_lt)).takes fun _ h => Nat.lt_irrefl _ (hblob ▸ h.1)

end StagingBuffer

namespace NarrowingBuffer

/-- A new narrowing buffer has accepted nothing. -/
theorem holds_withLimit (limit : UInt64) : Holds (some limit) [] (withLimit limit) :=
  holds_empty (some limit)

/-- A narrowing buffer has staged the numbers of all that it has accepted. -/
theorem Holds.freeze {limit : Option UInt64} {part : Bytes} {b : NarrowingBuffer}
    (h : Holds limit part b) : b.freeze = ElementType.float16.stage part :=
  h.content

/-- Blobs that pass the limit are refused, and those that end inside a number. -/
def Refuses (limit : UInt64) (blob : Bytes) (e : BuildError) : Prop :=
  (limit.toNat < blob.length ∧ e = overLimit (some limit)) ∨
    (¬ 4 ∣ blob.length ∧ ∃ n : Nat,
      e = .dataset ("f32 vector blob ended with " ++ toString n ++ " dangling bytes"))

/-- A narrowing buffer judges by the size and by whether the last number is whole. -/
theorem judges {limit : UInt64} {blob : Bytes} (hblob : blob.length < 0x10000000000000000) :
    BlobSink.Judges blob (Holds (some limit)) (4 ∣ blob.length) (Refuses limit blob) := by
  have hverdict : (SinkRule.narrowing (some limit)).verdict blob =
      if blob.length % 4 = 0 then .ok ()
      else .error (.dataset
        ("f32 vector blob ended with " ++ toString (blob.length % 4) ++ " dangling bytes")) := rfl
  have hjudges := (follows (some limit)).judges hblob
  rw [hverdict] at hjudges
  refine hjudges.imp (fun hwhole => ?_) fun e he => ?_
  · split at hwhole
    · next hzero => exact Nat.dvd_of_mod_eq_zero hzero
    · cases hwhole
  · obtain ⟨hbeyond, he⟩ | hdangling := he
    · exact .inl ⟨SinkRule.lt_of_not_admits rfl hbeyond, he⟩
    · split at hdangling
      · cases hdangling
      · next hrest =>
        exact .inr ⟨mt Nat.mod_eq_zero_of_dvd hrest, _, (Except.error.inj hdangling).symm⟩

end NarrowingBuffer

namespace VectorSink

/-- A sink for vectors of some element type has accepted a part of a blob. -/
def Holds (t : ElementType) (limit : UInt64) (part : Bytes) : VectorSink → Prop
  | .raw b => t ≠ .float16 ∧ b.Holds (some limit) part
  | .narrowing b => t = .float16 ∧ b.Holds (some limit) part

/-- A new sink for vectors has accepted nothing. -/
theorem holds_forElements (t : ElementType) (limit : UInt64) :
    Holds t limit [] (forElements t limit) := by
  cases t with
  | float16 => exact ⟨rfl, NarrowingBuffer.holds_withLimit limit⟩
  | _ => exact ⟨by decide, StagingBuffer.holds_withLimit limit⟩

/-- What a sink has made of a blob is the staged form. -/
theorem Holds.freeze {t : ElementType} {limit : UInt64} {part : Bytes} {s : VectorSink}
    (h : s.Holds t limit part) : s.freeze = t.stage part := by
  cases s with
  | raw b =>
    obtain ⟨ht, hb⟩ := h
    cases t with
    | float16 => exact absurd rfl ht
    | _ => exact hb.freeze
  | narrowing b =>
    obtain ⟨rfl, hb⟩ := h
    exact hb.freeze

/-- Blobs that pass the limit are refused, and where numbers are narrowed, those that end inside a
number. -/
def Refuses (t : ElementType) (limit : UInt64) (blob : Bytes) (e : BuildError) : Prop :=
  StagingBuffer.Refuses limit blob e ∨ (t = .float16 ∧ NarrowingBuffer.Refuses limit blob e)

/-- A sink for vectors judges as its element type asks for. -/
theorem judges {t : ElementType} {limit : UInt64} {blob : Bytes}
    (hblob : blob.length < 0x10000000000000000) :
    BlobSink.Judges blob (Holds t limit) (t = .float16 → 4 ∣ blob.length)
      (Refuses t limit blob) where
  reserve := by
    intro s size h
    cases s with
    | raw b => exact ⟨h.1, (StagingBuffer.judges hblob).reserve size h.2⟩
    | narrowing b => exact ⟨h.1, (NarrowingBuffer.judges hblob).reserve size h.2⟩
  write := by
    intro s part chunk hle h
    cases s with
    | raw b =>
      exact ((StagingBuffer.judges hblob).write hle h.2).map VectorSink.raw
        (fun _ hb => ⟨h.1, hb⟩) fun _ he => .inl he
    | narrowing b =>
      exact ((NarrowingBuffer.judges hblob).write hle h.2).map VectorSink.narrowing
        (fun _ hb => ⟨h.1, hb⟩) fun _ he => .inr ⟨h.1, he⟩
  finish := by
    intro s h
    cases s with
    | raw b => exact ⟨h, fun hnarrow => absurd hnarrow h.1⟩
    | narrowing b =>
      exact ((NarrowingBuffer.judges hblob).finish h.2).map VectorSink.narrowing
        (fun _ hb => ⟨⟨h.1, hb.1⟩, fun _ => hb.2⟩) fun _ he => .inr ⟨h.1, he⟩

/-- A sink for vectors takes every blob of whole elements that is as large as its limit. -/
theorem takes {t : ElementType} {limit : UInt64} {blob : Bytes}
    (hblob : blob.length = limit.toNat) (hwhole : t.sourceSize.toNat ∣ blob.length) :
    BlobSink.Takes blob (Holds t limit) := by
  refine (judges (hblob ▸ limit.toNat_lt)).takes fun e h => ?_
  obtain hover | ⟨rfl, hover | ⟨hdangling, -⟩⟩ := h
  · exact Nat.lt_irrefl _ (hblob ▸ hover.1)
  · exact Nat.lt_irrefl _ (hblob ▸ hover.1)
  · exact hdangling hwhole

end VectorSink

/-! ## Reads -/

variable {σ τ : Type}

/-- As long as the medium is fine, the client opens the blob at a path, and the medium stays
fine. -/
def BlobClient.Opens (client : BlobClient σ) (Fine : Medium σ → Prop) (path : String)
    (blob : Bytes) : Prop :=
  ∀ m, Fine m → ∃ delivery m', client.openBlob path m = (.ok delivery, m') ∧ Fine m' ∧
    delivery.announced.toNat = blob.length ∧ delivery.chunks.flatten = blob ∧
    delivery.fault = none

namespace Download

variable {blob : Bytes} {Holds : Bytes → τ → Prop} {Whole : Prop} {Refused : BuildError → Prop}

/-- What is true of a read at every step: the sink has accepted what was delivered so far, and the
chunks that are left are the rest of the blob.  A read that has ended has delivered a whole blob, or
was refused. -/
def Judged (blob : Bytes) (Holds : Bytes → τ → Prop) (Whole : Prop) (Refused : BuildError → Prop) :
    Download τ → Prop
  | .opening sink => Holds [] sink
  | .streaming announced chunks fault read sink =>
    ∃ part, part ++ chunks.flatten = blob ∧ announced = blob.length ∧ fault = none ∧
      read = part.length ∧ Holds part sink
  | .ended (.ok n) sink => n = blob.length ∧ Holds blob sink ∧ Whole
  | .ended (.error e) _ => Refused e

/-- A read that ended well has delivered the blob, which is whole. -/
theorem Judged.of_ok {d : Download τ} (h : d.Judged blob Holds Whole Refused) {n : Nat}
    (hresult : d.result? = some (.ok n)) : Holds blob d.sink ∧ Whole := by
  cases d with
  | opening sink => cases hresult
  | streaming announced chunks fault read sink => cases hresult
  | ended result sink =>
    obtain rfl := Option.some.inj hresult
    exact h.2

/-- A read that ended in a refusal had a reason that is good for the blob. -/
theorem Judged.of_error {d : Download τ} (h : d.Judged blob Holds Whole Refused) {e : BuildError}
    (hresult : d.result? = some (.error e)) : Refused e := by
  cases d with
  | opening sink => cases hresult
  | streaming announced chunks fault read sink => cases hresult
  | ended result sink =>
    obtain rfl := Option.some.inj hresult
    exact h

variable [BlobSink τ] {client : BlobClient σ} {Fine : Medium σ → Prop} {path : String}

/-- A step keeps what is true of a read. -/
theorem judged_step (hjudges : BlobSink.Judges blob Holds Whole Refused)
    (hopens : client.Opens Fine path blob) {d : Download τ}
    (h : d.Judged blob Holds Whole Refused) {s : Site σ} (hs : Fine s.toMedium) :
    (d.step client path s).1.Judged blob Holds Whole Refused ∧
      Fine (d.step client path s).2.toMedium := by
  cases d with
  | opening sink =>
    obtain ⟨delivery, m', hopen, hfine, hannounced, hchunks, hfault⟩ := hopens s.toMedium hs
    unfold step
    simp only [hopen]
    exact ⟨⟨[], hchunks, hannounced, hfault, rfl, hjudges.reserve _ h⟩, hfine⟩
  | streaming announced chunks fault read sink =>
    obtain ⟨part, hparts, rfl, rfl, rfl, hholds⟩ := h
    cases chunks with
    | cons chunk chunks =>
      rw [List.flatten_cons, ← List.append_assoc] at hparts
      have hle : (part ++ chunk).length ≤ blob.length := by
        rw [← hparts, @List.length_append _ (part ++ chunk)]
        exact Nat.le_add_right ..
      have hanswer := hjudges.write hle hholds
      unfold step
      dsimp only
      split
      · next hrefused =>
        rw [hrefused] at hanswer
        exact ⟨hanswer, hs⟩
      · next haccepted =>
        rw [haccepted] at hanswer
        exact ⟨⟨part ++ chunk, hparts, rfl, rfl, List.length_append.symm, hanswer⟩, hs⟩
    | nil =>
      rw [List.flatten_nil, List.append_nil] at hparts
      subst hparts
      have hanswer := hjudges.finish hholds
      unfold step
      simp only [ne_eq, not_true_eq_false, if_false]
      split
      · next hrefused =>
        rw [hrefused] at hanswer
        exact ⟨hanswer, hs⟩
      · next haccepted =>
        rw [haccepted] at hanswer
        exact ⟨⟨rfl, hanswer⟩, hs⟩
  | ended result sink => exact ⟨h, hs⟩

/-! ### Reads of a blob that is taken -/

/-- What is true of a read at every step: the sink has accepted what was delivered so far, and the
chunks that are left are the rest of the blob. -/
def OnTrack (blob : Bytes) (Holds : Bytes → τ → Prop) : Download τ → Prop
  | .opening sink => Holds [] sink
  | .streaming announced chunks fault read sink =>
    ∃ part, part ++ chunks.flatten = blob ∧ announced = blob.length ∧ fault = none ∧
      read = part.length ∧ Holds part sink
  | .ended result sink => result = .ok blob.length ∧ Holds blob sink

omit [BlobSink τ] in
/-- A read is on track exactly if it is judged by a sink that refuses nothing. -/
theorem onTrack_iff {d : Download τ} :
    d.OnTrack blob Holds ↔ d.Judged blob Holds True (fun _ => False) := by
  cases d with
  | opening sink => exact Iff.rfl
  | streaming announced chunks fault read sink => exact Iff.rfl
  | ended result sink =>
    cases result with
    | error e => simp [OnTrack, Judged]
    | ok n => simp [OnTrack, Judged]

omit [BlobSink τ] in
/-- A read that has ended on track has delivered the blob. -/
theorem OnTrack.of_result? {d : Download τ} (h : d.OnTrack blob Holds)
    {result : Except BuildError Nat} (hresult : d.result? = some result) :
    result = .ok blob.length ∧ Holds blob d.sink := by
  cases d with
  | opening sink => cases hresult
  | streaming announced chunks fault read sink => cases hresult
  | ended result' sink =>
    obtain rfl := Option.some.inj hresult
    exact h

/-- A step keeps a read on track. -/
theorem onTrack_step (htakes : BlobSink.Takes blob Holds) (hopens : client.Opens Fine path blob)
    {d : Download τ} (h : d.OnTrack blob Holds) {s : Site σ} (hs : Fine s.toMedium) :
    (d.step client path s).1.OnTrack blob Holds ∧ Fine (d.step client path s).2.toMedium := by
  rw [onTrack_iff] at h ⊢
  exact judged_step htakes.judges hopens h hs

end Download

end VectorIndex
