import VectorIndex.Blob.Faulty
import VectorIndex.Blob.Memory
import VectorIndex.Proofs.Blob.Fidelity
import VectorIndex.Proofs.Blob.Sinks

/-!
# Deliveries into sinks

A delivery that was opened asks the sink to make room, hands it the chunks one after the other, and
tells it of the end, but only if nothing went wrong before (`Delivery.script`).  It breaks off at
the first call that the sink refuses (`BlobSink.untilRefused`).  Nothing is assumed of the sink: it
may refuse any chunk, and the end.

What a sink is asked is seen with a sink that keeps a record (`Recorded`).  Keeping it changes
nothing (`BlobSink.untilRefused_recorded`), so that what is recorded is what every sink is asked
(`Transport.read_is_whole_or_refused`).
-/

set_option autoImplicit false

namespace VectorIndex

variable {σ τ : Type}

/-! ## Conversations with a sink -/

namespace BlobSink

variable [BlobSink τ]

/-- The calls and the answers to them, up to the first one that is refused. -/
def untilRefused : List SinkCall → τ → List (SinkCall × Except BuildError Unit)
  | [], _ => []
  | call :: calls, s =>
    (call, (ask call s).1) ::
      match (ask call s).1 with
      | .ok _ => untilRefused calls (ask call s).2
      | .error _ => []

/-- All calls are accepted. -/
def AgreesTo : List SinkCall → τ → Prop
  | [], _ => True
  | call :: calls, s => (ask call s).1 = .ok () ∧ AgreesTo calls (ask call s).2

/-- The refusal at the end of a conversation. -/
def refusal? : List (SinkCall × Except BuildError Unit) → Option BuildError
  | [] => none
  | (_, .error e) :: _ => some e
  | (_, .ok _) :: said => refusal? said

/-- The sink after a conversation about some calls. -/
def told (calls : List SinkCall) (s : τ) : τ :=
  after ((untilRefused calls s).map Prod.fst) s

/-- A conversation goes on after a call that is accepted. -/
theorem untilRefused_cons_of_ok {call : SinkCall} {s s' : τ} (h : ask call s = (.ok (), s'))
    (calls : List SinkCall) :
    untilRefused (call :: calls) s = (call, .ok ()) :: untilRefused calls s' := by
  rw [untilRefused, h]

/-- A conversation ends with a call that is refused. -/
theorem untilRefused_cons_of_error {call : SinkCall} {s s' : τ} {e : BuildError}
    (h : ask call s = (.error e, s')) (calls : List SinkCall) :
    untilRefused (call :: calls) s = [(call, .error e)] := by
  rw [untilRefused, h]

/-- A sink that accepts a call is told the others. -/
theorem told_cons_of_ok {call : SinkCall} {s s' : τ} (h : ask call s = (.ok (), s'))
    (calls : List SinkCall) : told (call :: calls) s = told calls s' := by
  unfold told
  rw [untilRefused_cons_of_ok h, List.map_cons, after, h]

/-- A sink that refuses a call is told nothing else. -/
theorem told_cons_of_error {call : SinkCall} {s s' : τ} {e : BuildError}
    (h : ask call s = (.error e, s')) (calls : List SinkCall) : told (call :: calls) s = s' := by
  unfold told
  rw [untilRefused_cons_of_error h, List.map_cons, after, h]
  rfl

/-- A sink accepts a call or refuses it. -/
theorem ask_cases (call : SinkCall) (s : τ) :
    (∃ s', ask call s = (.ok (), s')) ∨ ∃ e s', ask call s = (.error e, s') := by
  cases h : ask call s with
  | mk answer s' =>
    cases answer with
    | ok done => exact .inl ⟨s', rfl⟩
    | error e => exact .inr ⟨e, s', rfl⟩

/-- Nothing is asked that is not to be asked, and nothing out of turn. -/
theorem untilRefused_prefix (calls : List SinkCall) (s : τ) :
    (untilRefused calls s).map Prod.fst <+: calls := by
  induction calls generalizing s with
  | nil => exact List.prefix_rfl
  | cons call calls ih =>
    obtain ⟨s', h⟩ | ⟨e, s', h⟩ := ask_cases call s
    · rw [untilRefused_cons_of_ok h, List.map_cons, List.prefix_cons_inj]
      exact ih s'
    · rw [untilRefused_cons_of_error h]
      exact ⟨calls, rfl⟩

/-- Nothing is asked after a refusal. -/
theorem eq_nil_of_refused {calls : List SinkCall} {s : τ}
    {before rest : List (SinkCall × Except BuildError Unit)} {call : SinkCall} {e : BuildError}
    (h : untilRefused calls s = before ++ (call, .error e) :: rest) : rest = [] := by
  induction calls generalizing s before with
  | nil => simp [untilRefused] at h
  | cons first calls ih =>
    obtain ⟨s', hask⟩ | ⟨e', s', hask⟩ := ask_cases first s
    · rw [untilRefused_cons_of_ok hask] at h
      cases before with
      | nil => cases h
      | cons said before => exact ih (List.cons.inj h).2
    · rw [untilRefused_cons_of_error hask] at h
      cases before with
      | nil => exact (List.cons.inj h).2.symm
      | cons said before =>
        have hnil := (List.cons.inj h).2
        simp at hnil

/-- Without a refusal everything is asked. -/
theorem refusal?_untilRefused (calls : List SinkCall) (s : τ) :
    refusal? (untilRefused calls s) = none ↔ AgreesTo calls s := by
  induction calls generalizing s with
  | nil => exact ⟨fun _ => trivial, fun _ => rfl⟩
  | cons call calls ih =>
    obtain ⟨s', h⟩ | ⟨e, s', h⟩ := ask_cases call s
    · rw [untilRefused_cons_of_ok h, refusal?, ih, AgreesTo, h]
      exact ⟨fun hrest => ⟨rfl, hrest⟩, fun hall => hall.2⟩
    · rw [untilRefused_cons_of_error h, refusal?, AgreesTo, h]
      exact ⟨fun hnone => (nomatch hnone), fun hall => (nomatch hall.1)⟩

/-- A sink that accepts all calls is asked all of them. -/
theorem untilRefused_of_agreesTo {calls : List SinkCall} {s : τ} (h : AgreesTo calls s) :
    (untilRefused calls s).map Prod.fst = calls := by
  induction calls generalizing s with
  | nil => rfl
  | cons call calls ih =>
    obtain ⟨hcall, hrest⟩ := h
    have hask : ask call s = (.ok (), (ask call s).2) := Prod.ext hcall rfl
    rw [untilRefused_cons_of_ok hask, List.map_cons, ih hrest]

/-- Calls in a row are all accepted if the first ones are, and the others after them. -/
theorem agreesTo_append {calls more : List SinkCall} {s : τ} :
    AgreesTo (calls ++ more) s ↔ AgreesTo calls s ∧ AgreesTo more (after calls s) := by
  induction calls generalizing s with
  | nil => simp [AgreesTo, after]
  | cons call calls ih =>
    rw [List.cons_append, AgreesTo, AgreesTo, after, ih, and_assoc]

/-- What is asked after some calls is asked only if all of them are accepted. -/
theorem agreesTo_of_mem {calls : List SinkCall} {last : SinkCall} {s : τ} (hlast : last ∉ calls)
    (h : last ∈ (untilRefused (calls ++ [last]) s).map Prod.fst) : AgreesTo calls s := by
  induction calls generalizing s with
  | nil => exact trivial
  | cons call calls ih =>
    obtain ⟨hne, hrest⟩ := not_or.1 (mt List.mem_cons.2 hlast)
    rw [List.cons_append] at h
    obtain ⟨s', hask⟩ | ⟨e, s', hask⟩ := ask_cases call s
    · rw [untilRefused_cons_of_ok hask, List.map_cons, List.mem_cons] at h
      rw [AgreesTo, hask]
      exact ⟨rfl, ih hrest (h.resolve_left hne)⟩
    · rw [untilRefused_cons_of_error hask] at h
      exact absurd (List.mem_singleton.1 h) hne

end BlobSink

/-! ## Sinks that keep a record -/

/-- A sink with a record of what it was asked and of its answers. -/
structure Recorded (τ : Type) where
  sink : τ
  asked : List (SinkCall × Except BuildError Unit) := []

namespace Recorded

variable [BlobSink τ]

/-- Puts a call and the answer to it on record. -/
def note (call : SinkCall) (r : Recorded τ) : Except BuildError Unit × Recorded τ :=
  ((BlobSink.ask call r.sink).1,
    { sink := (BlobSink.ask call r.sink).2
      asked := r.asked ++ [(call, (BlobSink.ask call r.sink).1)] })

/-- A sink on record is a sink. -/
instance : BlobSink (Recorded τ) where
  reserve size r := (note (.reserve size) r).2
  writeChunk chunk r := note (.write chunk) r
  finish r := note .finish r
  received r := BlobSink.received r.sink

/-- A sink on record is asked by asking the sink and writing the answer down. -/
theorem ask_eq (call : SinkCall) (r : Recorded τ) : BlobSink.ask call r = note call r := by
  cases call <;> rfl

end Recorded

namespace BlobSink

variable [BlobSink τ]

/-- Keeping a record changes no answer, and what is said is what is recorded. -/
theorem untilRefused_recorded (calls : List SinkCall) (r : Recorded τ) :
    untilRefused calls r = untilRefused calls r.sink ∧
      told calls r =
        { sink := told calls r.sink, asked := r.asked ++ untilRefused calls r.sink } := by
  induction calls generalizing r with
  | nil =>
    constructor
    · rfl
    · change r = { sink := r.sink, asked := r.asked ++ [] }
      rw [List.append_nil]
  | cons call calls ih =>
    obtain ⟨s', h⟩ | ⟨e, s', h⟩ := ask_cases call r.sink
    · have hask : ask call r =
          (.ok (), { sink := s', asked := r.asked ++ [(call, .ok ())] }) := by
        rw [Recorded.ask_eq, Recorded.note, h]
      obtain ⟨hsaid, htold⟩ := ih { sink := s', asked := r.asked ++ [(call, .ok ())] }
      constructor
      · rw [untilRefused_cons_of_ok hask, untilRefused_cons_of_ok h, hsaid]
      · rw [told_cons_of_ok hask, told_cons_of_ok h, untilRefused_cons_of_ok h, htold,
          List.append_assoc]
        rfl
    · have hask : ask call r =
          (.error e, { sink := s', asked := r.asked ++ [(call, .error e)] }) := by
        rw [Recorded.ask_eq, Recorded.note, h]
      constructor
      · rw [untilRefused_cons_of_error hask, untilRefused_cons_of_error h]
      · rw [told_cons_of_error hask, told_cons_of_error h, untilRefused_cons_of_error h]

end BlobSink

/-! ## Deliveries -/

/-- What a sink is asked up to the last chunk. -/
def SinkCall.opening (announced : UInt64) (chunks : List Bytes) : List SinkCall :=
  .reserve announced :: chunks.map .write

/-- The end is never told before the last chunk. -/
theorem SinkCall.finish_notMem_opening (announced : UInt64) (chunks : List Bytes) :
    SinkCall.finish ∉ opening announced chunks := by
  unfold opening
  simp

namespace Download

variable [BlobSink τ]

/-- The end is told when nothing failed and the announced size is met. -/
def closing (announced read : Nat) (fault : Option BuildError) : List SinkCall :=
  if fault = none ∧ read = announced then [.finish] else []

/-- What comes of a read: the sink's refusal, or the failure of the delivery, or the size. -/
def verdict (path : String) (announced read : Nat) (fault : Option BuildError)
    (said : List (SinkCall × Except BuildError Unit)) : Except BuildError Nat :=
  match BlobSink.refusal? said, fault with
  | some e, _ => .error e
  | none, some e => .error e
  | none, none => if read = announced then .ok read else .error (shortRead path read announced)

/-- A call that was accepted does not change the verdict. -/
theorem verdict_cons_of_ok (path : String) (announced read : Nat) (fault : Option BuildError)
    (call : SinkCall) (said : List (SinkCall × Except BuildError Unit)) :
    verdict path announced read fault ((call, .ok ()) :: said) =
      verdict path announced read fault said := rfl

/-- The refusal of a sink is the verdict. -/
theorem verdict_of_error (path : String) (announced read : Nat) (fault : Option BuildError)
    (call : SinkCall) (e : BuildError) :
    verdict path announced read fault [(call, .error e)] = .error e := by
  cases fault <;> rfl

/-- A read that ended well is counted. -/
def settled (s : Site σ) : Except BuildError Nat → Site σ
  | .ok n => s.record (.blobRead n)
  | .error _ => s

/-- A read that has ended stays as it is. -/
theorem steps_ended (client : BlobClient σ) (path : String) (n : Nat)
    (result : Except BuildError Nat) (sink : τ) (s : Site σ) :
    (Download.ended result sink).steps client path n s = (.ended result sink, s) := by
  induction n with
  | zero => rfl
  | succ n ih => exact ih

section Steps

variable (client : BlobClient σ) {path : String} {announced read : Nat} {chunk : Bytes}
  {chunks : List Bytes} {fault : Option BuildError} {sink sink' : τ} {s : Site σ}

/-- A chunk that is accepted is counted. -/
theorem step_of_accepted (h : BlobSink.ask (.write chunk) sink = (.ok (), sink')) :
    (Download.streaming announced (chunk :: chunks) fault read sink).step client path s =
      (.streaming announced chunks fault (read + chunk.length) sink', s) := by
  have hwrite : BlobSink.writeChunk chunk sink = (.ok (), sink') := h
  simp only [step, hwrite]

/-- A chunk that is refused ends the read with this refusal. -/
theorem step_of_refused {e : BuildError} (h : BlobSink.ask (.write chunk) sink = (.error e, sink')) :
    (Download.streaming announced (chunk :: chunks) fault read sink).step client path s =
      (.ended (.error e) sink', s) := by
  have hwrite : BlobSink.writeChunk chunk sink = (.error e, sink') := h
  simp only [step, hwrite]

/-- After the last chunk of a blob of the announced size the sink is told of the end. -/
theorem step_finish :
    let said := BlobSink.untilRefused [.finish] sink
    (Download.streaming announced [] none announced sink).step client path s =
      (.ended (verdict path announced announced none said) (BlobSink.told [.finish] sink),
        settled s (verdict path announced announced none said)) := by
  intro said
  obtain ⟨sink', hask⟩ | ⟨e, sink', hask⟩ := BlobSink.ask_cases .finish sink
  · have hfinish : BlobSink.finish sink = (.ok (), sink') := hask
    have hverdict : verdict path announced announced none said = .ok announced := by
      simp only [said, BlobSink.untilRefused_cons_of_ok hask, verdict_cons_of_ok]
      exact if_pos rfl
    rw [hverdict, BlobSink.told_cons_of_ok hask]
    simp only [step, ne_eq, not_true_eq_false, if_false, hfinish]
    rfl
  · have hfinish : BlobSink.finish sink = (.error e, sink') := hask
    have hverdict : verdict path announced announced none said = .error e := by
      simp only [said, BlobSink.untilRefused_cons_of_error hask, verdict_of_error]
    rw [hverdict, BlobSink.told_cons_of_error hask]
    simp only [step, ne_eq, not_true_eq_false, if_false, hfinish]
    rfl

/-- After the last chunk the read ends. -/
theorem step_drained :
    let calls := closing announced read fault
    let result := verdict path announced read fault (BlobSink.untilRefused calls sink)
    (Download.streaming announced [] fault read sink).step client path s =
      (.ended result (BlobSink.told calls sink), settled s result) := by
  intro calls result
  cases fault with
  | some e => rfl
  | none =>
    by_cases hread : read = announced
    · subst hread
      have hcalls : calls = [.finish] := if_pos ⟨rfl, rfl⟩
      simp only [result, hcalls]
      exact step_finish client
    · have hcalls : calls = [] := if_neg fun h => hread h.2
      have hresult : result = .error (shortRead path read announced) := by
        simp only [result, hcalls]
        exact if_neg hread
      rw [hcalls, hresult]
      simp only [step, ne_eq, hread, not_false_eq_true, if_true]
      rfl

end Steps

/-- An opened blob is read until the sink refuses something. -/
theorem steps_streaming (client : BlobClient σ) (path : String) (announced : Nat)
    (chunks : List Bytes) (fault : Option BuildError) (read : Nat) (sink : τ) (s : Site σ) :
    let total := read + chunks.flatten.length
    let calls := chunks.map .write ++ closing announced total fault
    let result := verdict path announced total fault (BlobSink.untilRefused calls sink)
    (Download.streaming announced chunks fault read sink).steps client path (chunks.length + 1) s =
      (.ended result (BlobSink.told calls sink), settled s result) := by
  induction chunks generalizing read sink with
  | nil => exact step_drained client
  | cons chunk chunks ih =>
    intro total calls result
    change steps client path (chunks.length + 1)
      ((Download.streaming announced (chunk :: chunks) fault read sink).step client path s).1
      ((Download.streaming announced (chunk :: chunks) fault read sink).step client path s).2 = _
    have htotal : total = read + chunk.length + chunks.flatten.length := by
      simp only [total, List.flatten_cons, List.length_append]
      omega
    have hcalls : calls = .write chunk :: (chunks.map .write ++ closing announced total fault) :=
      rfl
    obtain ⟨sink', hask⟩ | ⟨e, sink', hask⟩ := BlobSink.ask_cases (.write chunk) sink
    · have hresult : result = verdict path announced total fault
          (BlobSink.untilRefused (chunks.map .write ++ closing announced total fault) sink') := by
        simp only [result, hcalls, BlobSink.untilRefused_cons_of_ok hask, verdict_cons_of_ok]
      rw [step_of_accepted client hask, hresult, hcalls, BlobSink.told_cons_of_ok hask, htotal]
      exact ih (read + chunk.length) sink'
    · have hresult : result = .error e := by
        simp only [result, hcalls, BlobSink.untilRefused_cons_of_error hask, verdict_of_error]
      rw [step_of_refused client hask, hresult, hcalls, BlobSink.told_cons_of_error hask]
      exact steps_ended client path _ _ sink' s

end Download

/-- What a sink is asked in the course of a delivery, as long as it refuses nothing. -/
def Delivery.script (d : Delivery) : List SinkCall :=
  SinkCall.opening d.announced d.chunks ++
    Download.closing d.announced.toNat d.chunks.flatten.length d.fault

variable [BlobSink τ]

/-- A blob that was opened is read until the sink refuses something. -/
theorem BlobClient.read_eq {client : BlobClient σ} {path : String} {s : Site σ} {d : Delivery}
    {m' : Medium σ} (h : client.openBlob path s.toMedium = (.ok d, m')) (sink : τ) :
    let result := Download.verdict path d.announced.toNat d.chunks.flatten.length d.fault
      (BlobSink.untilRefused d.script sink)
    client.read path sink s =
      (result, BlobSink.told d.script sink,
        Download.settled { s with toMedium := m' } result) := by
  intro result
  have hopen : (Download.opening sink).step client path s =
      (.streaming d.announced.toNat d.chunks d.fault 0 (BlobSink.reserve d.announced sink),
        { s with toMedium := m' }) := by
    simp only [Download.step, h]
  have hask : BlobSink.ask (.reserve d.announced) sink =
      (.ok (), BlobSink.reserve d.announced sink) := rfl
  have hscript : d.script = .reserve d.announced :: (d.chunks.map .write ++
      Download.closing d.announced.toNat (0 + d.chunks.flatten.length) d.fault) := by
    rw [Nat.zero_add]
    rfl
  have hsteps := Download.steps_streaming client path d.announced.toNat d.chunks d.fault 0
    (BlobSink.reserve d.announced sink) { s with toMedium := m' }
  have hresult : result = Download.verdict path d.announced.toNat
      (0 + d.chunks.flatten.length) d.fault
      (BlobSink.untilRefused (d.chunks.map .write ++
        Download.closing d.announced.toNat (0 + d.chunks.flatten.length) d.fault)
        (BlobSink.reserve d.announced sink)) := by
    simp only [result, hscript, BlobSink.untilRefused_cons_of_ok hask,
      Download.verdict_cons_of_ok, Nat.zero_add]
  dsimp only at hsteps
  rw [← hresult] at hsteps
  unfold read
  rw [hopen]
  dsimp only [Download.drain, Download.remaining]
  rw [hsteps, hscript, BlobSink.told_cons_of_ok hask]
  rfl

/-! ## All or nothing -/

/-- A read of a stream into a sink is all or nothing, where `asked` is what the sink was asked, with
its answers, and the counter of octets that were read goes from `before` to `after`. -/
structure Fetched.AllOrNothing (f : Fetched) (sink : τ)
    (asked : List (SinkCall × Except BuildError Unit)) (result : Except BuildError Nat)
    (before after : Nat) : Prop where
  /-- The read succeeds if the stream does not fail, every chunk is accepted, the announced size is
  met and the sink agrees to the end, and only then. -/
  succeeds_iff : ∀ n, result = .ok n ↔
    f.fault = none ∧ BlobSink.AgreesTo (SinkCall.opening f.size f.chunks) sink ∧
      f.chunks.flatten.length = n ∧ n = f.size.toNat ∧
      (BlobSink.finish (BlobSink.after (SinkCall.opening f.size f.chunks) sink)).1 = .ok ()
  complete : ∀ n, result = .ok n →
    asked.map Prod.fst = SinkCall.opening f.size f.chunks ++ [.finish]
  orderly : asked.map Prod.fst <+: SinkCall.opening f.size f.chunks ++ [.finish]
  finish_last : SinkCall.finish ∈ asked.map Prod.fst →
    f.fault = none ∧ BlobSink.AgreesTo (SinkCall.opening f.size f.chunks) sink ∧
      f.chunks.flatten.length = f.size.toNat
  refused_last : ∀ earlier call e later, asked = earlier ++ (call, .error e) :: later → later = []
  counted : ∀ n, result = .ok n → after = before + n
  uncounted : ∀ e, result = .error e → after = before

namespace Download

variable {announced : UInt64} {chunks : List Bytes} {fault : Option BuildError}

/-- The end of a delivery is told if nothing failed and the size is the announced one. -/
theorem closing_of_sound (hfault : fault = none) (hsize : chunks.flatten.length = announced.toNat) :
    closing announced.toNat chunks.flatten.length fault = [.finish] :=
  if_pos ⟨hfault, hsize⟩

/-- The end is told to a sink, or nothing is. -/
theorem closing_cases (announced read : Nat) (fault : Option BuildError) :
    (fault = none ∧ read = announced ∧ closing announced read fault = [.finish]) ∨
      closing announced read fault = [] := by
  unfold closing
  split
  · next h => exact .inl ⟨h.1, h.2, rfl⟩
  · exact .inr rfl

/-- When a read succeeds. -/
theorem verdict_eq_ok_iff (path : String) (sink : τ) (n : Nat) :
    verdict path announced.toNat chunks.flatten.length fault (BlobSink.untilRefused
        (SinkCall.opening announced chunks ++
          closing announced.toNat chunks.flatten.length fault) sink) = .ok n ↔
      fault = none ∧ BlobSink.AgreesTo (SinkCall.opening announced chunks) sink ∧
        chunks.flatten.length = n ∧ n = announced.toNat ∧
        (BlobSink.finish (BlobSink.after (SinkCall.opening announced chunks) sink)).1 = .ok () := by
  unfold verdict
  constructor
  · intro h
    split at h
    · cases h
    · cases h
    · next hnone =>
      by_cases hsize : chunks.flatten.length = announced.toNat
      · rw [if_pos hsize] at h
        have hn := Except.ok.inj h
        rw [BlobSink.refusal?_untilRefused, closing_of_sound rfl hsize,
          BlobSink.agreesTo_append] at hnone
        exact ⟨rfl, hnone.1, hn, hn ▸ hsize, hnone.2.1⟩
      · rw [if_neg hsize] at h
        cases h
  · rintro ⟨rfl, hopening, rfl, hsize, hfinish⟩
    have hall : BlobSink.AgreesTo (SinkCall.opening announced chunks ++
        closing announced.toNat chunks.flatten.length none) sink := by
      rw [closing_of_sound rfl hsize, BlobSink.agreesTo_append]
      exact ⟨hopening, hfinish, trivial⟩
    rw [(BlobSink.refusal?_untilRefused _ _).2 hall]
    exact if_pos hsize

/-- The counter of octets goes up by what a read that ended well has read. -/
theorem bytesRead_settled (s : Site σ) (n : Nat) :
    (Counters.ofLog (settled s (.ok n)).log).bytesRead =
      (Counters.ofLog s.log).bytesRead + n := by
  simp [settled, Site.record, Counters.ofLog, totalOf_append, totalOf, Event.bytesRead]

end Download

/-- A sink that is asked until it refuses something is asked all or nothing. -/
theorem Fetched.allOrNothing (f : Fetched) {fault : Option BuildError}
    (hfault : fault = none ↔ f.fault = none) (path : String) (sink : τ) (s : Site σ) :
    let script := SinkCall.opening f.size f.chunks ++
      Download.closing f.size.toNat f.chunks.flatten.length fault
    let result := Download.verdict path f.size.toNat f.chunks.flatten.length fault
      (BlobSink.untilRefused script sink)
    f.AllOrNothing sink (BlobSink.untilRefused script sink) result
      (Counters.ofLog s.log).bytesRead
      (Counters.ofLog (Download.settled s result).log).bytesRead := by
  intro script result
  have hiff : ∀ n, result = .ok n ↔ _ := Download.verdict_eq_ok_iff path sink
  have hprefix := BlobSink.untilRefused_prefix script sink
  constructor
  · intro n
    rw [hiff, hfault]
  · intro n hok
    obtain ⟨hnone, hopening, hn, hsize, hfinish⟩ := (hiff n).1 hok
    have hscript : script = SinkCall.opening f.size f.chunks ++ [.finish] := by
      simp only [script, Download.closing_of_sound hnone (hn.trans hsize)]
    rw [hscript]
    apply BlobSink.untilRefused_of_agreesTo
    rw [BlobSink.agreesTo_append]
    exact ⟨hopening, hfinish, trivial⟩
  · apply hprefix.trans
    obtain ⟨-, -, hclosing⟩ | hclosing :=
      Download.closing_cases f.size.toNat f.chunks.flatten.length fault
    · simp only [script, hclosing]
      exact List.prefix_rfl
    · simp only [script, hclosing, List.append_nil]
      exact List.prefix_append ..
  · intro hmem
    obtain ⟨hnone, hsize, hclosing⟩ | hclosing :=
      Download.closing_cases f.size.toNat f.chunks.flatten.length fault
    · have hnot := SinkCall.finish_notMem_opening f.size f.chunks
      simp only [script, hclosing] at hmem
      exact ⟨hfault.1 hnone, BlobSink.agreesTo_of_mem hnot hmem, hsize⟩
    · -- the end was not on the script
      have hin := hprefix.subset hmem
      simp only [script, hclosing, List.append_nil] at hin
      exact absurd hin (SinkCall.finish_notMem_opening f.size f.chunks)
  · intro earlier call e later hasked
    exact BlobSink.eq_nil_of_refused hasked
  · intro n hok
    rw [hok]
    exact Download.bytesRead_settled s n
  · intro e herror
    rw [herror]
    rfl

/-- A read of an object is all or nothing, whatever the stream delivers and whatever the sink
accepts.  What is on record is what every sink is asked, since keeping a record changes nothing. -/
theorem Transport.read_is_whole_or_refused (t : Transport σ) {path : String}
    {location : ObjectPath} {s : Site σ} {f : Fetched} {m' : Medium σ}
    (hpath : ObjectPath.parse path = .ok location)
    (hget : t.store.get location s.toMedium = (.ok f, m')) (sink : τ) :
    ∃ result sink' asked s',
      t.client.read path sink s = (result, sink', s') ∧
      t.client.read path ({ sink } : Recorded τ) s = (result, { sink := sink', asked }, s') ∧
      f.AllOrNothing sink asked result (Counters.ofLog s.log).bytesRead
        (Counters.ofLog s'.log).bytesRead := by
  let fault := f.fault.map fun e => BuildError.blobRead path e.message
  let d : Delivery := { announced := f.size, chunks := f.chunks, fault }
  have hopen : t.client.openBlob path s.toMedium = (.ok d, m') := by
    change t.openBlob path s.toMedium = _
    unfold openBlob
    rw [hpath]
    dsimp only
    rw [hget]
  have hbare := BlobClient.read_eq hopen sink
  have hrecorded := BlobClient.read_eq hopen ({ sink } : Recorded τ)
  obtain ⟨hsaid, htold⟩ := BlobSink.untilRefused_recorded d.script ({ sink } : Recorded τ)
  dsimp only at hrecorded
  rw [hsaid, htold, List.nil_append] at hrecorded
  exact ⟨_, _, _, _, hbare, hrecorded,
    f.allOrNothing Option.map_eq_none_iff path sink { s with toMedium := m' }⟩

/-- An object that comes in two chunks is collected whole.  A sink with room for the first one only
refuses the second one, and is not told of the end. -/
theorem Transport.six_octets_are_whole_or_refused :
    let t : Transport MemoryObjects :=
      { store := MemoryObjects.store.chunked 4
        transfer := { multipartThreshold := 8, multipartChunk := 8, ioChunk := 1 } }
    let site : Site MemoryObjects :=
      { store := { objects := [(⟨["a"]⟩, [1, 2, 3, 4, 5, 6])] }, disk := {} }
    let asked : List SinkCall := [.reserve 6, .write [1, 2, 3, 4], .write [5, 6]]
    (∃ sink' site', t.client.read "a" ({} : Collector) site = (.ok 6, sink', site') ∧
      (Counters.ofLog site'.log).bytesRead = 6) ∧
    ∃ e sink' said site',
      t.client.read "a" ({ sink := .withLimit 5 } : Recorded StagingBuffer) site =
        (.error e, { sink := sink', asked := said }, site') ∧
      said.map Prod.fst <+: asked ∧ (Counters.ofLog site'.log).bytesRead = 0 := by
  intro t site asked
  have hpath : ObjectPath.parse "a" = .ok ⟨["a"]⟩ := by decide +kernel
  let f : Fetched := { size := 6, chunks := [[1, 2, 3, 4], [5, 6]] }
  have hget : t.store.get ⟨["a"]⟩ site.toMedium = (.ok f, site.toMedium) := by
    let whole : Bytes := [1, 2, 3, 4, 5, 6]
    let full := Grouping.groups 4 whole
    have hchunks : full ++ [whole.drop (full.length * 4)] = [[1, 2, 3, 4], [5, 6]] := by
      decide +kernel
    exact congrArg
      (fun chunks => (Except.ok ({ size := 6, chunks } : Fetched), site.toMedium)) hchunks
  constructor
  · obtain ⟨result, sink', asked', site', hread, -, hwhole⟩ :=
      t.read_is_whole_or_refused hpath hget ({} : Collector)
    have hok : result = .ok 6 := by
      rw [hwhole.succeeds_iff]
      exact ⟨rfl, ⟨rfl, rfl, rfl, trivial⟩, rfl, rfl, rfl⟩
    subst hok
    exact ⟨sink', site', hread, hwhole.counted 6 rfl⟩
  · obtain ⟨result, sink', said, site', -, hread, hwhole⟩ :=
      t.read_is_whole_or_refused hpath hget (StagingBuffer.withLimit 5)
    -- the second chunk is one octet too many
    have hrefused : ¬ BlobSink.AgreesTo (SinkCall.opening f.size f.chunks)
        (StagingBuffer.withLimit 5) := by
      rintro ⟨-, -, hsecond, -⟩
      cases hsecond
    cases result with
    | ok n => exact absurd ((hwhole.succeeds_iff n).1 rfl).2.1 hrefused
    | error e =>
      refine ⟨e, sink', said, site', hread, ?_, hwhole.uncounted e rfl⟩
      have hprefix := hwhole.orderly
      rw [List.prefix_concat_iff] at hprefix
      obtain hall | hprefix := hprefix
      · have hfinish : SinkCall.finish ∈ said.map Prod.fst := by
          rw [hall]
          exact List.mem_append_right _ List.mem_cons_self
        exact absurd (hwhole.finish_last hfinish).2.1 hrefused
      · exact hprefix

end VectorIndex
