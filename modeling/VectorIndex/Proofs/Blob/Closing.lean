import VectorIndex.Blob.Directory
import VectorIndex.Blob.Faulty
import VectorIndex.Blob.Memory
import VectorIndex.Proofs.Blob.Overlays
import VectorIndex.Proofs.Blob.Uploads

/-!
# Uploads that are left open

An upload in parts that was started should be completed or aborted before its writer is answered,
for until then a store keeps its parts.  `ObjectStore.watching` is a store that writes down every
call of such an upload with its answer; apart from that it is the store itself
(`ObjectStore.overlays_watching`).

A failed part is looked for in three places: before more octets are written, when a source cannot be
read to its end, and at the finish.  The first two abort the upload.  The finish reports a failed
part and neither completes the upload nor aborts it, so that an upload is left open exactly when an
attempt to abort it has failed, or when all octets have been handed over and some part among them
has failed (`Transport.open_after_writeBlob_iff`).
-/

set_option autoImplicit false

namespace VectorIndex

variable {σ α : Type}

/-! ## Calls on record -/

/-- A call that has started an upload in parts, or one that feeds or ends it, with its answer. -/
inductive UploadCall where
  | started (ticket : UploadTicket)
  | part (ticket : UploadTicket) (octets : Bytes) (answer : Except StoreError Unit)
  | completed (ticket : UploadTicket) (answer : Except StoreError Unit)
  | aborted (ticket : UploadTicket) (answer : Except StoreError Unit)
  deriving DecidableEq

/-- The state of a store together with the calls of its uploads in parts, the oldest first. -/
structure Watched (σ : Type) where
  inner : σ
  calls : List UploadCall := []

/-- A call of which something is written down. -/
def watched (entry : Except StoreError α → List UploadCall)
    (call : Medium σ → Except StoreError α × Medium σ) (m : Medium (Watched σ)) :
    Except StoreError α × Medium (Watched σ) :=
  let answer := call (m.without Watched.inner)
  (answer.1,
    { store := { inner := answer.2.store, calls := m.store.calls ++ entry answer.1 }
      disk := answer.2.disk })

/-- The same store, which also writes down the calls of uploads in parts. -/
def ObjectStore.watching (store : ObjectStore σ) : ObjectStore (Watched σ) where
  name := store.name
  get path := watched (fun _ => []) (store.get path)
  put location content := watched (fun _ => []) (store.put location content)
  startUpload location := watched
    (fun | .ok ticket => [.started ticket] | .error _ => []) (store.startUpload location)
  putPart ticket n octets := watched (fun answer => [.part ticket octets answer])
    (store.putPart ticket n octets)
  complete ticket := watched (fun answer => [.completed ticket answer]) (store.complete ticket)
  abort ticket := watched (fun answer => [.aborted ticket answer]) (store.abort ticket)

/-- A store that is watched does what the store does. -/
theorem ObjectStore.overlays_watching (store : ObjectStore σ) :
    store.watching.Overlays store Watched.inner where
  put _ _ _ := rfl
  startUpload _ _ := rfl
  putPart _ _ _ _ := rfl
  complete _ _ := rfl
  abort _ _ := rfl

/-- A site whose store is watched from now on. -/
def Site.watching (s : Site σ) : Site (Watched σ) where
  store := { inner := s.store }
  disk := s.disk
  log := s.log

/-- The same transport, with a store that is watched. -/
def Transport.watching (t : Transport σ) : Transport (Watched σ) :=
  t.withStore t.store.watching

/-- The calls of uploads in parts while an artifact is written. -/
def Transport.uploadCalls (t : Transport σ) (files : FileAccess) (source : ArtifactSource)
    (path : String) (s : Site σ) : List UploadCall :=
  ((t.watching.clientWith files).writeBlob source path s.watching).2.store.calls

/-- An upload goes as it would have gone unwatched. -/
theorem Transport.writeBlob_watching (t : Transport σ) (files : FileAccess)
    (source : ArtifactSource) (path : String) (s : Site σ) :
    ((t.clientWith files).writeBlob source path s).1 =
      ((t.watching.clientWith files).writeBlob source path s.watching).1 :=
  congrArg Prod.fst (writeBlob_over t.store.overlays_watching files source path s.watching)

/-- An upload that was started and neither completed nor aborted. -/
structure LeftOpen (ticket : UploadTicket) (calls : List UploadCall) : Prop where
  started : .started ticket ∈ calls
  not_completed : .completed ticket (.ok ()) ∉ calls
  not_aborted : .aborted ticket (.ok ()) ∉ calls

/-- The octets of the parts that were handed over for an upload. -/
def handedOver (ticket : UploadTicket) (calls : List UploadCall) : Bytes :=
  calls.flatMap fun
    | .part t octets _ => if t = ticket then octets else []
    | _ => []

/-- Some part of an upload has failed. -/
def PartFailed (ticket : UploadTicket) (calls : List UploadCall) : Prop :=
  ∃ octets e, .part ticket octets (.error e) ∈ calls

/-! ## Feeding an upload -/

/-- An upload that was started and not ended, for which these octets were handed over.  If any of
its parts has failed, a failed one is among those that nobody has asked about. -/
structure Upload.Fed (handed : Bytes) (u : Upload) (m : Medium (Watched σ)) : Prop where
  started : ∀ ticket, .started ticket ∈ m.store.calls ↔ ticket = u.ticket
  not_completed : ∀ answer, .completed u.ticket answer ∉ m.store.calls
  not_aborted : ∀ answer, .aborted u.ticket answer ∉ m.store.calls
  handed : handedOver u.ticket m.store.calls = handed
  failed : PartFailed u.ticket m.store.calls ↔ ∃ e, .error e ∈ u.inFlight

/-- An upload into which these octets were written. -/
def Upload.FedWith (ticket : UploadTicket) (written : Bytes) (u : Upload) (m : Medium (Watched σ)) :
    Prop :=
  u.ticket = ticket ∧ ∃ handed, u.Fed handed m ∧ handed ++ u.buffer = written

namespace Upload

variable {store : ObjectStore σ} {handed written : Bytes} {u : Upload} {m : Medium (Watched σ)}
  {ticket : UploadTicket}

/-- An upload has been fed with its parts, whatever is left in its buffer. -/
theorem Fed.with_buffer (h : u.Fed handed m) (rest : Bytes) :
    ({ u with buffer := rest } : Upload).Fed handed m :=
  ⟨h.started, h.not_completed, h.not_aborted, h.handed, h.failed⟩

/-- A part that is handed over is fed to the upload, also when the store refuses it. -/
theorem sendPart_fed (store : ObjectStore σ) (h : u.Fed handed m) (part : Bytes) :
    (u.sendPart store.watching part m).1.Fed (handed ++ part)
        (u.sendPart store.watching part m).2 ∧
      (u.sendPart store.watching part m).1.buffer = u.buffer ∧
      (u.sendPart store.watching part m).1.ticket = u.ticket := by
  refine ⟨⟨?_, ?_, ?_, ?_, ?_⟩, rfl, rfl⟩
  · simpa [sendPart, ObjectStore.watching, watched] using h.started
  · simpa [sendPart, ObjectStore.watching, watched] using h.not_completed
  · simpa [sendPart, ObjectStore.watching, watched] using h.not_aborted
  · have hhanded := h.handed
    unfold handedOver at hhanded ⊢
    simp [sendPart, ObjectStore.watching, watched, hhanded]
  · have hfailed := h.failed
    unfold PartFailed at hfailed ⊢
    simp only [sendPart, ObjectStore.watching, watched, List.mem_append, List.mem_singleton,
      UploadCall.part.injEq, true_and, exists_or, hfailed]
    generalize (store.putPart u.ticket (u.sent + 1) part (m.without Watched.inner)).1 = answer
    simp

/-- Parts that are handed over are fed to the upload, one after the other. -/
theorem sendParts_fed (store : ObjectStore σ) (parts : List Bytes) (h : u.Fed handed m) :
    (u.sendParts store.watching parts m).1.Fed (handed ++ parts.flatten)
        (u.sendParts store.watching parts m).2 ∧
      (u.sendParts store.watching parts m).1.buffer = u.buffer ∧
      (u.sendParts store.watching parts m).1.ticket = u.ticket := by
  induction parts generalizing u m handed with
  | nil =>
    rw [List.flatten_nil, List.append_nil]
    exact ⟨h, rfl, rfl⟩
  | cons part parts ih =>
    obtain ⟨hfed, hbuffer, hticket⟩ := sendPart_fed store h part
    obtain ⟨hall, hbuffer', hticket'⟩ := ih hfed
    rw [List.append_assoc] at hall
    exact ⟨hall, hbuffer'.trans hbuffer, hticket'.trans hticket⟩

/-- What is written goes to the parts or to the buffer. -/
theorem write_fed (h : u.FedWith ticket written m) (bytes : Bytes) :
    (u.write store.watching bytes m).1.FedWith ticket (written ++ bytes)
      (u.write store.watching bytes m).2 := by
  obtain ⟨hticket, handed, hfed, rfl⟩ := h
  obtain ⟨full, rest, hcut, hwrite⟩ := exists_full_parts u bytes
  obtain ⟨hall, hbuffer, hsame⟩ := sendParts_fed store full (hfed.with_buffer rest)
  rw [hwrite]
  refine ⟨hsame.trans hticket, handed ++ full.flatten, hall, ?_⟩
  rw [hbuffer, List.append_assoc, List.append_assoc]
  exact congrArg (handed ++ ·) hcut

/-- What is left in the buffer is handed over at the finish. -/
theorem exists_flushed (store : ObjectStore σ) (h : u.Fed handed m) :
    ∃ u' m', (if u.buffer.isEmpty then (u, m)
        else { u with buffer := [] }.sendPart store.watching u.buffer m) = (u', m') ∧
      u'.ticket = u.ticket ∧ u'.Fed (handed ++ u.buffer) m' := by
  split
  · next hempty =>
    refine ⟨u, m, rfl, rfl, ?_⟩
    rw [List.isEmpty_iff.1 hempty, List.append_nil]
    exact h
  · exact ⟨_, _, rfl, rfl, (sendPart_fed store (h.with_buffer []) u.buffer).1⟩

/-- Whoever asks about parts is told of a failed one, or the failed parts still wait to be asked
about. -/
theorem await_fed (limit : Nat) (h : u.FedWith ticket written m) :
    match u.await limit with
    | (.ok (), u') => u'.FedWith ticket written m
    | (.error _, u') => u'.ticket = ticket := by
  obtain ⟨rfl, handed, hfed, hwritten⟩ := h
  have hsettle := settle_failures limit u.inFlight
  unfold await
  generalize settle limit u.inFlight = settled at hsettle
  obtain ⟨e | _, rest⟩ := settled
  · exact rfl
  · exact ⟨rfl, handed, ⟨hfed.started, hfed.not_completed, hfed.not_aborted, hfed.handed,
      hfed.failed.trans hsettle.symm⟩, hwritten⟩

end Upload

/-! ## Ending an upload -/

/-- What is known of an upload when its writer is answered, where `whole` tells the octets that the
source was read as to its end: the upload is open if an attempt to abort it has failed, or if some
part has failed although everything was handed over, and then no end of it was attempted; a writer
whose upload is open is told of a failure. -/
structure Closing (whole : Bytes → Prop) (ticket : UploadTicket) (calls : List UploadCall)
    (refused : Prop) : Prop where
  started : ∀ t, .started t ∈ calls ↔ t = ticket
  leftOpen_iff : LeftOpen ticket calls ↔ (∃ e, .aborted ticket (.error e) ∈ calls) ∨
    (whole (handedOver ticket calls) ∧ PartFailed ticket calls)
  unattempted : whole (handedOver ticket calls) → PartFailed ticket calls →
    ∀ answer, .completed ticket answer ∉ calls ∧ .aborted ticket answer ∉ calls
  refused_of_leftOpen : LeftOpen ticket calls → refused

namespace Closing

variable {whole whole' : Bytes → Prop} {ticket : UploadTicket} {calls : List UploadCall}
  {refused refused' : Prop}

/-- A closing says the same for other words for the whole and the refusal. -/
theorem of_imp (h : Closing whole ticket calls refused)
    (hwhole : ∀ octets, whole octets ↔ whole' octets) (hrefused : refused → refused') :
    Closing whole' ticket calls refused' := by
  refine ⟨h.started, ?_, ?_, fun hopen => hrefused (h.refused_of_leftOpen hopen)⟩
  · rw [← hwhole]
    exact h.leftOpen_iff
  · rw [← hwhole]
    exact h.unattempted

/-- An upload that an attempt was made to abort. -/
theorem of_aborted (hstarted : ∀ t, .started t ∈ calls ↔ t = ticket)
    (hcompleted : .completed ticket (.ok ()) ∉ calls)
    (haborted : ∀ answer, .aborted ticket answer ∉ calls)
    (hslip : whole (handedOver ticket calls) → ¬ PartFailed ticket calls) (hrefused : refused)
    (answer : Except StoreError Unit) :
    Closing whole ticket (calls ++ [.aborted ticket answer]) refused := by
  have hhanded :
      handedOver ticket (calls ++ [.aborted ticket answer]) = handedOver ticket calls := by
    simp [handedOver]
  have hfailed :
      PartFailed ticket (calls ++ [.aborted ticket answer]) ↔ PartFailed ticket calls := by
    simp [PartFailed]
  refine ⟨by simpa using hstarted, ?_, ?_, fun _ => hrefused⟩
  · rw [hhanded, hfailed]
    constructor
    · intro hopen
      refine .inl ?_
      cases answer with
      | error e => exact ⟨e, List.mem_append_right _ List.mem_cons_self⟩
      | ok _ => exact absurd (List.mem_append_right _ List.mem_cons_self) hopen.not_aborted
    · rintro (⟨e, he⟩ | ⟨hwhole, hpart⟩)
      · obtain hmem | hlast := List.mem_append.1 he
        · exact absurd hmem (haborted _)
        · obtain ⟨-, rfl⟩ := UploadCall.aborted.inj (List.mem_singleton.1 hlast)
          exact ⟨by simp [hstarted], by simp [hcompleted], by simp [haborted]⟩
      · exact absurd hpart (hslip hwhole)
  · rw [hhanded, hfailed]
    exact fun hwhole hpart => absurd hpart (hslip hwhole)

/-- An upload that was completed. -/
theorem of_completed (hstarted : ∀ t, .started t ∈ calls ↔ t = ticket)
    (haborted : ∀ answer, .aborted ticket answer ∉ calls) (hpart : ¬ PartFailed ticket calls) :
    Closing whole ticket (calls ++ [.completed ticket (.ok ())]) refused := by
  have hfailed : ¬ PartFailed ticket (calls ++ [.completed ticket (.ok ())]) := by
    simpa [PartFailed] using hpart
  have hclosed : ¬ LeftOpen ticket (calls ++ [.completed ticket (.ok ())]) := fun hopen =>
    hopen.not_completed (List.mem_append_right _ List.mem_cons_self)
  refine ⟨by simpa using hstarted, ?_, fun _ h => absurd h hfailed, fun h => absurd h hclosed⟩
  refine iff_of_false hclosed ?_
  rintro (⟨e, he⟩ | ⟨-, h⟩)
  · simp [haborted] at he
  · exact hfailed h

/-- An upload that an attempt was made to abort, since it could not be completed. -/
theorem of_incomplete {u : Upload} {m : Medium (Watched σ)} {handed : Bytes} (h : u.Fed handed m)
    (hpart : ¬ PartFailed u.ticket m.store.calls) (hrefused : refused) (e : StoreError)
    (answer : Except StoreError Unit) :
    Closing whole u.ticket
      (m.store.calls ++ [.completed u.ticket (.error e)] ++ [.aborted u.ticket answer])
      refused := by
  refine .of_aborted ?_ ?_ ?_ (fun _ hfailed => hpart ?_) hrefused answer
  · simpa using h.started
  · simpa using h.not_completed _
  · simpa using h.not_aborted
  · simpa [PartFailed] using hfailed

/-- An upload of which no end was attempted, although everything was handed over. -/
theorem of_abandoned {u : Upload} {m : Medium (Watched σ)} {handed : Bytes}
    (h : u.Fed handed m) (hwhole : whole handed) (hpart : PartFailed u.ticket m.store.calls)
    (hrefused : refused) : Closing whole u.ticket m.store.calls refused := by
  rw [← h.handed] at hwhole
  refine ⟨h.started, ?_, fun _ _ answer => ⟨h.not_completed answer, h.not_aborted answer⟩,
    fun _ => hrefused⟩
  exact iff_of_true ⟨(h.started _).2 rfl, h.not_completed _, h.not_aborted _⟩ (.inr ⟨hwhole, hpart⟩)

end Closing

/-- Whatever upload was started is accounted for when the writer is answered. -/
def Accounted {ε : Type} (whole : Bytes → Prop) (answer : Except ε α × Medium (Watched σ)) : Prop :=
  answer.2.store.calls = [] ∨
    ∃ ticket, Closing whole ticket answer.2.store.calls (∃ e, answer.1 = .error e)

/-- An account is kept when the answer is another one, as long as it reports the same calls and no
refusal is lost. -/
theorem Accounted.of_imp {ε ε' β : Type} {whole whole' : Bytes → Prop}
    {answer : Except ε α × Medium (Watched σ)} {answer' : Except ε' β × Medium (Watched σ)}
    (h : Accounted whole answer) (hwhole : ∀ octets, whole octets ↔ whole' octets)
    (hcalls : answer'.2.store.calls = answer.2.store.calls)
    (hrefused : (∃ e, answer.1 = .error e) → ∃ e, answer'.1 = .error e) :
    Accounted whole' answer' := by
  unfold Accounted at h ⊢
  rw [hcalls]
  exact h.imp id fun ⟨ticket, hclosing⟩ => ⟨ticket, hclosing.of_imp hwhole hrefused⟩

/-- The finish hands over what is left.  It completes the upload when no part has failed, and tries
to abort it when that fails; when some part has failed it does neither. -/
theorem Upload.finish_closing (store : ObjectStore σ) {u : Upload} {m : Medium (Watched σ)}
    {ticket : UploadTicket} {content : Bytes} (h : u.FedWith ticket content m) :
    Closing (· = content) ticket (u.finish store.watching m).2.store.calls
      (∃ e, (u.finish store.watching m).1 = .error e) := by
  obtain ⟨rfl, handed, hfed, rfl⟩ := h
  obtain ⟨u', m', hsend, hticket, hfed'⟩ := exists_flushed store hfed
  have hsettle := settle_failures 0 u'.inFlight
  have hzero {rest : List (Except StoreError Unit)}
      (h : settle 0 u'.inFlight = (.ok (), rest)) : rest = [] := settle_zero h
  unfold finish await
  rw [hsend, ← hticket]
  dsimp only
  generalize settle 0 u'.inFlight = settled at hsettle hzero
  obtain ⟨e | _, rest⟩ := settled
  · -- a failed part ends the finish
    exact .of_abandoned hfed' rfl (hfed'.failed.2 ⟨e, hsettle⟩) ⟨e, rfl⟩
  · obtain rfl := hzero rfl
    have hpart : ¬ PartFailed u'.ticket m'.store.calls := by
      intro hfailed
      obtain ⟨e, he⟩ := hsettle.2 (hfed'.failed.1 hfailed)
      cases he
    dsimp only
    have hcalls : (store.watching.complete u'.ticket m').2.store.calls = m'.store.calls ++
        [.completed u'.ticket (store.watching.complete u'.ticket m').1] := rfl
    generalize store.watching.complete u'.ticket m' = completed at hcalls
    obtain ⟨answer, m₁⟩ := completed
    dsimp only at hcalls
    cases answer with
    | ok _ =>
      dsimp only
      rw [hcalls]
      exact .of_completed hfed'.started hfed'.not_aborted hpart
    | error e =>
      dsimp only
      have hcalls' : (store.watching.abort u'.ticket m₁).2.store.calls = m₁.store.calls ++
          [.aborted u'.ticket (store.watching.abort u'.ticket m₁).1] := rfl
      generalize store.watching.abort u'.ticket m₁ = aborted at hcalls'
      obtain ⟨ended, m₂⟩ := aborted
      dsimp only at hcalls'
      rw [hcalls] at hcalls'
      cases ended with
      | ok _ =>
        dsimp only
        rw [hcalls']
        exact .of_incomplete hfed' hpart ⟨e, rfl⟩ e _
      | error e' =>
        dsimp only
        rw [hcalls']
        exact .of_incomplete hfed' hpart ⟨e', rfl⟩ e _

/-! ## Transports -/

namespace Transport

variable {t : Transport (Watched σ)} {store : ObjectStore σ} {m : Medium (Watched σ)}

/-- The pieces are all written, or a failed part is found while octets are left to be handed over,
and an attempt is made to abort the upload. -/
theorem sendPieces_fed (ht : t.store = store.watching) (pieces : List Bytes)
    (hne : ∀ piece ∈ pieces, piece ≠ []) {ticket : UploadTicket} {written : Bytes} {u : Upload}
    (h : u.FedWith ticket written m) :
    (∃ (u' : Upload) (m' : Medium (Watched σ)), t.sendPieces pieces u m = (.ok u', m') ∧
      u'.FedWith ticket (written ++ pieces.flatten) m') ∨
    ∃ (e : StoreError) (u' : Upload) (m' : Medium (Watched σ)) (handed : Bytes),
      t.sendPieces pieces u m = (.error e, (store.watching.abort ticket m').2) ∧
      u'.ticket = ticket ∧ u'.Fed handed m' ∧
      handed.length < (written ++ pieces.flatten).length := by
  induction pieces generalizing u m written with
  | nil =>
    refine .inl ⟨u, m, rfl, ?_⟩
    rw [List.flatten_nil, List.append_nil]
    exact h
  | cons piece pieces ih =>
    have hpiece : 0 < piece.length := List.length_pos_iff.2 (hne piece List.mem_cons_self)
    have hrest : ∀ p ∈ pieces, p ≠ [] := fun p hp => hne p (List.mem_cons_of_mem _ hp)
    have hawait := u.await_fed t.transfer.maxConcurrency.toNat h
    rw [List.flatten_cons, ← List.append_assoc]
    unfold sendPieces
    generalize u.await t.transfer.maxConcurrency.toNat = awaited at hawait
    obtain ⟨e | _, u'⟩ := awaited
    · obtain ⟨hticket, handed, hfed, rfl⟩ := h
      obtain rfl := hawait
      rw [ht]
      refine .inr ⟨e, u, m, handed, rfl, hticket, hfed, ?_⟩
      -- at least this piece is left
      simp only [List.length_append]
      omega
    · rw [ht]
      exact ih hrest (Upload.write_fed hawait piece)

/-- An upload in parts is accounted for.  It has been read to its end when the pieces are all there
is. -/
theorem sendParts_accounted (ht : t.store = store.watching) (location : ObjectPath)
    {pieces : List Bytes} (hne : ∀ piece ∈ pieces, piece ≠ []) (whole : Except BuildError Unit)
    (hcalls : m.store.calls = []) :
    Accounted (fun octets => whole = .ok () ∧ octets = pieces.flatten)
      (t.sendParts location pieces whole m) := by
  have hstarted : (store.watching.startUpload location m).2.store.calls =
      match (store.watching.startUpload location m).1 with
      | .ok ticket => [.started ticket]
      | .error _ => [] := by
    change m.store.calls ++ _ = _
    rw [hcalls]
    rfl
  unfold sendParts
  rw [ht]
  generalize store.watching.startUpload location m = startup at hstarted
  obtain ⟨e | ticket, m₁⟩ := startup
  · exact .inl hstarted
  dsimp only at hstarted ⊢
  have hfed :
      ({ ticket, chunk := t.transfer.multipartChunk.toNat } : Upload).FedWith ticket [] m₁ := by
    refine ⟨rfl, [], ⟨?_, ?_, ?_, ?_, ?_⟩, rfl⟩ <;> simp [hstarted, handedOver, PartFailed]
  refine .inr ⟨ticket, ?_⟩
  obtain ⟨u, m₂, hsent, hfed⟩ | ⟨e, u, m₂, handed, hsent, rfl, hfed, hless⟩ :=
    sendPieces_fed ht pieces hne hfed
  · rw [hsent]
    cases whole with
    | error e =>
      obtain ⟨rfl, handed, hfed, -⟩ := hfed
      exact .of_aborted hfed.started (hfed.not_completed _) hfed.not_aborted
        (fun hwhole => nomatch hwhole.1) ⟨e, rfl⟩ _
    | ok _ =>
      have hclosing := Upload.finish_closing store hfed
      dsimp only
      generalize u.finish store.watching m₂ = finished at hclosing ⊢
      obtain ⟨_ | _, m₃⟩ := finished
      · exact hclosing.of_imp (fun octets => by simp) fun _ => ⟨_, rfl⟩
      · exact hclosing.of_imp (fun octets => by simp) fun ⟨_, h⟩ => nomatch h
  · rw [hsent]
    refine .of_aborted hfed.started (hfed.not_completed _) hfed.not_aborted ?_ ⟨.storage e, rfl⟩ _
    rintro ⟨-, hall⟩
    rw [hfed.handed] at hall
    rw [hall] at hless
    exact absurd hless (Nat.lt_irrefl _)

/-- An object that is put at once starts no upload in parts. -/
theorem sendWhole_calls (ht : t.store = store.watching) (location : ObjectPath) (content : Bytes) :
    (t.sendWhole location content m).2.store.calls = m.store.calls := by
  have hput : (store.watching.put location content m).2.store.calls = m.store.calls :=
    List.append_nil _
  unfold sendWhole
  rw [ht]
  generalize store.watching.put location content m = answer at hput
  obtain ⟨_ | _, m'⟩ := answer <;> exact hput

/-- Whatever upload a buffer starts is accounted for. -/
theorem sendBuffer_accounted (ht : t.store = store.watching) (hio : 0 < t.transfer.ioChunk.toNat)
    (location : ObjectPath) (content : Bytes) (hcalls : m.store.calls = []) :
    Accounted (content = ·) (t.sendBuffer location content m) := by
  unfold sendBuffer
  split
  · exact .inl ((sendWhole_calls ht location content).trans hcalls)
  · refine (sendParts_accounted ht location Grouping.ne_nil_of_mem_pieces (.ok ()) hcalls).of_imp
      (fun octets => ?_) rfl id
    rw [Grouping.flatten_pieces hio]
    simp [eq_comm]

/-- A file has been read to its end when it was opened with the size of its content and nothing
failed afterwards. -/
theorem sendReading_accounted (ht : t.store = store.watching) (hio : 0 < t.transfer.ioChunk.toNat)
    (location : ObjectPath) (reading : FileReading) (hcalls : m.store.calls = []) :
    Accounted (fun octets => reading = { size := octets.length, content := octets })
      (t.sendReading location reading m) := by
  obtain ⟨size, content, fault⟩ := reading
  unfold sendReading
  split
  · refine (sendParts_accounted ht location Grouping.ne_nil_of_mem_pieces _ hcalls).of_imp
      (fun octets => ?_) rfl id
    rw [Grouping.flatten_pieces hio]
    cases fault with
    | some e => simp
    | none =>
      dsimp only
      split
      · next hsize =>
        rw [FileReading.mk.injEq]
        constructor
        · rintro ⟨-, rfl⟩
          exact ⟨hsize.symm, rfl, rfl⟩
        · rintro ⟨-, rfl, -⟩
          exact ⟨rfl, rfl⟩
      · next hsize =>
        rw [FileReading.mk.injEq]
        constructor
        · rintro ⟨⟨⟩, -⟩
        · rintro ⟨rfl, rfl, -⟩
          exact absurd rfl hsize
  · cases fault with
    | some e => exact .inl hcalls
    | none => exact .inl ((sendWhole_calls ht location content).trans hcalls)

end Transport

/-- What is uploaded can be read to its end, as these octets.  The content of a file has to have the
size that the file had when it was opened. -/
def ArtifactSource.ReadsAs (files : FileAccess) (d : Disk) (octets : Bytes) : ArtifactSource → Prop
  | .buffer content => content = octets
  | .file path => files.openFile d path = .ok { size := octets.length, content := octets }

namespace Transport

variable {t : Transport (Watched σ)} {store : ObjectStore σ}

/-- Whatever upload an artifact starts is accounted for. -/
theorem uploadWith_accounted (ht : t.store = store.watching) (hio : 0 < t.transfer.ioChunk.toNat)
    (files : FileAccess) (source : ArtifactSource) (path : String) {m : Medium (Watched σ)}
    (hcalls : m.store.calls = []) :
    Accounted (source.ReadsAs files m.disk) (t.uploadWith files source path m) := by
  unfold uploadWith
  cases ObjectPath.parse path with
  | error e => exact .inl hcalls
  | ok location =>
    cases source with
    | buffer content =>
      have haccounted := sendBuffer_accounted ht hio location content hcalls
      dsimp only
      generalize t.sendBuffer location content m = answer at haccounted
      obtain ⟨e | _, m'⟩ := answer
      · exact haccounted.of_imp (fun _ => Iff.rfl) rfl fun _ => ⟨e, rfl⟩
      · exact haccounted.of_imp (fun _ => Iff.rfl) rfl fun ⟨_, h⟩ => nomatch h
    | file file =>
      dsimp only
      unfold sendFile
      cases hopen : files.openFile m.disk file with
      | error e => exact .inl hcalls
      | ok reading =>
        have haccounted := sendReading_accounted ht hio location reading hcalls
        have hreads : ∀ octets, reading = { size := octets.length, content := octets } ↔
            (ArtifactSource.file file).ReadsAs files m.disk octets := by
          intro octets
          change _ ↔ files.openFile m.disk file = _
          rw [hopen, Except.ok.injEq]
        dsimp only
        generalize t.sendReading location reading m = answer at haccounted
        obtain ⟨e | _, m'⟩ := answer
        · exact haccounted.of_imp hreads rfl fun _ => ⟨e, rfl⟩
        · exact haccounted.of_imp hreads rfl fun ⟨_, h⟩ => nomatch h

/-- Whatever upload the writer of the client starts is accounted for. -/
theorem writeBlob_accounted (ht : t.store = store.watching) (hio : 0 < t.transfer.ioChunk.toNat)
    (files : FileAccess) (source : ArtifactSource) (path : String) {s : Site (Watched σ)}
    (hcalls : s.store.calls = []) :
    Accounted (source.ReadsAs files s.disk)
      (((t.clientWith files).writeBlob source path s).1,
        ((t.clientWith files).writeBlob source path s).2.toMedium) := by
  have haccounted := uploadWith_accounted ht hio files source path hcalls
  unfold BlobClient.writeBlob BlobClient.write clientWith
  dsimp only
  generalize t.uploadWith files source path s.toMedium = answer at haccounted
  obtain ⟨e | _, m'⟩ := answer
  · exact haccounted.of_imp (fun _ => Iff.rfl) rfl fun _ => ⟨e, rfl⟩
  · exact haccounted.of_imp (fun _ => Iff.rfl) rfl fun ⟨_, h⟩ => nomatch h

end Transport

/-- When an upload in parts is left open.  Either an attempt to abort it was made and has failed, or
the source was read to its end, all of it was handed over and some part of it has failed: then no
attempt is made to complete the upload or to abort it.  In both cases the writer is told of a
failure, and in no other case is an upload left open. -/
theorem Transport.open_after_writeBlob_iff {t : Transport σ} (hio : 0 < t.transfer.ioChunk.toNat)
    {files : FileAccess} {source : ArtifactSource} {path : String} {s : Site σ}
    {ticket : UploadTicket} (hstarted : .started ticket ∈ t.uploadCalls files source path s) :
    let calls := t.uploadCalls files source path s
    let slipped := source.ReadsAs files s.disk (handedOver ticket calls) ∧ PartFailed ticket calls
    (LeftOpen ticket calls ↔ (∃ e, .aborted ticket (.error e) ∈ calls) ∨ slipped) ∧
      (slipped → ∀ answer, .completed ticket answer ∉ calls ∧ .aborted ticket answer ∉ calls) ∧
      (LeftOpen ticket calls →
        ∃ e, ((t.clientWith files).writeBlob source path s).1 = .error e) := by
  intro calls slipped
  have haccounted : Accounted (source.ReadsAs files s.disk)
      (((t.watching.clientWith files).writeBlob source path s.watching).1,
        ((t.watching.clientWith files).writeBlob source path s.watching).2.toMedium) :=
    writeBlob_accounted rfl hio files source path rfl
  obtain hnone | ⟨ticket', hclosing⟩ := haccounted
  · have hcalls : calls = [] := hnone
    rw [show t.uploadCalls files source path s = [] from hcalls] at hstarted
    cases hstarted
  · obtain rfl : ticket = ticket' := (hclosing.started ticket).1 hstarted
    rw [t.writeBlob_watching]
    exact ⟨hclosing.leftOpen_iff, fun h => hclosing.unattempted h.1 h.2,
      hclosing.refused_of_leftOpen⟩

/-- Two octets and then one are handed over, and the last part fails: the upload stays on record as
one that is pending. -/
theorem last_part_leaves_upload_open :
    let t : Transport MemoryObjects :=
      { store := MemoryObjects.store.faulty { part := some 2 }
        transfer := { multipartThreshold := 0, multipartChunk := 2, ioChunk := 1 } }
    let site : Site MemoryObjects := { store := {}, disk := {} }
    let calls := t.uploadCalls .plain (.buffer [1, 2, 3]) "a" site
    LeftOpen ⟨0, ⟨["a"]⟩⟩ calls ∧
      (∀ answer, .completed ⟨0, ⟨["a"]⟩⟩ answer ∉ calls ∧ .aborted ⟨0, ⟨["a"]⟩⟩ answer ∉ calls) ∧
      (t.client.writeBlob (.buffer [1, 2, 3]) "a" site).2.store.uploads =
        [{ path := ⟨["a"]⟩, parts := [[1, 2]], phase := .pending }] := by
  intro t site calls
  have hcalls : calls = [.started ⟨0, ⟨["a"]⟩⟩, .part ⟨0, ⟨["a"]⟩⟩ [1, 2] (.ok ()),
      .part ⟨0, ⟨["a"]⟩⟩ [3] (.error ObjectStore.injected)] := by decide +kernel
  have hstarted : .started ⟨0, ⟨["a"]⟩⟩ ∈ calls := by rw [hcalls]; exact List.mem_cons_self
  obtain ⟨hiff, hunattempted, -⟩ := Transport.open_after_writeBlob_iff (by decide) hstarted
  have hslipped : (ArtifactSource.buffer [1, 2, 3]).ReadsAs .plain site.disk
      (handedOver ⟨0, ⟨["a"]⟩⟩ calls) ∧ PartFailed ⟨0, ⟨["a"]⟩⟩ calls := by
    rw [hcalls]
    exact ⟨rfl, [3], ObjectStore.injected, by simp⟩
  exact ⟨hiff.2 (.inr hslipped), hunattempted hslipped, by decide +kernel⟩

/-- A directory is in the place of the object, so that the upload cannot be completed.  Neither can
it be aborted any more, and its staged file stays. -/
theorem directory_in_place_leaves_upload_open :
    let t : Transport DirectoryUploads :=
      { store := DirectoryStore.store ["c"] id fun uploads _ => uploads
        transfer := { multipartThreshold := 4, multipartChunk := 5, ioChunk := 3 } }
    let site : Site DirectoryUploads :=
      { store := {}, disk := { nodes := [(["c"], .directory), (["c", "a"], .directory)] } }
    let written := t.client.writeBlob (.buffer [0, 1, 2, 3, 4, 5, 6]) "a" site
    LeftOpen ⟨0, ⟨["a"]⟩⟩ (t.uploadCalls .plain (.buffer [0, 1, 2, 3, 4, 5, 6]) "a" site) ∧
      written.1 = .error (.storage DirectoryStore.closed) ∧
      written.2.disk.node? ["c", "a#1"] = some (.file [0, 1, 2, 3, 4, 5, 6]) := by
  intro t site written
  have hcalls : t.uploadCalls .plain (.buffer [0, 1, 2, 3, 4, 5, 6]) "a" site =
      [ .started ⟨0, ⟨["a"]⟩⟩, .part ⟨0, ⟨["a"]⟩⟩ [0, 1, 2, 3, 4] (.ok ()),
        .part ⟨0, ⟨["a"]⟩⟩ [5, 6] (.ok ()),
        .completed ⟨0, ⟨["a"]⟩⟩ (.error (DirectoryStore.failure
          ("Unable to rename file: " ++ OsError.isDirectory.message))),
        .aborted ⟨0, ⟨["a"]⟩⟩ (.error DirectoryStore.closed) ] := by decide +kernel
  rw [hcalls]
  refine ⟨⟨?_, ?_, ?_⟩, by decide +kernel, by decide +kernel⟩ <;> simp

end VectorIndex
