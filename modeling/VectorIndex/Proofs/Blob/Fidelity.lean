import VectorIndex.Proofs.Blob.Reports
import VectorIndex.Proofs.Blob.Uploads

/-!
# Uploads that arrive whole or not at all

Whatever the thresholds and the sizes of the parts, an upload of which nothing fails leaves exactly
its octets at its target, and one of which anything fails is refused and leaves the target as it was
(`Transport.arrives_whole_or_not_at_all`).

The invariant of an upload in parts is `Upload.Tracked`.  As long as nothing has failed, the parts
that the store has got and the octets that wait for the next part are together what was written.
Once something has failed, a failed part is among those that nobody has asked about yet, and the
upload cannot be completed before all of them were asked about.
-/

set_option autoImplicit false

namespace VectorIndex

variable {σ α ε : Type} {store : ObjectStore σ} {view : StoreView σ} {failed : Medium σ → Prop}
  {target : ObjectPath} {before : Option Bytes}

/-- How an upload may end: nothing has failed and the octets are at the target, or something has
failed and the target is as it was. -/
def EndsWhole (view : StoreView σ) (failed : Medium σ → Prop) (target : ObjectPath)
    (before : Option Bytes) (content : Bytes) : Except ε α × Medium σ → Prop
  | (.ok _, m) => ¬ failed m ∧ view.ready m ∧ view.objects m target = some content
  | (.error _, m) => failed m ∧ view.objects m target = before

/-- An upload that is refused leaves the target as it was. -/
def IsRefused (view : StoreView σ) (target : ObjectPath) (before : Option Bytes) :
    Except ε α × Medium σ → Prop
  | (.ok _, _) => False
  | (.error _, m) => view.objects m target = before

/-- A call that succeeds leaves a store well. -/
theorem well_of_ok {m m' : Medium σ} {a : α}
    (h : failed m' ↔ failed m ∨ ∃ e, (.ok a : Except StoreError α) = .error e)
    (hwell : ¬ failed m) : ¬ failed m' := by
  rw [h]
  rintro (hfailed | ⟨e, he⟩)
  · exact hwell hfailed
  · cases he

/-! ## Parts -/

/-- An upload under way, of which anything may have failed: what the store has got, unless it
has. -/
structure Upload.Tracked (view : StoreView σ) (failed : Medium σ → Prop) (target : ObjectPath)
    (before : Option Bytes) (got : Bytes) (u : Upload) (m : Medium σ) : Prop where
  ready : view.ready m
  object : view.objects m target = before
  path : u.ticket.path = target
  failures : failed m ↔ ∃ e, .error e ∈ u.inFlight
  received : ¬ failed m → ∃ parts, view.parts m u.ticket = some parts ∧
    parts.length = u.sent ∧ parts.flatten = got

/-- An upload into which these octets were written. -/
def Upload.Pending (view : StoreView σ) (failed : Medium σ → Prop) (target : ObjectPath)
    (before : Option Bytes) (written : Bytes) (u : Upload) (m : Medium σ) : Prop :=
  ∃ got, u.Tracked view failed target before got m ∧ got ++ u.buffer = written

namespace Upload

variable {m : Medium σ} {u : Upload} {got written : Bytes}

/-- What the store has got does not depend on the octets that wait. -/
theorem Tracked.with_buffer (h : u.Tracked view failed target before got m) (rest : Bytes) :
    ({ u with buffer := rest } : Upload).Tracked view failed target before got m :=
  ⟨h.ready, h.object, h.path, h.failures, h.received⟩

/-- A part that is sent is got by the store, unless something has failed. -/
theorem tracked_sendPart (hatomic : store.Atomic view target) (htells : store.Tells failed)
    (h : u.Tracked view failed target before got m) (part : Bytes) :
    (u.sendPart store part m).1.Tracked view failed target before (got ++ part)
        (u.sendPart store part m).2 ∧
      (u.sendPart store part m).1.buffer = u.buffer := by
  obtain ⟨hready, hobject, hparts⟩ := hatomic.putPart (u.sent + 1) part h.ready h.path
  have hfailed := htells.putPart u.ticket (u.sent + 1) part m
  unfold sendPart
  generalize store.putPart u.ticket (u.sent + 1) part m = answer at hready hobject hparts hfailed
  obtain ⟨r, m'⟩ := answer
  refine ⟨⟨hready, hobject.trans h.object, h.path, ?_, ?_⟩, rfl⟩
  · rw [hfailed, h.failures]
    simp only [List.mem_append, List.mem_singleton, exists_or]
    exact or_congr_right (exists_congr fun e => eq_comm)
  · intro hwell
    obtain ⟨hwell, hr⟩ := not_or.1 (mt hfailed.2 hwell)
    obtain ⟨parts, hgot, hcount, hflatten⟩ := h.received hwell
    have hr : r = .ok () := by
      cases r with
      | ok a => rfl
      | error e => exact absurd ⟨e, rfl⟩ hr
    refine ⟨parts ++ [part], hparts parts hgot (by rw [hcount]) hr, ?_, ?_⟩
    · simp [hcount]
    · simp [hflatten]

/-- Parts that are sent are got by the store in their order, unless something has failed. -/
theorem tracked_sendParts (hatomic : store.Atomic view target) (htells : store.Tells failed)
    (parts : List Bytes) (h : u.Tracked view failed target before got m) :
    (u.sendParts store parts m).1.Tracked view failed target before (got ++ parts.flatten)
        (u.sendParts store parts m).2 ∧
      (u.sendParts store parts m).1.buffer = u.buffer := by
  induction parts generalizing u m got with
  | nil => simpa [sendParts] using h
  | cons part parts ih =>
    obtain ⟨hsent, hbuffer⟩ := tracked_sendPart hatomic htells h part
    obtain ⟨hall, hkept⟩ := ih hsent
    rw [List.append_assoc] at hall
    exact ⟨hall, hkept.trans hbuffer⟩

/-- What is written into an upload is pending there. -/
theorem pending_write (hatomic : store.Atomic view target) (htells : store.Tells failed)
    (h : u.Pending view failed target before written m) (bytes : Bytes) :
    (u.write store bytes m).1.Pending view failed target before (written ++ bytes)
      (u.write store bytes m).2 := by
  obtain ⟨got, htracked, rfl⟩ := h
  obtain ⟨full, rest, hcut, hwrite⟩ := exists_full_parts u bytes
  obtain ⟨hall, hbuffer⟩ := tracked_sendParts hatomic htells full (htracked.with_buffer rest)
  rw [hwrite]
  refine ⟨got ++ full.flatten, hall, ?_⟩
  rw [hbuffer, List.append_assoc, List.append_assoc]
  exact congrArg (got ++ ·) hcut

/-! ## Waiting -/

/-- An upload in which a part has failed says so when its parts are awaited. -/
theorem tracked_await (limit : Nat) (h : u.Tracked view failed target before got m) :
    match u.await limit with
    | (.ok (), u') => u'.Tracked view failed target before got m ∧ u'.buffer = u.buffer
    | (.error _, u') => failed m ∧ u'.ticket.path = target := by
  have hsettle := settle_failures limit u.inFlight
  unfold await
  generalize settle limit u.inFlight = settled at hsettle
  obtain ⟨e | _, rest⟩ := settled
  · exact ⟨h.failures.2 ⟨e, hsettle⟩, h.path⟩
  · exact ⟨⟨h.ready, h.object, h.path, h.failures.trans hsettle.symm, h.received⟩, rfl⟩

/-- When all parts were waited for, nothing has failed. -/
theorem not_failed_of_await (h : u.Tracked view failed target before got m) {u' : Upload}
    (hawait : u.await 0 = (.ok (), u')) : ¬ failed m := by
  have htracked := tracked_await 0 h
  simp only [hawait] at htracked
  have hnone : u'.inFlight = [] := by
    simp only [await, Prod.mk.injEq] at hawait
    obtain ⟨hok, rfl⟩ := hawait
    exact settle_zero (Prod.ext hok rfl)
  intro hfailed
  obtain ⟨e, he⟩ := htracked.1.failures.1 hfailed
  rw [hnone] at he
  exact List.not_mem_nil he

/-- An upload that is finished has put all that was written at the target, or has failed and left
the target as it was. -/
theorem ends_finish (hatomic : store.Atomic view target) (htells : store.Tells failed)
    (h : u.Pending view failed target before written m) :
    EndsWhole view failed target before written (u.finish store m) := by
  obtain ⟨got, htracked, rfl⟩ := h
  -- the last part, if octets are left
  have hlast : (if u.buffer.isEmpty then (u, m)
      else { u with buffer := [] }.sendPart store u.buffer m).1.Tracked view failed target before
        (got ++ u.buffer) (if u.buffer.isEmpty then (u, m)
          else { u with buffer := [] }.sendPart store u.buffer m).2 := by
    split
    · next hempty =>
      rw [List.isEmpty_iff.1 hempty, List.append_nil]
      exact htracked
    · exact (tracked_sendPart hatomic htells (htracked.with_buffer []) u.buffer).1
  unfold finish
  generalize (if u.buffer.isEmpty then (u, m)
    else { u with buffer := [] }.sendPart store u.buffer m) = sent at hlast
  obtain ⟨u', m'⟩ := sent
  have hawaited := tracked_await 0 hlast
  have hwell (u'' : Upload) (hawait : u'.await 0 = (.ok (), u'')) : ¬ failed m' :=
    not_failed_of_await hlast hawait
  dsimp only at hawaited hwell hlast ⊢
  generalize u'.await 0 = awaited at hawaited hwell
  obtain ⟨_ | _, u''⟩ := awaited
  · exact ⟨hawaited.1, hlast.object⟩
  have hwell := hwell u'' rfl
  obtain ⟨htracked', -⟩ := hawaited
  obtain ⟨parts, hgot, -, hflatten⟩ := htracked'.received hwell
  obtain ⟨hready, hobject⟩ := hatomic.complete htracked'.ready htracked'.path hgot
  have hfailed := htells.complete u''.ticket m'
  dsimp only
  generalize store.complete u''.ticket m' = completed at hready hobject hfailed
  obtain ⟨e | _, m''⟩ := completed
  · have habort := hatomic.abort hready htracked'.path
    have hfailed' := (htells.abort u''.ticket m'').2 (hfailed.2 (.inr ⟨e, rfl⟩))
    dsimp only
    generalize store.abort u''.ticket m'' = aborted at habort hfailed'
    obtain ⟨_ | _, _⟩ := aborted
    · exact ⟨hfailed', habort.trans (hobject.trans htracked'.object)⟩
    · exact ⟨hfailed', habort.trans (hobject.trans htracked'.object)⟩
  · refine ⟨well_of_ok hfailed hwell, hready, ?_⟩
    rw [hobject, hflatten]
    rfl

end Upload

/-! ## Transports -/

namespace Transport

variable {t : Transport σ} {m : Medium σ} {content : Bytes}

/-- Pieces that are sent are written one after the other, unless something fails. -/
theorem pending_sendPieces (hatomic : t.store.Atomic view target) (htells : t.store.Tells failed)
    (pieces : List Bytes) {u : Upload} {written : Bytes}
    (h : u.Pending view failed target before written m) :
    match t.sendPieces pieces u m with
    | (.ok u', m') => u'.Pending view failed target before (written ++ pieces.flatten) m'
    | (.error _, m') => failed m' ∧ view.objects m' target = before := by
  induction pieces generalizing u m written with
  | nil =>
    rw [List.flatten_nil, List.append_nil]
    exact h
  | cons piece pieces ih =>
    obtain ⟨got, htracked, hwritten⟩ := h
    have hawaited := Upload.tracked_await t.transfer.maxConcurrency.toNat htracked
    unfold sendPieces
    generalize u.await t.transfer.maxConcurrency.toNat = awaited at hawaited
    obtain ⟨_ | _, u'⟩ := awaited
    · obtain ⟨hfailed, hpath⟩ := hawaited
      exact ⟨(htells.abort u'.ticket m).2 hfailed,
        (hatomic.abort htracked.ready hpath).trans htracked.object⟩
    · obtain ⟨htracked', hbuffer⟩ := hawaited
      have hpending : u'.Pending view failed target before written m :=
        ⟨got, htracked', by rw [hbuffer, hwritten]⟩
      rw [List.flatten_cons, ← List.append_assoc]
      exact ih (Upload.pending_write hatomic htells hpending piece)

/-- An upload in parts, of which nothing has failed before.  What is not whole is refused. -/
theorem ends_sendParts (hatomic : t.store.Atomic view target) (htells : t.store.Tells failed)
    (pieces : List Bytes) (hready : view.ready m) (hwell : ¬ failed m) :
    EndsWhole view failed target (view.objects m target) pieces.flatten
        (t.sendParts target pieces (.ok ()) m) ∧
      ∀ e, IsRefused view target (view.objects m target)
        (t.sendParts target pieces (.error e) m) := by
  obtain ⟨hready₁, hobject₁, hticket⟩ := hatomic.startUpload hready
  have hfailed₁ := htells.startUpload target m
  unfold sendParts
  generalize t.store.startUpload target m = started at hready₁ hobject₁ hticket hfailed₁
  obtain ⟨e | ticket, m₁⟩ := started
  · exact ⟨⟨hfailed₁.2 (.inr ⟨e, rfl⟩), hobject₁⟩, fun _ => hobject₁⟩
  obtain ⟨hpath, hparts⟩ := hticket ticket rfl
  have hwell₁ : ¬ failed m₁ := well_of_ok hfailed₁ hwell
  have hpending : ({ ticket, chunk := t.transfer.multipartChunk.toNat } : Upload).Pending view
      failed target (view.objects m target) [] m₁ := by
    refine ⟨[], ⟨hready₁, hobject₁, hpath, ?_, fun _ => ⟨[], hparts, rfl, rfl⟩⟩, rfl⟩
    simp [hwell₁]
  have hpieces := t.pending_sendPieces hatomic htells pieces hpending
  dsimp only
  generalize t.sendPieces pieces _ m₁ = sent at hpieces
  obtain ⟨e | u, m₂⟩ := sent
  · exact ⟨hpieces, fun _ => hpieces.2⟩
  refine ⟨?_, fun e => ?_⟩
  · have hfinish := Upload.ends_finish hatomic htells hpieces
    dsimp only
    generalize u.finish t.store m₂ = finished at hfinish
    obtain ⟨_ | _, m₃⟩ := finished
    · exact hfinish
    · exact hfinish
  · obtain ⟨got, htracked, -⟩ := hpieces
    exact (hatomic.abort htracked.ready htracked.path).trans htracked.object

/-- An object that is put at once arrives whole or not at all. -/
theorem ends_sendWhole (hatomic : t.store.Atomic view target) (htells : t.store.Tells failed)
    (content : Bytes) (hready : view.ready m) (hwell : ¬ failed m) :
    EndsWhole view failed target (view.objects m target) content
      (t.sendWhole target content m) := by
  obtain ⟨hready', hobject⟩ := hatomic.put content hready
  have hfailed := htells.put target content m
  unfold sendWhole
  generalize t.store.put target content m = answer at hready' hobject hfailed
  obtain ⟨e | _, m'⟩ := answer
  · exact ⟨hfailed.2 (.inr ⟨e, rfl⟩), hobject⟩
  · exact ⟨well_of_ok hfailed hwell, hready', hobject⟩

/-- A buffer arrives whole or not at all. -/
theorem ends_sendBuffer (hatomic : t.store.Atomic view target) (htells : t.store.Tells failed)
    (hio : 0 < t.transfer.ioChunk.toNat) (content : Bytes) (hready : view.ready m)
    (hwell : ¬ failed m) :
    EndsWhole view failed target (view.objects m target) content
      (t.sendBuffer target content m) := by
  have hparts := (ends_sendParts hatomic htells
    (Grouping.pieces t.transfer.ioChunk.toNat content) hready hwell).1
  rw [Grouping.flatten_pieces hio] at hparts
  unfold sendBuffer
  split
  · exact ends_sendWhole hatomic htells content hready hwell
  · exact hparts

/-- What was read of a file arrives, when it could be read to its end, and is refused otherwise. -/
theorem ends_sendReading (hatomic : t.store.Atomic view target) (htells : t.store.Tells failed)
    (hio : 0 < t.transfer.ioChunk.toNat) (reading : FileReading) (hready : view.ready m)
    (hwell : ¬ failed m) :
    (reading.fault = none → reading.size = reading.content.length →
      EndsWhole view failed target (view.objects m target) reading.content
        (t.sendReading target reading m)) ∧
      ∀ e, reading.fault = some e → IsRefused view target (view.objects m target)
        (t.sendReading target reading m) := by
  obtain ⟨hwhole, hbroken⟩ := ends_sendParts hatomic htells
    (Grouping.pieces t.transfer.ioChunk.toNat reading.content) hready hwell
  rw [Grouping.flatten_pieces hio] at hwhole
  unfold sendReading
  refine ⟨fun hfault hsize => ?_, fun e hfault => ?_⟩
  · simp only [hfault, Grouping.flatten_pieces hio, hsize, if_true]
    split
    · exact hwhole
    · exact ends_sendWhole hatomic htells reading.content hready hwell
  · simp only [hfault]
    split
    · exact hbroken e
    · exact rfl

end Transport

/-! ## Artifacts -/

/-- What is uploaded holds these octets, and goes on doing so while the store is at work: a file
that is read without a failure is read as it is, and its size can be told at any time. -/
def ArtifactSource.Holds (files : FileAccess) (ready : Medium σ → Prop) (content : Bytes)
    (d : Disk) : ArtifactSource → Prop
  | .buffer octets => octets = content
  | .file path =>
    (∀ reading, files.openFile d path = .ok reading → reading.fault = none →
      reading.size = content.length ∧ reading.content = content) ∧
    ∀ m, ready m → files.size m.disk path = .ok content.length

/-- On a disk that is in order, a file holds what can be read of it, as long as nobody writes it. -/
theorem ArtifactSource.holds_plain {ready : Medium σ → Prop} {content : Bytes} {d : Disk}
    {path : String} (hread : d.readFile path = .ok content)
    (hkept : ∀ m, ready m → m.disk.readFile path = .ok content) :
    (ArtifactSource.file path).Holds .plain ready content d := by
  refine ⟨?_, fun m hm => FileAccess.size_plain (Disk.sizeAt_of_readFile (hkept m hm))⟩
  intro reading hreading _
  obtain rfl := Except.ok.inj ((FileAccess.openFile_plain hread).symm.trans hreading)
  exact ⟨rfl, rfl⟩

/-- What is uploaded can be read to its end. -/
def ArtifactSource.Readable (files : FileAccess) (d : Disk) : ArtifactSource → Prop
  | .buffer _ => True
  | .file path => ∃ reading, files.openFile d path = .ok reading ∧ reading.fault = none

namespace Transport

variable {t : Transport σ} {m : Medium σ} {content : Bytes} {files : FileAccess}
  {source : ArtifactSource} {path : String}

/-- A file that can be read arrives whole or not at all, and any other one leaves the target as it
was. -/
theorem ends_sendFile (hatomic : t.store.Atomic view target) (htells : t.store.Tells failed)
    (hio : 0 < t.transfer.ioChunk.toNat) (hready : view.ready m) (hwell : ¬ failed m)
    (hfile : (ArtifactSource.file path).Holds files view.ready content m.disk) :
    ((ArtifactSource.file path).Readable files m.disk →
      EndsWhole view failed target (view.objects m target) content
        (t.sendFile files target path m)) ∧
      (¬ (ArtifactSource.file path).Readable files m.disk →
        IsRefused view target (view.objects m target) (t.sendFile files target path m)) := by
  unfold sendFile
  cases hopen : files.openFile m.disk path with
  | error e =>
    refine ⟨?_, fun _ => rfl⟩
    rintro ⟨reading, hreading, -⟩
    cases hopen.symm.trans hreading
  | ok reading =>
    obtain ⟨hwhole, hbroken⟩ := ends_sendReading hatomic htells hio reading hready hwell
    refine ⟨?_, fun hnot => ?_⟩
    · rintro ⟨reading', hreading, hfault⟩
      obtain rfl := Except.ok.inj (hopen.symm.trans hreading)
      obtain ⟨hsize, rfl⟩ := hfile.1 reading hopen hfault
      exact hwhole hfault hsize
    · cases hfault : reading.fault with
      | none => exact absurd ⟨reading, hopen, hfault⟩ hnot
      | some e => exact hbroken e hfault

/-- What is uploaded arrives, when it can be read, and is refused otherwise.  The size that is told
is that of what has arrived. -/
theorem ends_uploadWith (hatomic : t.store.Atomic view target) (htells : t.store.Tells failed)
    (hio : 0 < t.transfer.ioChunk.toNat) (hpath : ObjectPath.parse path = .ok target)
    (hready : view.ready m) (hwell : ¬ failed m)
    (hsource : source.Holds files view.ready content m.disk) :
    (source.Readable files m.disk →
      EndsWhole view failed target (view.objects m target) content
          (t.uploadWith files source path m) ∧
        ∀ n, (t.uploadWith files source path m).1 = .ok n → n = content.length) ∧
      (¬ source.Readable files m.disk →
        IsRefused view target (view.objects m target) (t.uploadWith files source path m)) := by
  unfold uploadWith
  rw [hpath]
  cases source with
  | buffer octets =>
    obtain rfl : octets = content := hsource
    refine ⟨fun _ => ?_, fun hnot => absurd trivial hnot⟩
    have hsend := ends_sendBuffer hatomic htells hio octets hready hwell
    dsimp only
    generalize t.sendBuffer target octets m = answer at hsend
    obtain ⟨_ | _, m'⟩ := answer
    · exact ⟨hsend, nofun⟩
    · exact ⟨hsend, fun n hn => (Except.ok.inj hn).symm⟩
  | file file =>
    obtain ⟨hwhole, hbroken⟩ := ends_sendFile hatomic htells hio hready hwell hsource
    dsimp only
    generalize t.sendFile files target file m = answer at hwhole hbroken
    obtain ⟨_ | _, m'⟩ := answer
    · exact ⟨fun h => ⟨hwhole h, nofun⟩, hbroken⟩
    · refine ⟨fun h => ?_, fun h => (hbroken h).elim⟩
      have hends := hwhole h
      have hsize := hsource.2 m' hends.2.1
      simp only [hsize]
      exact ⟨hends, fun n hn => (Except.ok.inj hn).symm⟩

end Transport

/-! ## Writing blobs -/

/-- Events in a row add up their measures. -/
theorem totalOf_append (measure : Event → Nat) (log more : List Event) :
    totalOf measure (log ++ more) = totalOf measure log + totalOf measure more := by
  induction log with
  | nil => simp [totalOf]
  | cons e log ih => simp [totalOf, ih, Nat.add_assoc]

namespace BlobClient

variable (client : BlobClient σ) {source : ArtifactSource} {path : String} {s : Site σ}

/-- A blob that is written is counted if it has arrived. -/
theorem ends_writeBlob {content : Bytes}
    (h : EndsWhole view failed target before content (client.upload source path s.toMedium))
    (hsize : ∀ n, (client.upload source path s.toMedium).1 = .ok n → n = content.length) :
    match client.writeBlob source path s with
    | (.ok place, s') => place = path ∧ ¬ failed s'.toMedium ∧
      view.objects s'.toMedium target = some content ∧
      (Counters.ofLog s'.log).bytesWritten =
        (Counters.ofLog s.log).bytesWritten + content.length
    | (.error _, s') => failed s'.toMedium ∧ view.objects s'.toMedium target = before ∧
      s'.log = s.log := by
  unfold writeBlob write
  generalize client.upload source path s.toMedium = answer at h hsize
  obtain ⟨_ | size, m⟩ := answer
  · exact ⟨h.1, h.2, rfl⟩
  · obtain rfl := hsize size rfl
    refine ⟨rfl, h.1, h.2.2, ?_⟩
    simp [Site.record, Counters.ofLog, totalOf_append, totalOf, Event.bytesWritten]

/-- A writer that is refused counts nothing and leaves the target as it was. -/
theorem refused_writeBlob
    (h : IsRefused view target before (client.upload source path s.toMedium)) :
    ∃ e s', client.writeBlob source path s = (.error e, s') ∧
      view.objects s'.toMedium target = before ∧ s'.log = s.log := by
  unfold writeBlob write
  generalize client.upload source path s.toMedium = answer at h
  obtain ⟨e | _, m⟩ := answer
  · exact ⟨e, _, rfl, h, rfl⟩
  · exact h.elim

end BlobClient

/-- Whatever may fail, a blob is written completely or not at all.  When the store reports no
failure and the artifact can be read, the blob is where it belongs, octet for octet, and its octets
are counted.  When the store reports any failure, or the artifact cannot be read to its end, the
writer is told of a failure, what was at the location before is still there, and nothing is
counted. -/
theorem Transport.arrives_whole_or_not_at_all {t : Transport σ}
    (hatomic : t.store.Atomic view target) (hio : 0 < t.transfer.ioChunk.toNat) {path : String}
    (hpath : ObjectPath.parse path = .ok target) {files : FileAccess} {source : ArtifactSource}
    {content : Bytes} {s : Site σ} (hready : view.ready s.toMedium)
    (hsource : source.Holds files view.ready content s.disk) :
    let written := (t.clientWith files).writeBlob source path s
    (t.reports files source path s = [] → source.Readable files s.disk →
      written.1 = .ok path ∧ view.objects written.2.toMedium target = some content ∧
        (Counters.ofLog written.2.log).bytesWritten =
          (Counters.ofLog s.log).bytesWritten + content.length) ∧
      (t.reports files source path s ≠ [] ∨ ¬ source.Readable files s.disk →
        (∃ e, written.1 = .error e) ∧
          view.objects written.2.toMedium target = view.objects s.toMedium target ∧
          (Counters.ofLog written.2.log).bytesWritten = (Counters.ofLog s.log).bytesWritten) := by
  -- the same upload, with a store that notes its failures
  have hholds : source.Holds files view.noting.ready content s.noting.disk := by
    cases source with
    | buffer octets => exact hsource
    | file file => exact ⟨hsource.1, fun m hm => hsource.2 m.bare hm⟩
  obtain ⟨hreadable, hbroken⟩ := ends_uploadWith (t := t.noting) (m := s.noting.toMedium)
    hatomic.noting t.store.tells_noting hio hpath hready (fun h => h rfl) hholds
  have hbare : (t.clientWith files).writeBlob source path s = _ :=
    t.writeBlob_bare files source path s.noting
  unfold reports
  rw [hbare]
  by_cases hread : source.Readable files s.disk
  · obtain ⟨hends, hsize⟩ := hreadable hread
    have hwritten := (t.noting.clientWith files).ends_writeBlob hends hsize
    generalize (t.noting.clientWith files).writeBlob source path s.noting = written at hwritten ⊢
    obtain ⟨e | place, s'⟩ := written
    · obtain ⟨hfailed, hobject, hlog⟩ := hwritten
      have hcount : (Counters.ofLog s'.log).bytesWritten = (Counters.ofLog s.log).bytesWritten := by
        rw [hlog]
        rfl
      exact ⟨fun h => absurd h hfailed, fun _ => ⟨⟨e, rfl⟩, hobject, hcount⟩⟩
    · obtain ⟨rfl, hwell, hobject, hcount⟩ := hwritten
      refine ⟨fun _ _ => ⟨rfl, hobject, hcount⟩, ?_⟩
      rintro (hreported | hnot)
      · exact absurd hreported hwell
      · exact absurd hread hnot
  · obtain ⟨e, s', hwritten, hobject, hlog⟩ :=
      (t.noting.clientWith files).refused_writeBlob (hbroken hread)
    rw [hwritten]
    have hcount : (Counters.ofLog s'.log).bytesWritten = (Counters.ofLog s.log).bytesWritten := by
      rw [hlog]
      rfl
    exact ⟨fun _ h => absurd h hread, fun _ => ⟨⟨e, rfl⟩, hobject, hcount⟩⟩

/-- An object arrives from a file, in parts.  When its second part fails, the older object stays. -/
theorem three_octets_arrive_or_are_refused :
    let inParts (faults : Faults) : Transport MemoryObjects :=
      { store := MemoryObjects.store.faulty faults
        transfer := { multipartThreshold := 0, multipartChunk := 2, ioChunk := 1 } }
    let site : Site MemoryObjects :=
      { store := { objects := [(⟨["a"]⟩, [7])] }
        disk := { nodes := [(["f"], .file [1, 2, 3])] } }
    let arrived := (inParts {}).client.writeBlob (.file "/f") "a" site
    let refused := (inParts { part := some 2 }).client.writeBlob (.buffer [1, 2, 3]) "a" site
    (arrived.1 = .ok "a" ∧ arrived.2.store.find? ⟨["a"]⟩ = some [1, 2, 3]) ∧
      (∃ e, refused.1 = .error e) ∧ refused.2.store.find? ⟨["a"]⟩ = some [7] := by
  intro inParts site arrived refused
  have hpath : ObjectPath.parse "a" = .ok ⟨["a"]⟩ := by decide +kernel
  have hread : site.disk.readFile "/f" = .ok [1, 2, 3] := by decide +kernel
  have hatomic (faults : Faults) : (inParts faults).store.Atomic
      (MemoryObjects.viewBeside (· = site.disk)) ⟨["a"]⟩ :=
    (MemoryObjects.atomic _ ⟨["a"]⟩).faulty faults
  have hfile : (ArtifactSource.file "/f").Holds .plain
      (MemoryObjects.viewBeside (· = site.disk)).ready [1, 2, 3] site.disk := by
    apply ArtifactSource.holds_plain hread
    intro m hm
    rw [show m.disk = site.disk from hm, hread]
  have hbuffer : (ArtifactSource.buffer [1, 2, 3]).Holds .plain
      (MemoryObjects.viewBeside (· = site.disk)).ready [1, 2, 3] site.disk := rfl
  obtain ⟨harrived, -⟩ :=
    Transport.arrives_whole_or_not_at_all (hatomic {}) (by decide) hpath (s := site) rfl hfile
  obtain ⟨hok, hobject, -⟩ :=
    harrived (by decide +kernel) ⟨_, FileAccess.openFile_plain hread, rfl⟩
  obtain ⟨-, hrefused⟩ := Transport.arrives_whole_or_not_at_all (hatomic { part := some 2 })
    (by decide) hpath (s := site) rfl hbuffer
  obtain ⟨herror, hold, -⟩ := hrefused (.inl (by decide +kernel))
  exact ⟨⟨hok, hobject⟩, herror, hold⟩

end VectorIndex
