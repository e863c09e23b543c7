import VectorIndex.Blob.Client
import VectorIndex.Proofs.Blob.Stores
import VectorIndex.Proofs.Disk.Writing

/-!
# Artifacts as they are uploaded

An artifact arrives at its target as it was staged, whether it comes from a buffer or from a
file, and whether it is stored at once or in parts (`Transport.upload_spec`).  For an upload in
parts the invariant is `Upload.Underway`: the parts that the store has got and the octets that
wait for the next part are together what was written so far, and no part has failed.
-/

set_option autoImplicit false

namespace VectorIndex

variable {σ : Type} {store : ObjectStore σ} {view : StoreView σ} {root : String}
  {target : ObjectPath}

/-! ## Parts -/

/-- An upload whose parts have all got to the store; meanwhile no object has changed. -/
structure Upload.Sent (view : StoreView σ) (root : String) (target : ObjectPath) (start : Medium σ)
    (parts : List Bytes) (u : Upload) (m : Medium σ) : Prop where
  ready : view.ready m
  objects : view.objects m = view.objects start
  kept : Workspace.Kept root start.disk m.disk
  path : u.ticket.path = target
  got : view.parts m u.ticket = some parts
  count : parts.length = u.sent
  answered : ∀ r ∈ u.inFlight, r = .ok ()

/-- An upload into which these octets were written. -/
def Upload.Underway (view : StoreView σ) (root : String) (target : ObjectPath) (start : Medium σ)
    (written : Bytes) (u : Upload) (m : Medium σ) : Prop :=
  ∃ parts, u.Sent view root target start parts m ∧ parts.flatten ++ u.buffer = written

namespace Upload

variable {start m : Medium σ} {u : Upload} {parts : List Bytes} {written : Bytes}

/-- What the store has got does not depend on the octets that wait. -/
theorem Sent.with_buffer (h : u.Sent view root target start parts m) (rest : Bytes) :
    ({ u with buffer := rest } : Upload).Sent view root target start parts m :=
  ⟨h.ready, h.objects, h.kept, h.path, h.got, h.count, h.answered⟩

/-- A part that is sent to a store that works arrives. -/
theorem sendPart_spec (hworks : store.Works view root target)
    (h : u.Sent view root target start parts m) (part : Bytes) :
    (u.sendPart store part m).1.Sent view root target start (parts ++ [part])
        (u.sendPart store part m).2 ∧
      (u.sendPart store part m).1.buffer = u.buffer := by
  obtain ⟨m', hput, hparts, hkept, hready, hobjects⟩ :=
    hworks.putPart part h.ready h.path h.got
  rw [h.count] at hput
  unfold sendPart
  rw [hput]
  refine ⟨⟨hready, hobjects.trans h.objects, h.kept.trans hkept, h.path, hparts, ?_, ?_⟩, rfl⟩
  · exact List.length_append.trans (congrArg (· + 1) h.count)
  · intro r hr
    obtain hold | hnew := List.mem_append.1 hr
    · exact h.answered r hold
    · exact List.mem_singleton.1 hnew

/-- Parts that are sent to a store that works arrive in their order. -/
theorem sendParts_spec (hworks : store.Works view root target) (more : List Bytes)
    (h : u.Sent view root target start parts m) :
    (u.sendParts store more m).1.Sent view root target start (parts ++ more)
        (u.sendParts store more m).2 ∧
      (u.sendParts store more m).1.buffer = u.buffer := by
  induction more generalizing u m parts with
  | nil =>
    rw [List.append_nil]
    exact ⟨h, rfl⟩
  | cons part more ih =>
    obtain ⟨hsent, hbuffer⟩ := sendPart_spec hworks h part
    obtain ⟨hall, hkept⟩ := ih hsent
    rw [List.append_assoc] at hall
    exact ⟨hall, hkept.trans hbuffer⟩

/-- What is written is cut into full parts and a rest, and the full parts are handed over. -/
theorem exists_full_parts (u : Upload) (bytes : Bytes) :
    ∃ parts rest, parts.flatten ++ rest = u.buffer ++ bytes ∧
      ∀ {τ : Type} (store : ObjectStore τ) (m : Medium τ),
        u.write store bytes m = sendParts store parts { u with buffer := rest } m :=
  ⟨_, _, Grouping.flatten_groups_append_drop u.chunk (u.buffer ++ bytes), fun _ _ => rfl⟩

/-- What is written into an upload is under way. -/
theorem underway_write (hworks : store.Works view root target)
    (h : u.Underway view root target start written m) (bytes : Bytes) :
    (u.write store bytes m).1.Underway view root target start (written ++ bytes)
      (u.write store bytes m).2 := by
  obtain ⟨parts, hsent, rfl⟩ := h
  obtain ⟨full, rest, hcut, hwrite⟩ := exists_full_parts u bytes
  obtain ⟨hall, hbuffer⟩ := sendParts_spec hworks full (hsent.with_buffer rest)
  rw [hwrite]
  refine ⟨parts ++ full, hall, ?_⟩
  rw [hbuffer, List.flatten_append, List.append_assoc, List.append_assoc]
  exact congrArg (parts.flatten ++ ·) hcut

/-! ## Waiting -/

/-- A wait that finds a failed part says so, and otherwise the failed parts still wait to be asked
about. -/
theorem settle_failures (limit : Nat) (answers : List (Except StoreError Unit)) :
    match settle limit answers with
    | (.ok (), rest) => (∃ e, .error e ∈ rest) ↔ ∃ e, .error e ∈ answers
    | (.error e, _) => .error e ∈ answers := by
  induction answers with
  | nil => exact Iff.rfl
  | cons r rest ih =>
    unfold settle
    by_cases hlimit : limit ≤ rest.length + 1
    · rw [if_pos hlimit]
      cases r with
      | error e => exact List.mem_cons_self
      | ok a =>
        dsimp only
        generalize settle limit rest = settled at ih
        obtain ⟨_ | _, left⟩ := settled
        · exact List.mem_cons_of_mem _ ih
        · simpa using ih
    · rw [if_neg hlimit]

/-- A wait for all parts leaves none. -/
theorem settle_zero {answers rest : List (Except StoreError Unit)}
    (h : settle 0 answers = (.ok (), rest)) : rest = [] := by
  induction answers with
  | nil => exact (Prod.ext_iff.1 h).2.symm
  | cons r answers ih =>
    unfold settle at h
    rw [if_pos (Nat.zero_le _)] at h
    cases r with
    | error e => cases h
    | ok a => exact ih h

/-- Parts that have all got to the store are waited for without a failure. -/
theorem settle_spec (limit : Nat) {answers : List (Except StoreError Unit)}
    (h : ∀ r ∈ answers, r = .ok ()) :
    (settle limit answers).1 = .ok () ∧ ∀ r ∈ (settle limit answers).2, r = .ok () := by
  induction answers with
  | nil => exact ⟨rfl, nofun⟩
  | cons r rest ih =>
    obtain rfl := h r List.mem_cons_self
    unfold settle
    split
    · exact ih fun r hr => h r (List.mem_cons_of_mem _ hr)
    · exact ⟨rfl, h⟩

/-- To await parts that have all arrived succeeds. -/
theorem await_spec (limit : Nat) (h : u.Sent view root target start parts m) :
    (u.await limit).1 = .ok () ∧ (u.await limit).2.Sent view root target start parts m ∧
      (u.await limit).2.buffer = u.buffer := by
  obtain ⟨hok, hanswered⟩ := settle_spec limit h.answered
  exact ⟨hok, ⟨h.ready, h.objects, h.kept, h.path, h.got, h.count, hanswered⟩, rfl⟩

/-- What was written is there when the upload is finished. -/
theorem finish_spec (hworks : store.Works view root target)
    (h : u.Underway view root target start written m) :
    ∃ m', u.finish store m = (.ok (), m') ∧ Workspace.Kept root start.disk m'.disk ∧
      view.objects m' = withObject (view.objects start) target written := by
  obtain ⟨parts, hsent, rfl⟩ := h
  -- the last part, if octets are left, and what has got to the store with it
  have hlast : ∃ u' m' parts', (if u.buffer.isEmpty then (u, m)
      else { u with buffer := [] }.sendPart store u.buffer m) = (u', m') ∧
        u'.Sent view root target start parts' m' ∧ parts'.flatten = parts.flatten ++ u.buffer := by
    split
    · next hempty =>
      refine ⟨u, m, parts, rfl, hsent, ?_⟩
      rw [List.isEmpty_iff.1 hempty, List.append_nil]
    · have hemptied := hsent.with_buffer []
      refine ⟨_, _, parts ++ [u.buffer], rfl, (sendPart_spec hworks hemptied u.buffer).1, ?_⟩
      rw [List.flatten_append, List.flatten_singleton]
  obtain ⟨u', m', parts', hsend, hsent', hflatten⟩ := hlast
  obtain ⟨hok, hawaited, -⟩ := await_spec 0 hsent'
  obtain ⟨m'', hcomplete, hkept, hobjects⟩ :=
    hworks.complete hawaited.ready hawaited.path hawaited.got
  unfold finish
  rw [hsend]
  dsimp only
  generalize u'.await 0 = awaited at hok hawaited hcomplete
  obtain ⟨answer, u''⟩ := awaited
  obtain rfl : answer = .ok () := hok
  simp only [hcomplete]
  refine ⟨m'', rfl, hawaited.kept.trans hkept, ?_⟩
  rw [hobjects, hawaited.objects, hflatten]

end Upload

/-! ## Files -/

/-- The size of a file is what the disk says. -/
theorem FileAccess.size_plain {d : Disk} {path : String} {size : Nat}
    (h : d.sizeAt path = .ok size) : plain.size d path = .ok size := by
  simp only [plain, sizeOnDisk, h]

/-- A file is opened with its content and its size. -/
theorem FileAccess.openFile_plain {d : Disk} {path : String} {content : Bytes}
    (h : d.readFile path = .ok content) :
    plain.openFile d path = .ok { size := content.length, content } := by
  simp [plain, sizeOnDisk, Disk.sizeAt_of_readFile h, h, bind, Except.bind]

/-! ## Transports -/

namespace Transport

variable {t : Transport σ} {m : Medium σ} {content : Bytes}

/-- Pieces that are sent are under way in their order. -/
theorem sendPieces_spec (hworks : t.store.Works view root target) (pieces : List Bytes)
    {start : Medium σ} {u : Upload} {written : Bytes}
    (h : u.Underway view root target start written m) :
    ∃ u' m', t.sendPieces pieces u m = (.ok u', m') ∧
      u'.Underway view root target start (written ++ pieces.flatten) m' := by
  induction pieces generalizing u m written with
  | nil => exact ⟨u, m, rfl, by rw [List.flatten_nil, List.append_nil]; exact h⟩
  | cons piece pieces ih =>
    obtain ⟨parts, hsent, hwritten⟩ := h
    obtain ⟨hok, hawaited, hbuffer⟩ := Upload.await_spec t.transfer.maxConcurrency.toNat hsent
    unfold sendPieces
    generalize u.await t.transfer.maxConcurrency.toNat = awaited at hok hawaited hbuffer
    obtain ⟨answer, u'⟩ := awaited
    obtain rfl : answer = .ok () := hok
    have hunderway : u'.Underway view root target start written m :=
      ⟨parts, hawaited, by rw [hbuffer, hwritten]⟩
    obtain ⟨u'', m'', hpieces, hdone⟩ := ih (Upload.underway_write hworks hunderway piece)
    refine ⟨u'', m'', hpieces, ?_⟩
    rw [List.flatten_cons, ← List.append_assoc]
    exact hdone

/-- Pieces that can all be read are together at the target when the upload is completed. -/
theorem sendParts_spec (hworks : t.store.Works view root target) (pieces : List Bytes)
    (hready : view.ready m) :
    ∃ m', t.sendParts target pieces (.ok ()) m = (.ok (), m') ∧
      Workspace.Kept root m.disk m'.disk ∧
      view.objects m' = withObject (view.objects m) target pieces.flatten := by
  obtain ⟨ticket, m₁, hstart, hpath, hparts, hkept, hready₁, hobjects⟩ := hworks.startUpload hready
  have hunderway : ({ ticket, chunk := t.transfer.multipartChunk.toNat } : Upload).Underway view
      root target m [] m₁ :=
    ⟨[], ⟨hready₁, hobjects, hkept, hpath, hparts, rfl, nofun⟩, rfl⟩
  obtain ⟨u, m₂, hpieces, hwritten⟩ := t.sendPieces_spec hworks pieces hunderway
  obtain ⟨m₃, hfinish, hkept₃, hobjects₃⟩ := Upload.finish_spec hworks hwritten
  refine ⟨m₃, ?_, hkept₃, hobjects₃⟩
  unfold sendParts
  simp only [hstart, hpieces, hfinish]

/-- Parts arrive as what they were cut from. -/
theorem sendParts_pieces_spec (hworks : t.store.Works view root target)
    (hio : 0 < t.transfer.ioChunk.toNat) (content : Bytes) (hready : view.ready m) :
    ∃ m', t.sendParts target (Grouping.pieces t.transfer.ioChunk.toNat content) (.ok ()) m =
        (.ok (), m') ∧
      Workspace.Kept root m.disk m'.disk ∧
      view.objects m' = withObject (view.objects m) target content := by
  have hparts := t.sendParts_spec hworks (Grouping.pieces t.transfer.ioChunk.toNat content) hready
  rw [Grouping.flatten_pieces hio] at hparts
  exact hparts

/-- An object that is put at once is at the target. -/
theorem sendWhole_spec (hworks : t.store.Works view root target) (content : Bytes)
    (hready : view.ready m) :
    ∃ m', t.sendWhole target content m = (.ok (), m') ∧ Workspace.Kept root m.disk m'.disk ∧
      view.objects m' = withObject (view.objects m) target content := by
  obtain ⟨m', hput, hrest⟩ := hworks.put content hready
  refine ⟨m', ?_, hrest⟩
  unfold sendWhole
  simp only [hput]

/-- A buffer that is sent is at the target. -/
theorem sendBuffer_spec (hworks : t.store.Works view root target)
    (hio : 0 < t.transfer.ioChunk.toNat) (content : Bytes) (hready : view.ready m) :
    ∃ m', t.sendBuffer target content m = (.ok (), m') ∧ Workspace.Kept root m.disk m'.disk ∧
      view.objects m' = withObject (view.objects m) target content := by
  unfold sendBuffer
  split
  · exact sendWhole_spec hworks content hready
  · exact sendParts_pieces_spec hworks hio content hready

/-- A file that is sent is at the target. -/
theorem sendFile_spec (hworks : t.store.Works view root target)
    (hio : 0 < t.transfer.ioChunk.toNat) {path : String}
    (hread : m.disk.readFile path = .ok content) (hready : view.ready m) :
    ∃ m', t.sendFile .plain target path m = (.ok (), m') ∧ Workspace.Kept root m.disk m'.disk ∧
      view.objects m' = withObject (view.objects m) target content := by
  unfold sendFile sendReading
  simp only [FileAccess.openFile_plain hread, Grouping.flatten_pieces hio, if_true]
  split
  · exact sendParts_pieces_spec hworks hio content hready
  · exact sendWhole_spec hworks content hready

end Transport

/-- What is uploaded holds these octets. -/
def ArtifactSource.Delivers (root : String) (d : Disk) (content : Bytes) : ArtifactSource → Prop
  | .buffer octets => octets = content
  | .file path =>
    d.readFile path = .ok content ∧
      ∃ space : Workspace, space.MadeIn root ∧ space.content = .file path

/-- An artifact arrives at its target as it was staged. -/
theorem Transport.upload_spec {t : Transport σ} {m : Medium σ} {content : Bytes}
    (hworks : t.store.Works view root target) (hio : 0 < t.transfer.ioChunk.toNat) {path : String}
    (hpath : ObjectPath.parse path = .ok target) {source : ArtifactSource}
    (hsource : source.Delivers root m.disk content) (hready : view.ready m) :
    ∃ m', t.upload source path m = (.ok content.length, m') ∧
      view.objects m' = withObject (view.objects m) target content := by
  unfold upload uploadWith
  rw [hpath]
  cases source with
  | buffer octets =>
    obtain rfl : octets = content := hsource
    obtain ⟨m', hsend, -, hobjects⟩ := t.sendBuffer_spec hworks hio octets hready
    refine ⟨m', ?_, hobjects⟩
    simp only [hsend]
  | file path =>
    obtain ⟨hread, space, hspace, hfile⟩ := hsource
    obtain ⟨m', hsend, hkept, hobjects⟩ := t.sendFile_spec hworks hio hread hready
    have hsize : FileAccess.plain.size m'.disk path = .ok content.length :=
      FileAccess.size_plain ((hkept space hspace path hfile).trans (Disk.sizeAt_of_readFile hread))
    refine ⟨m', ?_, hobjects⟩
    simp only [hsend, hsize]

end VectorIndex
