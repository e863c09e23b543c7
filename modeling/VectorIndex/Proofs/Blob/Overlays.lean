import VectorIndex.Blob.Client

/-!
# A store over another one

`ObjectStore.Overlays` says that a store does what another one does and keeps something beside the
state of it, which can be forgotten.  An upload goes the same way over both
(`Transport.writeBlob_over`), so that what is kept may be used to tell what happened during it.
-/

set_option autoImplicit false

namespace VectorIndex

variable {σ τ α : Type}

/-- A medium without what is kept beside the state of its store. -/
def Medium.without (forget : τ → σ) (m : Medium τ) : Medium σ :=
  { store := forget m.store, disk := m.disk }

/-- An answer without it. -/
def forgetting (forget : τ → σ) (answer : α × Medium τ) : α × Medium σ :=
  (answer.1, answer.2.without forget)

/-- A store does what another one does, but for what it keeps beside its state. -/
structure ObjectStore.Overlays (upper : ObjectStore τ) (lower : ObjectStore σ) (forget : τ → σ) :
    Prop where
  put : ∀ (location : ObjectPath) (content : Bytes) (m : Medium τ),
    lower.put location content (m.without forget) = forgetting forget (upper.put location content m)
  startUpload : ∀ (location : ObjectPath) (m : Medium τ),
    lower.startUpload location (m.without forget) = forgetting forget (upper.startUpload location m)
  putPart : ∀ (ticket : UploadTicket) (n : Nat) (part : Bytes) (m : Medium τ),
    lower.putPart ticket n part (m.without forget) =
      forgetting forget (upper.putPart ticket n part m)
  complete : ∀ (ticket : UploadTicket) (m : Medium τ),
    lower.complete ticket (m.without forget) = forgetting forget (upper.complete ticket m)
  abort : ∀ (ticket : UploadTicket) (m : Medium τ),
    lower.abort ticket (m.without forget) = forgetting forget (upper.abort ticket m)

variable {upper : ObjectStore τ} {forget : τ → σ}

namespace Upload

variable {lower : ObjectStore σ}

/-- A part is sent to the upper store as to the lower one. -/
theorem sendPart_over (h : upper.Overlays lower forget) (part : Bytes) (u : Upload) (m : Medium τ) :
    u.sendPart lower part (m.without forget) = forgetting forget (u.sendPart upper part m) := by
  unfold sendPart
  rw [h.putPart]
  rfl

/-- Parts are sent to the upper store as to the lower one. -/
theorem sendParts_over (h : upper.Overlays lower forget) (parts : List Bytes) (u : Upload)
    (m : Medium τ) :
    u.sendParts lower parts (m.without forget) = forgetting forget (u.sendParts upper parts m) := by
  induction parts generalizing u m with
  | nil => rfl
  | cons part parts ih =>
    unfold sendParts
    rw [sendPart_over h]
    exact ih ..

/-- Octets are written to the upper store as to the lower one. -/
theorem write_over (h : upper.Overlays lower forget) (bytes : Bytes) (u : Upload) (m : Medium τ) :
    u.write lower bytes (m.without forget) = forgetting forget (u.write upper bytes m) :=
  sendParts_over h ..

/-- An upload is finished in the upper store as in the lower one. -/
theorem finish_over (h : upper.Overlays lower forget) (u : Upload) (m : Medium τ) :
    u.finish lower (m.without forget) = forgetting forget (u.finish upper m) := by
  have hlast : (if u.buffer.isEmpty then (u, m.without forget)
      else { u with buffer := [] }.sendPart lower u.buffer (m.without forget)) =
        forgetting forget (if u.buffer.isEmpty then (u, m)
          else { u with buffer := [] }.sendPart upper u.buffer m) := by
    split
    · rfl
    · exact sendPart_over h ..
  unfold finish
  rw [hlast]
  generalize (if u.buffer.isEmpty then (u, m)
    else { u with buffer := [] }.sendPart upper u.buffer m) = sent
  obtain ⟨u', m'⟩ := sent
  simp only [forgetting]
  split
  · rfl
  next u'' _ =>
  rw [h.complete]
  generalize upper.complete u''.ticket m' = completed
  obtain ⟨_ | _, m''⟩ := completed
  · simp only [forgetting, h.abort]
    generalize upper.abort u''.ticket m'' = aborted
    obtain ⟨_ | _, _⟩ := aborted <;> rfl
  · rfl

end Upload

namespace Transport

variable {t : Transport σ}

/-- The same way of moving blobs, over another store. -/
def withStore (t : Transport σ) (upper : ObjectStore τ) : Transport τ where
  store := upper
  transfer := t.transfer
  debug := t.debug

/-- A transport over another store is over this store. -/
theorem withStore_store : (t.withStore upper).store = upper := rfl

/-- A transport over another store moves blobs in the same chunks. -/
theorem withStore_transfer : (t.withStore upper).transfer = t.transfer := rfl

/-- Pieces go to the upper store as to the lower one. -/
theorem sendPieces_over (h : upper.Overlays t.store forget) (pieces : List Bytes) (u : Upload)
    (m : Medium τ) :
    t.sendPieces pieces u (m.without forget) =
      forgetting forget ((t.withStore upper).sendPieces pieces u m) := by
  induction pieces generalizing u m with
  | nil => rfl
  | cons piece pieces ih =>
    unfold sendPieces
    split
    · next heq =>
      simp only [withStore, heq, h.abort]
      rfl
    · next heq =>
      simp only [withStore, heq, Upload.write_over h]
      exact ih ..

/-- An upload in parts goes to the upper store as to the lower one. -/
theorem sendParts_over (h : upper.Overlays t.store forget) (location : ObjectPath)
    (pieces : List Bytes) (whole : Except BuildError Unit) (m : Medium τ) :
    t.sendParts location pieces whole (m.without forget) =
      forgetting forget ((t.withStore upper).sendParts location pieces whole m) := by
  unfold sendParts
  rw [h.startUpload, withStore_store, withStore_transfer]
  generalize upper.startUpload location m = started
  obtain ⟨_ | ticket, m₁⟩ := started
  · rfl
  simp only [forgetting]
  rw [sendPieces_over h]
  generalize (t.withStore upper).sendPieces pieces
    { ticket, chunk := t.transfer.multipartChunk.toNat } m₁ = sent
  obtain ⟨_ | u, m₂⟩ := sent
  · rfl
  simp only [forgetting]
  obtain _ | _ := whole
  · simp only [h.abort]
    rfl
  · simp only [Upload.finish_over h]
    generalize u.finish upper m₂ = finished
    obtain ⟨_ | _, m₃⟩ := finished <;> rfl

/-- A whole object goes to the upper store as to the lower one. -/
theorem sendWhole_over (h : upper.Overlays t.store forget) (location : ObjectPath)
    (content : Bytes) (m : Medium τ) :
    t.sendWhole location content (m.without forget) =
      forgetting forget ((t.withStore upper).sendWhole location content m) := by
  unfold sendWhole
  rw [h.put]
  simp only [withStore]
  generalize upper.put location content m = answer
  obtain ⟨_ | _, m'⟩ := answer <;> rfl

/-- A buffer goes to the upper store as to the lower one. -/
theorem sendBuffer_over (h : upper.Overlays t.store forget) (location : ObjectPath)
    (content : Bytes) (m : Medium τ) :
    t.sendBuffer location content (m.without forget) =
      forgetting forget ((t.withStore upper).sendBuffer location content m) := by
  unfold sendBuffer
  simp only [sendWhole_over h, sendParts_over h]
  exact (apply_ite (forgetting forget) ..).symm

/-- An open file goes to the upper store as to the lower one. -/
theorem sendReading_over (h : upper.Overlays t.store forget) (location : ObjectPath)
    (reading : FileReading) (m : Medium τ) :
    t.sendReading location reading (m.without forget) =
      forgetting forget ((t.withStore upper).sendReading location reading m) := by
  unfold sendReading
  simp only [sendWhole_over h, sendParts_over h]
  rw [apply_ite (forgetting forget)]
  cases reading.fault <;> rfl

/-- A file goes to the upper store as to the lower one. -/
theorem sendFile_over (h : upper.Overlays t.store forget) (files : FileAccess)
    (location : ObjectPath) (path : String) (m : Medium τ) :
    t.sendFile files location path (m.without forget) =
      forgetting forget ((t.withStore upper).sendFile files location path m) := by
  unfold sendFile
  simp only [Medium.without]
  cases files.openFile m.disk path with
  | error e => rfl
  | ok reading => exact sendReading_over h location reading m

/-- An artifact goes to the upper store as to the lower one. -/
theorem uploadWith_over (h : upper.Overlays t.store forget) (files : FileAccess)
    (source : ArtifactSource) (path : String) (m : Medium τ) :
    t.uploadWith files source path (m.without forget) =
      forgetting forget ((t.withStore upper).uploadWith files source path m) := by
  unfold uploadWith
  cases ObjectPath.parse path with
  | error e => rfl
  | ok location =>
    cases source with
    | buffer content =>
      simp only [sendBuffer_over h]
      generalize (t.withStore upper).sendBuffer location content m = answer
      obtain ⟨_ | _, m'⟩ := answer <;> rfl
    | file file =>
      simp only [sendFile_over h]
      generalize (t.withStore upper).sendFile files location file m = answer
      obtain ⟨_ | _, m'⟩ := answer <;> rfl

end Transport

/-- A site without what is kept beside the state of its store. -/
def Site.without (forget : τ → σ) (s : Site τ) : Site σ :=
  { s.toMedium.without forget with log := s.log }

/-- An upload goes as it would have gone over the other store. -/
theorem Transport.writeBlob_over {t : Transport σ} (h : upper.Overlays t.store forget)
    (files : FileAccess) (source : ArtifactSource) (path : String) (s : Site τ) :
    (t.clientWith files).writeBlob source path (s.without forget) =
      ((((t.withStore upper).clientWith files).writeBlob source path s).1,
        (((t.withStore upper).clientWith files).writeBlob source path s).2.without forget) := by
  unfold BlobClient.writeBlob BlobClient.write
  have hupload : (t.clientWith files).upload source path (s.without forget).toMedium =
      forgetting forget (((t.withStore upper).clientWith files).upload source path s.toMedium) :=
    uploadWith_over h files source path s.toMedium
  rw [hupload]
  generalize ((t.withStore upper).clientWith files).upload source path s.toMedium = answer
  obtain ⟨_ | _, m'⟩ := answer <;> rfl

end VectorIndex
