import VectorIndex.Blob.Client

/-!
# What all operations of a store keep

Whatever the operations of a store keep, uploads keep (`Transport.kept_upload`).  A store may have
to keep something for some locations only, and for the uploads in parts that were started at these:
an upload is for one location, and every part of it goes to the upload that it started.
-/

set_option autoImplicit false

namespace VectorIndex

variable {σ : Type}

/-- The operations of a store keep something, as long as they are for locations that are admitted
and for uploads in parts that were started there. -/
structure ObjectStore.KeepsAt (store : ObjectStore σ) (P : Medium σ → Prop)
    (admits : ObjectPath → Prop) (owns : UploadTicket → Prop) : Prop where
  put : ∀ {m} location content, admits location → P m → P (store.put location content m).2
  startUpload : ∀ {m} location, admits location → P m → P (store.startUpload location m).2 ∧
    ∀ ticket, (store.startUpload location m).1 = .ok ticket → owns ticket
  putPart : ∀ {m} ticket n part, owns ticket → P m → P (store.putPart ticket n part m).2
  complete : ∀ {m} ticket, owns ticket → P m → P (store.complete ticket m).2
  abort : ∀ {m} ticket, owns ticket → P m → P (store.abort ticket m).2

namespace Upload

variable {store : ObjectStore σ} {P : Medium σ → Prop} {admits : ObjectPath → Prop}
  {owns : UploadTicket → Prop} {m : Medium σ}

/-- Parts go to the same upload. -/
theorem ticket_sendParts (store : ObjectStore σ) (parts : List Bytes) (u : Upload) (m : Medium σ) :
    (u.sendParts store parts m).1.ticket = u.ticket := by
  induction parts generalizing u m with
  | nil => rfl
  | cons part parts ih => exact ih _ _

/-- What each part keeps is kept by parts in a row. -/
theorem kept_sendParts (hkeeps : store.KeepsAt P admits owns) (parts : List Bytes) (u : Upload)
    (howns : owns u.ticket) (h : P m) : P (u.sendParts store parts m).2 := by
  induction parts generalizing u m with
  | nil => exact h
  | cons part parts ih => exact ih _ howns (hkeeps.putPart u.ticket (u.sent + 1) part howns h)

/-- To finish an upload keeps what its parts and its end keep. -/
theorem kept_finish (hkeeps : store.KeepsAt P admits owns) (u : Upload) (howns : owns u.ticket)
    (h : P m) : P (u.finish store m).2 := by
  have hlast : owns (if u.buffer.isEmpty then (u, m)
      else ({ u with buffer := [] } : Upload).sendPart store u.buffer m).1.ticket ∧
      P (if u.buffer.isEmpty then (u, m)
        else ({ u with buffer := [] } : Upload).sendPart store u.buffer m).2 := by
    split
    · exact ⟨howns, h⟩
    · exact ⟨howns, hkeeps.putPart _ _ _ howns h⟩
  unfold finish
  generalize (if u.buffer.isEmpty then (u, m)
    else ({ u with buffer := [] } : Upload).sendPart store u.buffer m) = sent at hlast
  obtain ⟨u', m'⟩ := sent
  dsimp only [await] at hlast ⊢
  obtain ⟨howns', h'⟩ := hlast
  split
  · exact h'
  next u'' heq =>
  obtain rfl : { u' with inFlight := (settle 0 u'.inFlight).2 } = u'' := congrArg Prod.snd heq
  have hcomplete := hkeeps.complete u'.ticket howns' h'
  split
  · next heq =>
    rw [heq] at hcomplete
    exact hcomplete
  · next heq =>
    rw [heq] at hcomplete
    have habort := hkeeps.abort u'.ticket howns' hcomplete
    split
    · next heq' =>
      rw [heq'] at habort
      exact habort
    · next heq' =>
      rw [heq'] at habort
      exact habort

end Upload

namespace Transport

variable {t : Transport σ} {P : Medium σ → Prop} {admits : ObjectPath → Prop}
  {owns : UploadTicket → Prop} {m : Medium σ} {location : ObjectPath}

/-- Pieces that are sent keep it, and the upload stays at a location that is admitted. -/
theorem kept_sendPieces (hkeeps : t.store.KeepsAt P admits owns) (pieces : List Bytes) (u : Upload)
    (howns : owns u.ticket) (h : P m) :
    P (t.sendPieces pieces u m).2 ∧
      ∀ u', (t.sendPieces pieces u m).1 = .ok u' → owns u'.ticket := by
  induction pieces generalizing u m with
  | nil =>
    refine ⟨h, fun u' heq => ?_⟩
    cases heq
    exact howns
  | cons piece pieces ih =>
    unfold sendPieces
    dsimp only [Upload.await]
    split
    · next u' heq =>
      obtain rfl := congrArg Prod.snd heq
      exact ⟨hkeeps.abort _ howns h, nofun⟩
    · next u' heq =>
      obtain rfl := congrArg Prod.snd heq
      refine ih _ ?_ (Upload.kept_sendParts hkeeps _ _ howns h)
      unfold Upload.write
      rw [Upload.ticket_sendParts]
      exact howns

/-- An upload in parts keeps it from its start to its end. -/
theorem kept_sendParts (hkeeps : t.store.KeepsAt P admits owns) (hadmits : admits location)
    (pieces : List Bytes) (whole : Except BuildError Unit) (h : P m) :
    P (t.sendParts location pieces whole m).2 := by
  have hstart := hkeeps.startUpload location hadmits h
  unfold sendParts
  split
  · next heq =>
    rw [heq] at hstart
    exact hstart.1
  next ticket m₁ heq =>
  rw [heq] at hstart
  have hpieces := kept_sendPieces hkeeps pieces
    { ticket, chunk := t.transfer.multipartChunk.toNat } (hstart.2 ticket rfl) hstart.1
  split
  · next heq' =>
    rw [heq'] at hpieces
    exact hpieces.1
  next u m₂ heq' =>
  rw [heq'] at hpieces
  obtain ⟨hsent, howns⟩ := hpieces
  split
  · exact hkeeps.abort u.ticket (howns u rfl) hsent
  · have hfinish := Upload.kept_finish hkeeps u (howns u rfl) hsent
    split
    · next heq'' =>
      rw [heq''] at hfinish
      exact hfinish
    · next heq'' =>
      rw [heq''] at hfinish
      exact hfinish

/-- An object that is put at once keeps it. -/
theorem kept_sendWhole (hkeeps : t.store.KeepsAt P admits owns) (hadmits : admits location)
    (content : Bytes) (h : P m) : P (t.sendWhole location content m).2 := by
  have hput := hkeeps.put location content hadmits h
  unfold sendWhole
  split
  · next heq =>
    rw [heq] at hput
    exact hput
  · next heq =>
    rw [heq] at hput
    exact hput

/-- A buffer that is sent keeps it. -/
theorem kept_sendBuffer (hkeeps : t.store.KeepsAt P admits owns) (hadmits : admits location)
    (content : Bytes) (h : P m) : P (t.sendBuffer location content m).2 := by
  unfold sendBuffer
  split
  · exact kept_sendWhole hkeeps hadmits content h
  · exact kept_sendParts hkeeps hadmits _ _ h

/-- An open file that is sent keeps it. -/
theorem kept_sendReading (hkeeps : t.store.KeepsAt P admits owns) (hadmits : admits location)
    (reading : FileReading) (h : P m) : P (t.sendReading location reading m).2 := by
  unfold sendReading
  split
  · exact kept_sendParts hkeeps hadmits _ _ h
  · split
    · exact h
    · exact kept_sendWhole hkeeps hadmits _ h

/-- A file that is sent keeps it, also if it cannot be opened. -/
theorem kept_sendFile (hkeeps : t.store.KeepsAt P admits owns) (hadmits : admits location)
    (files : FileAccess) (path : String) (h : P m) : P (t.sendFile files location path m).2 := by
  unfold sendFile
  split
  · exact h
  · exact kept_sendReading hkeeps hadmits _ h

/-- What the operations of a store keep at the location of a path, an upload to that path keeps. -/
theorem kept_upload (hkeeps : t.store.KeepsAt P admits owns) (source : ArtifactSource)
    (path : String) (hadmits : ∀ location, ObjectPath.parse path = .ok location → admits location)
    (h : P m) : P (t.upload source path m).2 := by
  unfold upload uploadWith
  split
  · exact h
  next location hparse =>
  split
  · next content =>
    have hsend := kept_sendBuffer hkeeps (hadmits location hparse) content h
    split
    · next heq =>
      rw [heq] at hsend
      exact hsend
    · next heq =>
      rw [heq] at hsend
      exact hsend
  · next file =>
    have hsend := kept_sendFile hkeeps (hadmits location hparse) .plain file h
    split
    · next heq =>
      rw [heq] at hsend
      exact hsend
    · next heq =>
      rw [heq] at hsend
      exact hsend

end Transport

end VectorIndex
