import VectorIndex.Blob.Store
import VectorIndex.Grouping

/-!
# Uploads in parts

Octets are collected until they make a full part, and every full part is handed to the
backend at once.  How a part fared is looked at later: before more octets are written,
when too many parts are on their way, and at the end, where all of them are.
-/

set_option autoImplicit false

namespace VectorIndex

/-- An upload that is under way. -/
structure Upload where
  ticket : UploadTicket
  /-- Size of a full part. -/
  chunk : Nat
  /-- Octets that do not make a full part yet. -/
  buffer : Bytes := []
  /-- How the parts fared that nobody has asked about, the oldest first. -/
  inFlight : List (Except StoreError Unit) := []
  /-- Parts handed over so far. -/
  sent : Nat := 0

namespace Upload

variable {σ : Type}

/-- Hands a part to the backend. -/
def sendPart (store : ObjectStore σ) (part : Bytes) (u : Upload) (m : Medium σ) :
    Upload × Medium σ :=
  let (r, m) := store.putPart u.ticket (u.sent + 1) part m
  ({ u with inFlight := u.inFlight ++ [r], sent := u.sent + 1 }, m)

/-- Hands parts to the backend, one after the other. -/
def sendParts (store : ObjectStore σ) : List Bytes → Upload → Medium σ → Upload × Medium σ
  | [], u, m => (u, m)
  | part :: parts, u, m =>
    let (u, m) := u.sendPart store part m
    sendParts store parts u m

/-- Takes more octets and hands over the parts that become full. -/
def write (store : ObjectStore σ) (bytes : Bytes) (u : Upload) (m : Medium σ) :
    Upload × Medium σ :=
  let pending := u.buffer ++ bytes
  let full := Grouping.groups u.chunk pending
  sendParts store full { u with buffer := pending.drop (full.length * u.chunk) } m

/-- Looks at the oldest parts in flight until fewer than the limit are left; the first failure ends
the search. -/
def settle (limit : Nat) :
    List (Except StoreError Unit) → Except StoreError Unit × List (Except StoreError Unit)
  | [] => (.ok (), [])
  | r :: rest =>
    if limit ≤ rest.length + 1 then
      match r with
      | .ok () => settle limit rest
      | .error e => (.error e, rest)
    else (.ok (), r :: rest)

/-- Waits until fewer than the limit of parts are in flight. -/
def await (limit : Nat) (u : Upload) : Except StoreError Unit × Upload :=
  let (r, inFlight) := settle limit u.inFlight
  (r, { u with inFlight })

/-- Hands over what is left, waits for all parts and completes the upload.  A failed part is
reported as it is; a failed completion aborts the upload, and should that fail too, this is what is
reported. -/
def finish (store : ObjectStore σ) (u : Upload) (m : Medium σ) :
    Except StoreError Unit × Medium σ :=
  let (u, m) :=
    if u.buffer.isEmpty then (u, m) else { u with buffer := [] }.sendPart store u.buffer m
  match u.await 0 with
  | (.error e, _) => (.error e, m)
  | (.ok (), u) =>
    match store.complete u.ticket m with
    | (.ok (), m) => (.ok (), m)
    | (.error e, m) =>
      match store.abort u.ticket m with
      | (.ok (), m) => (.error e, m)
      | (.error e, m) => (.error e, m)

end Upload

end VectorIndex
