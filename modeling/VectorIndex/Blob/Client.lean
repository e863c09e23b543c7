import VectorIndex.Blob.Sink
import VectorIndex.Blob.Transfer
import VectorIndex.Blob.Upload
import VectorIndex.Run.Workspace
import VectorIndex.Telemetry.Event

/-!
# Reading and writing blobs

A `BlobClient` is what a run sees of a store: it opens blobs for reading and uploads
artifacts, both by path.  `Download` is a read under way.  It moves in steps, one for
the opening, one for each chunk and one for the end, so that two reads can be interleaved;
`BlobClient.read` takes all its steps in a row.  A read is complete only when every chunk
was accepted, the announced size was met and the sink agreed to the end.

`Transport` is the client over an object store.  Small artifacts are stored at once,
others in parts.
-/

set_option autoImplicit false

namespace VectorIndex

/-- Everything outside of a run that its transfers touch. -/
structure Site (σ : Type) extends Medium σ where
  /-- What happened so far, the oldest first. -/
  log : List Event := []

/-- Adds an event to the log. -/
def Site.record {σ : Type} (s : Site σ) (e : Event) : Site σ :=
  { s with log := s.log ++ [e] }

/-- A blob that was opened for reading. -/
structure Delivery where
  announced : UInt64
  chunks : List Bytes
  /-- A failure after the last chunk. -/
  fault : Option BuildError := none

/-- What a run sees of a store. -/
structure BlobClient (σ : Type) where
  /-- Octets per second that a download may deliver, if there is a bound. -/
  rate : Option UInt64 := none
  /-- Opens a blob for reading. -/
  openBlob : String → Medium σ → Except BuildError Delivery × Medium σ
  /-- Uploads an artifact and says how many octets it has. -/
  upload : ArtifactSource → String → Medium σ → Except BuildError Nat × Medium σ

/-! ## Downloads -/

/-- A read under way into a sink. -/
inductive Download (τ : Type) where
  | opening (sink : τ)
  | streaming (announced : Nat) (chunks : List Bytes) (fault : Option BuildError) (read : Nat)
      (sink : τ)
  | ended (result : Except BuildError Nat) (sink : τ)

namespace Download

variable {σ τ : Type} [BlobSink τ]

/-- The sink of a read. -/
def sink : Download τ → τ
  | .opening sink => sink
  | .streaming _ _ _ _ sink => sink
  | .ended _ sink => sink

/-- The result of a read that has ended. -/
def result? : Download τ → Option (Except BuildError Nat)
  | .ended result _ => some result
  | _ => none

/-- Steps until the end, once the blob has been opened. -/
def remaining : Download τ → Nat
  | .opening _ => 1
  | .streaming _ chunks _ _ _ => chunks.length + 1
  | .ended .. => 0

/-- Milliseconds from the start of a read until its next step is due.  With a bound on its rate, a
read waits until it may have delivered what it has; a wait that would take less than a microsecond
is over before it begins. -/
def due (rate : Option UInt64) : Download τ → Nat
  | .streaming _ _ _ read _ =>
    match rate with
    | none => 0
    | some perSecond =>
      let nanoseconds := read * 1000000000 / perSecond.toNat
      if nanoseconds < 1000 then 0 else (nanoseconds + 999999) / 1000000
  | _ => 0

/-- The refusal of a blob of which more or less than the announced size was delivered. -/
def shortRead (path : String) (read announced : Nat) : BuildError :=
  .blobRead path
    ("short read: " ++ toString read ++ " of " ++ toString announced ++ " bytes")

/-- One step of a read. -/
def step (client : BlobClient σ) (path : String) (d : Download τ) (s : Site σ) :
    Download τ × Site σ :=
  match d with
  | .opening sink =>
    match client.openBlob path s.toMedium with
    | (.error e, m) => (.ended (.error e) sink, { s with toMedium := m })
    | (.ok blob, m) =>
      (.streaming blob.announced.toNat blob.chunks blob.fault 0 (BlobSink.reserve blob.announced sink),
        { s with toMedium := m })
  | .streaming announced (chunk :: chunks) fault read sink =>
    match BlobSink.writeChunk chunk sink with
    | (.error e, sink) => (.ended (.error e) sink, s)
    | (.ok (), sink) => (.streaming announced chunks fault (read + chunk.length) sink, s)
  | .streaming announced [] fault read sink =>
    match fault with
    | some e => (.ended (.error e) sink, s)
    | none =>
      if read ≠ announced then (.ended (.error (shortRead path read announced)) sink, s)
      else
        match BlobSink.finish sink with
        | (.error e, sink) => (.ended (.error e) sink, s)
        | (.ok (), sink) => (.ended (.ok read) sink, s.record (.blobRead read))
  | .ended result sink => (.ended result sink, s)

/-- A number of steps. -/
def steps (client : BlobClient σ) (path : String) : Nat → Download τ → Site σ → Download τ × Site σ
  | 0, d, s => (d, s)
  | n + 1, d, s =>
    let (d, s) := d.step client path s
    steps client path n d s

/-- All steps of a read that has been opened. -/
def drain (client : BlobClient σ) (path : String) (d : Download τ) (s : Site σ) :
    Download τ × Site σ :=
  d.steps client path d.remaining s

end Download

namespace BlobClient

variable {σ τ : Type} [BlobSink τ]

/-- Reads a blob into a sink and says how many octets it had. -/
def read (client : BlobClient σ) (path : String) (sink : τ) (s : Site σ) :
    Except BuildError Nat × τ × Site σ :=
  let (d, s) := (Download.opening sink).step client path s
  let (d, s) := d.drain client path s
  ((d.result?).getD (.ok 0), d.sink, s)

/-- Uploads an artifact. -/
def write (client : BlobClient σ) (source : ArtifactSource) (path : String) (s : Site σ) :
    Except BuildError Unit × Site σ :=
  match client.upload source path s.toMedium with
  | (.ok size, m) => (.ok (), { s with toMedium := m }.record (.blobWritten size))
  | (.error e, m) => (.error e, { s with toMedium := m })

/-- Uploads an artifact and says where it is. -/
def writeBlob (client : BlobClient σ) (source : ArtifactSource) (path : String) (s : Site σ) :
    Except BuildError String × Site σ :=
  match client.write source path s with
  | (.ok (), s) => (.ok path, s)
  | (.error e, s) => (.error e, s)

/-- Refuses to open any blob. -/
def refusingReads (client : BlobClient σ) : BlobClient σ :=
  { client with openBlob := fun path m => (.error (.blobRead path "injected read failure"), m) }

/-- Refuses to upload anything. -/
def refusingWrites (client : BlobClient σ) : BlobClient σ :=
  { client with upload := fun _ path m => (.error (.blobWrite path "injected write failure"), m) }

end BlobClient

/-! ## Files -/

/-- What an opened file gives to those who read it. -/
structure FileReading where
  /-- The size of the file when it was opened. -/
  size : Nat
  content : Bytes
  /-- A failure of the read after the content. -/
  fault : Option BuildError := none

/-- How files are opened for reading and measured. -/
structure FileAccess where
  openFile : Disk → String → Except BuildError FileReading
  size : Disk → String → Except BuildError Nat

/-- The size of a file as the operating system reports it. -/
def FileAccess.sizeOnDisk (d : Disk) (path : String) : Except BuildError Nat :=
  match d.sizeAt path with
  | .ok size => .ok size
  | .error e => .error (.io e.message)

/-- Files on a disk that is in order.  A directory can be opened, but not read. -/
def FileAccess.plain : FileAccess where
  openFile d path := do
    let size ← sizeOnDisk d path
    match d.readFile path with
    | .ok content => .ok { size, content }
    | .error e => .ok { size, content := [], fault := some (.io e.message) }
  size := sizeOnDisk

/-! ## Transports -/

/-- An object store together with the way in which blobs are moved. -/
structure Transport (σ : Type) where
  store : ObjectStore σ
  transfer : TransferSettings := {}
  /-- Log the progress of transfers. -/
  debug : Bool := false

namespace Transport

variable {σ : Type}

/-- A description for logs. -/
def describe (t : Transport σ) : String :=
  "BlobStore \x7b inner: " ++ Text.quoted t.store.name ++ ", transfer: " ++ t.transfer.describe ++
    ", debug: " ++ (if t.debug then "true" else "false") ++ " \x7d"

/-- Opens an object.  That it does not exist is told apart from all other failures. -/
def openBlob (t : Transport σ) (path : String) (m : Medium σ) :
    Except BuildError Delivery × Medium σ :=
  match ObjectPath.parse path with
  | .error e => (.error (.storagePath e), m)
  | .ok location =>
    match t.store.get location m with
    | (.error (.notFound ..), m) => (.error (.notFound path), m)
    | (.error e, m) => (.error (.blobRead path e.message), m)
    | (.ok f, m) =>
      (.ok { announced := f.size, chunks := f.chunks
             fault := f.fault.map fun e => .blobRead path e.message }, m)

/-- Writes pieces into an upload.  Before each piece, parts are waited for; when one has failed, the
upload is aborted. -/
def sendPieces (t : Transport σ) : List Bytes → Upload → Medium σ → Except StoreError Upload × Medium σ
  | [], u, m => (.ok u, m)
  | piece :: pieces, u, m =>
    match u.await t.transfer.maxConcurrency.toNat with
    | (.error e, u) => (.error e, (t.store.abort u.ticket m).2)
    | (.ok (), u) =>
      let (u, m) := u.write t.store piece m
      sendPieces t pieces u m

/-- Uploads pieces in parts; `whole` says whether the pieces are all there is. -/
def sendParts (t : Transport σ) (location : ObjectPath) (pieces : List Bytes)
    (whole : Except BuildError Unit) (m : Medium σ) : Except BuildError Unit × Medium σ :=
  match t.store.startUpload location m with
  | (.error e, m) => (.error (.storage e), m)
  | (.ok ticket, m) =>
    match t.sendPieces pieces { ticket, chunk := t.transfer.multipartChunk.toNat } m with
    | (.error e, m) => (.error (.storage e), m)
    | (.ok u, m) =>
      match whole with
      | .error e => (.error e, (t.store.abort u.ticket m).2)
      | .ok () =>
        match u.finish t.store m with
        | (.ok (), m) => (.ok (), m)
        | (.error e, m) => (.error (.storage e), m)

/-- Stores an object at once. -/
def sendWhole (t : Transport σ) (location : ObjectPath) (content : Bytes) (m : Medium σ) :
    Except BuildError Unit × Medium σ :=
  match t.store.put location content m with
  | (.ok (), m) => (.ok (), m)
  | (.error e, m) => (.error (.storage e), m)

/-- Uploads a buffer: below the threshold at once, else in parts. -/
def sendBuffer (t : Transport σ) (location : ObjectPath) (content : Bytes) (m : Medium σ) :
    Except BuildError Unit × Medium σ :=
  if content.length < t.transfer.multipartThreshold.toNat then t.sendWhole location content m
  else t.sendParts location (Grouping.pieces t.transfer.ioChunk.toNat content) (.ok ()) m

/-- Uploads what is read from a file in the same way.  A file of which less than its size could be
read is not stored. -/
def sendReading (t : Transport σ) (location : ObjectPath) (reading : FileReading) (m : Medium σ) :
    Except BuildError Unit × Medium σ :=
  if t.transfer.multipartThreshold.toNat ≤ reading.size then
    let pieces := Grouping.pieces t.transfer.ioChunk.toNat reading.content
    let sent := pieces.flatten.length
    let whole : Except BuildError Unit :=
      match reading.fault with
      | some e => .error e
      | none =>
        if sent = reading.size then .ok ()
        else .error (.blobWrite location.text
          ("file changed during upload: read " ++ toString sent ++ " of " ++
            toString reading.size ++ " bytes"))
    t.sendParts location pieces whole m
  else
    match reading.fault with
    | some e => (.error e, m)
    | none => t.sendWhole location reading.content m

/-- Uploads a file. -/
def sendFile (t : Transport σ) (files : FileAccess) (location : ObjectPath) (path : String)
    (m : Medium σ) : Except BuildError Unit × Medium σ :=
  match files.openFile m.disk path with
  | .error e => (.error e, m)
  | .ok reading => t.sendReading location reading m

/-- Uploads an artifact and says how many octets it has. -/
def uploadWith (t : Transport σ) (files : FileAccess) (source : ArtifactSource) (path : String)
    (m : Medium σ) : Except BuildError Nat × Medium σ :=
  match ObjectPath.parse path with
  | .error e => (.error (.storagePath e), m)
  | .ok location =>
    match source with
    | .buffer content =>
      match t.sendBuffer location content m with
      | (.ok (), m) => (.ok content.length, m)
      | (.error e, m) => (.error e, m)
    | .file file =>
      match t.sendFile files location file m with
      | (.error e, m) => (.error e, m)
      | (.ok (), m) => (files.size m.disk file, m)

/-- Uploads an artifact from a disk that is in order. -/
def upload (t : Transport σ) : ArtifactSource → String → Medium σ →
    Except BuildError Nat × Medium σ :=
  t.uploadWith .plain

/-- The client over an object store, with files that are read in some way. -/
def clientWith (t : Transport σ) (files : FileAccess) : BlobClient σ where
  rate := t.transfer.maxBandwidth
  openBlob := t.openBlob
  upload := t.uploadWith files

/-- The client over an object store. -/
def client (t : Transport σ) : BlobClient σ :=
  t.clientWith .plain

end Transport

end VectorIndex
