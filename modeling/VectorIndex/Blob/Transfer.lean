import VectorIndex.Bytes

/-!
# Transfer settings

How blobs are cut up on their way to and from a store.
-/

set_option autoImplicit false

namespace VectorIndex

/-- Chunking and concurrency of transfers. -/
structure TransferSettings where
  /-- Size of the parts of an upload. -/
  multipartChunk : UInt64 := 10 * 1024 * 1024
  /-- Artifacts of at least this size are uploaded in parts. -/
  multipartThreshold : UInt64 := 10 * 1024 * 1024
  /-- Parts in flight at once. -/
  maxConcurrency : UInt64 := 2
  /-- Octets that are read from a file at once. -/
  ioChunk : UInt64 := 256 * 1024
  /-- Octets per second, if there is a bound. -/
  maxBandwidth : Option UInt64 := none
  deriving DecidableEq, Repr

/-- A description for logs. -/
def TransferSettings.describe (t : TransferSettings) : String :=
  let bandwidth := match t.maxBandwidth with
    | some n => "Some(" ++ toString n.toNat ++ ")"
    | none => "None"
  "TransferConfig \x7b multipart_chunksize: " ++ toString t.multipartChunk.toNat ++
    ", multipart_threshold: " ++ toString t.multipartThreshold.toNat ++
    ", max_concurrency: " ++ toString t.maxConcurrency.toNat ++
    ", io_chunksize: " ++ toString t.ioChunk.toNat ++
    ", max_bandwidth: " ++ bandwidth ++ ", unknown: \x7b\x7d \x7d"

end VectorIndex
