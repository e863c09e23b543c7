import VectorIndex.Bytes
import VectorIndex.Grouping
import VectorIndex.Vocabulary
import VectorIndex.Number.Half
import VectorIndex.Number.Word

/-!
# Sinks for downloaded blobs

A sink receives a blob chunk by chunk.  `StagingBuffer` keeps the octets as they
arrive.  `NarrowingBuffer` narrows each little-endian single-precision number to half
precision on the way, so that the wide form is never held; a number that is split over
two chunks waits in the carry.  `VectorSink` is the sink for an element type.

A sink may have a limit on the octets that it receives.  A chunk that would pass the
limit is refused and changes nothing.
-/

set_option autoImplicit false

namespace VectorIndex

/-- What receives a blob. -/
class BlobSink (τ : Type) where
  /-- Takes note of the size of the blob, which is announced before the first chunk. -/
  reserve : UInt64 → τ → τ
  /-- Takes one chunk, or refuses it. -/
  writeChunk : Bytes → τ → Except BuildError Unit × τ
  /-- Is told that the last chunk has been delivered. -/
  finish : τ → Except BuildError Unit × τ
  /-- Octets accepted so far. -/
  received : τ → UInt64

/-- The most octets that a sink makes room for in advance. -/
def maxReserve : Nat := 0x10000000

/-- The room made for an announced size: no more than the limit and no more than `maxReserve`. -/
def reservation (announced : UInt64) (limit : Option UInt64) : Nat :=
  min (min announced.toNat ((limit.map UInt64.toNat).getD announced.toNat)) maxReserve

/-- Whether a chunk stays within the limit. -/
def withinLimit (limit : Option UInt64) (received : UInt64) (size : Nat) : Bool :=
  match limit with
  | some n => (Word.addCapped received (UInt64.ofNat size)).toNat ≤ n.toNat
  | none => true

/-- The refusal of a chunk that passes the limit. -/
def overLimit (limit : Option UInt64) : BuildError :=
  .dataset ("blob is larger than the expected " ++ toString (limit.getD 0).toNat ++ " bytes")

/-- Keeps a blob as it arrives. -/
structure StagingBuffer where
  content : Array UInt8 := #[]
  received : UInt64 := 0
  /-- The most octets that are accepted. -/
  limit : Option UInt64 := none
  /-- Room made in advance. -/
  room : Nat := 0

namespace StagingBuffer

/-- A buffer that refuses a blob of more octets than the limit. -/
def withLimit (limit : UInt64) : StagingBuffer :=
  { limit := some limit }

/-- The octets kept so far. -/
def freeze (b : StagingBuffer) : Bytes :=
  b.content.toList

/-- Makes room for an announced size. -/
def reserve (size : UInt64) (b : StagingBuffer) : StagingBuffer :=
  { b with room := max b.room (reservation size b.limit) }

/-- Appends a chunk that stays within the limit. -/
def writeChunk (chunk : Bytes) (b : StagingBuffer) : Except BuildError Unit × StagingBuffer :=
  if withinLimit b.limit b.received chunk.length then
    (.ok (), { b with
      content := b.content.appendList chunk
      received := b.received + UInt64.ofNat chunk.length })
  else (.error (overLimit b.limit), b)

/-- A buffer is a sink that keeps the octets as they come. -/
instance : BlobSink StagingBuffer where
  reserve := reserve
  writeChunk := writeChunk
  finish b := (.ok (), b)
  received := received

end StagingBuffer

/-- The half-precision octets of a full little-endian single-precision number. -/
def narrowed (number : Bytes) : Bytes :=
  Bytes.digits 2 (Half.ofSingle (UInt32.ofNat (Bytes.value number))).toNat

/-- Narrows a stream of little-endian single-precision numbers. -/
structure NarrowingBuffer where
  content : Array UInt8 := #[]
  /-- The first octets of a number whose rest has not arrived. -/
  carry : Bytes := []
  received : UInt64 := 0
  /-- The most octets that are accepted, counted before narrowing. -/
  limit : Option UInt64 := none
  /-- Room made in advance. -/
  room : Nat := 0
  /-- A full number is not carried. -/
  carry_lt : carry.length < 4 := by decide

namespace NarrowingBuffer

/-- A buffer that refuses a wide blob of more octets than the limit. -/
def withLimit (limit : UInt64) : NarrowingBuffer :=
  { limit := some limit }

/-- The narrowed numbers so far. -/
def freeze (b : NarrowingBuffer) : Bytes :=
  b.content.toList

/-- Makes room for the narrowed form of an announced size. -/
def reserve (size : UInt64) (b : NarrowingBuffer) : NarrowingBuffer :=
  { b with room := max b.room (reservation size b.limit / 2) }

/-- Puts the narrowed form of a number behind the others. -/
def push (b : NarrowingBuffer) (number : Bytes) : NarrowingBuffer :=
  { b with content := b.content.appendList (narrowed number) }

/-- Narrows the full numbers among some octets and carries the rest. -/
def takeNumbers (octets : Bytes) (b : NarrowingBuffer) : NarrowingBuffer :=
  { (Grouping.groups 4 octets).foldl push b with
    carry := octets.drop (octets.length / 4 * 4)
    carry_lt := by rw [List.length_drop]; omega }

/-- Takes octets in.  They complete the number that was begun, if there is one, before the full
numbers among the others are narrowed; octets that are too few for that are carried with it. -/
def absorb (chunk : Bytes) (b : NarrowingBuffer) : NarrowingBuffer :=
  if b.carry.isEmpty then b.takeNumbers chunk
  else
    let missing := 4 - b.carry.length
    let number := b.carry ++ chunk.take missing
    if h : number.length < 4 then { b with carry := number, carry_lt := h }
    else (b.push number).takeNumbers (chunk.drop missing)

/-- Takes the octets of a chunk that stays within the limit. -/
def writeChunk (chunk : Bytes) (b : NarrowingBuffer) : Except BuildError Unit × NarrowingBuffer :=
  if withinLimit b.limit b.received chunk.length then
    (.ok (), absorb chunk { b with received := b.received + UInt64.ofNat chunk.length })
  else (.error (overLimit b.limit), b)

/-- Refuses a blob that ends inside a number. -/
def finish (b : NarrowingBuffer) : Except BuildError Unit × NarrowingBuffer :=
  if b.carry.isEmpty then (.ok (), b)
  else
    (.error (.dataset
      ("f32 vector blob ended with " ++ toString b.carry.length ++ " dangling bytes")), b)

/-- A narrowing buffer is a sink that keeps each number as a half. -/
instance : BlobSink NarrowingBuffer where
  reserve := reserve
  writeChunk := writeChunk
  finish := finish
  received := received

end NarrowingBuffer

/-- The sink for vectors of some element type. -/
inductive VectorSink where
  | raw (buffer : StagingBuffer)
  | narrowing (buffer : NarrowingBuffer)

namespace VectorSink

/-- Half-precision vectors are narrowed while they arrive, all others are kept as they are. -/
def forElements (elementType : ElementType) (limit : UInt64) : VectorSink :=
  match elementType with
  | .float16 => .narrowing (.withLimit limit)
  | _ => .raw (.withLimit limit)

/-- The staged octets. -/
def freeze : VectorSink → Bytes
  | .raw b => b.freeze
  | .narrowing b => b.freeze

/-- The sink for vectors is one of its two buffers. -/
instance : BlobSink VectorSink where
  reserve
    | size, .raw b => .raw (b.reserve size)
    | size, .narrowing b => .narrowing (b.reserve size)
  writeChunk
    | chunk, .raw b => let (r, b) := b.writeChunk chunk; (r, .raw b)
    | chunk, .narrowing b => let (r, b) := b.writeChunk chunk; (r, .narrowing b)
  finish
    | .raw b => (.ok (), .raw b)
    | .narrowing b => let (r, b) := b.finish; (r, .narrowing b)
  received
    | .raw b => b.received
    | .narrowing b => b.received

end VectorSink

/-- A sink without a limit that has nothing to do at the start and at the end of a blob. -/
structure Collector where
  content : Array UInt8 := #[]
  received : UInt64 := 0

namespace Collector

/-- The octets collected so far. -/
def freeze (c : Collector) : Bytes :=
  c.content.toList

/-- A collector is a sink that takes everything. -/
instance : BlobSink Collector where
  reserve _ c := c
  writeChunk chunk c :=
    (.ok (), { content := c.content.appendList chunk
               received := c.received + UInt64.ofNat chunk.length })
  finish c := (.ok (), c)
  received := received

end Collector

end VectorIndex
