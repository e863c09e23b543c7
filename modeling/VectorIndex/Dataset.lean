import VectorIndex.Grouping
import VectorIndex.Request.Plan
import VectorIndex.Bytes
import VectorIndex.Number.Half
import VectorIndex.Number.Single

/-!
# Datasets

A dataset is a view of two staged buffers as document ids and rows of components.  The
buffers have exactly the sizes that the declared shape asks for: this is part of the
type, so that every row of a dataset can be cut out of its buffer.  A dataset can be
released, after which the buffers are gone and the shape is kept.
-/

set_option autoImplicit false

namespace VectorIndex

/-- The two staged buffers of a build. -/
structure StagedBuffers where
  vectors : Bytes
  docIds : Bytes
  deriving DecidableEq, Repr

/-- Whether buffers have the sizes of a shape. -/
def StagedBuffers.Fits (b : StagedBuffers) (docCount dimension : UInt64) (elementType : ElementType) :
    Prop :=
  b.docIds.length = docCount.toNat * docIdSize.toNat ∧
    b.vectors.length = docCount.toNat * dimension.toNat * elementType.stagedSize.toNat

/-- Staged vectors and document ids of a declared shape. -/
structure Dataset where
  dimension : UInt64
  docCount : UInt64
  elementType : ElementType
  /-- The buffers, until they are released. -/
  buffers : Option StagedBuffers
  /-- Buffers have the sizes of the shape. -/
  fits : ∀ b, buffers = some b → b.Fits docCount dimension elementType

namespace Dataset

/-- The refusal of a shape whose buffers cannot be addressed. -/
def tooLarge (dimension docCount : UInt64) : BuildError :=
  .dataset (toString docCount.toNat ++ " x " ++ toString dimension.toNat ++ " is too large")

/-- The refusal of an access after the release. -/
def releasedError : BuildError :=
  .dataset "dataset buffers have been released"

/-- The size of the buffer of ids, and that of the buffer of vectors. -/
def expectedVectors (dimension docCount : UInt64) (elementType : ElementType) : Option UInt64 :=
  (Word.mul? docCount dimension).bind (Word.mul? · elementType.stagedSize)

/-- The number of octets that is expected is the product of the three factors, without overflow. -/
theorem toNat_of_expectedVectors {dimension docCount n : UInt64} {elementType : ElementType}
    (h : expectedVectors dimension docCount elementType = some n) :
    docCount.toNat * dimension.toNat * elementType.stagedSize.toNat = n.toNat := by
  obtain ⟨k, hk, hn⟩ := Option.bind_eq_some_iff.1 h
  rw [Word.mul?_eq_some_iff.1 hk, Word.mul?_eq_some_iff.1 hn]

/-- Wraps staged buffers after checking their sizes against the shape, the ids first. -/
def ofBuffers (vectors docIds : Bytes) (dimension docCount : UInt64) (elementType : ElementType) :
    Except BuildError Dataset :=
  match hi : Word.mul? docCount docIdSize with
  | none => .error (tooLarge dimension docCount)
  | some expectedIds =>
    if hids : docIds.length = expectedIds.toNat then
      match hv : expectedVectors dimension docCount elementType with
      | none => .error (tooLarge dimension docCount)
      | some expected =>
        if hvec : vectors.length = expected.toNat then
          .ok { dimension, docCount, elementType, buffers := some { vectors, docIds }
                fits := fun b hb => by
                  cases hb
                  exact ⟨hids.trans (Word.mul?_eq_some_iff.1 hi).symm,
                    hvec.trans (toNat_of_expectedVectors hv).symm⟩ }
        else .error (.dataset
          ("vector blob holds " ++ toString vectors.length ++ " bytes, expected " ++
            toString expected.toNat ++ " for " ++ toString docCount.toNat ++ " x " ++
            toString dimension.toNat ++ " " ++ elementType.name ++ " vectors"))
    else .error (.dataset
      ("doc id blob holds " ++ toString docIds.length ++ " bytes, expected " ++
        toString expectedIds.toNat ++ " for " ++ toString docCount.toNat ++ " documents"))

/-- Whether the buffers are gone. -/
def isReleased (d : Dataset) : Bool :=
  d.buffers.isNone

/-- Drops the buffers and keeps the shape. -/
def release (d : Dataset) : Dataset :=
  { d with buffers := none, fits := fun _ h => by cases h }

/-- The staged buffers, while they are there. -/
def staged (d : Dataset) : Except BuildError StagedBuffers :=
  match d.buffers with
  | some b => .ok b
  | none => .error releasedError

/-- The staged vectors, row after row. -/
def vectorBytes (d : Dataset) : Except BuildError Bytes :=
  (·.vectors) <$> d.staged

/-- The staged document ids. -/
def docIdBytes (d : Dataset) : Except BuildError Bytes :=
  (·.docIds) <$> d.staged

/-- The ids that a buffer of little-endian signed 32-bit numbers holds. -/
def idsOf (bytes : Bytes) : List Int64 :=
  (Grouping.groups 4 bytes).map fun b => Int64.ofInt (Bytes.signedValue b)

/-- The document ids in staging order. -/
def docIds (d : Dataset) : Except BuildError (List Int64) :=
  idsOf <$> d.docIdBytes

/-- The components that staged octets hold, widened to single precision. -/
def componentsOf (elementType : ElementType) (bytes : Bytes) : List UInt32 :=
  match elementType with
  | .float => (Grouping.groups 4 bytes).map fun b => UInt32.ofNat (Bytes.value b)
  | .float16 => (Grouping.groups 2 bytes).map fun b => Half.toSingle (UInt16.ofNat (Bytes.value b))
  | .byte => bytes.map fun b => Single.ofInt (Bytes.signedValue [b])
  | .binary => bytes.map fun b => Single.ofInt b.toNat

/-- The refusal of a row that there is not. -/
def noSuchRow (d : Dataset) (i : Nat) : BuildError :=
  .dataset
    ("row " ++ toString i ++ " out of range for " ++ toString d.docCount.toNat ++ " documents")

/-- One row, widened to single precision. -/
def row (d : Dataset) (i : Nat) : Except BuildError (List UInt32) :=
  if i < d.docCount.toNat then do
    let bytes ← d.vectorBytes
    let stride := d.dimension.toNat * d.elementType.stagedSize.toNat
    return componentsOf d.elementType ((bytes.drop (i * stride)).take stride)
  else .error (d.noSuchRow i)

/-- The octets between two places of a buffer that come in this order. -/
def stretch? (start stop : UInt64) (bytes : Bytes) : Option Bytes :=
  if start ≤ stop ∧ stop.toNat ≤ bytes.length then
    some ((bytes.take stop.toNat).drop start.toNat)
  else none

/-- One row as it is read.  Where it starts and stops is computed in words; the computation ends
when this needs more than 64 bits, or when the row does not lie within the buffer. -/
def readRow (d : Dataset) (i : UInt64) : Except Abort (Except BuildError (List UInt32)) :=
  if d.docCount ≤ i then .ok (.error (d.noSuchRow i.toNat))
  else do
    let stride ← Abort.overflow.unless (Word.mul? d.dimension d.elementType.stagedSize)
    match d.vectorBytes with
    | .error e => return .error e
    | .ok bytes =>
      let start ← Abort.overflow.unless (Word.mul? i stride)
      let next ← Abort.overflow.unless (Word.add? i 1)
      let stop ← Abort.overflow.unless (Word.mul? next stride)
      let octets ← Abort.outOfRange.unless (stretch? start stop bytes)
      return .ok (componentsOf d.elementType octets)

/-- All rows, one after the other. -/
def components (d : Dataset) : Except BuildError (List UInt32) :=
  List.flatten <$> (List.range d.docCount.toNat).mapM d.row

end Dataset

end VectorIndex
