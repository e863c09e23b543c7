import VectorIndex.Bytes
import VectorIndex.Vocabulary
import VectorIndex.Hash.Xxh3
import VectorIndex.Text.Hex

/-!
# The artifact format

An artifact is an exact index in a file: a magic word, a format version, a checksum of
the body, and the body.  The body writes its numbers little-endian with fixed widths,
the metric as its position among the metrics, and each list behind its length.  Octets
after the body are allowed.

The format leaves the checksum open: `encodeWith` and `decodeWith` take it as an
argument, and files use XXH3-64.
-/

set_option autoImplicit false

namespace VectorIndex

/-- The contents of an artifact. -/
structure Artifact where
  metric : Metric
  dimension : UInt64
  efSearch : UInt64
  efConstruction : UInt64
  ids : List Int64
  /-- Components as single-precision patterns, row after row. -/
  vectors : List UInt32
  deriving DecidableEq, Repr

namespace Artifact

/-- The first octets of every artifact. -/
def magic : Bytes := [82, 73, 66, 70, 76, 65, 84, 0]

/-- The version of the format. -/
def version : Nat := 1

/-- The position of a metric in the format. -/
def metricIndex : Metric → Nat
  | .l2 => 0
  | .innerProduct => 1
  | .cosine => 2

/-- The metric at a position. -/
def metricAt : Nat → Option Metric
  | 0 => some .l2
  | 1 => some .innerProduct
  | 2 => some .cosine
  | _ => none

/-- The body of an artifact. -/
def body (a : Artifact) : Bytes :=
  Bytes.digits 4 (metricIndex a.metric) ++
  Bytes.digits 8 a.dimension.toNat ++
  Bytes.digits 8 a.efSearch.toNat ++
  Bytes.digits 8 a.efConstruction.toNat ++
  Bytes.digits 8 a.ids.length ++
  a.ids.flatMap (fun id => Bytes.digits 8 id.toUInt64.toNat) ++
  Bytes.digits 8 a.vectors.length ++
  a.vectors.flatMap (fun x => Bytes.digits 4 x.toNat)

/-- The file of an artifact under a checksum. -/
def encodeWith (checksum : Bytes → UInt64) (a : Artifact) : Bytes :=
  magic ++ Bytes.digits 4 version ++ Bytes.digits 8 (checksum a.body).toNat ++ a.body

/-- The file of an artifact. -/
def encode (a : Artifact) : Bytes :=
  a.encodeWith Xxh3.hash

/-! ## Decoding -/

/-- The refusal of a body that ends too early. -/
def truncated : BuildError :=
  .binary "io error: unexpected end of file"

/-- Reads a number of `w` octets. -/
def takeNumber (w : Nat) (bytes : Bytes) : Except BuildError (Nat × Bytes) :=
  match Bytes.split? w bytes with
  | some (number, rest) => .ok (Bytes.value number, rest)
  | none => .error truncated

/-- Reads a metric. -/
def takeMetric (bytes : Bytes) : Except BuildError (Metric × Bytes) := do
  let (n, rest) ← takeNumber 4 bytes
  match metricAt n with
  | some m => .ok (m, rest)
  | none => .error (.binary
      ("invalid value: integer \u0060" ++ toString n ++
        "\u0060, expected variant index 0 <= i < 3"))

/-- Reads a number of entries of `w` octets each. -/
def takeNumbers (w : Nat) : Nat → Bytes → Except BuildError (List Nat × Bytes)
  | 0, bytes => .ok ([], bytes)
  | n + 1, bytes => do
    let (x, rest) ← takeNumber w bytes
    let (xs, rest) ← takeNumbers w n rest
    return (x :: xs, rest)

/-- Reads a list behind its length. -/
def takeList (w : Nat) (bytes : Bytes) : Except BuildError (List Nat × Bytes) := do
  let (n, rest) ← takeNumber 8 bytes
  takeNumbers w n rest

/-- Reads a body; what follows it is not looked at. -/
def takeBody (bytes : Bytes) : Except BuildError (Artifact × Bytes) := do
  let (metric, rest) ← takeMetric bytes
  let (dimension, rest) ← takeNumber 8 rest
  let (efSearch, rest) ← takeNumber 8 rest
  let (efConstruction, rest) ← takeNumber 8 rest
  let (ids, rest) ← takeList 8 rest
  let (vectors, rest) ← takeList 4 rest
  return ({
    metric
    dimension := UInt64.ofNat dimension
    efSearch := UInt64.ofNat efSearch
    efConstruction := UInt64.ofNat efConstruction
    ids := ids.map fun n => (UInt64.ofNat n).toInt64
    vectors := vectors.map UInt32.ofNat }, rest)

/-- The refusal of a file that is something else. -/
def foreign : BuildError :=
  .persist "not a flat index artifact"

/-- Reads a file whose checksum was made by the given function.  The magic word is checked first,
then the version, then the checksum, then the body. -/
def decodeWith (checksum : Bytes → UInt64) (file : Bytes) : Except BuildError Artifact :=
  match Bytes.split? 20 file with
  | none => .error foreign
  | some (header, body) =>
    if header.take 8 ≠ magic then .error foreign
    else
      let found := Bytes.value ((header.drop 8).take 4)
      if found ≠ version then
        .error (.persist ("unsupported artifact version " ++ toString found))
      else
        let expected := Bytes.value (header.drop 12)
        let actual := (checksum body).toNat
        if expected ≠ actual then
          .error (.persist ("artifact checksum mismatch: expected " ++ Text.Hex.marked expected ++
            ", got " ++ Text.Hex.marked actual))
        else Prod.fst <$> takeBody body

/-- Reads a file. -/
def decode (file : Bytes) : Except BuildError Artifact :=
  decodeWith Xxh3.hash file

end Artifact

end VectorIndex
