import VectorIndex.Artifact.Codec
import VectorIndex.Grouping
import VectorIndex.Number.Single

/-!
# Searching an artifact

Every row that has an id is scored against the query, the scores are sorted by the total
order of single-precision numbers, and the first ones are returned.  The sort is stable,
so rows of equal score keep their order.  For every metric a smaller score is closer.
-/

set_option autoImplicit false

namespace VectorIndex

/-- Sums of products over the components that two vectors have in common. -/
def dotProduct (a b : List Float32) : Float32 :=
  Single.sum (a.zipWith (· * ·) b)

/-- The score of a row: a smaller one is closer.  Against a vector of length zero the cosine
distance is one. -/
def Metric.score (metric : Metric) (query row : List Float32) : Float32 :=
  match metric with
  | .l2 => Single.sum (query.zipWith (fun x y => (x - y) * (x - y)) row)
  | .innerProduct => -dotProduct query row
  | .cosine =>
    let dot := dotProduct query row
    let queryNorm := (Single.sum (query.map fun x => x * x)).sqrt
    let rowNorm := (Single.sum (row.map fun x => x * x)).sqrt
    if queryNorm == 0 || rowNorm == 0 then 1 else 1 - dot / (queryNorm * rowNorm)

/-- The score of a row, on patterns. -/
def Metric.distance (metric : Metric) (query row : List UInt32) : UInt32 :=
  (metric.score (query.map Float32.ofBits) (row.map Float32.ofBits)).toBits

/-- The closest `k` of scored ids; of equal scores the earlier ones. -/
def closest (k : Nat) (scored : List (Int64 × UInt32)) : List (Int64 × UInt32) :=
  (scored.mergeSort fun a b => Single.totalLe a.2 b.2).take k

namespace Artifact

/-- The full rows. -/
def rows (a : Artifact) : List (List UInt32) :=
  Grouping.groups a.dimension.toNat a.vectors

/-- The ids of the rows with their distances from a query, in row order. -/
def scored (a : Artifact) (query : List UInt32) : List (Int64 × UInt32) :=
  a.ids.zip (a.rows.map fun row => a.metric.distance query row)

/-- The closest `k` entries, the closest first.  Rows of no components cannot be told apart. -/
def search (a : Artifact) (query : List UInt32) (k : Nat) : Except Abort (List (Int64 × UInt32)) :=
  if a.dimension = 0 then .error .zeroDimension
  else .ok (closest k (a.scored query))

end Artifact

end VectorIndex
