import VectorIndex.Artifact.Search
import VectorIndex.Proofs.Grouping
import VectorIndex.Proofs.Number.Single

/-!
# What a search returns

The rows of an artifact that are full and have an id are its entries (`Artifact.entryAt?`).  A query
puts them in an order: a row comes before another one if it is nearer, or as near and stands earlier
in the artifact (`Artifact.Before`).  A search returns the first entries in this order
(`Artifact.search_ranks`), and which ones these are does not depend on what the distances mean.

The order is that of a stable sort.  It is followed by sorting the entries together with their
positions, because equal entries at different positions cannot be told apart otherwise.
-/

set_option autoImplicit false

namespace VectorIndex

open Grouping

/-! ## Stable sorting -/

/-- A sorted list is the list of what stood at certain positions, each of them once, and of two
entries that are equal in order the one that stood earlier comes first. -/
theorem exists_ranked {α : Type} (le : α → α → Bool)
    (trans : ∀ x y z, le x y = true → le y z = true → le x z = true)
    (total : ∀ x y, (le x y || le y x) = true) (xs : List α) :
    ∃ ranked : List (α × Nat), ranked.Perm xs.zipIdx ∧
      ranked.map Prod.fst = xs.mergeSort le ∧
      ranked.Pairwise fun p q => le p.1 q.1 = true ∧ (le q.1 p.1 = true → p.2 < q.2) := by
  have hperm := List.mergeSort_perm xs.zipIdx (List.zipIdxLE le)
  refine ⟨xs.zipIdx.mergeSort (List.zipIdxLE le), hperm, List.mergeSort_zipIdx, ?_⟩
  have hsorted := List.pairwise_mergeSort (List.zipIdxLE_trans trans) (List.zipIdxLE_total total)
    xs.zipIdx
  have hapart : (xs.zipIdx.mergeSort (List.zipIdxLE le)).Pairwise fun p q => p.2 ≠ q.2 := by
    apply List.pairwise_map.1
    apply (hperm.map Prod.snd).nodup_iff.2
    rw [List.zipIdx_map_snd]
    exact List.nodup_range'
  apply (hsorted.and hapart).imp
  rintro p q ⟨hle, hne⟩
  by_cases hpq : le p.1 q.1 = true
  · refine ⟨hpq, ?_⟩
    intro hqp
    simp only [List.zipIdxLE, hpq, hqp, if_true, decide_eq_true_eq] at hle
    omega
  · simp [List.zipIdxLE, hpq] at hle

namespace Artifact

/-! ## Entries -/

/-- The components of the row at a position. -/
def row (a : Artifact) (i : Nat) : List UInt32 :=
  (a.vectors.drop (i * a.dimension.toNat)).take a.dimension.toNat

/-- How far the row at a position is from a query. -/
def distanceAt (a : Artifact) (query : List UInt32) (i : Nat) : UInt32 :=
  a.metric.distance query (a.row i)

/-- What a search may return for the row at a position: its id and its distance, if the row is full
and has an id. -/
def entryAt? (a : Artifact) (query : List UInt32) (i : Nat) : Option (Int64 × UInt32) :=
  if i < a.vectors.length / a.dimension.toNat then
    a.ids[i]?.map fun id => (id, a.distanceAt query i)
  else none

/-- One row comes before another: it is nearer, or as near and stands earlier. -/
def Before (a : Artifact) (query : List UInt32) (i j : Nat) : Prop :=
  Single.totalLe (a.distanceAt query i) (a.distanceAt query j) = true ∧
    (a.distanceAt query i = a.distanceAt query j → i < j)

variable {a : Artifact} {query : List UInt32}

/-- A dimension that a search accepts divides. -/
theorem dimension_pos (h : 1 ≤ a.dimension) : 0 < a.dimension.toNat :=
  UInt64.le_iff_toNat_le.1 h

/-- A search in an artifact that has a dimension ranks its scored entries. -/
theorem search_eq_ok (h : 1 ≤ a.dimension) (query : List UInt32) (k : Nat) :
    a.search query k = .ok (closest k (a.scored query)) := by
  apply if_neg
  intro hzero
  rw [hzero] at h
  exact absurd h (by decide)

/-- There is a row for every number below the rounded quotient of values and dimension. -/
theorem getElem?_rows (h : 1 ≤ a.dimension) (i : Nat) :
    a.rows[i]? = if i < a.vectors.length / a.dimension.toNat then some (a.row i) else none := by
  split
  · next hi => exact getElem?_groups (dimension_pos h) hi
  · next hi =>
    apply List.getElem?_eq_none
    rw [rows, length_groups (dimension_pos h)]
    omega

/-- The entry that is scored at a place is made of the row and the id of this place. -/
theorem getElem?_scored (h : 1 ≤ a.dimension) (query : List UInt32) (i : Nat) :
    (a.scored query)[i]? = a.entryAt? query i := by
  unfold scored entryAt?
  apply Option.ext
  intro e
  rw [List.getElem?_zip_eq_some, List.getElem?_map, getElem?_rows h]
  split
  · simp only [Option.map_some, Option.some.injEq, Option.map_eq_some_iff]
    constructor
    · rintro ⟨hid, hdistance⟩
      exact ⟨e.1, hid, Prod.ext rfl hdistance⟩
    · rintro ⟨id, hid, rfl⟩
      exact ⟨hid, rfl⟩
  · simp

/-- Rows without an id and ids without a row are not scored. -/
theorem length_scored (h : 1 ≤ a.dimension) (query : List UInt32) :
    (a.scored query).length = min (a.vectors.length / a.dimension.toNat) a.ids.length := by
  rw [scored, List.length_zip, List.length_map, rows, length_groups (dimension_pos h),
    Nat.min_comm]

/-- An entry carries the distance of its own row. -/
theorem distance_of_entryAt? {i : Nat} {e : Int64 × UInt32} (h : a.entryAt? query i = some e) :
    e.2 = a.distanceAt query i := by
  unfold entryAt? at h
  split at h
  · simp only [Option.map_eq_some_iff] at h
    obtain ⟨id, -, rfl⟩ := h
    rfl
  · cases h

/-! ## Rankings -/

/-- Entries that are ordered as a search orders them are ordered as the rows they stand for. -/
theorem before_of_ranked {i j : Nat} {e f : Int64 × UInt32} (he : a.entryAt? query i = some e)
    (hf : a.entryAt? query j = some f) (hle : Single.totalLe e.2 f.2 = true)
    (htie : Single.totalLe f.2 e.2 = true → i < j) : a.Before query i j := by
  rw [distance_of_entryAt? he, distance_of_entryAt? hf] at hle htie
  refine ⟨hle, ?_⟩
  intro heq
  apply htie
  rw [heq] at hle ⊢
  exact hle

/-- The entries of an artifact in the order of a query, each with its position. -/
theorem exists_ranking (h : 1 ≤ a.dimension) (query : List UInt32) :
    ∃ ranked : List ((Int64 × UInt32) × Nat),
      (∀ k, a.search query k = .ok ((ranked.take k).map Prod.fst)) ∧
      (∀ p, p ∈ ranked ↔ a.entryAt? query p.2 = some p.1) ∧
      ranked.length = min (a.vectors.length / a.dimension.toNat) a.ids.length ∧
      (ranked.map Prod.snd).Nodup ∧
      ranked.Pairwise fun p q =>
        Single.totalLe p.1.2 q.1.2 = true ∧ a.Before query p.2 q.2 := by
  obtain ⟨ranked, hperm, hsorted, hordered⟩ := exists_ranked
    (fun e f : Int64 × UInt32 => Single.totalLe e.2 f.2)
    (fun _ _ _ => Single.totalLe_trans) (fun e f => Single.totalLe_total e.2 f.2) (a.scored query)
  have hmem : ∀ p, p ∈ ranked ↔ a.entryAt? query p.2 = some p.1 := by
    intro p
    rw [hperm.mem_iff, List.mem_zipIdx_iff_getElem?, getElem?_scored h]
  refine ⟨ranked, ?_, hmem, ?_, ?_, ?_⟩
  · intro k
    rw [search_eq_ok h, closest, ← hsorted, List.map_take]
  · rw [hperm.length_eq, List.length_zipIdx, length_scored h]
  · apply (hperm.map Prod.snd).nodup_iff.2
    rw [List.zipIdx_map_snd]
    exact List.nodup_range'
  · apply hordered.imp_of_mem
    rintro p q hp hq ⟨hle, htie⟩
    exact ⟨hle, before_of_ranked ((hmem p).1 hp) ((hmem q).1 hq) hle htie⟩

/-- A search of an artifact whose rows have components returns the first entries in the order of the
query, for any distances: as many as asked for, or all of them; of different rows; nearer ones
first, and of rows that are as near those that stand earlier first; and none that is left out comes
before one that is returned.  Asking for more adds to the end of what is returned. -/
theorem search_ranks (h : 1 ≤ a.dimension) (query : List UInt32) (k : Nat) :
    ∃ (found : List (Int64 × UInt32)) (order : List Nat),
      a.search query k = .ok found ∧
      found.length = min k (min (a.vectors.length / a.dimension.toNat) a.ids.length) ∧
      found.map some = order.map (a.entryAt? query) ∧ order.Nodup ∧
      found.Pairwise (fun e f => Single.totalLe e.2 f.2 = true) ∧
      order.Pairwise (a.Before query) ∧
      (∀ i ∈ order, ∀ j e, a.entryAt? query j = some e → j ∉ order → a.Before query i j) ∧
      ∀ k' found', k ≤ k' → a.search query k' = .ok found' → found <+: found' := by
  obtain ⟨ranked, hsearch, hmem, hlength, hnodup, hordered⟩ := exists_ranking h query
  have htaken := hordered.sublist (List.take_sublist k ranked)
  refine ⟨(ranked.take k).map Prod.fst, (ranked.take k).map Prod.snd, hsearch k, ?_, ?_, ?_, ?_, ?_,
    ?_, ?_⟩
  · rw [List.length_map, List.length_take, hlength]
  · rw [List.map_map, List.map_map]
    apply List.map_congr_left
    intro p hp
    exact ((hmem p).1 (List.mem_of_mem_take hp)).symm
  · exact hnodup.sublist ((List.take_sublist k ranked).map Prod.snd)
  · apply List.pairwise_map.2
    exact htaken.imp fun hpq => hpq.1
  · apply List.pairwise_map.2
    exact htaken.imp fun hpq => hpq.2
  · -- What is left out stands behind all that is returned.
    intro i hi j e he hj
    obtain ⟨p, hp, rfl⟩ := List.mem_map.1 hi
    have hleft : (e, j) ∈ ranked.drop k := by
      have hranked := (hmem (e, j)).2 he
      rw [← List.take_append_drop k ranked] at hranked
      obtain htake | hdrop := List.mem_append.1 hranked
      · exact absurd (List.mem_map.2 ⟨(e, j), htake, rfl⟩) hj
      · exact hdrop
    rw [← List.take_append_drop k ranked] at hordered
    exact ((List.pairwise_append.1 hordered).2.2 p hp (e, j) hleft).2
  · intro k' found' hk hsearch'
    rw [hsearch k'] at hsearch'
    cases hsearch'
    exact (List.take_prefix_take_left hk).map Prod.fst

/-- Four ids and three rows of two components, with one more component that fills no row.  From the
origin the first row has the inner product zero and the others have negative zero. -/
def signedZeros : Artifact where
  metric := .innerProduct
  dimension := 2
  efSearch := 100
  efConstruction := 100
  ids := [4, 7, 8, 9]
  vectors := [0xbf800000, 0xbf800000, 0x3f800000, 0x3f800000, 0x3f800000, 0x3f800000, 0x3f800000]

/-- Two rows that are as near are returned as they stand, and before a row that is farther by the
sign of zero only. -/
theorem search_tells_zeros_apart :
    1 ≤ signedZeros.dimension ∧
      signedZeros.search [0, 0] 2 = .ok [(7, 0x80000000), (8, 0x80000000)] ∧
      ∀ k' found', 2 ≤ k' → signedZeros.search [0, 0] k' = .ok found' →
        [(7, 0x80000000), (8, 0x80000000)] <+: found' := by
  have hdimension : 1 ≤ signedZeros.dimension := by decide
  have hscored : signedZeros.scored [0, 0] = [(4, 0), (7, 0x80000000), (8, 0x80000000)] := by
    decide +kernel
  have hclosest : ∀ e f g : Int64 × UInt32, Single.totalLe e.2 f.2 = false →
      Single.totalLe e.2 g.2 = false → Single.totalLe f.2 g.2 = true →
      closest 2 [e, f, g] = [f, g] := by
    intro e f g hef heg hfg
    simp [closest, List.mergeSort, hef, heg, hfg]
  have hsearch : signedZeros.search [0, 0] 2 = .ok [(7, 0x80000000), (8, 0x80000000)] := by
    unfold search
    rw [if_neg (by decide), hscored, hclosest _ _ _ (by decide) (by decide) (by decide)]
  obtain ⟨found, -, hfound, -, -, -, -, -, -, hgrows⟩ := search_ranks hdimension [0, 0] 2
  rw [hsearch] at hfound
  cases hfound
  exact ⟨hdimension, hsearch, hgrows⟩

end Artifact

end VectorIndex
