import VectorIndex.Proofs.Artifact.Format
import VectorIndex.Proofs.Artifact.Ranking

/-!
# The shape of artifacts that are read

An artifact is well shaped if its rows have components and its components are those of one row for
each id.  Only such artifacts are meant to be in files, but a file need not be that of a well-shaped
artifact to be read: the dimension and the two lists stand in it independently of each other, and
nothing compares them.  `Artifact.read_is_searchable_iff` says what of the shape a search depends
on, and `Artifact.misshapen_files_are_read` gives two files that are read and cannot be searched as
they should.
-/

set_option autoImplicit false

namespace VectorIndex

open Grouping

namespace Artifact

/-- The components are those of one row for each id. -/
structure WellShaped (a : Artifact) : Prop where
  dimension : 1 ≤ a.dimension
  vectors : a.vectors.length = a.ids.length * a.dimension.toNat

/-- Asked for as many entries as there are ids, a search returns every id once. -/
def ConsidersAll (a : Artifact) (query : List UInt32) : Prop :=
  ∃ found, a.search query a.ids.length = .ok found ∧ (found.map Prod.fst).Perm a.ids

/-- A search gives a result, whatever is asked for. -/
def Searchable (a : Artifact) : Prop :=
  ∀ query k, ∃ found, a.search query k = .ok found

variable {a : Artifact} {query : List UInt32}

/-! ## Searches -/

/-- A search that gives a result needs at least one coordinate for each row. -/
theorem dimension_of_search_eq_ok {k : Nat} {found : List (Int64 × UInt32)}
    (h : a.search query k = .ok found) : 1 ≤ a.dimension := by
  by_contra hdimension
  have hzero : a.dimension = 0 := by grind
  unfold search at h
  rw [if_pos hzero] at h
  cases h

/-- An artifact can be searched exactly if it has a dimension. -/
theorem searchable_iff : a.Searchable ↔ 1 ≤ a.dimension := by
  constructor
  · intro hsearch
    obtain ⟨found, hfound⟩ := hsearch [] 0
    exact dimension_of_search_eq_ok hfound
  · intro h query k
    exact ⟨_, search_eq_ok h query k⟩

/-- The ids that are scored are those in front, one for each full row. -/
theorem map_fst_scored (h : 1 ≤ a.dimension) (query : List UInt32) :
    (a.scored query).map Prod.fst = a.ids.take (a.vectors.length / a.dimension.toNat) := by
  apply List.ext_getElem?
  intro i
  rw [List.getElem?_map, getElem?_scored h, entryAt?, List.getElem?_take]
  split
  · rw [Option.map_map]
    cases a.ids[i]? with
    | none => rfl
    | some id => rfl
  · rfl

/-- Every id is considered exactly if there are values enough for as many rows as ids. -/
theorem considersAll_iff (h : 1 ≤ a.dimension) (query : List UInt32) :
    a.ConsidersAll query ↔ a.ids.length * a.dimension.toNat ≤ a.vectors.length := by
  have hfull : a.ids.length * a.dimension.toNat ≤ a.vectors.length ↔
      a.ids.length ≤ a.vectors.length / a.dimension.toNat :=
    (Nat.le_div_iff_mul_le (dimension_pos h)).symm
  have hsearch := search_eq_ok h query a.ids.length
  have hlength : (closest a.ids.length (a.scored query)).length =
      min (a.vectors.length / a.dimension.toNat) a.ids.length := by
    unfold closest
    rw [List.length_take, List.length_mergeSort, length_scored h]
    omega
  rw [hfull]
  constructor
  · rintro ⟨found, hfound, hperm⟩
    rw [hsearch] at hfound
    cases hfound
    have hall := hperm.length_eq
    rw [List.length_map, hlength] at hall
    omega
  · intro hle
    refine ⟨_, hsearch, ?_⟩
    have hwhole : closest a.ids.length (a.scored query) =
        (a.scored query).mergeSort fun e f => Single.totalLe e.2 f.2 := by
      apply List.take_of_length_le
      rw [List.length_mergeSort, length_scored h]
      omega
    rw [hwhole]
    have hscored := map_fst_scored h query
    rw [List.take_of_length_le hle] at hscored
    rw [← hscored]
    exact (List.mergeSort_perm _ _).map Prod.fst

/-- An artifact whose ids are all considered can be searched. -/
theorem dimension_of_considersAll (h : a.ConsidersAll query) : 1 ≤ a.dimension := by
  obtain ⟨found, hfound, -⟩ := h
  exact dimension_of_search_eq_ok hfound

/-! ## Components -/

/-- The rows that belong to ids have this many values together. -/
theorem length_flatten_rows_take (h : 1 ≤ a.dimension) :
    (a.rows.take a.ids.length).flatten.length =
      min a.ids.length (a.vectors.length / a.dimension.toNat) * a.dimension.toNat := by
  have hrow : ∀ row ∈ a.rows.take a.ids.length, row.length = a.dimension.toNat := by
    intro row hrow
    exact length_of_mem_groups (List.mem_of_mem_take hrow)
  rw [List.length_flatten, List.map_eq_replicate_iff.2 hrow, List.sum_replicate_nat,
    List.length_take, rows, length_groups (dimension_pos h)]

/-- The rows that have ids are all of the components if there are no more components than that. -/
theorem flatten_rows_take_iff (h : 1 ≤ a.dimension) :
    (a.rows.take a.ids.length).flatten = a.vectors ↔
      min a.ids.length (a.vectors.length / a.dimension.toNat) * a.dimension.toNat =
        a.vectors.length := by
  rw [← length_flatten_rows_take h]
  constructor
  · intro hall
    rw [hall]
  · intro hlength
    have hfront : (a.rows.take a.ids.length).flatten <+: a.vectors := by
      have hrows := flatten_groups_append_drop a.dimension.toNat a.vectors
      rw [← List.take_append_drop a.ids.length (groups a.dimension.toNat a.vectors),
        List.flatten_append, List.append_assoc] at hrows
      exact ⟨_, hrows⟩
    exact hfront.eq_of_length hlength

/-- An artifact has the right shape exactly if all its ids are considered and all its values belong
to them. -/
theorem wellShaped_iff :
    a.WellShaped ↔
      (∀ query, a.ConsidersAll query) ∧ (a.rows.take a.ids.length).flatten = a.vectors := by
  constructor
  · rintro ⟨h, hvectors⟩
    constructor
    · intro query
      exact (considersAll_iff h query).2 (Nat.le_of_eq hvectors.symm)
    · rw [flatten_rows_take_iff h, hvectors, Nat.mul_div_cancel _ (dimension_pos h), Nat.min_self]
  · rintro ⟨hall, hflatten⟩
    have h := dimension_of_considersAll (hall [])
    have hle := (considersAll_iff h []).1 (hall [])
    rw [flatten_rows_take_iff h,
      Nat.min_eq_left ((Nat.le_div_iff_mul_le (dimension_pos h)).2 hle)] at hflatten
    exact ⟨h, hflatten.symm⟩

/-! ## Files -/

/-- What of the shape of an artifact that is read a search depends on.  It gives results exactly if
the rows have components; it considers every id exactly if, moreover, there are enough components;
and the artifact is well shaped exactly if every id is considered and so are all of the components.
None of this is asked of a file: the same contents are read with any other dimension. -/
theorem read_is_searchable_iff (checksum : Bytes → UInt64) {file : Bytes} {a : Artifact}
    (h : decodeWith checksum file = .ok a) :
    (a.Searchable ↔ 1 ≤ a.dimension) ∧
    ((∀ query, a.ConsidersAll query) ↔
      1 ≤ a.dimension ∧ a.ids.length * a.dimension.toNat ≤ a.vectors.length) ∧
    (a.WellShaped ↔
      (∀ query, a.ConsidersAll query) ∧ (a.rows.take a.ids.length).flatten = a.vectors) ∧
    ∀ dimension, ∃ other, decodeWith checksum other = .ok { a with dimension } := by
  refine ⟨searchable_iff, ?_, wellShaped_iff, ?_⟩
  · constructor
    · intro hall
      have hdimension := dimension_of_considersAll (hall [])
      exact ⟨hdimension, (considersAll_iff hdimension []).1 (hall [])⟩
    · rintro ⟨hdimension, hle⟩ query
      exact (considersAll_iff hdimension query).2 hle
  · intro dimension
    obtain ⟨hids, hvectors⟩ := ((decodeWith_eq_ok_iff checksum).1 h).1
    have hcountable : Countable { a with dimension } := ⟨hids, hvectors⟩
    exact ⟨_, hcountable.decodeWith_encodeWith checksum⟩

/-- One component more than the one id has use for: a search considers the id, and yet the artifact
is not well shaped. -/
theorem read_with_a_spare_component :
    let a : Artifact := ⟨.l2, 1, 100, 100, [7], [0x3f800000, 0x40000000]⟩
    decode a.encode = .ok a ∧ a.Searchable ∧ (∀ query, a.ConsidersAll query) ∧ ¬ a.WellShaped := by
  intro a
  have hread : decode a.encode = .ok a := Countable.decode_encode ⟨by decide, by decide⟩
  obtain ⟨hsearchable, hall, hshape, -⟩ := read_is_searchable_iff Xxh3.hash hread
  refine ⟨hread, hsearchable.2 (by decide), hall.2 ⟨by decide, by decide⟩, ?_⟩
  intro hwell
  exact absurd (hshape.1 hwell).2 (by decide +kernel)

/-- The file of an artifact with one id and a dimension of zero. -/
def rowless : Bytes :=
  magic ++ [1, 0, 0, 0] ++ [161, 19, 22, 118, 59, 174, 242, 231] ++
  [0, 0, 0, 0] ++ [0, 0, 0, 0, 0, 0, 0, 0] ++
  [100, 0, 0, 0, 0, 0, 0, 0] ++ [100, 0, 0, 0, 0, 0, 0, 0] ++
  [1, 0, 0, 0, 0, 0, 0, 0] ++ [7, 0, 0, 0, 0, 0, 0, 0] ++
  [0, 0, 0, 0, 0, 0, 0, 0]

/-- The file of an artifact with two ids, a dimension of one, and one component. -/
def halfFilled : Bytes :=
  magic ++ [1, 0, 0, 0] ++ [227, 88, 124, 178, 79, 179, 192, 216] ++
  [0, 0, 0, 0] ++ [1, 0, 0, 0, 0, 0, 0, 0] ++
  [100, 0, 0, 0, 0, 0, 0, 0] ++ [100, 0, 0, 0, 0, 0, 0, 0] ++
  [2, 0, 0, 0, 0, 0, 0, 0] ++ [7, 0, 0, 0, 0, 0, 0, 0] ++ [8, 0, 0, 0, 0, 0, 0, 0] ++
  [1, 0, 0, 0, 0, 0, 0, 0] ++ [0, 0, 128, 63]

/-- The file without a dimension is read, and no search of the artifact gives a result.  The file
with too few components is read, and no search of the artifact finds both ids. -/
theorem misshapen_files_are_read :
    (∃ a, decode rowless = .ok a ∧ ¬ a.WellShaped ∧
      ∀ query k, a.search query k = .error .zeroDimension) ∧
    ∃ a, decode halfFilled = .ok a ∧ ¬ a.WellShaped ∧ a.Searchable ∧
      ∀ query, ¬ a.ConsidersAll query := by
  constructor
  · refine ⟨⟨.l2, 0, 100, 100, [7], []⟩, by decide +kernel, ?_, ?_⟩
    · intro hwell
      exact absurd hwell.dimension (by decide)
    · intro query k
      rfl
  · have hdimension : (1 : UInt64) ≤ 1 := by decide
    refine ⟨⟨.l2, 1, 100, 100, [7, 8], [0x3f800000]⟩, by decide +kernel, ?_,
      searchable_iff.2 hdimension, ?_⟩
    · intro hwell
      exact absurd hwell.vectors (by decide)
    · intro query hall
      exact absurd ((considersAll_iff hdimension query).1 hall) (by decide)

end Artifact

end VectorIndex
