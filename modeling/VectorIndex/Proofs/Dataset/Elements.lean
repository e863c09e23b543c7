import VectorIndex.Blob.Sink
import VectorIndex.Dataset
import VectorIndex.Proofs.Grouping
import VectorIndex.Proofs.Results

/-!
# Elements of a dataset

A blob of vectors is a row of numbers, and so is what becomes of it when it is staged.
`ElementType.componentAt` reads one component straight from the blob; reading all rows of a
staged dataset gives the same components in the same order
(`Dataset.components_eq_ok`, `ElementType.getElem?_componentsOf_stage`).
-/

set_option autoImplicit false

namespace VectorIndex

open Grouping

/-! ## Staged octets -/

/-- The id at a position of a blob of ids: a signed number of four octets. -/
def idAt (ids : Bytes) (i : Nat) : Int64 :=
  Int64.ofInt (Bytes.signedValue ((ids.drop (i * 4)).take 4))

namespace ElementType

/-- What a blob of vectors looks like once it is staged. -/
def stage (t : ElementType) (blob : Bytes) : Bytes :=
  match t with
  | .float16 => (groups 4 blob).flatMap narrowed
  | .float => blob
  | .byte => blob
  | .binary => blob

/-- The component at a position of a blob, widened to single precision. -/
def componentAt (t : ElementType) (blob : Bytes) (j : Nat) : UInt32 :=
  match t with
  | .float => UInt32.ofNat (Bytes.value ((blob.drop (j * 4)).take 4))
  | .float16 =>
    Half.toSingle (Half.ofSingle (UInt32.ofNat (Bytes.value ((blob.drop (j * 4)).take 4))))
  | .byte => Single.ofInt (Bytes.signedValue ((blob.drop j).take 1))
  | .binary => Single.ofInt (Bytes.value ((blob.drop j).take 1))

/-- Elements of every type take at least one octet when they are staged. -/
theorem stagedSize_pos (t : ElementType) : 0 < t.stagedSize.toNat := by
  cases t <;> decide

end ElementType

/-- A narrowed number takes two octets. -/
theorem length_narrowed (number : Bytes) : (narrowed number).length = 2 :=
  Bytes.length_digits ..

/-- The two octets of a narrowed number are those of its half. -/
theorem value_narrowed (number : Bytes) :
    UInt16.ofNat (Bytes.value (narrowed number)) =
      Half.ofSingle (UInt32.ofNat (Bytes.value number)) := by
  have hcapacity : Bytes.capacity 2 = 0x10000 := by decide
  unfold narrowed
  rw [Bytes.value_digits, hcapacity, Nat.mod_eq_of_lt (UInt16.toNat_lt _), UInt16.ofNat_toNat]

/-- Narrowed numbers are apart again in groups of two. -/
theorem groups_flatMap_narrowed (numbers : List Bytes) :
    groups 2 (numbers.flatMap narrowed) = numbers.map narrowed := by
  induction numbers with
  | nil => exact groups_of_short (by decide)
  | cons number numbers ih =>
    rw [List.flatMap_cons, groups_append (by decide) (length_narrowed number), ih, List.map_cons]

/-! ## Components -/

namespace Dataset

/-- The components of a whole number of elements come before those of what follows. -/
theorem componentsOf_append (t : ElementType) {xs : Bytes} (h : t.stagedSize.toNat ∣ xs.length)
    (ys : Bytes) : componentsOf t (xs ++ ys) = componentsOf t xs ++ componentsOf t ys := by
  cases t with
  | float =>
    have hdvd : 4 ∣ xs.length := h
    simp only [componentsOf, groups_append_of_dvd (by decide : 0 < 4) hdvd, List.map_append]
  | float16 =>
    have hdvd : 2 ∣ xs.length := h
    simp only [componentsOf, groups_append_of_dvd (by decide : 0 < 2) hdvd, List.map_append]
  | byte => exact List.map_append
  | binary => exact List.map_append

/-- Rows one after the other are the components of all octets. -/
theorem flatten_rows (t : ElementType) {stride : Nat} (hstride : t.stagedSize.toNat ∣ stride)
    (n : Nat) {bytes : Bytes} (hn : n * stride ≤ bytes.length) :
    ((List.range n).map fun i => componentsOf t ((bytes.drop (i * stride)).take stride)).flatten =
      componentsOf t (bytes.take (n * stride)) := by
  induction n with
  | zero =>
    have hnil : componentsOf t [] = [] := by
      have hshort : ∀ k, 0 < k → groups k ([] : Bytes) = [] := fun k hk => groups_of_short hk
      cases t <;> simp [componentsOf, hshort]
    rw [Nat.zero_mul, List.take_zero, hnil]
    rfl
  | succ n ih =>
    have hle : n * stride ≤ bytes.length :=
      Nat.le_trans (Nat.mul_le_mul_right stride (Nat.le_succ n)) hn
    have hdvd : t.stagedSize.toNat ∣ (bytes.take (n * stride)).length := by
      rw [List.length_take_of_le hle]
      exact Nat.dvd_mul_left_of_dvd hstride n
    rw [List.range_succ, List.map_append, List.flatten_append, ih hle, Nat.succ_mul,
      List.take_add, componentsOf_append t hdvd]
    simp

/-- A dataset that was not released has the components of its staged vectors. -/
theorem components_eq_ok {d : Dataset} {b : StagedBuffers} (h : d.buffers = some b) :
    d.components = .ok (componentsOf d.elementType b.vectors) := by
  obtain ⟨-, hvectors⟩ := d.fits b h
  have hstride : d.elementType.stagedSize.toNat ∣
      d.dimension.toNat * d.elementType.stagedSize.toNat := Nat.dvd_mul_left ..
  -- Every row is cut out at a multiple of the row length.
  have hrow : ∀ i ∈ List.range d.docCount.toNat, d.row i =
      .ok (componentsOf d.elementType
        ((b.vectors.drop (i * (d.dimension.toNat * d.elementType.stagedSize.toNat))).take
          (d.dimension.toNat * d.elementType.stagedSize.toNat))) := by
    intro i hi
    unfold row vectorBytes staged
    rw [if_pos (List.mem_range.1 hi), h]
    rfl
  rw [Nat.mul_assoc] at hvectors
  unfold components
  rw [mapM_eq_ok hrow]
  change Except.ok (List.flatten _) = _
  rw [flatten_rows _ hstride _ (Nat.le_of_eq hvectors.symm), ← hvectors, List.take_length]

/-- The ids of a dataset that has its buffers are those of the second buffer. -/
theorem docIds_eq_ok {d : Dataset} {b : StagedBuffers} (h : d.buffers = some b) :
    d.docIds = .ok (idsOf b.docIds) := by
  unfold docIds docIdBytes staged
  rw [h]
  rfl

/-! ## Single elements -/

/-- The id at a position of a blob of ids is the signed number of four octets there. -/
theorem getElem?_idsOf {bytes : Bytes} {i : Nat} (h : i < bytes.length / 4) :
    (idsOf bytes)[i]? = some (Int64.ofInt (Bytes.signedValue ((bytes.drop (i * 4)).take 4))) := by
  unfold idsOf
  rw [List.getElem?_map, getElem?_groups (by decide) h]
  rfl

/-- There is an id for every four octets. -/
theorem length_idsOf (bytes : Bytes) : (idsOf bytes).length = bytes.length / 4 := by
  unfold idsOf
  rw [List.length_map, length_groups (by decide)]

end Dataset

namespace ElementType

open Dataset

/-- The components of a staged blob of half-precision numbers. -/
theorem componentsOf_stage_float16 (blob : Bytes) :
    componentsOf .float16 (stage .float16 blob) = (groups 4 blob).map fun number =>
      Half.toSingle (Half.ofSingle (UInt32.ofNat (Bytes.value number))) := by
  unfold componentsOf stage
  dsimp only
  rw [groups_flatMap_narrowed, List.map_map]
  exact List.map_congr_left fun number _ => congrArg Half.toSingle (value_narrowed number)

/-- Staging keeps the number of the components. -/
theorem length_componentsOf_stage (t : ElementType) (blob : Bytes) :
    (componentsOf t (t.stage blob)).length = blob.length / t.sourceSize.toNat := by
  cases t with
  | float => exact (List.length_map _).trans (length_groups (by decide) blob)
  | float16 =>
    rw [componentsOf_stage_float16, List.length_map]
    exact length_groups (by decide) blob
  | byte => exact (List.length_map _).trans (Nat.div_one _).symm
  | binary => exact (List.length_map _).trans (Nat.div_one _).symm

/-- An octet that stands for itself is a component. -/
theorem getElem?_map_single {α : Type} (f : Bytes → α) {blob : Bytes} {j : Nat}
    (h : j < blob.length / 1) :
    (blob.map fun b => f [b])[j]? = some (f ((blob.drop j).take 1)) := by
  rw [Nat.div_one] at h
  rw [List.getElem?_map, List.getElem?_eq_getElem h, List.drop_eq_getElem_cons h]
  rfl

/-- The components that are read after staging are those of the blob. -/
theorem getElem?_componentsOf_stage (t : ElementType) {blob : Bytes} {j : Nat}
    (h : j < blob.length / t.sourceSize.toNat) :
    (componentsOf t (t.stage blob))[j]? = some (t.componentAt blob j) := by
  cases t with
  | float =>
    exact List.getElem?_map.trans (congrArg _ (getElem?_groups (by decide) h))
  | float16 =>
    rw [componentsOf_stage_float16]
    exact List.getElem?_map.trans (congrArg _ (getElem?_groups (by decide) h))
  | byte => exact getElem?_map_single (fun b => Single.ofInt (Bytes.signedValue b)) h
  | binary =>
    have hsingle := getElem?_map_single (fun b => Single.ofInt (Bytes.value b)) h
    refine Eq.trans ?_ hsingle
    unfold componentsOf stage
    simp only [Bytes.value, Nat.mul_zero, Nat.add_zero]

/-- A blob of whole elements is staged as so many elements. -/
theorem length_stage (t : ElementType) {blob : Bytes} {n : Nat}
    (h : blob.length = n * t.sourceSize.toNat) :
    (t.stage blob).length = n * t.stagedSize.toNat := by
  cases t with
  | float => exact h
  | float16 =>
    have hgroups : (groups 4 blob).length = n := by
      rw [length_groups (by decide), h]
      exact Nat.mul_div_cancel n (by decide)
    have hsum : ∀ numbers : List Bytes, (numbers.flatMap narrowed).length = numbers.length * 2 := by
      intro numbers
      induction numbers with
      | nil => rfl
      | cons number numbers ih =>
        rw [List.flatMap_cons, List.length_append, length_narrowed, ih, List.length_cons]
        omega
    exact (hsum _).trans (congrArg (· * 2) hgroups)
  | byte => exact h
  | binary => exact h

end ElementType

/-! ## Rows -/

namespace Dataset

/-- There is a component for every staged element. -/
theorem length_componentsOf (t : ElementType) (bytes : Bytes) :
    (componentsOf t bytes).length = bytes.length / t.stagedSize.toNat := by
  cases t with
  | float => exact (List.length_map _).trans (length_groups (by decide) bytes)
  | float16 => exact (List.length_map _).trans (length_groups (by decide) bytes)
  | byte => exact (List.length_map _).trans (Nat.div_one _).symm
  | binary => exact (List.length_map _).trans (Nat.div_one _).symm

/-- The components behind and in front of a cut between elements. -/
theorem componentsOf_cut (t : ElementType) {k : Nat} {bytes : Bytes}
    (h : k * t.stagedSize.toNat ≤ bytes.length) :
    componentsOf t (bytes.take (k * t.stagedSize.toNat)) = (componentsOf t bytes).take k ∧
      componentsOf t (bytes.drop (k * t.stagedSize.toNat)) = (componentsOf t bytes).drop k := by
  have hfront : (bytes.take (k * t.stagedSize.toNat)).length = k * t.stagedSize.toNat :=
    List.length_take_of_le h
  have hlength : (componentsOf t (bytes.take (k * t.stagedSize.toNat))).length = k := by
    rw [length_componentsOf, hfront, Nat.mul_div_cancel _ t.stagedSize_pos]
  have hsplit := componentsOf_append t (hfront ▸ Nat.dvd_mul_left ..)
    (bytes.drop (k * t.stagedSize.toNat))
  rw [List.take_append_drop] at hsplit
  rw [hsplit]
  exact ⟨(List.take_left' hlength).symm, (List.drop_left' hlength).symm⟩

/-- A row is cut out of all components. -/
theorem row_eq_ok {d : Dataset} {b : StagedBuffers} (h : d.buffers = some b) {i : Nat}
    (hi : i < d.docCount.toNat) :
    d.row i = .ok (((componentsOf d.elementType b.vectors).drop (i * d.dimension.toNat)).take
      d.dimension.toNat) := by
  obtain ⟨-, hvectors⟩ := d.fits b h
  have hbefore : i * d.dimension.toNat * d.elementType.stagedSize.toNat +
      d.dimension.toNat * d.elementType.stagedSize.toNat ≤ b.vectors.length := by
    rw [hvectors, ← Nat.add_mul, ← Nat.succ_mul]
    exact Nat.mul_le_mul_right _ (Nat.mul_le_mul_right _ hi)
  have hrest : d.dimension.toNat * d.elementType.stagedSize.toNat ≤
      (b.vectors.drop (i * d.dimension.toNat * d.elementType.stagedSize.toNat)).length := by
    rw [List.length_drop]
    omega
  unfold row vectorBytes staged
  rw [if_pos hi, h]
  change Except.ok _ = Except.ok _
  rw [← Nat.mul_assoc, (componentsOf_cut _ hrest).1,
    (componentsOf_cut _ (Nat.le_trans (Nat.le_add_right ..) hbefore)).2]

/-- A stretch of a list whose entries are known. -/
theorem take_drop_eq_map_range {α : Type} (xs : List α) (f : Nat → α) (i n : Nat)
    (h : ∀ j < n, xs[i + j]? = some (f (i + j))) :
    (xs.drop i).take n = (List.range n).map fun j => f (i + j) := by
  refine List.ext_getElem? fun j => ?_
  rw [List.getElem?_take, List.getElem?_drop, List.getElem?_map]
  split
  · next hj => rw [h j hj, List.getElem?_range hj, Option.map_some]
  · next hj => rw [List.getElem?_eq_none (by rwa [List.length_range, ← Nat.not_lt]), Option.map_none]

/-- A list whose entries are known. -/
theorem eq_map_range {α : Type} {xs : List α} {f : Nat → α} {n : Nat} (hlength : xs.length = n)
    (h : ∀ j < n, xs[j]? = some (f j)) : xs = (List.range n).map f := by
  have hall := take_drop_eq_map_range xs f 0 n fun j hj => by
    rw [Nat.zero_add]
    exact h j hj
  rw [List.drop_zero, List.take_of_length_le (Nat.le_of_eq hlength)] at hall
  simpa only [Nat.zero_add] using hall

/-- All ids of a blob, each read at its own place. -/
theorem idsOf_eq_map {ids : Bytes} {n : Nat} (h : ids.length = n * 4) :
    idsOf ids = (List.range n).map (idAt ids) := by
  have hcount : ids.length / 4 = n := by omega
  apply eq_map_range
  · rw [length_idsOf, hcount]
  · intro j hj
    exact getElem?_idsOf (by omega)

end Dataset

/-! ## Wrapping staged buffers -/

namespace Dataset

/-- The size of a buffer of vectors is known when it fits into a word. -/
theorem expectedVectors_eq_some {dimension docCount : UInt64} {t : ElementType}
    (h : docCount.toNat * dimension.toNat * t.stagedSize.toNat < 0x10000000000000000) :
    expectedVectors dimension docCount t =
      some (UInt64.ofNat (docCount.toNat * dimension.toNat * t.stagedSize.toNat)) := by
  have hcount : docCount.toNat * dimension.toNat < 0x10000000000000000 :=
    Nat.lt_of_le_of_lt (Nat.le_mul_of_pos_right _ t.stagedSize_pos) h
  have hfirst : Word.mul? docCount dimension =
      some (UInt64.ofNat (docCount.toNat * dimension.toNat)) :=
    Word.mul?_eq_some_iff.2 (UInt64.toNat_ofNat_of_lt' hcount).symm
  unfold expectedVectors
  rw [hfirst, Option.bind_some, Word.mul?_eq_some_iff, UInt64.toNat_ofNat_of_lt' hcount,
    UInt64.toNat_ofNat_of_lt' h]

/-- Buffers of the right sizes are wrapped. -/
theorem exists_ofBuffers {vectors docIds : Bytes} {dimension docCount : UInt64} {t : ElementType}
    (hids : docIds.length = docCount.toNat * docIdSize.toNat)
    (hvectors : vectors.length = docCount.toNat * dimension.toNat * t.stagedSize.toNat)
    (hidsFit : docCount.toNat * docIdSize.toNat < 0x10000000000000000)
    (hvectorsFit : docCount.toNat * dimension.toNat * t.stagedSize.toNat < 0x10000000000000000) :
    ∃ d, ofBuffers vectors docIds dimension docCount t = .ok d ∧
      d.buffers = some { vectors, docIds } ∧ d.dimension = dimension ∧ d.elementType = t := by
  have hsize : Word.mul? docCount docIdSize =
      some (UInt64.ofNat (docCount.toNat * docIdSize.toNat)) :=
    Word.mul?_eq_some_iff.2 (UInt64.toNat_ofNat_of_lt' hidsFit).symm
  have hexpected := expectedVectors_eq_some hvectorsFit
  unfold ofBuffers
  split
  · next hnone => cases hsize.symm.trans hnone
  · next n hn =>
    obtain rfl := Option.some.inj (hsize.symm.trans hn)
    rw [dif_pos (hids.trans (UInt64.toNat_ofNat_of_lt' hidsFit).symm)]
    split
    · next hnone => cases hexpected.symm.trans hnone
    · next m hm =>
      obtain rfl := Option.some.inj (hexpected.symm.trans hm)
      rw [dif_pos (hvectors.trans (UInt64.toNat_ofNat_of_lt' hvectorsFit).symm)]
      exact ⟨_, rfl, rfl, rfl, rfl⟩

/-- A dataset that was accepted has the buffers, the shape and the element type that it was made
of. -/
theorem of_ofBuffers_eq_ok {vectors docIds : Bytes} {dimension docCount : UInt64}
    {t : ElementType} {d : Dataset} (h : ofBuffers vectors docIds dimension docCount t = .ok d) :
    d.buffers = some { vectors, docIds } ∧ d.dimension = dimension ∧ d.docCount = docCount ∧
      d.elementType = t := by
  unfold ofBuffers at h
  split at h
  · cases h
  · split at h
    · split at h
      · cases h
      · split at h
        · cases h
          exact ⟨rfl, rfl, rfl, rfl⟩
        · cases h
    · cases h

/-- A message about a number of things is not the one about a shape that is too large. -/
theorem ne_tooLarge {text : String} (h : text.toList.getLast? = some 's')
    (dimension docCount : UInt64) : BuildError.dataset text ≠ tooLarge dimension docCount := by
  intro heq
  injection heq with htext
  have hlast : ∀ front : String, (front ++ " is too large").toList.getLast? = some 'e' := by
    intro front
    rw [String.toList_append, List.getLast?_append]
    rfl
  rw [htext, hlast] at h
  cases h

/-- A text ends as its last part does. -/
theorem getLast?_append_of_some {front back : String} {c : Char}
    (h : back.toList.getLast? = some c) : (front ++ back).toList.getLast? = some c := by
  rw [String.toList_append, List.getLast?_append, h]
  rfl

/-- Buffers of a shape whose sizes are words are refused for their sizes. -/
theorem of_ofBuffers_eq_error {vectors docIds : Bytes} {dimension docCount : UInt64}
    {t : ElementType} {e : BuildError}
    (hidsFit : docCount.toNat * docIdSize.toNat < 0x10000000000000000)
    (hvectorsFit : docCount.toNat * dimension.toNat * t.stagedSize.toNat < 0x10000000000000000)
    (h : ofBuffers vectors docIds dimension docCount t = .error e) :
    ¬ (docIds.length = docCount.toNat * docIdSize.toNat ∧
        vectors.length = docCount.toNat * dimension.toNat * t.stagedSize.toNat) ∧
      ∀ dimension' docCount', e ≠ tooLarge dimension' docCount' := by
  constructor
  · rintro ⟨hids, hvectors⟩
    obtain ⟨d, hd, -⟩ := exists_ofBuffers hids hvectors hidsFit hvectorsFit
    cases h.symm.trans hd
  · have hsize : Word.mul? docCount docIdSize =
        some (UInt64.ofNat (docCount.toNat * docIdSize.toNat)) :=
      Word.mul?_eq_some_iff.2 (UInt64.toNat_ofNat_of_lt' hidsFit).symm
    unfold ofBuffers at h
    split at h
    · next hnone => cases hsize.symm.trans hnone
    · split at h
      · split at h
        · next hnone => cases (expectedVectors_eq_some hvectorsFit).symm.trans hnone
        · split at h
          · cases h
          · cases h
            exact ne_tooLarge (getLast?_append_of_some rfl)
      · cases h
        exact ne_tooLarge (getLast?_append_of_some rfl)

end Dataset

end VectorIndex
