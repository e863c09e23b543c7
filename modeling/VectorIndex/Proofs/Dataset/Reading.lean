import Mathlib.Data.List.Basic
import VectorIndex.Proofs.Dataset.Elements

/-!
# Reading a parsed dataset

Buffers are wrapped exactly when they have the sizes of the declared shape and these sizes are words
(`Dataset.exists_ofBuffers_iff`).  Where a row starts and stops is computed in words without a check
for overflow, and the row is cut out without a check of the bounds.  Both are safe because of the
sizes that were checked before: the end of a row is at most the end of the buffer, whose size is a
word (`Dataset.readRow_eq`).  A shape without documents may have any dimension, and then no row is
read at all.

The rows one after the other are the components of the whole buffer, each at its own place
(`ElementType.stagedAt`), and after the release nothing is read any more.
-/

set_option autoImplicit false

namespace VectorIndex

/-! ## Components of staged octets -/

/-- The component at a position of staged octets, widened to single precision. -/
def ElementType.stagedAt (t : ElementType) (staged : Bytes) (j : Nat) : UInt32 :=
  match t with
  | .float => UInt32.ofNat (Bytes.value ((staged.drop (j * 4)).take 4))
  | .float16 => Half.toSingle (UInt16.ofNat (Bytes.value ((staged.drop (j * 2)).take 2)))
  | .byte => Single.ofInt (Bytes.signedValue ((staged.drop j).take 1))
  | .binary => Single.ofInt (Bytes.value ((staged.drop j).take 1))

namespace Dataset

variable {vectors docIds : Bytes} {dimension docCount : UInt64} {t : ElementType} {d : Dataset}

/-- A component is read from the place where its element is staged. -/
theorem getElem?_componentsOf (t : ElementType) {staged : Bytes} {j : Nat}
    (h : j < staged.length / t.stagedSize.toNat) :
    (componentsOf t staged)[j]? = some (t.stagedAt staged j) := by
  cases t with
  | float =>
    have hgroup := Grouping.getElem?_groups (n := 4) (by decide) h
    simp [componentsOf, ElementType.stagedAt, hgroup]
  | float16 =>
    have hgroup := Grouping.getElem?_groups (n := 2) (by decide) h
    simp [componentsOf, ElementType.stagedAt, hgroup]
  | byte => exact ElementType.getElem?_map_single (fun b => Single.ofInt (Bytes.signedValue b)) h
  | binary =>
    have hsingle := ElementType.getElem?_map_single (fun b => Single.ofInt (Bytes.value b)) h
    simpa [componentsOf, Bytes.value, ElementType.stagedAt] using hsingle

/-- All components of staged octets, each read at its own place. -/
theorem componentsOf_eq_map (t : ElementType) {staged : Bytes} {n : Nat}
    (h : staged.length = n * t.stagedSize.toNat) :
    componentsOf t staged = (List.range n).map (t.stagedAt staged) := by
  have hcount : staged.length / t.stagedSize.toNat = n := by
    rw [h, Nat.mul_div_cancel _ t.stagedSize_pos]
  apply eq_map_range
  · rw [length_componentsOf, hcount]
  · intro j hj
    exact getElem?_componentsOf t (by omega)

/-! ## Which buffers are wrapped -/

/-- The buffers have the sizes of the shape, and all that is multiplied on the way is a word. -/
structure Sized (vectors docIds : Bytes) (dimension docCount : UInt64) (t : ElementType) : Prop where
  ids : docIds.length = docCount.toNat * 4
  idsFit : docCount.toNat * 4 < 0x10000000000000000
  vectors : vectors.length = docCount.toNat * dimension.toNat * t.stagedSize.toNat
  rowsFit : docCount.toNat * dimension.toNat < 0x10000000000000000
  vectorsFit : docCount.toNat * dimension.toNat * t.stagedSize.toNat < 0x10000000000000000

/-- Only buffers of the right sizes are accepted. -/
theorem sized_of_ofBuffers (h : ofBuffers vectors docIds dimension docCount t = .ok d) :
    Sized vectors docIds dimension docCount t := by
  have hfour : docIdSize.toNat = 4 := rfl
  unfold ofBuffers at h
  split at h
  · cases h
  · next expectedIds hids =>
    have hidCount := Word.mul?_eq_some_iff.1 hids
    have hidBound := expectedIds.toNat_lt
    split at h
    · next hidLength =>
      split at h
      · cases h
      · next expected hexpected =>
        have hcount := toNat_of_expectedVectors hexpected
        have hbound := expected.toNat_lt
        obtain ⟨rows, hrows, -⟩ := Option.bind_eq_some_iff.1 hexpected
        have hrowCount := Word.mul?_eq_some_iff.1 hrows
        have hrowBound := rows.toNat_lt
        split at h
        · next hlength =>
          rw [hfour] at hidCount
          constructor
          · rw [hidLength, hidCount]
          · omega
          · rw [hlength, hcount]
          · omega
          · omega
        · cases h
    · cases h

/-- Buffers are wrapped if their sizes fit the shape, and then only. -/
theorem exists_ofBuffers_iff :
    (∃ d, ofBuffers vectors docIds dimension docCount t = .ok d) ↔
      Sized vectors docIds dimension docCount t := by
  constructor
  · rintro ⟨d, hd⟩
    exact sized_of_ofBuffers hd
  · intro h
    obtain ⟨d, hd, -⟩ := exists_ofBuffers h.ids h.vectors h.idsFit h.vectorsFit
    exact ⟨d, hd⟩

/-! ## Places of rows -/

/-- Every number of sixty-four bits is one of the machine. -/
theorem exists_word {n : Nat} (h : n < 0x10000000000000000) : ∃ w : UInt64, n = w.toNat :=
  ⟨UInt64.ofNat n, (UInt64.toNat_ofNat_of_lt' h).symm⟩

/-- Where the places of a row are words, the row is cut out of the buffer. -/
theorem exists_places {i stride : UInt64} {count : Nat} {staged : Bytes} (hi : i.toNat < count)
    (hlength : staged.length = count * stride.toNat) (hfit : staged.length < 0x10000000000000000)
    (hcount : count < 0x10000000000000000) :
    ∃ start next stop, Word.mul? i stride = some start ∧ Word.add? i 1 = some next ∧
      Word.mul? next stride = some stop ∧
      stretch? start stop staged =
        some ((staged.drop (i.toNat * stride.toNat)).take stride.toNat) := by
  have hend : (i.toNat + 1) * stride.toNat ≤ count * stride.toNat :=
    Nat.mul_le_mul_right stride.toNat hi
  have hsucc : (i.toNat + 1) * stride.toNat = i.toNat * stride.toNat + stride.toNat :=
    Nat.succ_mul i.toNat stride.toNat
  obtain ⟨start, hstart⟩ := exists_word (n := i.toNat * stride.toNat) (by omega)
  obtain ⟨next, hnext⟩ := exists_word (n := i.toNat + 1) (by omega)
  obtain ⟨stop, hstop⟩ := exists_word (n := (i.toNat + 1) * stride.toNat) (by omega)
  refine ⟨start, next, stop, Word.mul?_eq_some_iff.2 hstart, Word.add?_eq_some_iff.2 hnext, ?_, ?_⟩
  · rw [Word.mul?_eq_some_iff, ← hnext]
    exact hstop
  · have hbefore : start ≤ stop := by
      rw [UInt64.le_iff_toNat_le]
      omega
    have hinside : stop.toNat ≤ staged.length := by omega
    have hwidth : stop.toNat - start.toNat = stride.toNat := by omega
    unfold stretch?
    rw [if_pos ⟨hbefore, hinside⟩, List.drop_take, hwidth, hstart]

/-- The vectors can be read while the buffers are there. -/
theorem vectorBytes_eq_ok {b : StagedBuffers} (h : d.buffers = some b) :
    d.vectorBytes = .ok b.vectors := by
  unfold vectorBytes staged
  rw [h]
  rfl

/-- Without the buffers the vectors cannot be read. -/
theorem vectorBytes_eq_error (h : d.buffers = none) : d.vectorBytes = .error releasedError := by
  unfold vectorBytes staged
  rw [h]
  rfl

/-- Where the sizes are words, a row is read without an overflow and from within the buffer. -/
theorem readRow_eq
    (hfit : d.docCount.toNat * d.dimension.toNat * d.elementType.stagedSize.toNat <
      0x10000000000000000) (i : UInt64) :
    d.readRow i = .ok (d.row i.toNat) := by
  unfold readRow row
  by_cases hi : i.toNat < d.docCount.toNat
  · have hnot : ¬ d.docCount ≤ i := by
      rw [UInt64.le_iff_toNat_le]
      omega
    rw [if_neg hnot, if_pos hi]
    rw [Nat.mul_assoc] at hfit
    -- there is a row, so that one row is no longer than all rows together
    have hone : d.dimension.toNat * d.elementType.stagedSize.toNat ≤
        d.docCount.toNat * (d.dimension.toNat * d.elementType.stagedSize.toNat) :=
      Nat.le_mul_of_pos_left _ (by omega)
    obtain ⟨stride, hstride⟩ := exists_word (Nat.lt_of_le_of_lt hone hfit)
    have hproduct := Word.mul?_eq_some_iff.2 hstride
    cases hbuffers : d.buffers with
    | none =>
      simp only [hproduct, vectorBytes_eq_error hbuffers, Abort.unless, bind, Except.bind]
      rfl
    | some b =>
      obtain ⟨-, hlength⟩ := d.fits b hbuffers
      rw [Nat.mul_assoc, hstride] at hlength
      rw [hstride] at hfit
      obtain ⟨start, next, stop, hstart, hnext, hstop, hstretch⟩ :=
        exists_places hi hlength (by omega) d.docCount.toNat_lt
      simp only [hproduct, hstart, hnext, hstop, hstretch, hstride, vectorBytes_eq_ok hbuffers,
        Abort.unless, bind, Except.bind]
      rfl
  · have hle : d.docCount ≤ i := by
      rw [UInt64.le_iff_toNat_le]
      omega
    rw [if_pos hle, if_neg hi]

/-! ## Parsed datasets -/

/-- What is read of a dataset: these rows and these ids.  No row breaks off, and only a row that
there is not is refused. -/
structure Serves (d : Dataset) (rows : List (List UInt32)) (ids : List Int64) : Prop where
  count : rows.length = d.docCount.toNat
  width : ∀ row ∈ rows, row.length = d.dimension.toNat
  read : ∀ (i : UInt64) (row : List UInt32), rows[i.toNat]? = some row → d.readRow i = .ok (.ok row)
  refused : ∀ i : UInt64, d.docCount ≤ i → d.readRow i = .ok (.error (d.noSuchRow i.toNat))
  components : d.components = .ok rows.flatten
  docIds : d.docIds = .ok ids
  idCount : ids.length = d.docCount.toNat

/-- Nothing is left of the buffers of a dataset: whatever is in them is refused. -/
structure Emptied (d : Dataset) : Prop where
  released : d.isReleased = true
  vectorBytes : d.vectorBytes = .error releasedError
  docIdBytes : d.docIdBytes = .error releasedError
  docIds : d.docIds = .error releasedError
  row : ∀ i < d.docCount, d.readRow i = .ok (.error releasedError)
  noRow : ∀ i, d.docCount ≤ i → d.readRow i = .ok (.error (d.noSuchRow i.toNat))

/-- There is no row behind the last one. -/
theorem readRow_eq_error {i : UInt64} (h : d.docCount ≤ i) :
    d.readRow i = .ok (.error (d.noSuchRow i.toNat)) :=
  if_pos h

/-- A dataset whose sizes are words serves the rows of its buffer. -/
theorem exists_serves {b : StagedBuffers} (hb : d.buffers = some b)
    (hfit : d.docCount.toNat * d.dimension.toNat * d.elementType.stagedSize.toNat <
      0x10000000000000000) :
    ∃ rows, d.Serves rows (idsOf b.docIds) ∧
      rows.flatten = componentsOf d.elementType b.vectors := by
  obtain ⟨hidBytes, hvectorBytes⟩ := d.fits b hb
  have hcount : (componentsOf d.elementType b.vectors).length =
      d.docCount.toNat * d.dimension.toNat := by
    rw [length_componentsOf, hvectorBytes, Nat.mul_div_cancel _ d.elementType.stagedSize_pos]
  let rowAt : Nat → List UInt32 := fun i =>
    ((componentsOf d.elementType b.vectors).drop (i * d.dimension.toNat)).take d.dimension.toNat
  have hrow : ∀ i < d.docCount.toNat, d.row i = .ok (rowAt i) := fun i hi => row_eq_ok hb hi
  have hcomponents : d.components = .ok ((List.range d.docCount.toNat).map rowAt).flatten := by
    unfold components
    rw [mapM_eq_ok fun i hi => hrow i (List.mem_range.1 hi)]
    rfl
  refine ⟨(List.range d.docCount.toNat).map rowAt, ⟨by simp, ?_, ?_, ?_, hcomponents, ?_, ?_⟩, ?_⟩
  · intro row hmem
    obtain ⟨i, hi, rfl⟩ := List.mem_map.1 hmem
    have hend : (i + 1) * d.dimension.toNat ≤ d.docCount.toNat * d.dimension.toNat :=
      Nat.mul_le_mul_right _ (List.mem_range.1 hi)
    rw [Nat.succ_mul] at hend
    simp only [rowAt, List.length_take, List.length_drop]
    omega
  · intro i row hget
    have hi : i.toNat < d.docCount.toNat := by
      have := (List.getElem?_eq_some_iff.1 hget).1
      simpa using this
    rw [List.getElem?_map, List.getElem?_range hi] at hget
    rw [readRow_eq hfit, hrow _ hi, Option.some.inj hget]
  · exact fun i hi => readRow_eq_error hi
  · exact docIds_eq_ok hb
  · rw [length_idsOf, hidBytes]
    exact Nat.mul_div_cancel _ (by decide)
  · have hall := components_eq_ok hb
    rw [hcomponents] at hall
    exact Except.ok.inj hall

/-- A dataset that is released has no buffers left, and its rows cannot be read. -/
theorem emptied_release
    (hfit : d.docCount.toNat * d.dimension.toNat * d.elementType.stagedSize.toNat <
      0x10000000000000000) : d.release.Emptied := by
  refine ⟨rfl, rfl, rfl, rfl, ?_, fun i hi => readRow_eq_error hi⟩
  intro i hi
  rw [readRow_eq (d := d.release) hfit]
  exact congrArg Except.ok (if_pos (UInt64.lt_iff_toNat_lt.1 hi))

/-- Buffers are wrapped exactly when they have the sizes of the shape and these are words.  Then
every row that there is can be read, without an overflow and from within the buffer; all rows
together are the components of the buffer, and the ids those of the other one.  After the release
only the shape is left. -/
theorem parsed_can_be_read (vectors docIds : Bytes) (dimension docCount : UInt64)
    (t : ElementType) :
    ((∃ d, ofBuffers vectors docIds dimension docCount t = .ok d) ↔
        Sized vectors docIds dimension docCount t) ∧
      ∀ d, ofBuffers vectors docIds dimension docCount t = .ok d →
        d.dimension = dimension ∧ d.docCount = docCount ∧ d.elementType = t ∧
        d.vectorBytes = .ok vectors ∧ d.docIdBytes = .ok docIds ∧
        (∃ rows, d.Serves rows ((List.range docCount.toNat).map (idAt docIds)) ∧
          rows.flatten =
            (List.range (docCount.toNat * dimension.toNat)).map (t.stagedAt vectors)) ∧
        d.release.Emptied ∧ d.release.dimension = dimension ∧ d.release.docCount = docCount ∧
        d.release.elementType = t := by
  refine ⟨exists_ofBuffers_iff, ?_⟩
  intro d hd
  have hsized := sized_of_ofBuffers hd
  obtain ⟨hbuffers, rfl, rfl, rfl⟩ := of_ofBuffers_eq_ok hd
  obtain ⟨rows, hserves, hflatten⟩ := exists_serves hbuffers hsized.vectorsFit
  rw [idsOf_eq_map hsized.ids] at hserves
  rw [componentsOf_eq_map _ hsized.vectors] at hflatten
  have hdocIdBytes : d.docIdBytes = .ok docIds := by
    unfold docIdBytes staged
    rw [hbuffers]
    rfl
  exact ⟨rfl, rfl, rfl, vectorBytes_eq_ok hbuffers, hdocIdBytes, ⟨rows, hserves, hflatten⟩,
    emptied_release hsized.vectorsFit, rfl, rfl, rfl⟩

/-- Without documents the dimension may be the largest word, although a row would not fit into
memory; the rows of two half-precision numbers are read one after the other. -/
theorem widest_and_narrow_rows_are_read :
    (∃ d, ofBuffers [] [] 0xFFFFFFFFFFFFFFFF 0 .float = .ok d ∧
      d.readRow 0 = .ok (.error (d.noSuchRow 0))) ∧
    ∃ d, ofBuffers [0x00, 0x3C, 0x00, 0xC0] [1, 0, 0, 0, 0xFE, 0xFF, 0xFF, 0xFF] 1 2 .float16 = .ok d ∧
      d.readRow 1 = .ok (.ok [0xC0000000]) ∧ d.docIds = .ok [1, -2] ∧
      d.readRow 2 = .ok (.error (d.noSuchRow 2)) := by
  constructor
  · obtain ⟨hiff, hread⟩ := parsed_can_be_read [] [] 0xFFFFFFFFFFFFFFFF 0 .float
    obtain ⟨d, hd⟩ := hiff.2 ⟨by decide, by decide, by decide, by decide, by decide⟩
    obtain ⟨-, hcount, -, -, -, ⟨rows, hserves, -⟩, -⟩ := hread d hd
    exact ⟨d, hd, hserves.refused 0 (by rw [hcount]; decide)⟩
  · obtain ⟨hiff, hread⟩ := parsed_can_be_read [0x00, 0x3C, 0x00, 0xC0]
      [1, 0, 0, 0, 0xFE, 0xFF, 0xFF, 0xFF] 1 2 .float16
    obtain ⟨d, hd⟩ := hiff.2 ⟨by decide, by decide, by decide, by decide, by decide⟩
    obtain ⟨hdimension, hcount, -, -, -, ⟨rows, hserves, hflatten⟩, -⟩ := hread d hd
    have hids : (List.range (2 : UInt64).toNat).map
        (idAt [1, 0, 0, 0, 0xFE, 0xFF, 0xFF, 0xFF]) = [1, -2] := by decide +kernel
    have hall : rows.flatten = [0x3F800000, 0xC0000000] := hflatten.trans (by decide +kernel)
    have hlength : rows.length = 2 := hserves.count.trans (by rw [hcount]; rfl)
    obtain ⟨first, second, rfl⟩ := List.length_eq_two.1 hlength
    have hfirst : first.length = 1 := (hserves.width first (by simp)).trans (by rw [hdimension]; rfl)
    obtain ⟨x, rfl⟩ := List.length_eq_one_iff.1 hfirst
    have hsecond : second = [0xC0000000] := by
      simpa using (List.cons.inj hall).2
    refine ⟨d, hd, hserves.read 1 _ ?_, hids ▸ hserves.docIds, hserves.refused 2 ?_⟩
    · rw [hsecond]
      rfl
    · rw [hcount]
      decide

end Dataset

end VectorIndex
