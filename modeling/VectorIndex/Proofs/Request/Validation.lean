import Mathlib.Data.List.TakeWhile
import VectorIndex.Proofs.Request.Acceptance

/-!
# Which requests are accepted

A request is accepted exactly when it is `Acceptable`, a condition on texts and on mathematical
integers that mentions no check.  The plan then says what the request says, and its two sizes are
the exact products (`BuildRequest.accepts_exactly_the_acceptable`).  For every check there is one
lemma about when it passes; `plan_eq_ok_iff` puts them together.
-/

set_option autoImplicit false

namespace VectorIndex

/-! ## Texts -/

namespace Text

/-- Nothing is left without the margins when everything is blank: what is dropped in front is blank
in any case. -/
theorem withoutMargins_eq_nil_iff {cs : List Char} :
    withoutMargins cs = [] ↔ ∀ c ∈ cs, isBlank c = true := by
  unfold withoutMargins
  rw [List.reverse_eq_nil_iff, List.dropWhile_eq_nil_iff]
  constructor
  · intro h c hc
    rw [← List.takeWhile_append_dropWhile (p := isBlank) (l := cs)] at hc
    obtain hfront | hrest := List.mem_append.1 hc
    · exact List.mem_takeWhile_imp hfront
    · exact h c (List.mem_reverse.2 hrest)
  · exact fun h c hc => h c (List.dropWhile_subset isBlank (List.mem_reverse.1 hc))

/-- A text is blank when nothing is left of it without its margins. -/
theorem isBlankText_eq_false_iff {s : String} :
    isBlankText s = false ↔ withoutMargins s.toList ≠ [] := by
  rw [ne_eq, withoutMargins_eq_nil_iff, ← List.all_eq_true, Bool.not_eq_true]
  rfl

end Text

/-- Elements of every type take at least one octet. -/
theorem ElementType.sourceSize_pos (t : ElementType) : 0 < t.sourceSize.toNat := by
  cases t <;> decide

namespace BuildRequest

/-- A path is the name of a file, which is not empty, with an extension behind. -/
def NamesFile (path extension : String) : Prop :=
  ∃ stem : String, stem ≠ "" ∧ stem.toList.getLast? ≠ some '/' ∧ path = stem ++ extension

/-- A path is accepted exactly if it names a file with the extension. -/
theorem checkPath_eq_ok_iff {field path extension : String} :
    checkPath field path extension = .ok () ↔ NamesFile path extension := by
  constructor
  · intro h
    obtain ⟨stem, -, hempty, hslash, hpath⟩ := exists_stem_of_checkPath h
    refine ⟨stem, fun hnil => hempty (String.toList_eq_nil_iff.2 hnil), hslash, ?_⟩
    rw [← String.toList_inj, String.toList_append, hpath]
  · rintro ⟨stem, hempty, hslash, rfl⟩
    have hends : Text.endsInSlash stem = false := beq_eq_false_iff_ne.2 hslash
    have hstem : stem.isEmpty = false := by simpa using hempty
    unfold checkPath
    simp [Text.stem?_append, hends, hstem]

/-! ## The condition -/

/-- What a request must be like to be accepted.  The products are those of the integers. -/
structure Acceptable (r : BuildRequest) : Prop where
  repositoryType : Text.withoutMargins r.repositoryType.toList ≠ []
  containerName : Text.withoutMargins r.containerName.toList ≠ []
  vectorPath : NamesFile r.vectorPath ".knnvec"
  docIdPath : NamesFile r.docIdPath ".knndid"
  dimension : 1 ≤ r.dimension.toInt
  docCount : 1 ≤ r.docCount.toInt
  elementType : r.elementType ≠ .binary
  algorithm : r.index.algorithm = "hnsw"
  efConstruction : r.index.tuning.efConstruction ≠ some 0
  efSearch : r.index.tuning.efSearch ≠ some 0
  m : r.index.tuning.m ≠ some 0
  vectorBytes : r.docCount.toInt * r.dimension.toInt * r.elementType.sourceSize.toNat <
    0x10000000000000000
  docIdBytes : r.docCount.toInt * 4 < 0x10000000000000000

/-- What the plan for a request is like: it says what the request says, and how large the two
blobs are. -/
structure CarriedOver (r : BuildRequest) (p : Plan) : Prop where
  repositoryType : p.repositoryType = r.repositoryType
  containerName : p.containerName = r.containerName
  vectorPath : p.vectorPath = r.vectorPath
  docIdPath : p.docIdPath = r.docIdPath
  dimension : (p.dimension.toNat : Int) = r.dimension.toInt
  docCount : (p.docCount.toNat : Int) = r.docCount.toInt
  elementType : p.elementType = r.elementType
  engine : p.engine = r.engine
  index : p.index = r.index
  stagingMode : p.stagingMode = r.stagingMode
  overrides : p.overrides = r.overrides.getD {}
  vectorBytes : (p.vectorBytes.toNat : Int) =
    r.docCount.toInt * r.dimension.toInt * r.elementType.sourceSize.toNat
  docIdBytes : (p.docIdBytes.toNat : Int) = r.docCount.toInt * 4

variable {r : BuildRequest} {p : Plan}

/-- A plan carries over every field of its request. -/
theorem carriedOver_of_plan (h : r.plan = .ok p) : r.CarriedOver p := by
  have hr := accepted_of_plan h
  obtain ⟨-, -, -, -, -, -, -, -, -, -, -, -, -, hp⟩ := plan_eq_ok_iff.1 h
  exact {
    repositoryType := congrArg Plan.repositoryType hp
    containerName := congrArg Plan.containerName hp
    vectorPath := hr.vectorPath
    docIdPath := hr.docIdPath
    dimension := hr.dimension
    docCount := hr.docCount
    elementType := hr.elementType
    engine := hr.engine
    index := hr.index
    stagingMode := congrArg Plan.stagingMode hp
    overrides := hr.overrides
    vectorBytes := by
      rw [← hr.dimension, ← hr.docCount, ← hr.elementType, ← hr.vectorBytes]
      norm_cast
    docIdBytes := by
      rw [← hr.docCount, ← hr.docIdBytes]
      norm_cast }

/-- Only acceptable requests get a plan. -/
theorem acceptable_of_plan (h : r.plan = .ok p) : r.Acceptable := by
  have hp := carriedOver_of_plan h
  have hword : ∀ n : UInt64, (n.toNat : Int) < 0x10000000000000000 := fun n =>
    Int.ofNat_lt.2 (UInt64.toNat_lt n)
  obtain ⟨hrepository, hcontainer, hvectorPath, hdocIdPath, hdimension, hdocCount, -, -, helement,
    halgorithm, hefConstruction, hefSearch, hm, -⟩ := plan_eq_ok_iff.1 h
  exact {
    repositoryType := Text.isBlankText_eq_false_iff.1 hrepository
    containerName := Text.isBlankText_eq_false_iff.1 hcontainer
    vectorPath := checkPath_eq_ok_iff.1 hvectorPath
    docIdPath := checkPath_eq_ok_iff.1 hdocIdPath
    dimension := (positive_eq_ok_iff.1 hdimension).1
    docCount := (positive_eq_ok_iff.1 hdocCount).1
    elementType := helement
    algorithm := halgorithm
    efConstruction := hefConstruction
    efSearch := hefSearch
    m := hm
    vectorBytes := hp.vectorBytes ▸ hword p.vectorBytes
    docIdBytes := hp.docIdBytes ▸ hword p.docIdBytes }

/-- No check fails for an acceptable request, so its plan is the one that carries it over. -/
theorem Acceptable.plan_eq_ok (hr : r.Acceptable) (hp : r.CarriedOver p) : r.plan = .ok p := by
  refine plan_eq_ok_iff.2 ⟨Text.isBlankText_eq_false_iff.2 hr.repositoryType,
    Text.isBlankText_eq_false_iff.2 hr.containerName, checkPath_eq_ok_iff.2 hr.vectorPath,
    checkPath_eq_ok_iff.2 hr.docIdPath, positive_eq_ok_iff.2 ⟨hr.dimension, hp.dimension⟩,
    positive_eq_ok_iff.2 ⟨hr.docCount, hp.docCount⟩, ?_, ?_, hr.elementType, hr.algorithm,
    hr.efConstruction, hr.efSearch, hr.m, ?_⟩
  · have hsize := hp.vectorBytes
    rw [← hp.dimension, ← hp.docCount] at hsize
    exact (Word.mul?_bind_mul?_eq_some_iff r.elementType.sourceSize_pos).2
      (by exact_mod_cast hsize.symm)
  · have hsize := hp.docIdBytes
    rw [← hp.docCount] at hsize
    exact Word.mul?_eq_some_iff.2 (by exact_mod_cast hsize.symm)
  · rw [← hp.repositoryType, ← hp.containerName, ← hp.vectorPath, ← hp.docIdPath,
      ← hp.elementType, ← hp.engine, ← hp.index, ← hp.stagingMode, ← hp.overrides]

/-- For an acceptable request there is a plan: what it counts fits into words. -/
theorem Acceptable.exists_carriedOver (h : r.Acceptable) : ∃ p, r.CarriedOver p := by
  have hword : ∀ {n : Int}, 0 ≤ n → n < 0x10000000000000000 →
      ((UInt64.ofNat n.toNat).toNat : Int) = n := by
    intro n hpos hlt
    have hsize : UInt64.size = 0x10000000000000000 := rfl
    rw [UInt64.toNat_ofNat_of_lt' (by omega)]
    exact Int.toNat_of_nonneg hpos
  have hdimension := h.dimension
  have hdocCount := h.docCount
  have hdimensionLt : r.dimension.toInt < 0x8000000000000000 := r.dimension.toInt_lt
  have hdocCountLt : r.docCount.toInt < 0x8000000000000000 := r.docCount.toInt_lt
  have hproduct : 0 ≤ r.docCount.toInt * r.dimension.toInt * r.elementType.sourceSize.toNat :=
    Int.mul_nonneg (Int.mul_nonneg (by omega) (by omega)) (Int.natCast_nonneg _)
  exact ⟨{
    repositoryType := r.repositoryType
    containerName := r.containerName
    vectorPath := r.vectorPath
    docIdPath := r.docIdPath
    dimension := UInt64.ofNat r.dimension.toInt.toNat
    docCount := UInt64.ofNat r.docCount.toInt.toNat
    elementType := r.elementType
    engine := r.engine
    index := r.index
    stagingMode := r.stagingMode
    overrides := r.overrides.getD {}
    vectorBytes := UInt64.ofNat
      (r.docCount.toInt * r.dimension.toInt * r.elementType.sourceSize.toNat).toNat
    docIdBytes := UInt64.ofNat (r.docCount.toInt * 4).toNat },
    { repositoryType := rfl
      containerName := rfl
      vectorPath := rfl
      docIdPath := rfl
      dimension := hword (by omega) (by omega)
      docCount := hword (by omega) (by omega)
      elementType := rfl
      engine := rfl
      index := rfl
      stagingMode := rfl
      overrides := rfl
      vectorBytes := hword hproduct h.vectorBytes
      docIdBytes := hword (by omega) h.docIdBytes }⟩

/-- A request is accepted exactly when it is acceptable, whatever its texts and numbers are, and the
plan is then determined: it carries over every field, absent overrides become empty ones, and its
sizes are the exact products. -/
theorem accepts_exactly_the_acceptable (r : BuildRequest) :
    ((∃ p, r.plan = .ok p) ↔ r.Acceptable) ∧
      ∀ p, r.plan = .ok p ↔ r.Acceptable ∧ r.CarriedOver p := by
  refine ⟨⟨fun ⟨_, hp⟩ => acceptable_of_plan hp, fun h => ?_⟩, fun p => ⟨fun hp => ?_, ?_⟩⟩
  · obtain ⟨p, hp⟩ := h.exists_carriedOver
    exact ⟨p, h.plan_eq_ok hp⟩
  · exact ⟨acceptable_of_plan hp, carriedOver_of_plan hp⟩
  · rintro ⟨h, hp⟩
    exact h.plan_eq_ok hp

/-- A request for vectors of 2 ^ 31 components of four octets each. -/
def ofWide (docCount : Int64) : BuildRequest where
  containerName := "c"
  vectorPath := "a.knnvec.knnvec"
  docIdPath := "..knndid"
  dimension := 0x80000000
  docCount := docCount

/-- The vectors may need all but 2 ^ 33 of the 2 ^ 64 octets; one vector more would need them
all. -/
theorem widest_is_acceptable :
    (ofWide 0x7FFFFFFF).Acceptable ∧ ¬ (ofWide 0x80000000).Acceptable ∧
      ∃ p, (ofWide 0x7FFFFFFF).plan = .ok p ∧ p.vectorBytes = 0xFFFFFFFE00000000 := by
  have haccepted : ((ofWide 0x7FFFFFFF).plan.map fun p => p.vectorBytes) =
      .ok 0xFFFFFFFE00000000 := by
    decide +kernel
  have hrefused : (ofWide 0x80000000).plan.toBool = false := by
    decide +kernel
  cases hplan : (ofWide 0x7FFFFFFF).plan with
  | error e =>
    rw [hplan] at haccepted
    cases haccepted
  | ok p =>
    rw [hplan] at haccepted
    refine ⟨((accepts_exactly_the_acceptable _).2 p |>.1 hplan).1, fun h => ?_, p, rfl,
      Except.ok.inj haccepted⟩
    obtain ⟨q, hq⟩ := (accepts_exactly_the_acceptable _).1.2 h
    rw [hq] at hrefused
    cases hrefused

end BuildRequest

end VectorIndex
