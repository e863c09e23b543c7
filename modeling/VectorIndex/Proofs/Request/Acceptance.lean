import VectorIndex.Blob.Path
import VectorIndex.Request.Plan
import VectorIndex.Proofs.Results
import VectorIndex.Proofs.Text.Affix

/-!
# What an accepted request promises

`BuildRequest.Accepted` lists what every plan takes over from its request and what its sizes
are.  The checks of the paths have a further consequence: when the blob of vectors has a valid
object path, so has the artifact (`Accepted.exists_parse_artifactPath`), because only the extension
of the last segment is exchanged.
-/

set_option autoImplicit false

namespace VectorIndex

namespace BuildRequest

/-- What a plan takes over from its request, and its sizes. -/
structure Accepted (r : BuildRequest) (p : Plan) : Prop where
  vectorPath : p.vectorPath = r.vectorPath
  docIdPath : p.docIdPath = r.docIdPath
  engine : p.engine = r.engine
  index : p.index = r.index
  overrides : p.overrides = r.overrides.getD {}
  elementType : p.elementType = r.elementType
  dimension : (p.dimension.toNat : Int) = r.dimension.toInt
  docCount : (p.docCount.toNat : Int) = r.docCount.toInt
  vectorBytes : p.docCount.toNat * p.dimension.toNat * p.elementType.sourceSize.toNat =
    p.vectorBytes.toNat
  docIdBytes : p.docCount.toNat * docIdSize.toNat = p.docIdBytes.toNat
  named : checkPath "vector_path" r.vectorPath vectorExtension = .ok ()
  docIdsNamed : checkPath "doc_id_path" r.docIdPath docIdExtension = .ok ()

/-- A positive count is taken over as it is. -/
theorem positive_eq_ok_iff {field : String} {value : Int64} {n : UInt64} :
    positive field value = .ok n ↔ 1 ≤ value.toInt ∧ (n.toNat : Int) = value.toInt := by
  have hlt : value.toInt < 0x8000000000000000 := value.toInt_lt
  have hsize : UInt64.size = 0x10000000000000000 := rfl
  unfold positive
  split
  case isTrue hle =>
    exact ⟨nofun, fun ⟨hpos, _⟩ => by omega⟩
  case isFalse hpos =>
    have hword : value.toInt.toNat < UInt64.size := by omega
    constructor
    · intro h
      obtain rfl := Except.ok.inj h
      rw [UInt64.toNat_ofNat_of_lt' hword]
      omega
    · rintro ⟨-, hn⟩
      have hnat : value.toInt.toNat = n.toNat := by omega
      rw [hnat, UInt64.ofNat_toNat]

/-- A demand is met exactly if its condition holds. -/
theorem demand_eq_ok_iff {holds : Bool} {reason : String} {u : Unit} :
    demand holds reason = .ok u ↔ holds = true := by
  cases holds <;> simp [demand]

/-- A size fits exactly if it was computed without overflow. -/
theorem fit_eq_ok_iff {size : Option UInt64} {what : String} {n : UInt64} :
    fit size what = .ok n ↔ size = some n := by
  cases size <;> simp [fit]

/-- A request is accepted exactly when it passes all checks, and the plan is filled with what it
says and with what the checks came to. -/
theorem plan_eq_ok_iff {r : BuildRequest} {p : Plan} :
    r.plan = .ok p ↔
      Text.isBlankText r.repositoryType = false ∧ Text.isBlankText r.containerName = false ∧
      checkPath "vector_path" r.vectorPath vectorExtension = .ok () ∧
      checkPath "doc_id_path" r.docIdPath docIdExtension = .ok () ∧
      positive "dimension" r.dimension = .ok p.dimension ∧
      positive "doc_count" r.docCount = .ok p.docCount ∧
      (Word.mul? p.docCount p.dimension).bind (Word.mul? · r.elementType.sourceSize) =
        some p.vectorBytes ∧
      Word.mul? p.docCount docIdSize = some p.docIdBytes ∧
      r.elementType ≠ .binary ∧ r.index.algorithm = "hnsw" ∧
      r.index.tuning.efConstruction ≠ some 0 ∧ r.index.tuning.efSearch ≠ some 0 ∧
      r.index.tuning.m ≠ some 0 ∧
      p = { p with
        repositoryType := r.repositoryType
        containerName := r.containerName
        vectorPath := r.vectorPath
        docIdPath := r.docIdPath
        elementType := r.elementType
        engine := r.engine
        index := r.index
        stagingMode := r.stagingMode
        overrides := r.overrides.getD {} } := by
  unfold plan
  simp only [bind_eq_ok_iff, demand_eq_ok_iff, fit_eq_ok_iff, Bool.not_eq_true',
    decide_eq_true_iff]
  constructor
  · rintro ⟨-, hrepository, -, hcontainer, ⟨⟩, hvectorPath, ⟨⟩, hdocIdPath, dimension, hdimension,
      docCount, hdocCount, vectorBytes, hvectorBytes, docIdBytes, hdocIdBytes, -, helement, -,
      halgorithm, -, hefConstruction, -, hefSearch, -, hm, hp⟩
    obtain rfl := Except.ok.inj hp
    exact ⟨hrepository, hcontainer, hvectorPath, hdocIdPath, hdimension, hdocCount, hvectorBytes,
      hdocIdBytes, helement, halgorithm, hefConstruction, hefSearch, hm, rfl⟩
  · rintro ⟨hrepository, hcontainer, hvectorPath, hdocIdPath, hdimension, hdocCount, hvectorBytes,
      hdocIdBytes, helement, halgorithm, hefConstruction, hefSearch, hm, hp⟩
    exact ⟨(), hrepository, (), hcontainer, (), hvectorPath, (), hdocIdPath, p.dimension,
      hdimension, p.docCount, hdocCount, p.vectorBytes, hvectorBytes, p.docIdBytes, hdocIdBytes,
      (), helement, (), halgorithm, (), hefConstruction, (), hefSearch, (), hm,
      congrArg Except.ok hp.symm⟩

/-- A request that gets a plan is accepted as this plan. -/
theorem accepted_of_plan {r : BuildRequest} {p : Plan} (h : r.plan = .ok p) : r.Accepted p := by
  obtain ⟨-, -, hvectorPath, hdocIdPath, hdimension, hdocCount, hvectorBytes, hdocIdBytes, -, -, -,
    -, -, hp⟩ := plan_eq_ok_iff.1 h
  have helement : p.elementType = r.elementType := congrArg Plan.elementType hp
  obtain ⟨components, hcomponents, hvectorBytes⟩ := Option.bind_eq_some_iff.1 hvectorBytes
  exact {
    vectorPath := congrArg Plan.vectorPath hp
    docIdPath := congrArg Plan.docIdPath hp
    engine := congrArg Plan.engine hp
    index := congrArg Plan.index hp
    overrides := congrArg Plan.overrides hp
    elementType := helement
    dimension := (positive_eq_ok_iff.1 hdimension).2
    docCount := (positive_eq_ok_iff.1 hdocCount).2
    vectorBytes := by
      rw [Word.mul?_eq_some_iff.1 hcomponents, helement]
      exact Word.mul?_eq_some_iff.1 hvectorBytes
    docIdBytes := Word.mul?_eq_some_iff.1 hdocIdBytes
    named := hvectorPath
    docIdsNamed := hdocIdPath }

/-- No tuning parameter of an accepted request is zero. -/
theorem tuned_of_plan {r : BuildRequest} {p : Plan} (h : r.plan = .ok p) :
    r.index.tuning.efConstruction ≠ some 0 ∧ r.index.tuning.efSearch ≠ some 0 ∧
      r.index.tuning.m ≠ some 0 := by
  obtain ⟨-, -, -, -, -, -, -, -, -, -, hefConstruction, hefSearch, hm, -⟩ := plan_eq_ok_iff.1 h
  exact ⟨hefConstruction, hefSearch, hm⟩

end BuildRequest

namespace BuildRequest

/-- The staging mode has no part in the configuration and in the shape. -/
theorem Accepted.agree {r : BuildRequest} {p p' : Plan} {mode : StagingMode} (h : r.Accepted p)
    (h' : { r with stagingMode := mode }.Accepted p') :
    p'.effectiveOverrides = p.effectiveOverrides ∧ p'.shape = p.shape ∧
      p'.dimension = p.dimension ∧ p'.elementType = p.elementType := by
  have hindex : p'.index = p.index := h'.index.trans h.index.symm
  have hoverrides : p'.overrides = p.overrides := h'.overrides.trans h.overrides.symm
  have hdimension : p'.dimension = p.dimension :=
    UInt64.toNat_inj.1 (Int.ofNat.inj (h'.dimension.trans h.dimension.symm))
  have hdocCount : p'.docCount = p.docCount :=
    UInt64.toNat_inj.1 (Int.ofNat.inj (h'.docCount.trans h.docCount.symm))
  refine ⟨?_, ?_, hdimension, h'.elementType.trans h.elementType.symm⟩
  · unfold Plan.effectiveOverrides Plan.foldedGpu Plan.foldedCpu
    rw [hindex, hoverrides]
  · unfold Plan.shape
    rw [hindex, hdimension, hdocCount]

end BuildRequest

/-! ## The path of the artifact -/

namespace ObjectPath

/-- When a segment is accepted. -/
theorem checkSegment_eq_ok_iff {path s : String} {segment : List Char} :
    checkSegment path segment = .ok s ↔
      s = String.ofList segment ∧ segment ≠ [] ∧ String.ofList segment ≠ "." ∧
        String.ofList segment ≠ ".." ∧ ∀ c ∈ segment, isControl c = false := by
  unfold checkSegment
  dsimp only
  constructor
  · intro h
    split at h
    · cases h
    · next hempty =>
      split at h
      · cases h
      · next hdots =>
        obtain ⟨hdot, hup⟩ := not_or.1 hdots
        split at h
        · cases h
        · next hfind =>
          refine ⟨(Except.ok.inj h).symm, fun hnil => hempty (List.isEmpty_iff.2 hnil), hdot,
            hup, ?_⟩
          intro c hc
          exact Bool.eq_false_iff.2 (List.find?_eq_none.1 hfind c hc)
  · rintro ⟨rfl, hempty, hdot, hup, hcontrol⟩
    have hfind : segment.find? isControl = none :=
      List.find?_eq_none.2 fun c hc => Bool.eq_false_iff.1 (hcontrol c hc)
    rw [if_neg (fun h => hempty (List.isEmpty_iff.1 h)), if_neg (not_or.2 ⟨hdot, hup⟩), hfind]

/-- Characters without a slash in front. -/
def afterSlash : List Char → List Char
  | '/' :: rest => rest
  | cs => cs

/-- A text that does not start with a slash is not stripped. -/
theorem afterSlash_of_ne {c : Char} (h : c ≠ '/') (rest : List Char) :
    afterSlash (c :: rest) = c :: rest := by
  unfold afterSlash
  split
  · next heq => exact absurd (List.cons.inj heq).1 h
  · rfl

/-- The segments of a text that does not end in a slash. -/
theorem parse_of_afterSlash {text : String} (hempty : (afterSlash text.toList).isEmpty = false)
    (hlast : (afterSlash text.toList).getLast? ≠ some '/') :
    parse text = ObjectPath.mk <$> (Text.splitAt '/' (afterSlash text.toList)).mapM
      (checkSegment text) := by
  have hparse : parse text =
      (let cs := afterSlash text.toList
      if cs.isEmpty then .ok ⟨[]⟩
      else
        let cs := if cs.getLast? = some '/' then cs.dropLast else cs
        ObjectPath.mk <$> (Text.splitAt '/' cs).mapM (checkSegment text)) := rfl
  rw [hparse]
  dsimp only
  rw [if_neg (Bool.eq_false_iff.1 hempty), if_neg hlast]

/-- The segments of a path that ends in an extension; a slash in front is ignored. -/
theorem exists_parse_eq {stem : List Char} (hstem : stem ≠ []) (hslash : stem.getLast? ≠ some '/') :
    ∃ inner : List Char, inner ≠ [] ∧ inner.getLast? ≠ some '/' ∧
      ∀ (text : String) (ending : List Char), ending ≠ [] → '/' ∉ ending →
        text.toList = stem ++ ending →
        parse text = ObjectPath.mk <$> (Text.splitAt '/' (inner ++ ending)).mapM
          (checkSegment text) := by
  obtain ⟨c, rest, rfl⟩ := List.exists_cons_of_ne_nil hstem
  -- the end of the text is the end of the extension
  have hend : ∀ (front ending : List Char), ending ≠ [] → '/' ∉ ending →
      (front ++ ending).isEmpty = false ∧ (front ++ ending).getLast? ≠ some '/' := by
    intro front ending hne hnot
    refine ⟨by simp [hne], fun hlast => hnot ?_⟩
    rw [List.getLast?_append, List.getLast?_eq_some_getLast hne] at hlast
    exact Option.some.inj hlast ▸ List.getLast_mem hne
  by_cases hc : c = '/'
  · subst hc
    have hrest : rest ≠ [] := by
      rintro rfl
      exact hslash rfl
    rw [List.getLast?_cons_of_ne_nil hrest] at hslash
    refine ⟨rest, hrest, hslash, fun text ending hne hnot htext => ?_⟩
    have hafter : afterSlash text.toList = rest ++ ending := by
      rw [htext]
      rfl
    obtain ⟨hempty, hlast⟩ := hend rest ending hne hnot
    rw [parse_of_afterSlash (hafter ▸ hempty) (hafter ▸ hlast), hafter]
  · refine ⟨c :: rest, hstem, hslash, fun text ending hne hnot htext => ?_⟩
    have hafter : afterSlash text.toList = c :: rest ++ ending := by
      rw [htext]
      exact afterSlash_of_ne hc _
    obtain ⟨hempty, hlast⟩ := hend (c :: rest) ending hne hnot
    rw [parse_of_afterSlash (hafter ▸ hempty) (hafter ▸ hlast), hafter]

/-- The extension of an object path may be exchanged. -/
theorem exists_parse_of_extension {stem : List Char} {extension extension' : List Char}
    {text text' : String} {location : ObjectPath} (hstem : stem ≠ [])
    (hslash : stem.getLast? ≠ some '/') (htext : text.toList = stem ++ extension)
    (htext' : text'.toList = stem ++ extension') (hextension : extension ≠ [] ∧ '/' ∉ extension)
    (hlong : 2 < extension'.length) (hextension' : ∀ c ∈ extension', c ≠ '/' ∧ isControl c = false)
    (hparse : parse text = .ok location) : ∃ location', parse text' = .ok location' := by
  obtain ⟨inner, hinner, hinnerSlash, heq⟩ := exists_parse_eq hstem hslash
  obtain ⟨front, last, hsplit, hlast⟩ := Text.splitAt_append '/' inner
  have hlast := hlast hinner hinnerSlash
  have hnot : '/' ∉ extension' := fun hmem => (hextension' _ hmem).1 rfl
  have hne : extension' ≠ [] := by
    rintro rfl
    exact absurd hlong (Nat.not_lt_zero 2)
  rw [heq text extension hextension.1 hextension.2 htext, hsplit _ hextension.2] at hparse
  have hchecked : ∃ segments, (front ++ [last ++ extension]).mapM (checkSegment text) =
      .ok segments := by
    cases hmap : (front ++ [last ++ extension]).mapM (checkSegment text) with
    | error e =>
      rw [hmap] at hparse
      cases hparse
    | ok segments => exact ⟨segments, rfl⟩
  obtain ⟨segments, hsegments⟩ := hchecked
  have hall := exists_ok_of_mapM hsegments
  have hall' : ∀ segment ∈ front ++ [last ++ extension'],
      checkSegment text' segment = .ok (String.ofList segment) := by
    intro segment hsegment
    refine checkSegment_eq_ok_iff.2 ⟨rfl, ?_⟩
    obtain hfront | hfinal := List.mem_append.1 hsegment
    · obtain ⟨s, hs⟩ := hall segment (List.mem_append_left _ hfront)
      exact (checkSegment_eq_ok_iff.1 hs).2
    · obtain rfl := List.mem_singleton.1 hfinal
      obtain ⟨s, hs⟩ := hall (last ++ extension)
        (List.mem_append_right _ (List.mem_singleton.2 rfl))
      obtain ⟨-, -, -, -, hcontrol⟩ := checkSegment_eq_ok_iff.1 hs
      have hlength : 2 < (last ++ extension').length := by
        rw [List.length_append]
        omega
      have hdots : ∀ dots : String, dots.toList.length ≤ 2 →
          String.ofList (last ++ extension') ≠ dots := by
        rintro dots hshort rfl
        rw [String.toList_ofList] at hshort
        omega
      refine ⟨List.append_ne_nil_of_left_ne_nil hlast _, hdots "." (by decide),
        hdots ".." (by decide), fun c hc => ?_⟩
      obtain hl | he := List.mem_append.1 hc
      · exact hcontrol c (List.mem_append_left _ hl)
      · exact (hextension' c he).2
  rw [heq text' extension' hne hnot htext', hsplit _ hnot, mapM_eq_ok hall']
  exact ⟨_, rfl⟩

end ObjectPath

/-- What stands in the extension of an artifact may stand in a segment. -/
theorem EngineKind.extension_admissible (e : EngineKind) :
    ∀ c ∈ ("." ++ e.name).toList, c ≠ '/' ∧ ObjectPath.isControl c = false := by
  have hall : (("." ++ e.name).toList.all fun c => c != '/' && !ObjectPath.isControl c) = true := by
    cases e <;> decide
  simpa using hall

/-- The ending of an engine has no slash. -/
theorem EngineKind.no_slash (e : EngineKind) : '/' ∉ ("." ++ e.name).toList := fun hmem =>
  (e.extension_admissible _ hmem).1 rfl

/-- The last letter of an engine's extension. -/
def EngineKind.lastLetter : EngineKind → Char
  | .faiss => 's'
  | .nmslib => 'b'

/-- Engines are told apart by the last letters of their names. -/
theorem EngineKind.lastLetter_inj {e e' : EngineKind} (h : e.lastLetter = e'.lastLetter) :
    e = e' := by
  cases e <;> cases e' <;> first | rfl | exact absurd h (by decide)

/-- A text of more than one character ends in the given one. -/
structure EndsIn (text : String) (c : Char) : Prop where
  long : 1 < text.toList.length
  last : text.toList.getLast? = some c

/-- Two texts that end in different characters are different, also without a slash in front. -/
theorem EndsIn.ne {text text' : String} {c c' : Char} (h : EndsIn text c) (h' : EndsIn text' c')
    (hne : c ≠ c') :
    text ≠ text' ∧ ObjectPath.afterSlash text.toList ≠ ObjectPath.afterSlash text'.toList := by
  have hafter : ∀ {t : String} {e : Char}, EndsIn t e →
      (ObjectPath.afterSlash t.toList).getLast? = some e := by
    rintro t e ⟨hlong, hlast⟩
    unfold ObjectPath.afterSlash
    split
    · next rest heq =>
      rw [heq] at hlong hlast
      rwa [List.getLast?_cons_of_ne_nil (List.ne_nil_of_length_pos (Nat.lt_of_succ_lt_succ hlong))]
        at hlast
    · exact hlast
  refine ⟨?_, fun heq => hne ?_⟩
  · rintro rfl
    exact hne (Option.some.inj (h.last.symm.trans h'.last))
  · have hsame := hafter h
    rw [heq, hafter h'] at hsame
    exact (Option.some.inj hsame).symm

/-- A text ends as an ending that was put on does, if this is long enough. -/
theorem endsIn_append {text : String} {stem ending : List Char} {c : Char}
    (htext : text.toList = stem ++ ending) (hlong : 1 < ending.length)
    (hlast : ending.getLast? = some c) : EndsIn text c := by
  refine ⟨?_, ?_⟩
  · rw [htext, List.length_append]
    omega
  · rw [htext, List.getLast?_append, hlast]
    rfl

/-- A text with the extension of an engine ends in its last letter. -/
theorem EngineKind.endsIn_extension (e : EngineKind) {text : String} {stem : List Char}
    (htext : text.toList = stem ++ ("." ++ e.name).toList) : EndsIn text e.lastLetter := by
  refine endsIn_append htext ?_ ?_ <;> cases e <;> decide

/-- An accepted request stores its artifact at the path that belongs to its vectors and its
engine. -/
theorem BuildRequest.Accepted.artifactPath_eq {r : BuildRequest} {p : Plan} (h : r.Accepted p) :
    p.artifactPath = artifactPath r.vectorPath r.engine := by
  unfold Plan.artifactPath
  rw [h.vectorPath, h.engine]

/-- A path that was checked is a stem with its extension behind. -/
theorem BuildRequest.exists_stem_of_checkPath {field path extension : String}
    (h : checkPath field path extension = .ok ()) :
    ∃ stem : String, Text.stem? extension path = some stem ∧ stem.toList ≠ [] ∧
      stem.toList.getLast? ≠ some '/' ∧ path.toList = stem.toList ++ extension.toList := by
  unfold checkPath at h
  cases hstem : Text.stem? extension path with
  | none =>
    rw [hstem] at h
    cases h
  | some stem =>
    rw [hstem] at h
    dsimp only [Option.getD_some] at h
    split at h
    · cases h
    · next hbad =>
      obtain ⟨hempty, hslash⟩ : stem.isEmpty = false ∧ Text.endsInSlash stem = false := by
        simpa using hbad
      refine ⟨stem, rfl, ?_, ?_, Text.toList_of_stem? hstem⟩
      · intro hnil
        rw [String.toList_eq_nil_iff.1 hnil] at hempty
        cases hempty
      · exact fun hlast => by simp [Text.endsInSlash, hlast] at hslash

/-- The name of the blob of vectors without its extension is the name of the artifact without
its own. -/
theorem BuildRequest.Accepted.exists_stem {r : BuildRequest} {p : Plan} (h : r.Accepted p) :
    ∃ stem : List Char, stem ≠ [] ∧ stem.getLast? ≠ some '/' ∧
      p.vectorPath.toList = stem ++ vectorExtension.toList ∧
      p.artifactPath.toList = stem ++ ("." ++ p.engine.name).toList := by
  obtain ⟨stem, hstem, hempty, hslash, hpath⟩ := exists_stem_of_checkPath h.named
  rw [← h.vectorPath] at hstem hpath
  refine ⟨stem.toList, hempty, hslash, hpath, ?_⟩
  unfold Plan.artifactPath artifactPath
  rw [hstem, Option.getD_some, String.append_assoc, String.toList_append]

/-- When the blob of vectors has an object path, so has the artifact. -/
theorem BuildRequest.Accepted.exists_parse_artifactPath {r : BuildRequest} {p : Plan}
    (h : r.Accepted p) {location : ObjectPath}
    (hparse : ObjectPath.parse p.vectorPath = .ok location) :
    ∃ target, ObjectPath.parse p.artifactPath = .ok target := by
  obtain ⟨stem, hne, hslash, hvector, hartifact⟩ := h.exists_stem
  refine ObjectPath.exists_parse_of_extension hne hslash hvector hartifact
    ⟨by decide, by decide⟩ ?_ p.engine.extension_admissible hparse
  cases p.engine <;> decide

/-- The last segment of a path ends in its extension. -/
theorem ObjectPath.exists_last_of_parse {stem ending : List Char} {text : String}
    {location : ObjectPath} (hstem : stem ≠ []) (hslash : stem.getLast? ≠ some '/')
    (htext : text.toList = stem ++ ending) (hne : ending ≠ []) (hnot : '/' ∉ ending)
    (hparse : parse text = .ok location) :
    ∃ last, location.segments.getLast? = some (String.ofList (last ++ ending)) := by
  obtain ⟨inner, -, -, heq⟩ := exists_parse_eq hstem hslash
  obtain ⟨front, last, hsplit, -⟩ := Text.splitAt_append '/' inner
  rw [heq text ending hne hnot htext, hsplit ending hnot] at hparse
  refine ⟨last, ?_⟩
  cases hmap : (front ++ [last ++ ending]).mapM (checkSegment text) with
  | error e =>
    rw [hmap] at hparse
    cases hparse
  | ok segments =>
    rw [hmap] at hparse
    obtain rfl := Except.ok.inj hparse
    have hall : ∀ segment ∈ front ++ [last ++ ending],
        checkSegment text segment = .ok (String.ofList segment) := by
      intro segment hsegment
      obtain ⟨s, hs⟩ := exists_ok_of_mapM hmap segment hsegment
      exact hs.trans (congrArg Except.ok (checkSegment_eq_ok_iff.1 hs).1)
    rw [mapM_eq_ok hall] at hmap
    rw [← Except.ok.inj hmap, List.map_append, List.map_singleton, List.getLast?_concat]

/-- No artifact is in the place of a blob that some run reads. -/
theorem BuildRequest.Accepted.target_ne {r r' : BuildRequest} {p p' : Plan} (h : r.Accepted p)
    (h' : r'.Accepted p') {target location : ObjectPath}
    (htarget : ObjectPath.parse p.artifactPath = .ok target)
    (hlocation : ObjectPath.parse p'.vectorPath = .ok location ∨
      ObjectPath.parse p'.docIdPath = .ok location) : target ≠ location := by
  obtain ⟨stem, hempty, hslash, -, hpath⟩ := h.exists_stem
  obtain ⟨last, hlast⟩ := ObjectPath.exists_last_of_parse hempty hslash hpath
    (by cases p.engine <;> decide) p.engine.no_slash htarget
  -- the last segments end in different characters
  have hother : ∀ (c : Char) {last' : List Char} {extension : String},
      1 < extension.toList.length → extension.toList.getLast? = some c → p.engine.lastLetter ≠ c →
      location.segments.getLast? = some (String.ofList (last' ++ extension.toList)) →
      target ≠ location := by
    rintro c last' extension hlong hc hne hlast' rfl
    have hends := p.engine.endsIn_extension (String.toList_ofList (l := last ++ _))
    have hends' := endsIn_append (String.toList_ofList (l := last' ++ _)) hlong hc
    exact (hends.ne hends' hne).1 (Option.some.inj (hlast.symm.trans hlast'))
  obtain hlocation | hlocation := hlocation
  · obtain ⟨stem', -, hempty', hslash', hpath'⟩ := exists_stem_of_checkPath h'.named
    rw [← h'.vectorPath] at hpath'
    obtain ⟨last', hlast'⟩ := ObjectPath.exists_last_of_parse hempty' hslash' hpath'
      (by decide) (by decide) hlocation
    exact hother 'c' (by decide) (by decide) (by cases p.engine <;> decide) hlast'
  · obtain ⟨stem', -, hempty', hslash', hpath'⟩ := exists_stem_of_checkPath h'.docIdsNamed
    rw [← h'.docIdPath] at hpath'
    obtain ⟨last', hlast'⟩ := ObjectPath.exists_last_of_parse hempty' hslash' hpath'
      (by decide) (by decide) hlocation
    exact hother 'd' (by decide) (by decide) (by cases p.engine <;> decide) hlast'

/-- An artifact has a name. -/
theorem BuildRequest.Accepted.artifactName_ne_empty {r : BuildRequest} {p : Plan}
    (h : r.Accepted p) : p.artifactName ≠ "" := by
  obtain ⟨stem, -, -, -, hartifact⟩ := h.exists_stem
  refine Text.lastSegment_ne_empty hartifact ?_ ?_
  · cases p.engine <;> decide
  · exact p.engine.no_slash

end VectorIndex
