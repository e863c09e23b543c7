import VectorIndex.Proofs.Run.Footing

/-!
# The names of artifacts

The artifact of an accepted request gets the name of the blob of vectors with another extension
(`BuildRequest.exists_stem_of_plan`).  It stays in the directory of the blob, and on disk it is
staged directly in the run's own directory, whatever dots and slashes the paths are made of.  The
stem is not changed, so artifacts of one name come from the same blob and engine; and the
extensions end in different characters, so an artifact is in the place of no blob that any run
reads.
-/

set_option autoImplicit false

namespace VectorIndex

/-! ## Stems and extensions -/

namespace BuildRequest

variable {r r' : BuildRequest} {p p' : Plan}

/-- The blob of vectors and the artifact have the same stem. -/
theorem exists_stem_of_plan (h : r.plan = .ok p) :
    ∃ stem : String, stem ≠ "" ∧ stem.toList.getLast? ≠ some '/' ∧
      p.vectorPath = stem ++ ".knnvec" ∧ p.artifactPath = stem ++ ("." ++ p.engine.name) := by
  obtain ⟨stem, hempty, hslash, hvector, hartifact⟩ := (accepted_of_plan h).exists_stem
  refine ⟨String.ofList stem, fun hnil => hempty ?_, ?_, ?_, ?_⟩
  · rw [← String.toList_ofList (l := stem), hnil]
    rfl
  · rwa [String.toList_ofList]
  · rw [← String.toList_inj, String.toList_append, String.toList_ofList]
    exact hvector
  · rw [← String.toList_inj, String.toList_append, String.toList_ofList]
    exact hartifact

/-- The path of the artifact ends in the last letter of its engine. -/
theorem Accepted.artifactPath_endsIn (h : r.Accepted p) :
    EndsIn p.artifactPath p.engine.lastLetter := by
  obtain ⟨stem, -, -, -, hartifact⟩ := h.exists_stem
  exact p.engine.endsIn_extension hartifact

/-- The path of the vectors ends in the last letter of its extension. -/
theorem Accepted.vectorPath_endsIn (h : r.Accepted p) : EndsIn p.vectorPath 'c' := by
  obtain ⟨stem, -, -, hvector, -⟩ := h.exists_stem
  exact endsIn_append hvector (by decide) (by decide)

/-- The path of the ids ends in the last letter of its extension. -/
theorem Accepted.docIdPath_endsIn (h : r.Accepted p) : EndsIn p.docIdPath 'd' := by
  obtain ⟨stem, -, -, -, hpath⟩ := exists_stem_of_checkPath h.docIdsNamed
  exact endsIn_append (h.docIdPath ▸ hpath) (by decide) (by decide)

/-- The names of artifacts are as different as the blobs and the engines are. -/
theorem artifactPath_eq_iff (h : r.plan = .ok p) (h' : r'.plan = .ok p') :
    p.artifactPath = p'.artifactPath ↔ p.vectorPath = p'.vectorPath ∧ p.engine = p'.engine := by
  constructor
  · intro heq
    have hengine : p.engine = p'.engine := by
      by_contra hne
      exact ((accepted_of_plan h).artifactPath_endsIn.ne (accepted_of_plan h').artifactPath_endsIn
        (mt EngineKind.lastLetter_inj hne)).1 heq
    obtain ⟨stem, -, -, hvector, hartifact⟩ := exists_stem_of_plan h
    obtain ⟨stem', -, -, hvector', hartifact'⟩ := exists_stem_of_plan h'
    rw [hartifact, hartifact', hengine] at heq
    have hstem : stem = stem' := by
      have hcs : stem.toList ++ ("." ++ p'.engine.name).toList =
          stem'.toList ++ ("." ++ p'.engine.name).toList := by
        rw [← String.toList_append, ← String.toList_append, heq]
      exact String.toList_inj.1 (List.append_cancel_right hcs)
    rw [hvector, hvector', hstem]
    exact ⟨rfl, hengine⟩
  · rintro ⟨hvector, hengine⟩
    unfold Plan.artifactPath
    rw [hvector, hengine]

/-- Neither as a text nor as a name in a store is an artifact in the place of a blob that is
read. -/
theorem artifactPath_ne_input (h : r.plan = .ok p) (h' : r'.plan = .ok p') {input : String}
    (hinput : input ∈ [p'.vectorPath, p'.docIdPath]) :
    p.artifactPath ≠ input ∧
      ObjectPath.afterSlash p.artifactPath.toList ≠ ObjectPath.afterSlash input.toList ∧
      ∀ target location, ObjectPath.parse p.artifactPath = .ok target →
        ObjectPath.parse input = .ok location → target ≠ location := by
  have hends := (accepted_of_plan h).artifactPath_endsIn
  obtain rfl | hmem := List.mem_cons.1 hinput
  · obtain ⟨htext, hstripped⟩ := hends.ne (accepted_of_plan h').vectorPath_endsIn
      (by cases p.engine <;> decide)
    exact ⟨htext, hstripped, fun target location htarget hlocation =>
      (accepted_of_plan h).target_ne (accepted_of_plan h') htarget (.inl hlocation)⟩
  · obtain rfl := List.mem_singleton.1 hmem
    obtain ⟨htext, hstripped⟩ := hends.ne (accepted_of_plan h').docIdPath_endsIn
      (by cases p.engine <;> decide)
    exact ⟨htext, hstripped, fun target location htarget hlocation =>
      (accepted_of_plan h).target_ne (accepted_of_plan h') htarget (.inr hlocation)⟩

/-- The last segment of the artifact's path is that of the blob's path with another extension. -/
theorem artifactName_of_plan (h : r.plan = .ok p) :
    ∃ name : String, name ≠ "" ∧ Text.lastSegment p.vectorPath = name ++ ".knnvec" ∧
      p.artifactName = name ++ ("." ++ p.engine.name) := by
  obtain ⟨stem, hempty, hslash, hvector, hartifact⟩ := exists_stem_of_plan h
  refine ⟨Text.lastSegment stem, ?_, ?_, ?_⟩
  · have hne : stem.toList ≠ [] := fun hnil => hempty (String.toList_eq_nil_iff.1 hnil)
    refine Text.lastSegment_ne_empty (List.dropLast_concat_getLast hne).symm
      (List.cons_ne_nil _ _) fun hmem => hslash ?_
    rw [List.getLast?_eq_some_getLast hne, ← List.mem_singleton.1 hmem]
  · rw [hvector, Text.lastSegment_append (by decide)]
  · unfold Plan.artifactName
    rw [hartifact, Text.lastSegment_append p.engine.no_slash]

end BuildRequest

/-! ## Staged files -/

/-- The index is staged in a file of the given name directly in the run's own directory: it adds one
part to the path of the directory, and wherever both can be followed, the file is an entry of the
directory. -/
def Workspace.StagesDirectly (space : Workspace) (name : String) : Prop :=
  ∃ path, space.content = .file path ∧
    Disk.pathParts path = Disk.pathParts space.directory ++ [name] ∧
    ∀ (d : Disk) (here there : List String), d.locate space.directory = .ok here →
      d.locate path = .ok there → there = here ++ [name]

/-- A new workspace on disk stages its file directly in its directory. -/
theorem Workspace.stagesDirectly_of_create {d d' : Disk} {root artifactPath suffix : String}
    {space : Workspace} (hname : Disk.IsName (Text.lastSegment artifactPath))
    (h : Workspace.create d root .disk artifactPath suffix = .ok (space, d')) :
    space.StagesDirectly (Text.lastSegment artifactPath) := by
  obtain ⟨-, -, -, -, -, hcontent⟩ := Workspace.create_spec h
  have habs : Disk.isAbsolute space.directory = true := (Workspace.placed_of_create h).1
  have hparts := Disk.pathParts_join (Disk.ne_empty_of_isAbsolute habs)
    (Disk.isAbsolute_eq_false_of_no_slash hname.no_slash)
  rw [Disk.pathParts_of_no_slash hname.no_slash hname.ne_empty] at hparts
  refine ⟨_, hcontent, hparts, fun d here there hhere hthere => ?_⟩
  have hdirectory := Disk.eq_follow_of_locate habs hhere
  have hfile := Disk.eq_follow_of_locate (Disk.isAbsolute_join habs _) hthere
  rw [Disk.follow_dot] at hdirectory hfile
  rw [hfile, hparts, Disk.follow_append, Disk.follow_name hname, hdirectory]

/-! ## Names of artifacts -/

/-- How the artifacts of accepted requests are named.  An artifact stays in the directory of its
blob of vectors.  Its base name is a name that an entry of a directory can have, and differs from
the blob's in the extension only; in disk mode it is staged under that name directly in the run's
own directory.  Artifacts of one path come from the same blob and engine.  No artifact is in the
place of a blob that any accepted request reads, with or without a slash in front, and not in a
store either. -/
theorem BuildRequest.artifacts_are_named_apart {r r' : BuildRequest} {p p' : Plan}
    (h : r.plan = .ok p) (h' : r'.plan = .ok p') :
    Text.directory p.artifactPath = Text.directory p.vectorPath ∧
    Text.directory p.vectorPath ++ p.artifactName = p.artifactPath ∧
    (∃ name : String, name ≠ "" ∧ Text.lastSegment p.vectorPath = name ++ ".knnvec" ∧
      p.artifactName = name ++ ("." ++ p.engine.name)) ∧
    Disk.IsName p.artifactName ∧
    (∀ d root suffix space d', Workspace.create d root .disk p.artifactPath suffix = .ok (space, d') →
      space.StagesDirectly p.artifactName) ∧
    (p.artifactPath = p'.artifactPath ↔ p.vectorPath = p'.vectorPath ∧ p.engine = p'.engine) ∧
    ∀ input ∈ [p'.vectorPath, p'.docIdPath],
      p.artifactPath ≠ input ∧
      ObjectPath.afterSlash p.artifactPath.toList ≠ ObjectPath.afterSlash input.toList ∧
      ∀ target location, ObjectPath.parse p.artifactPath = .ok target →
        ObjectPath.parse input = .ok location → target ≠ location := by
  have hname := (accepted_of_plan h).isName_artifactName
  have hdirectory : Text.directory p.artifactPath = Text.directory p.vectorPath := by
    obtain ⟨stem, -, -, hvector, hartifact⟩ := exists_stem_of_plan h
    rw [hvector, hartifact, Text.directory_append p.engine.no_slash,
      Text.directory_append (by decide)]
  refine ⟨hdirectory, ?_, artifactName_of_plan h, hname, fun d root suffix space d' hcreate =>
    Workspace.stagesDirectly_of_create hname hcreate, artifactPath_eq_iff h h', fun input =>
    artifactPath_ne_input h h'⟩
  rw [← hdirectory]
  exact Text.directory_append_lastSegment p.artifactPath

/-- A request for a blob whose name is made of dots and extensions. -/
def BuildRequest.ofDots (engine : EngineKind) : BuildRequest where
  containerName := "c"
  vectorPath := "/x/..knnvec.knnvec"
  docIdPath := "/x/...knndid"
  dimension := 1
  docCount := 1
  engine := engine

/-- Two engines give the blob two artifacts beside it, and the first is staged where it should. -/
theorem BuildRequest.dots_are_named_apart :
    ∃ p p', (ofDots .faiss).plan = .ok p ∧ (ofDots .nmslib).plan = .ok p' ∧
      p.artifactPath = "/x/..knnvec.faiss" ∧ Disk.IsName p.artifactName ∧
      (∃ space d', Workspace.create {} "/" .disk p.artifactPath "0" = .ok (space, d') ∧
        space.StagesDirectly p.artifactName) ∧
      p.artifactPath ≠ p'.artifactPath ∧ p.artifactPath ≠ p'.vectorPath := by
  have hplan : ∀ engine, (ofDots engine).plan = .ok {
      repositoryType := "s3", containerName := "c", vectorPath := "/x/..knnvec.knnvec",
      docIdPath := "/x/...knndid", dimension := 1, docCount := 1, elementType := .float,
      engine := engine, index := {}, stagingMode := .disk, overrides := {}, vectorBytes := 4,
      docIdBytes := 4 } := by
    intro engine
    cases engine <;> decide +kernel
  obtain ⟨-, -, -, hname, hstaged, hsame, hinput⟩ :=
    artifacts_are_named_apart (hplan .faiss) (hplan .nmslib)
  refine ⟨_, _, hplan .faiss, hplan .nmslib, by decide +kernel, hname, ?_, ?_, ?_⟩
  · have hmade : (Workspace.create {} "/" .disk "/x/..knnvec.faiss" "0").toBool = true := by
      decide +kernel
    cases hcreate : Workspace.create {} "/" .disk "/x/..knnvec.faiss" "0" with
    | error e =>
      rw [hcreate] at hmade
      cases hmade
    | ok made => exact ⟨made.1, made.2, hcreate, hstaged _ _ _ _ _ hcreate⟩
  · exact fun heq => absurd (hsame.1 heq).2 (by decide)
  · exact (hinput _ List.mem_cons_self).1

end VectorIndex
