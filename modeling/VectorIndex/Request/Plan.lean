import VectorIndex.Request.Basic
import VectorIndex.Config.Assembly
import VectorIndex.Number.Word
import VectorIndex.Text.Affix
import VectorIndex.Text.Blank

/-!
# Accepted requests

A `Plan` is a request that passed every check, together with the exact sizes of the two
blobs that it names.  Only `BuildRequest.plan` makes one.  The plan knows where the
artifact goes and which configuration the engine is given.
-/

set_option autoImplicit false

namespace VectorIndex

/-- The extension of blobs of vectors. -/
def vectorExtension : String := ".knnvec"

/-- The extension of blobs of document ids. -/
def docIdExtension : String := ".knndid"

/-- Octets of one staged document id. -/
def docIdSize : UInt64 := 4

/-- A request that can be carried out. -/
structure Plan where
  repositoryType : String
  containerName : String
  vectorPath : String
  docIdPath : String
  dimension : UInt64
  docCount : UInt64
  elementType : ElementType
  engine : EngineKind
  index : IndexParameters
  stagingMode : StagingMode
  overrides : Overrides
  /-- Size of the blob of vectors. -/
  vectorBytes : UInt64
  /-- Size of the blob of document ids. -/
  docIdBytes : UInt64
  deriving DecidableEq, Repr

/-- The path of the artifact for a blob of vectors: the engine's extension takes the place of the
vectors' one. -/
def artifactPath (vectorPath : String) (engine : EngineKind) : String :=
  (Text.stem? vectorExtension vectorPath).getD vectorPath ++ "." ++ engine.name

namespace BuildRequest

/-- A path has to name a file with the given extension in some directory. -/
def checkPath (field path extension : String) : Except BuildError Unit :=
  let stem := (Text.stem? extension path).getD ""
  if stem.isEmpty || Text.endsInSlash stem then
    .error (.invalidParameters
      (field ++ " must name a '" ++ extension ++ "' file, got '" ++ path ++ "'"))
  else .ok ()

/-- A count has to be positive. -/
def positive (field : String) (value : Int64) : Except BuildError UInt64 :=
  if value.toInt ≤ 0 then
    .error (.invalidParameters
      (field ++ " must be greater than 0, got " ++ toString value.toInt))
  else .ok (UInt64.ofNat value.toInt.toNat)

/-- A refusal unless a condition holds. -/
def demand (holds : Bool) (reason : String) : Except BuildError Unit :=
  if holds then .ok () else .error (.invalidParameters reason)

/-- A refusal of what needs more than 64 bits to be counted. -/
def fit (size : Option UInt64) (what : String) : Except BuildError UInt64 :=
  match size with
  | some n => .ok n
  | none => .error (.invalidParameters (what ++ " do not fit in memory"))

/-- Checks a request; the first check that fails gives the reason. -/
def plan (r : BuildRequest) : Except BuildError Plan := do
  demand (!Text.isBlankText r.repositoryType) "repository_type must not be empty"
  demand (!Text.isBlankText r.containerName) "container_name must not be empty"
  checkPath "vector_path" r.vectorPath vectorExtension
  checkPath "doc_id_path" r.docIdPath docIdExtension
  let dimension ← positive "dimension" r.dimension
  let docCount ← positive "doc_count" r.docCount
  let vectorBytes ← fit ((Word.mul? docCount dimension).bind (Word.mul? · r.elementType.sourceSize))
    (toString docCount.toNat ++ " x " ++ toString dimension.toNat ++ " " ++ r.elementType.name ++
      " vectors")
  let docIdBytes ← fit (Word.mul? docCount docIdSize)
    (toString docCount.toNat ++ " document ids")
  demand (r.elementType ≠ .binary) "data_type 'binary' is not supported by the GPU graph build"
  demand (r.index.algorithm = "hnsw")
    ("algorithm '" ++ r.index.algorithm ++ "' is not supported, expected 'hnsw'")
  let tuning := r.index.tuning
  demand (tuning.efConstruction ≠ some 0)
    "algorithm_parameters.ef_construction must be greater than 0"
  demand (tuning.efSearch ≠ some 0) "algorithm_parameters.ef_search must be greater than 0"
  demand (tuning.m ≠ some 0) "algorithm_parameters.m must be greater than 0"
  return {
    repositoryType := r.repositoryType
    containerName := r.containerName
    vectorPath := r.vectorPath
    docIdPath := r.docIdPath
    dimension
    docCount
    elementType := r.elementType
    engine := r.engine
    index := r.index
    stagingMode := r.stagingMode
    overrides := r.overrides.getD {}
    vectorBytes
    docIdBytes }

end BuildRequest

namespace Plan

/-- Where the artifact is uploaded to. -/
def artifactPath (p : Plan) : String :=
  VectorIndex.artifactPath p.vectorPath p.engine

/-- The name that a successful run reports. -/
def artifactName (p : Plan) : String :=
  Text.lastSegment p.artifactPath

/-- What assembly is told about the dataset. -/
def shape (p : Plan) : BuildShape :=
  { docCount := p.docCount, dimension := p.dimension, metric := p.index.metric }

/-- Twice a word; the computation ends when that needs more than 64 bits. -/
def double (n : UInt64) : Except Abort UInt64 :=
  match Word.mul? 2 n with
  | some d => .ok d
  | none => .error .overflow

/-- The host knobs with the search parameters of the request folded in. -/
def foldedCpu (p : Plan) : Option CpuOverrides :=
  let tuning := p.index.tuning
  if tuning.efSearch.isSome || tuning.efConstruction.isSome then
    let cpu := p.overrides.cpu.getD {}
    some { cpu with
      efSearch := cpu.efSearch <|> tuning.efSearch
      efConstruction := cpu.efConstruction <|> tuning.efConstruction }
  else p.overrides.cpu

/-- The device knobs with the connections of a node folded in: the degree is twice their number, and
the graph that is pruned must not be narrower than the pruned one. -/
def foldedGpu (p : Plan) : Except Abort (Option GpuOverrides) :=
  match p.index.tuning.m with
  | none => .ok p.overrides.gpu
  | some m => do
    let gpu := p.overrides.gpu.getD {}
    let graphDegree ← match gpu.graphDegree with
      | some d => .ok d
      | none => double m
    let intermediateDegree ← match gpu.intermediateDegree with
      | some d => .ok (some d)
      | none => do
        let _ ← double m
        if ({} : GpuConfig).intermediateDegree < graphDegree then some <$> double graphDegree
        else .ok none
    return some { gpu with graphDegree := some graphDegree, intermediateDegree }

/-- The overrides with the tuning of the request folded in.  What the overrides say wins. -/
def effectiveOverrides (p : Plan) : Except Abort Overrides := do
  let gpu ← p.foldedGpu
  return { p.overrides with gpu, cpu := p.foldedCpu }

end Plan

end VectorIndex
