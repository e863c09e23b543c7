import VectorIndex.Config.Overrides

/-!
# Build requests

A request names two blobs, the shape of the vectors in them and what to build.  It is
exchanged as JSON; fields with a default may be left out.
-/

set_option autoImplicit false

namespace VectorIndex

open Json (Value Decoder)

/-- Parameters of the graph search that callers may tune. -/
structure AlgorithmParameters where
  efConstruction : Option UInt64 := none
  efSearch : Option UInt64 := none
  /-- Connections of a node.  The graph on the device has twice this degree. -/
  m : Option UInt64 := none
  deriving DecidableEq, Repr

/-- What kind of index to build. -/
structure IndexParameters where
  metric : Metric := .l2
  algorithm : String := "hnsw"
  tuning : AlgorithmParameters := {}
  deriving DecidableEq, Repr

/-- A build request as received. -/
structure BuildRequest where
  repositoryType : String := "s3"
  containerName : String
  vectorPath : String
  docIdPath : String
  dimension : Int64
  docCount : Int64
  elementType : ElementType := .float
  engine : EngineKind := .faiss
  index : IndexParameters := {}
  stagingMode : StagingMode := .disk
  overrides : Option Overrides := none
  deriving DecidableEq, Repr

namespace AlgorithmParameters

/-- The tuning parameters as a value. -/
def toJson (p : AlgorithmParameters) : Value :=
  .object <|
    Json.member? "ef_construction" .word p.efConstruction ++
    Json.member? "ef_search" .word p.efSearch ++
    Json.member? "m" .word p.m

/-- Reads tuning parameters, each of which may be missing. -/
def ofJson? : Decoder AlgorithmParameters := fun v => do
  let fields ← Json.fields? ["ef_construction", "ef_search", "m"] false v
  let efConstruction ← fields.option "ef_construction" .word
  let efSearch ← fields.option "ef_search" .word
  let m ← fields.option "m" .word
  return { efConstruction, efSearch, m }

end AlgorithmParameters

namespace IndexParameters

/-- The parameters of an index as a value. -/
def toJson (p : IndexParameters) : Value :=
  .object
    [ ("space_type", .string p.metric.name),
      ("algorithm", .string p.algorithm),
      ("algorithm_parameters", p.tuning.toJson) ]

/-- Reads the parameters of an index, where a missing one has its default. -/
def ofJson? : Decoder IndexParameters := fun v => do
  let default : IndexParameters := {}
  let fields ← Json.fields? ["space_type", "algorithm", "algorithm_parameters"] false v
  let metric ← fields.orElse "space_type" (.choice Metric.table) default.metric
  let algorithm ← fields.orElse "algorithm" .string default.algorithm
  let tuning ← fields.orElse "algorithm_parameters" AlgorithmParameters.ofJson? default.tuning
  return { metric, algorithm, tuning }

end IndexParameters

namespace BuildRequest

/-- The names of a request's fields, in the order in which an array lists them. -/
def fieldNames : List String :=
  ["repository_type", "container_name", "vector_path", "doc_id_path", "dimension", "doc_count",
    "data_type", "engine", "index_parameters", "serialization_mode", "config_overrides"]

/-- A request as a value. -/
def toJson (r : BuildRequest) : Value :=
  .object
    [ ("repository_type", .string r.repositoryType),
      ("container_name", .string r.containerName),
      ("vector_path", .string r.vectorPath),
      ("doc_id_path", .string r.docIdPath),
      ("dimension", .int r.dimension.toInt),
      ("doc_count", .int r.docCount.toInt),
      ("data_type", .string r.elementType.name),
      ("engine", .string r.engine.name),
      ("index_parameters", r.index.toJson),
      ("serialization_mode", .string r.stagingMode.name),
      ("config_overrides", match r.overrides with | some o => o.toJson | none => .null) ]

/-- Reads a request. -/
def ofJson? : Decoder BuildRequest := fun v => do
  let fields ← Json.fields? fieldNames false v
  let repositoryType ← fields.orElse "repository_type" .string "s3"
  let containerName ← fields.required "container_name" .string
  let vectorPath ← fields.required "vector_path" .string
  let docIdPath ← fields.required "doc_id_path" .string
  let dimension ← fields.required "dimension" .int64
  let docCount ← fields.required "doc_count" .int64
  let elementType ← fields.orElse "data_type" (.choice ElementType.table) .float
  let engine ← fields.orElse "engine" (.choice EngineKind.table) .faiss
  let index ← fields.orElse "index_parameters" IndexParameters.ofJson? {}
  let stagingMode ← fields.orElse "serialization_mode" (.choice StagingMode.table) .disk
  let overrides ← fields.option "config_overrides" Overrides.ofJson?
  return { repositoryType, containerName, vectorPath, docIdPath, dimension, docCount, elementType,
           engine, index, stagingMode, overrides }

end BuildRequest

end VectorIndex
