import VectorIndex.Error
import VectorIndex.Json.Record
import VectorIndex.Json.Writer

/-!
# Stages and outcomes of a run

A run passes through six stages in a fixed order.  It ends with the name of the
uploaded artifact or with the text of the failure that ended it.
-/

set_option autoImplicit false

namespace VectorIndex

open Json (Value Decoder)

/-- The stages of a run. -/
inductive Stage where
  | configuring
  | fetching
  | building
  | converting
  | persisting
  | uploading
  deriving DecidableEq, Repr

namespace Stage

/-- The name of a stage. -/
def name : Stage → String
  | .configuring => "configuring"
  | .fetching => "fetching"
  | .building => "building"
  | .converting => "converting"
  | .persisting => "persisting"
  | .uploading => "uploading"

/-- All stages in the order in which a run passes through them. -/
def all : List Stage :=
  [.configuring, .fetching, .building, .converting, .persisting, .uploading]

end Stage

/-- The failure that ended a run and the stage that it happened in. -/
structure StageFailure where
  stage : Stage
  error : BuildError
  deriving DecidableEq, Repr

/-- The wording of a stage failure. -/
def StageFailure.message (f : StageFailure) : String :=
  f.stage.name ++ " stage failed: " ++ f.error.message

/-- What a run reports: a name on success, a text on failure. -/
structure TaskResult where
  fileName : Option String := none
  error : Option String := none
  deriving DecidableEq, Repr

namespace TaskResult

/-- The result of a run that uploaded an artifact. -/
def success (fileName : String) : TaskResult :=
  { fileName := some fileName }

/-- The result of a run that failed; a failure always says something. -/
def failure (error : String) : TaskResult :=
  { error := some (if error.isEmpty then "unknown error" else error) }

/-- Whether the run succeeded. -/
def isSuccess (r : TaskResult) : Bool :=
  r.error.isNone

/-- A result as a value. -/
def toJson (r : TaskResult) : Value :=
  .object (Json.member? "file_name" .string r.fileName ++ Json.member? "error" .string r.error)

/-- Reads a result. -/
def ofJson? : Decoder TaskResult := fun v => do
  let fields ← Json.fields? ["file_name", "error"] false v
  let fileName ← fields.option "file_name" .string
  let error ← fields.option "error" .string
  return { fileName, error }

/-- The JSON text of a result. -/
def text (r : TaskResult) : String :=
  r.toJson.text fun _ => ""

end TaskResult

end VectorIndex
