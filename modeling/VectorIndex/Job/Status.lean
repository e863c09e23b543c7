import VectorIndex.Json.Record

/-!
# The status of a job

A build service tracks builds as jobs.  It answers a status request with the state of
the job and, once the job has ended, the artifact's name or the reason of the failure.
-/

set_option autoImplicit false

namespace VectorIndex

open Json (Value Decoder)

/-- How far a job has come. -/
inductive JobStatus where
  | running
  | completed
  | failed
  deriving DecidableEq, Repr

namespace JobStatus

/-- The name on the wire. -/
def name : JobStatus → String
  | .running => "RUNNING"
  | .completed => "COMPLETED"
  | .failed => "FAILED"

/-- All states with their names. -/
def table : List (String × JobStatus) :=
  [.running, .completed, .failed].map fun s => (s.name, s)

end JobStatus

/-- The service's answer to a status request. -/
structure JobReport where
  status : JobStatus
  fileName : Option String := none
  errorMessage : Option String := none
  deriving DecidableEq, Repr

namespace JobReport

/-- A report as a value. -/
def toJson (r : JobReport) : Value :=
  .object <|
    [("task_status", .string r.status.name)] ++
    Json.member? "file_name" .string r.fileName ++
    Json.member? "error_message" .string r.errorMessage

/-- Reads a report. -/
def ofJson? : Decoder JobReport := fun v => do
  let fields ← Json.fields? ["task_status", "file_name", "error_message"] false v
  let status ← fields.required "task_status" (.choice JobStatus.table)
  let fileName ← fields.option "file_name" .string
  let errorMessage ← fields.option "error_message" .string
  return { status, fileName, errorMessage }

end JobReport

end VectorIndex
