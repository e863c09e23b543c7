import VectorIndex.Blob.Resolver
import VectorIndex.Json.Value
import VectorIndex.Toml.Value

/-!
# Settings of a process

How stores are reached, where and for how long runs work, and what is logged.  Keys of a
settings file that this version does not know are kept aside and otherwise ignored.
-/

set_option autoImplicit false

namespace VectorIndex

open Json (Value)

/-- What a process finds around it. -/
structure Environment where
  /-- Environment variables. -/
  bindings : List (String × String) := []
  /-- Threads that can run at once. -/
  processors : Nat := 1

/-- The value of a variable. -/
def Environment.find? (e : Environment) (name : String) : Option String :=
  e.bindings.lookup name

/-- The directory for temporary files. -/
def Environment.temporaryDirectory (e : Environment) : String :=
  (e.find? "TMPDIR").getD "/tmp"

/-- Settings of runs. -/
structure RunSettings where
  /-- The directory that holds the workspaces of all runs. -/
  stagingDirectory : String
  /-- Seconds after which a run enters no further stage. -/
  timeLimit : Option UInt64 := none
  /-- Threads that engines are told to use. -/
  threads : Option UInt64 := none
  deriving DecidableEq, Repr

namespace RunSettings

/-- Variables that native libraries read once when their threads start. -/
def threadVariables (r : RunSettings) : List (String × String) :=
  (r.threads.map fun n => ("OMP_NUM_THREADS", toString n.toNat)).toList

/-- The settings of runs as a value. -/
def toJson (r : RunSettings) : Value :=
  .object [("staging_dir", .string r.stagingDirectory),
    ("stage_timeout_secs", r.timeLimit.elim .null .word),
    ("omp_num_threads", r.threads.elim .null .word)]

end RunSettings

/-- Settings of the log. -/
structure LogSettings where
  level : String := "info"
  format : String := "pretty"
  deriving DecidableEq, Repr

/-- The settings of the log as a value. -/
def LogSettings.toJson (l : LogSettings) : Value :=
  .object [("level", .string l.level), ("format", .string l.format)]

/-- All settings. -/
structure Settings where
  storage : StorageSettings
  runs : RunSettings
  logging : LogSettings := {}
  /-- Entries of the storage table that are not known. -/
  unknownStorage : List (String × Toml.Value) := []
  /-- Entries of the transfer table that are not known. -/
  unknownTransfer : List (String × Toml.Value) := []

/-- Parts that are in flight at once unless settings say otherwise: half of the threads, but one at
least. -/
def defaultConcurrency (e : Environment) : UInt64 :=
  UInt64.ofNat (max (e.processors / 2) 1)

/-- The settings of transfers as a value. -/
def TransferSettings.toJson (t : TransferSettings) : Value :=
  .object [("multipart_chunksize", .word t.multipartChunk),
    ("multipart_threshold", .word t.multipartThreshold),
    ("max_concurrency", .word t.maxConcurrency), ("io_chunksize", .word t.ioChunk),
    ("max_bandwidth", t.maxBandwidth.elim .null .word)]

/-- The settings of the storage as a value. -/
def StorageSettings.toJson (s : StorageSettings) : Value :=
  .object [("retries", .word s.retries), ("region", .string s.region),
    ("endpoint", s.endpoint.elim .null .string), ("allow_http", .bool s.allowHttp),
    ("local_root", .string s.localRoot), ("debug", .bool s.debug),
    ("transfer", s.transfer.toJson)]

namespace Settings

/-- The settings of a process without a file. -/
def defaults (e : Environment) : Settings where
  storage := { transfer := { maxConcurrency := defaultConcurrency e } }
  runs := { stagingDirectory := e.temporaryDirectory }

/-- All settings as a value. -/
def toJson (s : Settings) : Value :=
  .object [("storage", s.storage.toJson), ("pipeline", s.runs.toJson),
    ("logging", s.logging.toJson)]

/-- Refuses a setting. -/
def reject (key reason : String) : Except BuildError Unit :=
  .error (.configuration key reason)

/-- Checks settings; the first one that is out of range is refused. -/
def validate (s : Settings) : Except BuildError Unit :=
  let t := s.storage.transfer
  if t.multipartChunk = 0 then
    reject "storage.transfer.multipart_chunksize" "must be greater than 0"
  else if t.maxConcurrency = 0 then
    reject "storage.transfer.max_concurrency" "must be greater than 0"
  else if t.ioChunk = 0 then reject "storage.transfer.io_chunksize" "must be greater than 0"
  else if t.maxBandwidth = some 0 then
    reject "storage.transfer.max_bandwidth" "must be greater than 0 when set"
  else if s.runs.timeLimit = some 0 then
    reject "pipeline.stage_timeout_secs" "must be greater than 0 when set"
  else if s.logging.format = "pretty" ∨ s.logging.format = "json" then .ok ()
  else
    reject "logging.format" ("expected 'pretty' or 'json', got '" ++ s.logging.format ++ "'")

end Settings

end VectorIndex
