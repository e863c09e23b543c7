import VectorIndex.Settings.Basic
import VectorIndex.Text.Decimal
import VectorIndex.Toml.Document
import VectorIndex.Toml.Record

/-!
# Loading settings

Settings come from a TOML file, if there is one, and then from environment variables,
which win.  A file that was asked for has to be there; one that only a variable names may
be missing.
-/

set_option autoImplicit false

namespace VectorIndex

open Toml (Decoder)

/-! ## Files -/

/-- Fields of the transfer table. -/
def TransferSettings.names : List String :=
  ["multipart_chunksize", "multipart_threshold", "max_concurrency", "io_chunksize",
   "max_bandwidth"]

/-- Reads the transfer table together with its unknown entries. -/
def TransferSettings.ofToml? (e : Environment) :
    Decoder (TransferSettings × List (String × Toml.Value)) := fun v => do
  let d : TransferSettings := { maxConcurrency := defaultConcurrency e }
  let fields ← Toml.openFields? v
  let multipartChunk ← fields.orElse "multipart_chunksize" .word d.multipartChunk
  let multipartThreshold ← fields.orElse "multipart_threshold" .word d.multipartThreshold
  let maxConcurrency ← fields.orElse "max_concurrency" .word d.maxConcurrency
  let ioChunk ← fields.orElse "io_chunksize" .word d.ioChunk
  let maxBandwidth ← fields.option "max_bandwidth" .word
  let unknown ← fields.unknown? names
  return ({ multipartChunk, multipartThreshold, maxConcurrency, ioChunk, maxBandwidth }, unknown)

/-- What the storage table says. -/
structure StorageTable where
  settings : StorageSettings
  unknown : List (String × Toml.Value) := []
  unknownTransfer : List (String × Toml.Value) := []

/-- Fields of the storage table. -/
def StorageTable.names : List String :=
  ["retries", "region", "endpoint", "allow_http", "local_root", "debug", "transfer"]

/-- Reads the storage table. -/
def StorageTable.ofToml? (e : Environment) : Decoder StorageTable := fun v => do
  let d := (Settings.defaults e).storage
  let fields ← Toml.openFields? v
  let retries ← fields.orElse "retries" .word d.retries
  let region ← fields.orElse "region" .string d.region
  let endpoint ← fields.option "endpoint" .string
  let allowHttp ← fields.orElse "allow_http" .boolean d.allowHttp
  let localRoot ← fields.orElse "local_root" .string d.localRoot
  let debug ← fields.orElse "debug" .boolean d.debug
  let (transfer, unknownTransfer) ←
    fields.orElse "transfer" (TransferSettings.ofToml? e) (d.transfer, [])
  let unknown ← fields.unknown? names
  return {
    settings := { retries, region, endpoint, allowHttp, localRoot, debug, transfer }
    unknown
    unknownTransfer }

/-- Reads the table of runs. -/
def RunSettings.ofToml? (e : Environment) : Decoder RunSettings := fun v => do
  let fields ← Toml.fields? ["staging_dir", "stage_timeout_secs", "omp_num_threads"] v
  let stagingDirectory ← fields.orElse "staging_dir" .string e.temporaryDirectory
  let timeLimit ← fields.option "stage_timeout_secs" .word
  let threads ← fields.option "omp_num_threads" .word
  return { stagingDirectory, timeLimit, threads }

/-- Reads the table of the log. -/
def LogSettings.ofToml? : Decoder LogSettings := fun v => do
  let d : LogSettings := {}
  let fields ← Toml.fields? ["level", "format"] v
  let level ← fields.orElse "level" .string d.level
  let format ← fields.orElse "format" .string d.format
  return { level, format }

namespace Settings

/-- The settings that a document spells. -/
def ofToml? (e : Environment) (text : String) : Option Settings := do
  let d := defaults e
  let fields : Toml.Fields ← Toml.document? text
  let table ← fields.orElse "storage" (StorageTable.ofToml? e) { settings := d.storage }
  let runs ← fields.orElse "pipeline" (RunSettings.ofToml? e) d.runs
  let logging ← fields.orElse "logging" LogSettings.ofToml? d.logging
  return {
    storage := table.settings
    runs
    logging
    unknownStorage := table.unknown
    unknownTransfer := table.unknownTransfer }

/-- The settings in the text of a file. -/
def ofText (e : Environment) (text : String) : Except BuildError Settings :=
  match ofToml? e text with
  | some s => .ok s
  | none => .error .toml

/-! ## Variables -/

/-- The variable that names the settings file. -/
def fileVariable : String := "INDEX_BUILDER_CONFIG"

/-- What variables say about retries; a text that is no number of 64 bits is refused. -/
def overrideRetries (e : Environment) (s : Settings) : Except BuildError Settings :=
  match e.find? "INDEX_BUILDER_RETRIES" with
  | none => .ok s
  | some text =>
    match Text.Decimal.word? text with
    | some n => .ok { s with storage.retries := n }
    | none => .error (.settings ("INDEX_BUILDER_RETRIES is not a number: " ++ text))

/-- What variables say about the endpoint and the region. -/
def overrideService (e : Environment) (s : Settings) : Settings :=
  { s with
    storage.endpoint := e.find? "S3_ENDPOINT_URL" <|> s.storage.endpoint
    storage.region := (e.find? "AWS_REGION").getD s.storage.region }

/-- What variables say about runs and the log. -/
def overrideRest (e : Environment) (s : Settings) : Settings :=
  { s with
    runs.stagingDirectory :=
      (e.find? "INDEX_BUILDER_STAGING_DIR").getD s.runs.stagingDirectory
    logging :=
      { level := (e.find? "INDEX_BUILDER_LOG_LEVEL").getD s.logging.level
        format := (e.find? "INDEX_BUILDER_LOG_FORMAT").getD s.logging.format } }

/-- Applies the variables.  When the number of retries is refused, only what came before it has been
applied. -/
def override (e : Environment) (s : Settings) : Except BuildError Unit × Settings :=
  let s := s.overrideService e
  match s.overrideRetries e with
  | .error error => (.error error, s)
  | .ok s => (.ok (), s.overrideRest e)

/-! ## Both -/

/-- The text of a file. -/
def readText (disk : Disk) (path : String) : Except String String :=
  match disk.readFile path with
  | .error e => .error e.message
  | .ok bytes =>
    match Bytes.toText? bytes with
    | some text => .ok text
    | none => .error "stream did not contain valid UTF-8"

/-- The settings in a file. -/
def ofFile (e : Environment) (disk : Disk) (path : String) : Except BuildError Settings :=
  match readText disk path with
  | .error reason => .error (.settings ("failed to read " ++ path ++ ": " ++ reason))
  | .ok text => ofText e text

/-- The settings of a process that may have been given the path of a file. -/
def load (e : Environment) (disk : Disk) (path : Option String) : Except BuildError Settings := do
  let named := (e.find? fileVariable).filter disk.pathExists
  let s ← match path <|> named with
    | some p => ofFile e disk p
    | none => .ok (defaults e)
  let (r, s) := s.override e
  r
  s.validate
  return s

end Settings

end VectorIndex
