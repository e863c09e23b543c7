/-!
# Causes of failure

`BuildError` lists every cause for which a build, a transfer or a job is refused, with
the facts that its message reports.  `BuildError.kind` sorts the causes coarsely and
`BuildError.message` is the one place where their wording lives.

`Abort` lists the situations that end a computation without an answer; they are
kept apart from the failures that callers are told about.
-/

set_option autoImplicit false

namespace VectorIndex

/-- Why a text does not name an object. -/
inductive PathError where
  /-- Two separators with nothing between them. -/
  | emptySegment (path : String)
  /-- A segment that is a relative step or holds a forbidden character. -/
  | badSegment (path segment illegal : String)
  deriving DecidableEq, Repr

/-- The wording of a path error. -/
def PathError.message : PathError → String
  | .emptySegment path => "Path \"" ++ path ++ "\" contained empty path segment"
  | .badSegment path segment illegal =>
    "Error parsing Path \"" ++ path ++ "\": Encountered illegal character sequence \"" ++ illegal ++
      "\" whilst parsing path segment \"" ++ segment ++ "\""

/-- Failures of an object store backend. -/
inductive StoreError where
  /-- No object at the path. -/
  | notFound (path reason : String)
  /-- Any other failure, reported under the backend's name. -/
  | backend (store reason : String)
  deriving DecidableEq, Repr

/-- The wording of a backend failure. -/
def StoreError.message : StoreError → String
  | .notFound path reason => "Object at location " ++ path ++ " not found: " ++ reason
  | .backend store reason => "Generic " ++ store ++ " error: " ++ reason

/-- Coarse classes of causes. -/
inductive ErrorKind where
  | configuration
  | storage
  | build
  | timeout
  | internal
  deriving DecidableEq, Repr

/-- The name of a class. -/
def ErrorKind.name : ErrorKind → String
  | .configuration => "configuration"
  | .storage => "storage"
  | .build => "build"
  | .timeout => "timeout"
  | .internal => "internal"

/-- Why something was refused. -/
inductive BuildError where
  /-- A knob or a setting has a value outside its range. -/
  | configuration (field reason : String)
  /-- A request that cannot be carried out. -/
  | invalidParameters (reason : String)
  /-- The process settings cannot be read. -/
  | settings (reason : String)
  /-- The settings text is not TOML of the expected shape. -/
  | toml
  /-- No transport for this type of repository. -/
  | unsupportedRepository (repositoryType : String)
  /-- The object to read does not exist. -/
  | notFound (path : String)
  /-- The backend failed. -/
  | storage (cause : StoreError)
  /-- The path does not name an object. -/
  | storagePath (cause : PathError)
  /-- A download broke off. -/
  | blobRead (path reason : String)
  /-- An upload broke off. -/
  | blobWrite (path reason : String)
  /-- Staged buffers do not fit the declared shape, or are gone. -/
  | dataset (reason : String)
  /-- The engine did not build the device index. -/
  | build (reason : String)
  /-- The engine did not convert the device index. -/
  | conversion (reason : String)
  /-- The host index was not persisted, or a persisted one is damaged. -/
  | persist (reason : String)
  /-- A handle is not in the state that the operation needs. -/
  | ownership (reason : String)
  /-- A deadline passed. -/
  | timeout (reason : String)
  /-- A text is not JSON of the expected shape. -/
  | json
  /-- A binary body cannot be decoded. -/
  | binary (reason : String)
  /-- The operating system refused a file operation. -/
  | io (reason : String)
  /-- The build service did not answer as expected. -/
  | jobStatus (reason : String)
  /-- Something that no caller could have prevented. -/
  | internal (reason : String)
  deriving DecidableEq, Repr

namespace BuildError

/-- The class of a cause. -/
def kind : BuildError → ErrorKind
  | .configuration .. | .invalidParameters _ | .settings _ | .toml => .configuration
  | .unsupportedRepository _ | .notFound _ | .storage _ | .storagePath _
  | .blobRead .. | .blobWrite .. | .dataset _ => .storage
  | .build _ | .conversion _ | .persist _ | .ownership _ => .build
  | .timeout _ => .timeout
  | .json | .binary _ | .io _ | .jobStatus _ | .internal _ => .internal

/-- The wording of a cause. -/
def message : BuildError → String
  | .configuration field reason => "invalid configuration for '" ++ field ++ "': " ++ reason
  | .invalidParameters reason => "invalid build parameters: " ++ reason
  | .settings reason => "config error: " ++ reason
  | .toml => "toml error"
  | .unsupportedRepository repositoryType => "unsupported repository type: " ++ repositoryType
  | .notFound path => "object not found: " ++ path
  | .storage cause => "storage error: " ++ cause.message
  | .storagePath cause => "storage path error: " ++ cause.message
  | .blobRead path reason => "error downloading blob " ++ path ++ ": " ++ reason
  | .blobWrite path reason => "error uploading blob " ++ path ++ ": " ++ reason
  | .dataset reason => "vectors dataset error: " ++ reason
  | .build reason => "failed to build GPU index: " ++ reason
  | .conversion reason => "failed to convert GPU index to CPU index: " ++ reason
  | .persist reason => "failed to persist CPU index: " ++ reason
  | .ownership reason => "native handle error: " ++ reason
  | .timeout reason => "timed out: " ++ reason
  | .json => "json serialization error"
  | .binary reason => "bincode serialization error: " ++ reason
  | .io reason => "io error: " ++ reason
  | .jobStatus reason => "job status request failed: " ++ reason
  | .internal reason => "internal error: " ++ reason

end BuildError

/-- Situations in which a computation ends without an answer. -/
inductive Abort where
  /-- A product or a sum left the range of 64-bit words. -/
  | overflow
  /-- A stretch of a buffer does not lie within it. -/
  | outOfRange
  /-- Rows of no components cannot be cut out of a buffer. -/
  | zeroDimension
  /-- A deadline is later than any time that the clock can show. -/
  | deadline
  deriving DecidableEq, Repr

/-- What was computed; without it, the computation ends for the reason. -/
def Abort.unless {α : Type} (reason : Abort) : Option α → Except Abort α
  | some a => .ok a
  | none => .error reason

end VectorIndex
