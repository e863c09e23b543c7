import VectorIndex.Job.Http
import VectorIndex.Job.Polling
import VectorIndex.Json.Reader
import VectorIndex.Request.Basic

/-!
# Talking to the build service

A client knows the address of a service.  It submits builds and asks for the status of
jobs; anything but a granted request with a readable answer is a failure.  How requests
reach the service is not its concern: an `Exchange` carries them there.
-/

set_option autoImplicit false

namespace VectorIndex

/-- Carries a request to the service, with its own state in `σ`.  There may be no answer. -/
structure Exchange (σ : Type) where
  send : HttpRequest → σ → Option HttpResponse × σ

/-- A client of the service at an address. -/
structure JobClient where
  base : Url
  deriving DecidableEq, Repr

namespace JobClient

/-- The client for the address that a text spells. -/
def ofText (text : String) : Except BuildError JobClient :=
  match Url.parse text with
  | .ok base => .ok { base }
  | .error e => .error (.settings ("invalid base url '" ++ text ++ "': " ++ e.message))

/-- The address of a path of the service. -/
def endpoint (c : JobClient) (path : String) : Except BuildError Url :=
  match c.base.resolve path with
  | .ok url => .ok url
  | .error e => .error (.jobStatus ("invalid endpoint '" ++ path ++ "': " ++ e.message))

/-- The path for submitting builds. -/
def buildPath : String := "/_build"

/-- The path for the status of a job. -/
def statusPath (job : String) : String := "/_status/" ++ job

/-- The answer to a request, if it was granted. -/
def granted (url : Url) (answer : Option HttpResponse) : Except BuildError HttpResponse :=
  match answer.filter fun r => HttpResponse.isFinal r.status with
  | none => .error (.jobStatus ("error sending request for url (" ++ url.text ++ ")"))
  | some r =>
    if r.isSuccess then .ok r
    else .error (.jobStatus
      ("HTTP " ++ HttpResponse.statusText r.status ++ " from " ++ url.text ++ ": " ++ r.text))

/-- What the body of a response says. -/
def decoded {α : Type} (decode : Json.Decoder α) (r : HttpResponse) : Except BuildError α :=
  match (Json.Value.ofText? r.content).bind decode with
  | some a => .ok a
  | none => .error (.jobStatus "error decoding response body")

variable {σ : Type}

/-- Sends a request to a path and reads the answer.  Only two schemes can be used. -/
def request {α : Type} (c : JobClient) (exchange : Exchange σ) (method : HttpMethod) (path : String)
    (body : Option Json.Value) (decode : Json.Decoder α) (s : σ) : Except BuildError α × σ :=
  match c.endpoint path with
  | .error e => (.error e, s)
  | .ok url =>
    let url := url.withoutCredentials
    if url.scheme = "http" ∨ url.scheme = "https" then
      let (answer, s) := exchange.send { method, url, body } s
      (granted url answer >>= decoded decode, s)
    else (.error (.jobStatus ("builder error for url (" ++ url.text ++ ")")), s)

/-- Reads the answer to a submitted build. -/
def jobOf? : Json.Decoder String := fun v => do
  let fields ← Json.fields? ["job_id"] false v
  fields.required "job_id" .string

/-- Submits a build and gives the name of its job. -/
def submit (c : JobClient) (exchange : Exchange σ) (r : BuildRequest) (s : σ) :
    Except BuildError String × σ :=
  c.request exchange .post buildPath (some r.toJson) jobOf? s

/-- Asks for the status of a job. -/
def status (c : JobClient) (exchange : Exchange σ) (job : String) (s : σ) :
    Except BuildError JobReport × σ :=
  c.request exchange .get (statusPath job) none JobReport.ofJson? s

/-- The client as something to wait with.  The time that requests take is not known. -/
def source (c : JobClient) (exchange : Exchange σ) : StatusSource σ where
  ask job s :=
    let (answer, s) := c.status exchange job s
    (answer, 0, s)

end JobClient

end VectorIndex
