import VectorIndex.Error
import VectorIndex.Job.Status
import VectorIndex.Number.Shortest

/-!
# Waiting for a job

The status of a job is asked for until it is final.  Between two requests there is a
pause; no request is made once the time is up.  A request that fails is as good as the
answer that the job is still running.  The first final answer decides, however long the
request for it took.
-/

set_option autoImplicit false

namespace VectorIndex

/-- What can be asked for the status of a job, with its own state in `σ`. -/
structure StatusSource (σ : Type) where
  /-- The answer, and how many nanoseconds it took. -/
  ask : String → σ → Except BuildError JobReport × Nat × σ

/-- How long to wait for a job. -/
structure Patience where
  /-- Nanoseconds after which no more requests are made. -/
  timeout : Nat
  /-- Nanoseconds between an answer and the next request. -/
  interval : Nat
  deriving DecidableEq, Repr

/-- What came of waiting. -/
structure Waited (σ : Type) where
  /-- Nothing if the requests could not be counted any more. -/
  result : Option (Except BuildError JobReport)
  polls : Nat
  elapsed : Nat
  source : σ

namespace Patience

/-- The failure of a job that takes too long. -/
def timedOut (p : Patience) (job : String) : BuildError :=
  .timeout ("job " ++ job ++ " did not complete within " ++
    (Double.secondsOfNanos p.timeout).text ++ "s")

/-- The failure of a job that failed. -/
def jobFailed (job : String) (report : JobReport) : BuildError :=
  .build ("job " ++ job ++ " failed: " ++ report.errorMessage.getD "unknown error")

/-- The result of waiting that an answer decides, if it does. -/
def verdict? (job : String) (answer : Except BuildError JobReport) :
    Option (Except BuildError JobReport) :=
  match answer with
  | .ok report =>
    match report.status with
    | .completed => some (.ok report)
    | .failed => some (.error (jobFailed job report))
    | .running => none
  | .error _ => none

/-- Requests are counted in 32 bits. -/
def maxPolls : Nat := 0xFFFFFFFF

variable {σ : Type}

/-- Goes on waiting when so many more requests can be counted. -/
def waitFrom (p : Patience) (source : StatusSource σ) (job : String) :
    Nat → Nat → Nat → σ → Waited σ
  | 0, polls, elapsed, s =>
    let late := p.timeout < elapsed
    { result := if late then some (.error (p.timedOut job)) else none, polls, elapsed, source := s }
  | more + 1, polls, elapsed, s =>
    if p.timeout < elapsed then
      { result := some (.error (p.timedOut job)), polls, elapsed, source := s }
    else
      let (answer, took, s) := source.ask job s
      let elapsed := elapsed + took
      match verdict? job answer with
      | some result => { result := some result, polls := polls + 1, elapsed, source := s }
      | none => waitFrom p source job more (polls + 1) (elapsed + p.interval) s

/-- Waits for a job. -/
def wait (p : Patience) (source : StatusSource σ) (job : String) (s : σ) : Waited σ :=
  p.waitFrom source job maxPolls 0 0 s

end Patience

end VectorIndex
