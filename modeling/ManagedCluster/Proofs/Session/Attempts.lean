import Mathlib.Data.Nat.Find
import Mathlib.Order.Bounds.Basic
import ManagedCluster.Retry

/-! # Attempts at one request

A request that came too often is sent again after a delay. Where its answers are a stream, the last
attempt can be told from the answers alone, and the run is written down in advance: every earlier
attempt is followed by its delay, and the last one by nothing.
-/

namespace ManagedCluster

/-- The request came too often. -/
def isLimited {α : Type} : Except ApiError α → Bool
  | .error (.rateLimited _) => true
  | _ => false

namespace RetryPolicy

variable {ρ : Type} {Reply : ρ → Type} (policy : RetryPolicy) (request : ρ)
  (answers : Nat → Except ApiError (Reply request))

/-- The most attempts at a request. There is always one. -/
def mostAttempts : Nat := max policy.maxAttempts.toNat 1

/-- No attempt follows this one: its answer is final, or no more are allowed. Attempts are counted
from one. -/
def EndsWith (attempt : Nat) : Prop :=
  1 ≤ attempt ∧ (isLimited (answers attempt) = false ∨ attempt = policy.mostAttempts)

/-- An attempt that is limited, and the sleep after it. -/
def limitedAttempt (attempt : Nat) :
    List (Event ρ fun request => Except ApiError (Reply request)) :=
  [.answered request (answers attempt), .slept (policy.delayAfter attempt)]

/-- What happens from the first of these attempts to the last one. -/
def attemptEvents (first last : Nat) :
    List (Event ρ fun request => Except ApiError (Reply request)) :=
  (List.range' first (last - first)).flatMap (policy.limitedAttempt request answers) ++
    [.answered request (answers last)]

/-- A world that answers this request from a stream. The state is the number of the next attempt. -/
def answering [DecidableEq ρ] : World ρ (fun request => Except ApiError (Reply request)) Nat where
  answer other attempt :=
    if same : other = request then (same ▸ answers attempt, attempt + 1)
    else (.error (.notFound ""), attempt)
  readClock attempt := (0, attempt)
  sleep _ attempt := attempt

variable {policy request answers} {attempt last left : Nat}

theorem attemptEvents_self :
    policy.attemptEvents request answers last last = [.answered request (answers last)] := by
  simp [attemptEvents]

theorem attemptEvents_of_lt (more : attempt < last) :
    policy.attemptEvents request answers attempt last =
      policy.limitedAttempt request answers attempt ++
        policy.attemptEvents request answers (attempt + 1) last := by
  have length : last - attempt = last - (attempt + 1) + 1 := by omega
  rw [attemptEvents, attemptEvents, length, List.range'_succ, List.flatMap_cons, List.append_assoc]

theorem exists_isLeast_endsWith (policy : RetryPolicy)
    (answers : Nat → Except ApiError (Reply request)) :
    ∃ last, IsLeast {attempt | policy.EndsWith request answers attempt} last := by
  classical
  have ends : ∃ attempt, policy.EndsWith request answers attempt :=
    ⟨policy.mostAttempts, Nat.le_max_right _ 1, .inr rfl⟩
  exact ⟨Nat.find ends, Nat.find_spec ends, fun attempt => Nat.find_min' ends⟩

variable [DecidableEq ρ]

theorem run_ask_answering :
    (Program.ask request : Program ρ _ _).run (answering request answers) attempt =
      ⟨some (answers attempt), attempt + 1, [.answered request (answers attempt)]⟩ := by
  simp [Program.ask, Program.run, answering]

theorem run_retryFrom_of_final (final : isLimited (answers attempt) = false) :
    (policy.retryFrom (Program.ask request) attempt left).run (answering request answers) attempt =
      ⟨some (answers attempt), attempt + 1, [.answered request (answers attempt)]⟩ := by
  cases left with
  | zero => exact run_ask_answering
  | succ left =>
      rcases answer : answers attempt with (resource | message | ⟨code, message⟩) | reply
      · simp [retryFrom, Program.ask, Program.run, answering, answer]
      · rw [answer] at final
        cases final
      · simp [retryFrom, Program.ask, Program.run, answering, answer]
      · simp [retryFrom, Program.ask, Program.run, answering, answer]

theorem run_retryFrom_of_limited (limited : isLimited (answers attempt) = true) :
    (policy.retryFrom (Program.ask request) attempt (left + 1)).run (answering request answers)
        attempt =
      let rest := (policy.retryFrom (Program.ask request) (attempt + 1) left).run
        (answering request answers) (attempt + 1)
      { rest with events := policy.limitedAttempt request answers attempt ++ rest.events } := by
  rcases answer : answers attempt with (resource | message | ⟨code, message⟩) | reply
  · rw [answer] at limited
    cases limited
  · simp [retryFrom, Program.ask, Program.pause, Program.run, answering, limitedAttempt, answer]
  · rw [answer] at limited
    cases limited
  · rw [answer] at limited
    cases limited

/-- From some attempt on, the run goes up to the first attempt that no other follows. -/
theorem run_retryFrom (isLeast : IsLeast {attempt | policy.EndsWith request answers attempt} last)
    (counted : 1 ≤ attempt) (inTime : attempt ≤ last)
    (allowed : attempt + left = policy.mostAttempts) :
    (policy.retryFrom (Program.ask request) attempt left).run (answering request answers) attempt =
      ⟨some (answers last), last + 1, policy.attemptEvents request answers attempt last⟩ := by
  have here (ends : policy.EndsWith request answers attempt) : attempt = last :=
    Nat.le_antisymm inTime (isLeast.2 ends)
  induction left generalizing attempt with
  | zero =>
      obtain rfl := here ⟨counted, .inr allowed⟩
      rw [retryFrom, run_ask_answering, attemptEvents_self]
  | succ left ih =>
      cases limited : isLimited (answers attempt) with
      | false =>
          obtain rfl := here ⟨counted, .inl limited⟩
          rw [run_retryFrom_of_final limited, attemptEvents_self]
      | true =>
          have more : attempt < last := by
            refine Nat.lt_of_le_of_ne inTime ?_
            rintro rfl
            rcases isLeast.1.2 with final | last
            · cases final.symm.trans limited
            · omega
          have rest := @ih (attempt + 1) (by omega) more (by omega)
            fun ends => Nat.le_antisymm more (isLeast.2 ends)
          rw [run_retryFrom_of_limited limited, rest, attemptEvents_of_lt more]

/-- A request is sent again exactly until it is answered for good or no more attempts are
allowed. -/
theorem retry_run (policy : RetryPolicy) (request : ρ)
    (answers : Nat → Except ApiError (Reply request)) :
    ∃ last, IsLeast {attempt | policy.EndsWith request answers attempt} last ∧
      (policy.retry (Program.ask request)).run (answering request answers) 1 =
        ⟨some (answers last), last + 1, policy.attemptEvents request answers 1 last⟩ ∧
      last < UInt32.size := by
  obtain ⟨last, isLeast⟩ := exists_isLeast_endsWith policy answers
  have few : last ≤ policy.mostAttempts := isLeast.2 ⟨Nat.le_max_right _ 1, .inr rfl⟩
  have word : policy.maxAttempts.toNat < UInt32.size := policy.maxAttempts.toNat_lt
  have allowed : 1 + (policy.maxAttempts.toNat - 1) = policy.mostAttempts := by
    unfold mostAttempts
    omega
  refine ⟨last, isLeast, ?_, ?_⟩
  · rw [retry]
    exact run_retryFrom isLeast (Nat.le_refl 1) isLeast.1.1 allowed
  · unfold mostAttempts at few
    have size : 1 < UInt32.size := by decide
    omega

end RetryPolicy

end ManagedCluster
