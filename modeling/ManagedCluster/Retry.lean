import ManagedCluster.Provider

/-! # Requests that came too often

A request that was rate limited is sent again after a delay, a limited number of times. The delay
doubles with every attempt up to a bound; every other answer is final.
-/

namespace ManagedCluster

/-- How often and after which delays a request is sent again. -/
structure RetryPolicy where
  /-- The number of attempts with the first one. None counts as one. -/
  maxAttempts : UInt32 := 1
  /-- The delay after the first attempt. -/
  initialDelay : Duration := Duration.ofSeconds 1
  /-- No delay is longer. -/
  maxDelay : Duration := Duration.ofSeconds 30
  deriving Repr, DecidableEq

namespace RetryPolicy

/-- How many times longer the delay is after this attempt than after the first: a power of two that
stops growing at 32 bits. -/
def growth (attempt : Nat) : Nat :=
  if attempt ≤ 32 then Nat.pow 2 (attempt - 1) else UInt32.size - 1

/-- The delay after this attempt, counted from one. -/
def delayAfter (policy : RetryPolicy) (attempt : Nat) : Duration :=
  match policy.initialDelay.mul (growth attempt) with
  | .ok delay => min delay policy.maxDelay
  | .error _ => policy.maxDelay

variable {ρ : Type} {Answer : ρ → Type} {α : Type}

/-- Send the request as this attempt, and up to `left` times after it. -/
def retryFrom (policy : RetryPolicy) (request : Program ρ Answer (Except ApiError α))
    (attempt : Nat) : Nat → Program ρ Answer (Except ApiError α)
  | 0 => request
  | left + 1 => do
    match ← request with
    | .error (.rateLimited _) =>
      Program.pause (policy.delayAfter attempt)
      policy.retryFrom request (attempt + 1) left
    | answer => return answer

/-- Send the request until an answer is final or the attempts are used up. -/
def retry (policy : RetryPolicy) (request : Program ρ Answer (Except ApiError α)) :
    Program ρ Answer (Except ApiError α) :=
  policy.retryFrom request 1 (policy.maxAttempts.toNat - 1)

end RetryPolicy

end ManagedCluster
