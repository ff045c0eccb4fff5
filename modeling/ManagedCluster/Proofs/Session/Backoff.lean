import Mathlib.Algebra.Order.Ring.Nat
import ManagedCluster.Proofs.Session.Operations

/-! # Delays between attempts

The delay after an attempt is computed with a power that stops at 32 bits, a product that may not
fit into a duration, and a bound. All three together are one minimum of exact numbers, so the delay
never decreases, and it doubles exactly until it reaches its bound or the power its last value. A
request that is sent again pauses for these delays in order.
-/

namespace ManagedCluster

namespace RetryPolicy

variable {policy : RetryPolicy} {attempt first second : Nat}

theorem growth_of_le (early : attempt ≤ 32) : growth attempt = 2 ^ (attempt - 1) := if_pos early

theorem growth_of_lt (late : 32 < attempt) : growth attempt = 2 ^ 32 - 1 :=
  if_neg (Nat.not_le.mpr late)

/-- The growth is the exact power of two, cut off at the largest number with 32 bits. -/
theorem growth_eq_min (attempt : Nat) : growth attempt = min (2 ^ (attempt - 1)) (2 ^ 32 - 1) := by
  rcases Nat.lt_or_ge 32 attempt with late | early
  · have power : 2 ^ 32 ≤ 2 ^ (attempt - 1) := Nat.pow_le_pow_right (by decide) (by omega)
    rw [growth_of_lt late]
    omega
  · have power : 2 ^ (attempt - 1) ≤ 2 ^ 31 := Nat.pow_le_pow_right (by decide) (by omega)
    rw [growth_of_le early]
    omega

theorem growth_le_power (attempt : Nat) : growth attempt ≤ 2 ^ (attempt - 1) := by
  rw [growth_eq_min]
  exact Nat.min_le_left _ _

theorem growth_mono (le : first ≤ second) : growth first ≤ growth second := by
  have powers : 2 ^ (first - 1) ≤ 2 ^ (second - 1) :=
    Nat.pow_le_pow_right (by decide) (Nat.sub_le_sub_right le 1)
  rw [growth_eq_min, growth_eq_min]
  omega

/-- A product that does not fit into a duration is longer than the bound, so it is cut off there as
every product is. -/
theorem nanos_delayAfter (policy : RetryPolicy) (attempt : Nat) :
    (policy.delayAfter attempt).nanos =
      min (policy.initialDelay.nanos * growth attempt) policy.maxDelay.nanos := by
  rcases Nat.lt_or_ge (policy.initialDelay.nanos * growth attempt) Duration.limit with fits | large
  · rw [delayAfter, Duration.mul_of_lt fits]
    exact Duration.nanos_min _ _
  · have long : policy.maxDelay.nanos ≤ policy.initialDelay.nanos * growth attempt :=
      Nat.le_trans (Nat.le_of_lt policy.maxDelay.lt_limit) large
    rw [delayAfter, Duration.mul_of_le large, Nat.min_eq_right long]

theorem delayAfter_le_maxDelay (policy : RetryPolicy) (attempt : Nat) :
    policy.delayAfter attempt ≤ policy.maxDelay := by
  show (policy.delayAfter attempt).nanos ≤ policy.maxDelay.nanos
  rw [nanos_delayAfter]
  exact Nat.min_le_right _ _

theorem delayAfter_mono (le : first ≤ second) :
    policy.delayAfter first ≤ policy.delayAfter second := by
  have products := Nat.mul_le_mul_left policy.initialDelay.nanos (growth_mono le)
  show (policy.delayAfter first).nanos ≤ (policy.delayAfter second).nanos
  rw [nanos_delayAfter, nanos_delayAfter]
  omega

/-- Where the largest power reaches the bound, so does every power beyond it. -/
theorem nanos_delayAfter_of_exact
    (exact : attempt ≤ 32 ∨ policy.maxDelay.nanos ≤ policy.initialDelay.nanos * (2 ^ 32 - 1)) :
    (policy.delayAfter attempt).nanos =
      min (policy.initialDelay.nanos * 2 ^ (attempt - 1)) policy.maxDelay.nanos := by
  rw [nanos_delayAfter]
  rcases Nat.lt_or_ge 32 attempt with late | early
  · have reached : policy.maxDelay.nanos ≤ policy.initialDelay.nanos * growth attempt := by
      rw [growth_of_lt late]
      exact exact.resolve_left (Nat.not_le.mpr late)
    have beyond := Nat.mul_le_mul_left policy.initialDelay.nanos (growth_le_power attempt)
    omega
  · rw [growth_of_le early]

theorem nanos_delayAfter_of_stalled (late : 32 < attempt)
    (short : policy.initialDelay.nanos * (2 ^ 32 - 1) < policy.maxDelay.nanos) :
    (policy.delayAfter attempt).nanos = policy.initialDelay.nanos * (2 ^ 32 - 1) := by
  rw [nanos_delayAfter, growth_of_lt late, Nat.min_eq_left (Nat.le_of_lt short)]

/-- A product that does not fit into a duration is one of those that are told exactly. -/
theorem exact_of_mul_eq_error {failure : Duration.ArithmeticError}
    (failed : policy.initialDelay.mul (growth attempt) = .error failure) :
    attempt ≤ 32 ∨ policy.maxDelay.nanos ≤ policy.initialDelay.nanos * (2 ^ 32 - 1) := by
  have large := (Duration.mul_eq_error_iff.mp failed).2
  have bound := policy.maxDelay.lt_limit
  rcases Nat.lt_or_ge 32 attempt with late | early
  · rw [growth_of_lt late] at large
    exact .inr (by omega)
  · exact .inl early

/-- The delay never decreases and is never longer than its bound. It doubles exactly up to there,
also where the product does not fit into a duration, unless the power stops growing before the bound
is reached: then the delay stays what it is with the largest power. -/
theorem delayAfter_exact (policy : RetryPolicy) (attempt : Nat) :
    policy.delayAfter attempt ≤ policy.maxDelay ∧
    policy.delayAfter attempt ≤ policy.delayAfter (attempt + 1) ∧
    (attempt ≤ 32 ∨ policy.maxDelay.nanos ≤ policy.initialDelay.nanos * (2 ^ 32 - 1) ∨
        (∃ failure, policy.initialDelay.mul (growth attempt) = .error failure) →
      (policy.delayAfter attempt).nanos =
        min (policy.initialDelay.nanos * 2 ^ (attempt - 1)) policy.maxDelay.nanos) ∧
    (32 < attempt → policy.initialDelay.nanos * (2 ^ 32 - 1) < policy.maxDelay.nanos →
      (policy.delayAfter attempt).nanos = policy.initialDelay.nanos * (2 ^ 32 - 1)) := by
  refine ⟨policy.delayAfter_le_maxDelay attempt, delayAfter_mono (Nat.le_succ attempt), ?_,
    nanos_delayAfter_of_stalled⟩
  rintro (early | reached | ⟨failure, failed⟩)
  · exact nanos_delayAfter_of_exact (.inl early)
  · exact nanos_delayAfter_of_exact (.inr reached)
  · exact nanos_delayAfter_of_exact (exact_of_mul_eq_error failed)

/-- From a nanosecond on, doubling stops at about four seconds, long before the hour. -/
def fromNanosecond : RetryPolicy where
  initialDelay := ⟨1, by decide⟩
  maxDelay := Duration.ofSeconds 3600

/-- Half of the longest duration, with a bound that is nearly as long as that. -/
def fromHalf : RetryPolicy where
  initialDelay := Duration.ofSeconds (2 ^ 63)
  maxDelay := Duration.ofSeconds (2 ^ 64 - 1)

/-- The power stops growing after the thirty-second attempt, and twice the half does not fit. -/
theorem delayAfter_exact_fromNanosecond :
    (fromNanosecond.delayAfter 32).nanos = 2 ^ 31 ∧
    (fromNanosecond.delayAfter 33).nanos = 2 ^ 32 - 1 ∧
    (fromNanosecond.delayAfter 34).nanos = 2 ^ 32 - 1 ∧
    fromHalf.initialDelay.mul (growth 2) = .error .mul ∧
    (fromHalf.delayAfter 2).nanos = (2 ^ 64 - 1) * 10 ^ 9 ∧
    (fromHalf.delayAfter 100).nanos = (2 ^ 64 - 1) * 10 ^ 9 := by
  have overflow : fromHalf.initialDelay.mul (growth 2) = .error .mul :=
    Duration.mul_of_le (by decide)
  have doubled := (delayAfter_exact fromNanosecond 32).2.2.1 (.inl (Nat.le_refl 32))
  have stalled := (delayAfter_exact fromNanosecond 33).2.2.2 (by decide) (by decide)
  have stays := (delayAfter_exact fromNanosecond 34).2.2.2 (by decide) (by decide)
  have beyond := (delayAfter_exact fromHalf 2).2.2.1 (.inr (.inr ⟨_, overflow⟩))
  have reached := (delayAfter_exact fromHalf 100).2.2.1 (.inr (.inl (by decide)))
  exact ⟨doubled.trans (by decide), stalled.trans (by decide), stays.trans (by decide), overflow,
    beyond.trans (by decide), reached.trans (by decide)⟩

end RetryPolicy

/-- The pauses among the events, in order. -/
def pauses : Events → List Duration
  | [] => []
  | .slept duration :: rest => duration :: pauses rest
  | _ :: rest => pauses rest

section Pauses

variable {policy : RetryPolicy} {request : Request} {attempt count : Nat} {events : Events}
  {answer : request.Answer}

/-- After each attempt but the last one there is the delay of this attempt. -/
theorem Attempts.exists_pauses_eq
    (attempts : Attempts policy request attempt count events answer) :
    ∃ earlier, count = earlier + 1 ∧
      pauses events = (List.range' attempt earlier).map policy.delayAfter := by
  induction attempts with
  | final answer => exact ⟨0, rfl, rfl⟩
  | again message _ ih =>
      obtain ⟨earlier, rfl, later⟩ := ih
      refine ⟨earlier + 1, rfl, ?_⟩
      rw [List.range'_succ, List.map_cons, ← later]
      rfl

/-- However a request is answered, the pauses between its attempts never get shorter, none is longer
than the bound, and there are fewer of them than attempts are allowed. -/
theorem pauses_of_retry {out : Option request.Answer}
    (trace : (policy.retry (Program.ask request)).Yields events out) :
    (pauses events).Pairwise (· ≤ ·) ∧ (∀ pause ∈ pauses events, pause ≤ policy.maxDelay) ∧
      (pauses events).length < max policy.maxAttempts.toNat 1 := by
  cases out with
  | none => exact absurd trace not_retryFrom_cutOff
  | some answer =>
      obtain ⟨count, few, attempts, -⟩ := attempts_of_retry trace
      obtain ⟨earlier, rfl, row⟩ := attempts.exists_pauses_eq
      rw [row]
      refine ⟨?_, ?_, ?_⟩
      · have ascending : (List.range' 1 earlier).Pairwise (· < ·) := List.pairwise_lt_range'
        exact List.pairwise_map.mpr <| ascending.imp fun before =>
          RetryPolicy.delayAfter_mono (Nat.le_of_lt before)
      · intro pause member
        obtain ⟨attempt, -, rfl⟩ := List.mem_map.mp member
        exact policy.delayAfter_le_maxDelay attempt
      · rw [List.length_map, List.length_range']
        exact few

end Pauses

end ManagedCluster
