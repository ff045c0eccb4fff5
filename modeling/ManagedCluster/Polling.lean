import ManagedCluster.Retry
import ManagedCluster.Text.Quoted

/-! # Waiting for operations

A request that changes a cluster is accepted long before it is done. The operation that it starts
is looked at in intervals until it is done or the time for it is over. An operation that is seen
done at the very end is still done.
-/

namespace ManagedCluster

/-- How far an operation is. -/
inductive OperationPhase where
  | requested
  | polling
  | done
  | failed
  | timedOut
  deriving Repr, DecidableEq

/-- What is seen of an operation. -/
inductive Observation where
  /-- The request was accepted. -/
  | submitted
  | pending
  | completed
  | errored
  | deadlineExceeded
  deriving Repr, DecidableEq

namespace OperationPhase

/-- The phase after an observation. The last three phases are final. -/
def after (phase : OperationPhase) (seen : Observation) : OperationPhase :=
  match phase with
  | done | failed | timedOut => phase
  | requested | polling =>
    match seen with
    | .submitted | .pending => polling
    | .completed => done
    | .errored => failed
    | .deadlineExceeded => timedOut

end OperationPhase

namespace Operation

/-- What is seen of an operation, before or after the deadline. -/
def observe (operation : Operation) (late : Bool) : Observation :=
  if operation.done then if operation.error.isSome then .errored else .completed
  else if late then .deadlineExceeded
  else .pending

end Operation

/-- How long and how often an operation is looked at. -/
structure PollPolicy where
  timeout : Duration
  interval : Duration
  /-- For the request and for looking at the operation. -/
  retry : RetryPolicy
  /-- The most looks. Beyond them, waiting is cut off without a result. -/
  patience : Nat
  deriving Repr, DecidableEq

/-- Why there is no finished operation. The description says what it was for. -/
inductive PollError where
  | submit (description : String) (error : ApiError)
  | poll (description operation : String) (error : ApiError)
  | failed (description operation : String) (status : Status)
  | timedOut (description operation : String) (timeout : Duration)
  deriving Repr, DecidableEq

namespace PollError

def message : PollError → String
  | submit description _ => "failed to submit request for " ++ description
  | poll description operation _ =>
    "failed to poll operation " ++ Text.quoted operation ++ " for " ++ description
  | failed description _ status =>
    description ++ " failed with code " ++ toString status.code.toInt ++ ": " ++ status.message
  | timedOut description operation timeout =>
    "timed out after " ++ timeout.text ++ " waiting for " ++ description ++ " (operation "
      ++ Text.quoted operation ++ ")"

def causes : PollError → List String
  | submit _ error | poll _ _ error => [error.message]
  | _ => []

/-- The time was over before the operation was done. -/
def isTimeout : PollError → Bool
  | timedOut _ _ _ => true
  | _ => false

end PollError

namespace PollPolicy

/-- Send a request until it is accepted. -/
def submit (policy : PollPolicy) (description : String)
    (request : Session (Except ApiError Operation)) : Session (Except PollError Operation) := do
  return (← policy.retry.retry request).mapError (.submit description)

/-- Look at an operation until it is done or the deadline has come. Several looks in a row that are
rate limited are the attempts of one. -/
def waitUntil (policy : PollPolicy) (description : String) (deadline : Nat) (patience : Nat)
    (limitedLooks : Nat) (operation : Operation) : Session (Except PollError Operation) := do
  let time ← Program.now
  match OperationPhase.polling.after (operation.observe (deadline ≤ time)) with
  | .done => return .ok operation
  | .failed => return .error (.failed description operation.name (operation.error.getD {}))
  | .timedOut => return .error (.timedOut description operation.name policy.timeout)
  | .requested | .polling =>
    match patience with
    | 0 => Program.cutOff
    | patience + 1 =>
      Program.pause (policy.interval.atMost (deadline - time))
      match ← Session.getOperation operation.name with
      | .ok seen => policy.waitUntil description deadline patience 0 seen
      | .error (.rateLimited message) =>
        if limitedLooks + 1 < policy.retry.maxAttempts.toNat then
          policy.waitUntil description deadline patience (limitedLooks + 1) operation
        else return .error (.poll description operation.name (.rateLimited message))
      | .error error => return .error (.poll description operation.name error)

/-- When waiting from this time on has to be over, unless no clock can show that time. -/
def deadline? (policy : PollPolicy) (start : Nat) : Option Nat :=
  -- In this order nothing of the sum is computed before the start is known.
  let deadline := policy.timeout.nanos + start
  if deadline < clockLimit then some deadline else none

/-- Wait for an operation, from now on. Without a deadline that a clock can show, there is no
result, not even for an operation that is done. -/
def wait (policy : PollPolicy) (description : String) (operation : Operation) :
    Session (Except PollError Operation) := do
  let time ← Program.now
  match policy.deadline? time with
  | some deadline => policy.waitUntil description deadline policy.patience 0 operation
  | none => Program.cutOff

/-- Send a request and wait for the operation that it starts. -/
def complete (policy : PollPolicy) (description : String)
    (request : Session (Except ApiError Operation)) : Session (Except PollError Operation) := do
  match ← policy.submit description request with
  | .ok operation => policy.wait description operation
  | .error error => return .error error

end PollPolicy

end ManagedCluster
