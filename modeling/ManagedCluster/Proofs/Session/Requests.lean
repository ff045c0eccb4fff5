import ManagedCluster.Bucket
import ManagedCluster.Polling
import ManagedCluster.Proofs.Session.Trace

/-! # Which requests are sent along the way

Sending a request again, waiting for its operation and removing a bucket send the requests that they
are about, and no others.
-/

namespace ManagedCluster

/-- What happens between a program and the provider. -/
abbrev Events : Type := List (Event Request Request.Answer)

namespace Request

/-- The bucket that is looked into or deleted, or whose objects are deleted. -/
def bucket? : Request → Option String
  | listObjects bucket | deleteObject bucket _ | deleteBucket bucket => some bucket
  | _ => none

/-- The cluster that is read, changed or deleted. -/
def cluster? : Request → Option ClusterRef
  | patchCluster target _ _ | getCluster target | deleteCluster target => some target
  | _ => none

end Request

variable {allowed : Request → Prop}

section Retry

variable {ρ : Type} {Answer : ρ → Type} {α : Type} {allowed : ρ → Prop}

theorem RetryPolicy.onlySends_retry (policy : RetryPolicy)
    {request : Program ρ Answer (Except ApiError α)} (sends : request.OnlySends allowed) :
    (policy.retry request).OnlySends allowed := by
  have each (left attempt : Nat) : (policy.retryFrom request attempt left).OnlySends allowed := by
    induction left generalizing attempt with
    | zero => exact sends
    | succ left ih =>
        refine sends.bind fun answer => ?_
        split
        · exact Program.onlySends_pause.bind fun _ => ih (attempt + 1)
        · exact Program.onlySends_done _
  exact each _ _

/-- At least one attempt is made. -/
theorem RetryPolicy.sent_of_retry {policy : RetryPolicy} {request : ρ}
    {asked : Program ρ Answer (Except ApiError α)} {events : List (Event ρ Answer)}
    {out : Option (Except ApiError α)}
    (first : ∀ events out, asked.Yields events out → Program.Sent events request)
    (trace : (policy.retry asked).Yields events out) : Program.Sent events request := by
  unfold retry at trace
  cases attempts : policy.maxAttempts.toNat - 1 with
  | zero =>
      rw [attempts] at trace
      exact first _ _ trace
  | succ left =>
      rw [attempts] at trace
      rcases Program.yields_bind_iff.mp trace with
        ⟨cut, -⟩ | ⟨answer, before, after, earlier, -, rfl⟩
      · exact first _ _ cut
      · exact Program.sent_append_iff.mpr (.inl (first _ _ earlier))

end Retry

namespace PollPolicy

variable {policy : PollPolicy} {description : String}
  {request : Session (Except ApiError Operation)}

theorem onlySends_submit (sends : request.OnlySends allowed) :
    (policy.submit description request).OnlySends allowed :=
  (policy.retry.onlySends_retry sends).bind fun _ => Program.onlySends_done _

theorem onlySends_wait (looks : ∀ name, allowed (.getOperation name)) (operation : Operation) :
    (policy.wait description operation).OnlySends allowed := by
  have each (deadline patience limited : Nat) (operation : Operation) :
      (policy.waitUntil description deadline patience limited operation).OnlySends allowed := by
    induction patience generalizing limited operation with
    | zero =>
        rw [waitUntil]
        refine Program.onlySends_now.bind fun time => ?_
        split
        · exact Program.onlySends_done _
        · exact Program.onlySends_done _
        · exact Program.onlySends_done _
        · exact Program.onlySends_cutOff
        · exact Program.onlySends_cutOff
    | succ patience ih =>
        rw [waitUntil]
        refine Program.onlySends_now.bind fun time => ?_
        split
        · exact Program.onlySends_done _
        · exact Program.onlySends_done _
        · exact Program.onlySends_done _
        all_goals
          refine Program.onlySends_pause.bind fun _ => ?_
          refine (Program.onlySends_ask (looks operation.name)).bind fun answer => ?_
          split
          · exact ih _ _
          · split
            · exact ih _ _
            · exact Program.onlySends_done _
          · exact Program.onlySends_done _
  refine Program.onlySends_now.bind fun time => ?_
  split
  · exact each _ _ _ _
  · exact Program.onlySends_cutOff

/-- A wait sends nothing but looks. -/
theorem getOperation_of_wait {operation : Operation} {events : Events}
    {out : Option (Except PollError Operation)} {sent : Request}
    (waiting : (policy.wait description operation).Yields events out)
    (asked : Program.Sent events sent) : ∃ name, sent = .getOperation name := by
  have onlyLooks : (policy.wait description operation).OnlySends
      fun request => ∃ name, request = .getOperation name :=
    onlySends_wait (fun name => ⟨name, rfl⟩) operation
  exact onlyLooks _ _ waiting sent asked

theorem onlySends_complete (sends : request.OnlySends allowed)
    (looks : ∀ name, allowed (.getOperation name)) :
    (policy.complete description request).OnlySends allowed := by
  refine (onlySends_submit sends).bind fun answer => ?_
  cases answer with
  | error error => exact Program.onlySends_done _
  | ok operation => exact onlySends_wait looks operation

/-- The request is sent before anything is waited for. -/
theorem sent_of_complete {asked : Request} {events : Events}
    {out : Option (Except PollError Operation)}
    (first : ∀ events out, request.Yields events out → Program.Sent events asked)
    (trace : (policy.complete description request).Yields events out) :
    Program.Sent events asked := by
  have submitted (events out) (trace : (policy.submit description request).Yields events out) :
      Program.Sent events asked := by
    rcases Program.yields_bind_iff.mp trace with ⟨cut, -⟩ | ⟨_, before, after, sent, -, rfl⟩
    · exact RetryPolicy.sent_of_retry first cut
    · exact Program.sent_append_iff.mpr (.inl (RetryPolicy.sent_of_retry first sent))
  rcases Program.yields_bind_iff.mp trace with ⟨cut, -⟩ | ⟨_, before, after, sent, -, rfl⟩
  · exact submitted _ _ cut
  · exact Program.sent_append_iff.mpr (.inl (submitted _ _ sent))

end PollPolicy

namespace Bucket

theorem onlySends_deleteObjects (bucket : String) (objects : List String) :
    (deleteObjects bucket objects).OnlySends (·.bucket? = some bucket) := by
  induction objects with
  | nil => exact Program.onlySends_done _
  | cons object rest ih =>
      refine Program.OnlySends.bind (Program.onlySends_ask rfl) fun answer => ?_
      split
      · exact ih
      · exact ih
      · exact Program.onlySends_done _

theorem onlySends_delete (policy : RetryPolicy) (bucket : String) :
    (delete policy bucket).OnlySends (·.bucket? = some bucket) := by
  have once : (Session.deleteBucket bucket).OnlySends (·.bucket? = some bucket) :=
    Program.onlySends_ask rfl
  refine (policy.onlySends_retry once).bind fun answer => ?_
  split <;> exact Program.onlySends_done _

theorem onlySends_remove (policy : RetryPolicy) (bucket : String) :
    (remove policy bucket).OnlySends (·.bucket? = some bucket) := by
  refine Program.OnlySends.bind (Program.onlySends_ask rfl) fun answer => ?_
  split
  · refine (onlySends_deleteObjects bucket _).bind fun deleted => ?_
    split
    · exact onlySends_delete policy bucket
    · exact Program.onlySends_done _
  · exact Program.onlySends_done _
  · exact Program.onlySends_done _

theorem sent_of_remove {policy : RetryPolicy} {bucket : String}
    {events : Events} {out : Option (Except CleanupError Unit)}
    (trace : (remove policy bucket).Yields events out) :
    Program.Sent events (.listObjects bucket) := by
  obtain ⟨answer, rest, rfl, -⟩ := Program.yields_send_iff.mp trace
  exact Program.sent_answered_iff.mpr (.inl rfl)

end Bucket

end ManagedCluster
