import Mathlib.Data.List.Forall2
import ManagedCluster.Proofs.Session.Operations

/-! # How a bucket is removed

A bucket is removed after all its objects. Whatever is gone by then counts as deleted. The traces of
a removal are listed here by what ends them, and one of these ends always comes.
-/

namespace ManagedCluster

/-- What was to be deleted is not there any more. -/
def IsGone : Except ApiError Unit → Prop
  | .ok () | .error (.notFound _) => True
  | .error _ => False

namespace Bucket

variable {policy : RetryPolicy} {bucket : String} {events : Events}
  {out : Option (Except CleanupError Unit)}

/-- The object was deleted, or gone already. -/
def ObjectDeleted (bucket object : String) (event : Event Request Request.Answer) : Prop :=
  ∃ answer, IsGone answer ∧ event = .answered (.deleteObject bucket object) answer

/-- The bucket was not there, or it was deleted after all its objects. -/
inductive Removed (policy : RetryPolicy) (bucket : String) : Events → Prop
  | missing (resource : String) :
      Removed policy bucket [.answered (.listObjects bucket) (.error (.notFound resource))]
  | emptied {objects : List String} {deletions attempts : Events} {count : Nat}
      {answer : Except ApiError Unit}
      (deleted : List.Forall₂ (ObjectDeleted bucket) objects deletions)
      (asked : Attempts policy (.deleteBucket bucket) 1 count attempts answer)
      (few : count ≤ max policy.maxAttempts.toNat 1) (gone : IsGone answer) :
      Removed policy bucket
        (.answered (.listObjects bucket) (.ok objects) :: (deletions ++ attempts))

/-- How deleting objects in order may go: to their end, or up to one that cannot be deleted. -/
inductive Deleting (bucket : String) : List String → Events → Except CleanupError Unit → Prop
  | finished : Deleting bucket [] [] (.ok ())
  | deleted {object : String} {rest : List String} {events : Events}
      {result : Except CleanupError Unit} (answer : Except ApiError Unit) (gone : IsGone answer) :
      Deleting bucket rest events result →
      Deleting bucket (object :: rest) (.answered (.deleteObject bucket object) answer :: events)
        result
  | stopped {object : String} {rest : List String} (error : ApiError)
      (kept : ¬ IsGone (.error error)) :
      Deleting bucket (object :: rest) [.answered (.deleteObject bucket object) (.error error)]
        (.error (.deleteObject bucket object error))

/-- What the last answer to the deletion of the bucket comes to. -/
def outcome (bucket : String) : Except ApiError Unit → Except CleanupError Unit
  | .ok () | .error (.notFound _) => .ok ()
  | .error error => .error (.deleteBucket bucket error)

/-- How removing a bucket may go, by what ends it. -/
inductive Removal (policy : RetryPolicy) (bucket : String) :
    Events → Except CleanupError Unit → Prop
  | missing (resource : String) :
      Removal policy bucket [.answered (.listObjects bucket) (.error (.notFound resource))]
        (.ok ())
  | unlisted (error : ApiError) (unknown : ¬ IsGone (.error error)) :
      Removal policy bucket [.answered (.listObjects bucket) (.error error)]
        (.error (.list bucket error))
  | stopped {objects : List String} {deletions : Events} {error : CleanupError}
      (deleting : Deleting bucket objects deletions (.error error)) :
      Removal policy bucket (.answered (.listObjects bucket) (.ok objects) :: deletions)
        (.error error)
  | asked {objects : List String} {deletions attempts : Events} {count : Nat}
      {answer : Except ApiError Unit} (deleting : Deleting bucket objects deletions (.ok ()))
      (few : count ≤ max policy.maxAttempts.toNat 1)
      (asked : Attempts policy (.deleteBucket bucket) 1 count attempts answer) :
      Removal policy bucket
        (.answered (.listObjects bucket) (.ok objects) :: (deletions ++ attempts))
        (outcome bucket answer)

theorem outcome_eq_ok_iff {answer : Except ApiError Unit} :
    outcome bucket answer = .ok () ↔ IsGone answer := by
  rcases answer with (resource | message | ⟨code, message⟩) | deleted <;> simp [outcome, IsGone]

theorem deleting_of_deleteObjects {objects : List String}
    (trace : (deleteObjects bucket objects).Yields events out) :
    ∃ result, out = some result ∧ Deleting bucket objects events result := by
  induction objects generalizing events with
  | nil =>
      obtain ⟨rfl, rfl⟩ := Program.yields_done_iff.mp trace
      exact ⟨_, rfl, .finished⟩
  | cons object rest ih =>
      obtain ⟨answer, others, rfl, later⟩ := Program.yields_ask_bind_iff.mp trace
      rcases answer with (resource | message | ⟨code, message⟩) | deleted
      · obtain ⟨result, rfl, deleting⟩ := ih later
        exact ⟨result, rfl, .deleted _ trivial deleting⟩
      · obtain ⟨rfl, rfl⟩ := Program.yields_done_iff.mp later
        exact ⟨_, rfl, .stopped _ id⟩
      · obtain ⟨rfl, rfl⟩ := Program.yields_done_iff.mp later
        exact ⟨_, rfl, .stopped _ id⟩
      · obtain ⟨result, rfl, deleting⟩ := ih later
        exact ⟨result, rfl, .deleted _ trivial deleting⟩

theorem attempts_of_delete (trace : (delete policy bucket).Yields events out) :
    ∃ count answer, count ≤ max policy.maxAttempts.toNat 1 ∧
      Attempts policy (.deleteBucket bucket) 1 count events answer ∧
      out = some (outcome bucket answer) := by
  rcases Program.yields_bind_iff.mp trace with
    ⟨cut, -⟩ | ⟨answer, before, after, asked, trace, rfl⟩
  · exact absurd cut not_retryFrom_cutOff
  obtain ⟨count, few, attempts, -⟩ := attempts_of_retry asked
  refine ⟨count, answer, few, ?_⟩
  rcases answer with (resource | message | ⟨code, message⟩) | deleted
  all_goals
    obtain ⟨rfl, rfl⟩ := Program.yields_done_iff.mp trace
    rw [List.append_nil]
    exact ⟨attempts, rfl⟩

theorem removal_of_remove (trace : (remove policy bucket).Yields events out) :
    ∃ result, out = some result ∧ Removal policy bucket events result := by
  obtain ⟨answer, rest, rfl, listed⟩ := Program.yields_ask_bind_iff.mp trace
  rcases answer with (resource | message | ⟨code, message⟩) | objects
  · obtain ⟨rfl, rfl⟩ := Program.yields_done_iff.mp listed
    exact ⟨_, rfl, .missing resource⟩
  · obtain ⟨rfl, rfl⟩ := Program.yields_done_iff.mp listed
    exact ⟨_, rfl, .unlisted _ id⟩
  · obtain ⟨rfl, rfl⟩ := Program.yields_done_iff.mp listed
    exact ⟨_, rfl, .unlisted _ id⟩
  · rcases Program.yields_bind_iff.mp listed with
      ⟨cut, -⟩ | ⟨answer, deletions, attempts, deleted, emptied, rfl⟩
    · obtain ⟨result, ended, -⟩ := deleting_of_deleteObjects cut
      cases ended
    obtain ⟨_, ⟨⟩, deleting⟩ := deleting_of_deleteObjects deleted
    cases answer with
    | error error =>
        obtain ⟨rfl, rfl⟩ := Program.yields_done_iff.mp emptied
        rw [List.append_nil]
        exact ⟨_, rfl, .stopped deleting⟩
    | ok done =>
        obtain ⟨count, answer, few, asked, rfl⟩ := attempts_of_delete emptied
        exact ⟨_, rfl, .asked deleting few asked⟩

theorem Deleting.deleted_of_ok {objects : List String}
    (deleting : Deleting bucket objects events (.ok ())) :
    List.Forall₂ (ObjectDeleted bucket) objects events := by
  generalize ending : Except.ok () = result at deleting
  induction deleting with
  | finished => exact .nil
  | deleted answer gone _ ih => exact .cons ⟨answer, gone, rfl⟩ (ih ending)
  | stopped error kept => cases ending

theorem removed_of_remove (trace : (remove policy bucket).Yields events (some (.ok ()))) :
    Removed policy bucket events := by
  obtain ⟨result, ended, removal⟩ := removal_of_remove trace
  cases removal with
  | missing resource => exact .missing resource
  | unlisted error unknown => cases ended
  | stopped deleting => cases ended
  | asked deleting few asked =>
      have gone := outcome_eq_ok_iff.mp (Option.some.inj ended).symm
      exact .emptied deleting.deleted_of_ok asked few gone

/-- Removing a bucket comes to an end. -/
theorem not_remove_cutOff : ¬ (remove policy bucket).Yields events none := by
  intro trace
  obtain ⟨result, ended, -⟩ := removal_of_remove trace
  cases ended

end Bucket

end ManagedCluster
