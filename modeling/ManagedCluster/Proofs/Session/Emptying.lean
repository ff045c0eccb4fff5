import Mathlib.Data.List.Perm.Subperm
import ManagedCluster.Proofs.Session.Cleanup
import ManagedCluster.Proofs.Session.Keeper

/-! # Removing a bucket, again if need be

A bucket is removed from a provider that keeps objects. Along the way what is left in the bucket is
covered by the listed names that are still to come, each as often as it is listed; so in the end the
bucket is empty. A removal that broke off leaves a smaller bucket, from which the next one goes on.
-/

namespace ManagedCluster

/-- The objects whose deletion was requested, in order. -/
def deletions (events : Events) : List String :=
  events.filterMap fun
    | .answered (.deleteObject _ object) _ => some object
    | _ => none

@[simp] theorem deletions_append (before after : Events) :
    deletions (before ++ after) = deletions before ++ deletions after :=
  List.filterMap_append

@[simp] theorem deletions_listObjects (bucket : String) (answer : Except ApiError (List String))
    (rest : Events) :
    deletions (.answered (.listObjects bucket) answer :: rest) = deletions rest := rfl

namespace Bucket

open scoped List

variable {keeper : Keeper} {faults : Nat → Option Fault} {storage : Storage} {policy : RetryPolicy}
  {bucket object : String} {objects left : List String} {events before after : Events}
  {result : Except CleanupError Unit}

section Deleting

/-- What was to be deleted is not left in the bucket. The rest of the names covers the rest. -/
theorem covers_of_gone {answer : Except ApiError Unit} (gone : IsGone answer)
    (given : answer = keeper.answer faults storage (.deleteObject bucket object))
    (kept : storage.buckets bucket = some left) (covers : left <+~ object :: objects) :
    ∃ rest, (keeper.step storage (.answered (.deleteObject bucket object) answer)).buckets bucket =
      some rest ∧ rest <+~ objects := by
  rcases answer with (resource | message | ⟨code, message⟩) | ⟨⟩
  · have absent := Keeper.not_mem_of_deleteObject (Keeper.reply_of_notFound given.symm)
    refine ⟨left, kept, List.subperm_ext_iff.mpr fun name member => ?_⟩
    have different : object ≠ name := by
      rintro rfl
      simp [kept, member] at absent
    have counted := covers.count_le name
    rwa [List.count_cons_of_ne different] at counted
  · cases gone
  · cases gone
  · have member := Keeper.mem_of_deleteObject (Keeper.reply_of_ok given.symm)
    rw [kept] at member
    refine ⟨keeper.without object left, ?_, List.subperm_ext_iff.mpr fun name _ => ?_⟩
    · simp [Keeper.step, Keeper.keep, kept]
    · have counted := covers.count_le name
      by_cases same : name = object
      · subst same
        have fewer := keeper.count_lt name left member
        rw [List.count_cons_self] at counted
        omega
      · rw [keeper.count_eq object name left same]
        rwa [List.count_cons_of_ne (Ne.symm same)] at counted

/-- Once all names are gone that cover the bucket, it is empty. -/
theorem Deleting.empties (deleting : Deleting bucket objects events (.ok ()))
    (serves : keeper.Serves faults storage events) (kept : storage.buckets bucket = some left)
    (covers : left <+~ objects) : (keeper.after storage events).buckets bucket = some [] := by
  generalize ending : Except.ok () = result at deleting
  induction deleting generalizing storage left with
  | finished =>
      obtain rfl := List.subperm_nil.mp covers
      exact kept
  | deleted answer gone _ ih =>
      obtain ⟨given, serves⟩ := serves
      obtain ⟨rest, kept, covers⟩ := covers_of_gone gone given kept covers
      exact ih serves kept covers ending
  | stopped error kept => cases ending

theorem kept_of_listed
    (serves : keeper.Serves faults storage
      (.answered (.listObjects bucket) (.ok objects) :: events)) :
    storage.buckets bucket = some objects :=
  Keeper.listed_iff.mp (Keeper.reply_of_ok serves.1.symm)

/-- When all listed objects were deleted, the bucket is empty for what comes next. -/
theorem Deleting.empties_listed (deleting : Deleting bucket objects events (.ok ()))
    (serves : keeper.Serves faults storage
      (.answered (.listObjects bucket) (.ok objects) :: (events ++ after))) :
    ∃ emptied, keeper.Serves faults emptied after ∧ emptied.buckets bucket = some [] ∧
      ∀ later, keeper.after storage
        (.answered (.listObjects bucket) (.ok objects) :: (events ++ later)) =
          keeper.after emptied later := by
  have kept := kept_of_listed serves
  obtain ⟨deleted, tried⟩ := Keeper.serves_append_iff.mp serves.2
  exact ⟨_, tried, deleting.empties deleted kept (.refl _), fun later => Keeper.after_append⟩

theorem Deleting.deletions_prefix (deleting : Deleting bucket objects events result) :
    deletions events <+: objects := by
  induction deleting with
  | finished => exact List.nil_prefix
  | deleted answer gone _ ih => exact (List.prefix_cons_inj _).mpr ih
  | stopped error kept => simp [deletions]

theorem Deleting.deletions_of_ok (deleting : Deleting bucket objects events (.ok ())) :
    deletions events = objects := by
  generalize ending : Except.ok () = result at deleting
  induction deleting with
  | finished => rfl
  | deleted answer gone _ ih => exact congrArg _ (ih ending)
  | stopped error kept => cases ending

theorem Deleting.only_deleteObject (deleting : Deleting bucket objects events result)
    {request : Request} (sent : Program.Sent events request) :
    ∃ object, request = .deleteObject bucket object := by
  induction deleting with
  | finished => exact absurd sent Program.not_sent_nil
  | @deleted object _ _ _ _ _ _ ih =>
      rcases Program.sent_answered_iff.mp sent with rfl | later
      · exact ⟨object, rfl⟩
      · exact ih later
  | @stopped object _ error kept =>
      obtain rfl : request = .deleteObject bucket object := by simpa using sent
      exact ⟨object, rfl⟩

theorem Deleting.not_deleteBucket (deleting : Deleting bucket objects events result)
    {answer : Except ApiError Unit} : .answered (.deleteBucket bucket) answer ∉ events := by
  intro member
  have sent : Program.Sent events (.deleteBucket bucket) := ⟨answer, member⟩
  obtain ⟨object, same⟩ := deleting.only_deleteObject sent
  cases same

/-- The first error that is not about something missing is the end. -/
theorem Deleting.stops {error : ApiError} (deleting : Deleting bucket objects events result)
    (split : events = before ++ .answered (.deleteObject bucket object) (.error error) :: after)
    (kept : ¬ IsGone (.error error)) :
    after = [] ∧ result = .error (.deleteObject bucket object error) := by
  induction deleting generalizing before with
  | finished => simp at split
  | deleted answer gone _ ih =>
      cases before with
      | nil =>
          cases split
          exact absurd gone kept
      | cons first before =>
          cases split
          exact ih rfl
  | stopped error _ =>
      cases before with
      | nil =>
          cases split
          exact ⟨rfl, rfl⟩
      | cons first before => simp at split

end Deleting

section Attempts

variable {attempt count : Nat} {answer : (Request.deleteBucket bucket).Answer}

theorem deletions_of_attempts
    (asked : Attempts policy (.deleteBucket bucket) attempt count events answer) :
    deletions events = [] := by
  induction asked with
  | final answer => rfl
  | again message _ ih => exact ih

/-- Nothing changes before the last attempt, and no deletion is requested. -/
theorem before_attempt (storage : Storage)
    (asked : Attempts policy (.deleteBucket bucket) attempt count events answer)
    {given : Except ApiError Unit}
    (split : events = before ++ .answered (.deleteBucket bucket) given :: after) :
    deletions before = [] ∧ (keeper.after storage before).buckets = storage.buckets := by
  induction asked generalizing before storage with
  | final answer =>
      cases before with
      | nil => exact ⟨rfl, rfl⟩
      | cons first before => simp at split
  | again message _ ih =>
      rcases before with _ | ⟨first, _ | ⟨second, before⟩⟩
      · exact ⟨rfl, rfl⟩
      · cases split
      · cases split
        exact @ih before _ rfl

theorem absent_of_attempts
    (asked : Attempts policy (.deleteBucket bucket) attempt count events answer)
    (gone : IsGone answer) (serves : keeper.Serves faults storage events)
    (empty : storage.buckets bucket = some []) :
    (keeper.after storage events).buckets bucket = none := by
  induction asked generalizing storage with
  | final answer =>
      obtain ⟨given, -⟩ := serves
      rcases answer with (resource | message | ⟨code, message⟩) | ⟨⟩
      · have missing := Keeper.reply_of_notFound given.symm
        rw [Keeper.deleteBucket_of_empty empty] at missing
        cases missing
      · cases gone
      · cases gone
      · exact Function.update_self ..
  | again message _ ih =>
      obtain ⟨-, serves⟩ := serves
      exact ih gone serves empty

end Attempts

section Removal

theorem Removal.deletions_prefix (removal : Removal policy bucket events result)
    (serves : keeper.Serves faults storage events) :
    deletions events <+: (storage.buckets bucket).getD [] := by
  cases removal with
  | missing resource => exact List.nil_prefix
  | unlisted error unknown => exact List.nil_prefix
  | stopped deleting =>
      rw [kept_of_listed serves]
      exact deleting.deletions_prefix
  | asked deleting few asked =>
      rw [kept_of_listed serves]
      simp [deleting.deletions_of_ok, deletions_of_attempts asked]

/-- Before any attempt to delete the bucket, all its objects were deleted. -/
theorem Removal.emptied_before {given : Except ApiError Unit}
    (removal : Removal policy bucket events result) (serves : keeper.Serves faults storage events)
    (split : events = before ++ .answered (.deleteBucket bucket) given :: after) :
    deletions before = (storage.buckets bucket).getD [] ∧
      (keeper.after storage before).buckets bucket = some [] := by
  have sent : .answered (.deleteBucket bucket) given ∈ events := by simp [split]
  cases removal with
  | missing resource => simp at sent
  | unlisted error unknown => simp at sent
  | stopped deleting =>
      rcases List.mem_cons.mp sent with same | member
      · cases same
      · exact absurd member deleting.not_deleteBucket
  | asked deleting few asked =>
      rcases List.cons_eq_append_iff.mp split with ⟨-, same⟩ | ⟨before, rfl, rest⟩
      · cases same
      obtain ⟨between, rfl, tries⟩ := split_of_not_mem rest deleting.not_deleteBucket
      obtain ⟨emptied, -, empty, after_eq⟩ := deleting.empties_listed serves
      obtain ⟨none, unchanged⟩ := before_attempt emptied asked tries
      refine ⟨?_, ?_⟩
      · simp [deleting.deletions_of_ok, none, kept_of_listed serves]
      · rw [after_eq between, unchanged]
        exact empty

/-- The first object that cannot be deleted is the end. -/
theorem Removal.stops {error : ApiError} (removal : Removal policy bucket events result)
    (split : events = before ++ .answered (.deleteObject bucket object) (.error error) :: after)
    (kept : ¬ IsGone (.error error)) :
    after = [] ∧ result = .error (.deleteObject bucket object error) := by
  have sent : .answered (.deleteObject bucket object) (.error error) ∈ events := by simp [split]
  cases removal with
  | missing resource => simp at sent
  | unlisted error unknown => simp at sent
  | stopped deleting =>
      rcases List.cons_eq_append_iff.mp split with ⟨-, same⟩ | ⟨before, rfl, rest⟩
      · cases same
      · exact deleting.stops rest kept
  | asked deleting few asked =>
      rcases List.cons_eq_append_iff.mp split with ⟨-, same⟩ | ⟨before, rfl, rest⟩
      · cases same
      obtain ⟨between, split, -⟩ := split_of_not_mem_right rest fun member =>
        nomatch asked.sent_iff.mp ⟨_, member⟩
      cases (deleting.stops split kept).2

theorem Removal.absent_of_ok (removal : Removal policy bucket events (.ok ()))
    (serves : keeper.Serves faults storage events) :
    (keeper.after storage events).buckets bucket = none := by
  generalize ending : Except.ok () = result at removal
  cases removal with
  | missing resource =>
      exact Keeper.after_of_none (Keeper.missing_of_list (Keeper.reply_of_notFound serves.1.symm))
  | unlisted error unknown => cases ending
  | stopped deleting => cases ending
  | asked deleting few asked =>
      obtain ⟨emptied, tried, empty, after_eq⟩ := deleting.empties_listed serves
      rw [after_eq]
      exact absent_of_attempts asked (outcome_eq_ok_iff.mp ending.symm) tried empty

end Removal

section WithoutFaults

theorem Deleting.ok_of_never (deleting : Deleting bucket objects events result)
    (serves : keeper.Serves Fault.never storage events) : result = .ok () := by
  induction deleting generalizing storage with
  | finished => rfl
  | deleted answer gone _ ih => exact ih serves.2
  | @stopped object _ error kept =>
      obtain ⟨given, -⟩ := serves
      rcases keeper.reply_deleteObject storage.buckets bucket object with granted | missing
      · cases given.trans granted
      · cases given.trans missing
        exact absurd trivial kept

/-- The first attempt to delete an empty bucket is the last. -/
theorem gone_of_never {attempt count : Nat} {answer : (Request.deleteBucket bucket).Answer}
    (asked : Attempts policy (.deleteBucket bucket) attempt count events answer)
    (serves : keeper.Serves Fault.never storage events)
    (empty : storage.buckets bucket = some []) : IsGone answer := by
  have granted : keeper.answer Fault.never storage (.deleteBucket bucket) = .ok () :=
    Keeper.deleteBucket_of_empty empty
  cases asked with
  | final answer =>
      rw [serves.1, granted]
      trivial
  | again message _ => cases serves.1.trans granted

theorem Removal.ok_of_never (removal : Removal policy bucket events result)
    (serves : keeper.Serves Fault.never storage events) : result = .ok () := by
  cases removal with
  | missing resource => rfl
  | unlisted error unknown =>
      obtain ⟨given, -⟩ := serves
      rcases keeper.reply_listObjects storage.buckets bucket with ⟨objects, listed⟩ | missing
      · cases given.trans listed
      · cases given.trans missing
        exact absurd trivial unknown
  | stopped deleting => cases deleting.ok_of_never serves.2
  | asked deleting few asked =>
      obtain ⟨emptied, tried, empty, -⟩ := deleting.empties_listed serves
      exact outcome_eq_ok_iff.mpr (gone_of_never asked tried empty)

end WithoutFaults

end Bucket

/-- A removal that there may be no time to finish. -/
structure Interruption where
  faults : Nat → Option Fault
  policy : RetryPolicy
  /-- The number of events that there is time for. -/
  steps : Nat

namespace Keeper

variable (keeper : Keeper)

/-- The run that removes a bucket. -/
def removal (faults : Nat → Option Fault) (policy : RetryPolicy) (bucket : String)
    (buckets : Buckets) : Run Request Request.Answer Storage (Except CleanupError Unit) :=
  (Bucket.remove policy bucket).run (keeper.world faults) ⟨buckets, 0⟩

/-- What is kept after a removal that was interrupted. -/
def interrupted (bucket : String) (buckets : Buckets) (interruption : Interruption) : Buckets :=
  let run := keeper.removal interruption.faults interruption.policy bucket buckets
  (keeper.after ⟨buckets, 0⟩ (run.events.take interruption.steps)).buckets

/-- What is kept after removals that were interrupted one after the other. -/
def leftBy (bucket : String) (buckets : Buckets) (interruptions : List Interruption) : Buckets :=
  interruptions.foldl (keeper.interrupted bucket) buckets

end Keeper

/-- How a bucket is removed, whatever faults there are. -/
structure CleansUp (keeper : Keeper) (bucket : String) (buckets : Buckets)
    (run : Run Request Request.Answer Storage (Except CleanupError Unit)) : Prop where
  ends : ∃ result, run.result = some result
  absent : run.result = some (.ok ()) → run.state.buckets bucket = none
  others : ∀ other, other ≠ bucket → run.state.buckets other = buckets other
  /-- The deletions go along the listing, and none is requested again. -/
  inOrder : deletions run.events <+: (buckets bucket).getD []
  stops : ∀ before object error after,
    run.events = before ++ .answered (.deleteObject bucket object) (.error error) :: after →
    ¬ IsGone (.error error) →
    after = [] ∧ run.result = some (.error (.deleteObject bucket object error))
  emptied : ∀ before answer after,
    run.events = before ++ .answered (.deleteBucket bucket) answer :: after →
    deletions before = (buckets bucket).getD [] ∧
      (keeper.after ⟨buckets, 0⟩ before).buckets bucket = some []

namespace Bucket

section Interrupted

variable (keeper : Keeper) (faults : Nat → Option Fault) (policy : RetryPolicy) (bucket : String)
  (buckets : Buckets)

theorem removal_of_run :
    ∃ result, (keeper.removal faults policy bucket buckets).result = some result ∧
      Removal policy bucket (keeper.removal faults policy bucket buckets).events result := by
  have trace := Program.run_yields (keeper.world faults) (remove policy bucket) ⟨buckets, 0⟩
  exact removal_of_remove trace

theorem cleansUp_of_removal :
    CleansUp keeper bucket buckets (keeper.removal faults policy bucket buckets) := by
  obtain ⟨result, ended, removal⟩ := removal_of_run keeper faults policy bucket buckets
  have serves := keeper.run_serves faults (remove policy bucket) ⟨buckets, 0⟩
  have state := keeper.run_state faults (remove policy bucket) ⟨buckets, 0⟩
  refine ⟨⟨result, ended⟩, fun ok => ?absent, fun other different => ?others,
    removal.deletions_prefix serves, fun before object error after split kept => ?stops,
    fun before answer after split => removal.emptied_before serves split⟩
  case absent =>
    obtain rfl : result = .ok () := Option.some.inj (ended.symm.trans ok)
    exact state ▸ removal.absent_of_ok serves
  case others =>
    have about := onlySends_remove policy bucket _ _
      (Program.run_yields (keeper.world faults) (remove policy bucket) ⟨buckets, 0⟩)
    exact state ▸ Keeper.after_of_ne about different
  case stops =>
    obtain ⟨last, same⟩ := removal.stops split kept
    exact ⟨last, same ▸ ended⟩

/-- Without faults nothing keeps a bucket from being removed. -/
theorem ok_of_never :
    (keeper.removal Fault.never policy bucket buckets).result = some (.ok ()) := by
  obtain ⟨result, ended, removal⟩ := removal_of_run keeper Fault.never policy bucket buckets
  have serves := keeper.run_serves Fault.never (remove policy bucket) ⟨buckets, 0⟩
  exact removal.ok_of_never serves ▸ ended

variable {keeper bucket buckets}

theorem interrupted_of_none {interruption : Interruption} (missing : buckets bucket = none) :
    keeper.interrupted bucket buckets interruption bucket = none :=
  Keeper.after_of_none missing

/-- Interrupted removals do not bring a bucket back. -/
theorem leftBy_of_none {interruptions : List Interruption} (missing : buckets bucket = none) :
    keeper.leftBy bucket buckets interruptions bucket = none := by
  induction interruptions generalizing buckets with
  | nil => exact missing
  | cons first rest ih => exact ih (interrupted_of_none missing)

theorem interrupted_of_ne {interruption : Interruption} {other : String}
    (different : other ≠ bucket) :
    keeper.interrupted bucket buckets interruption other = buckets other := by
  refine Keeper.after_of_ne (fun request sent => ?_) different
  obtain ⟨answer, member⟩ := sent
  exact onlySends_remove interruption.policy bucket _ _ (Program.run_yields _ _ _) request
    ⟨answer, List.mem_of_mem_take member⟩

theorem leftBy_of_ne {interruptions : List Interruption} {other : String}
    (different : other ≠ bucket) :
    keeper.leftBy bucket buckets interruptions other = buckets other := by
  induction interruptions generalizing buckets with
  | nil => rfl
  | cons first rest ih => exact ih.trans (interrupted_of_ne different)

end Interrupted

/-- A bucket is removed in order, to its end or up to a fault. After any interruptions a removal
without faults comes to its end, and so does each one after it. -/
theorem remove_resumes (keeper : Keeper) (bucket : String) (buckets : Buckets) :
    (∀ faults policy,
      CleansUp keeper bucket buckets (keeper.removal faults policy bucket buckets)) ∧
    ∀ (earlier later : List Interruption) (policy again : RetryPolicy),
      let left := keeper.leftBy bucket buckets earlier
      let resumed := keeper.removal Fault.never policy bucket left
      let kept := keeper.leftBy bucket resumed.state.buckets later
      let further := keeper.removal Fault.never again bucket kept
      (resumed.result = some (.ok ()) ∧ resumed.state.buckets bucket = none) ∧
      (further.result = some (.ok ()) ∧ further.state.buckets bucket = none) ∧
      kept bucket = none ∧
      ∀ other, other ≠ bucket → further.state.buckets other = buckets other := by
  refine ⟨fun faults policy => cleansUp_of_removal keeper faults policy bucket buckets, ?_⟩
  intro earlier later policy again left resumed kept further
  have first := cleansUp_of_removal keeper Fault.never policy bucket left
  have last := cleansUp_of_removal keeper Fault.never again bucket kept
  have resumedOk := ok_of_never keeper policy bucket left
  have furtherOk := ok_of_never keeper again bucket kept
  have absent := first.absent resumedOk
  refine ⟨⟨resumedOk, absent⟩, ⟨furtherOk, last.absent furtherOk⟩, leftBy_of_none absent, ?_⟩
  intro other different
  calc further.state.buckets other
      = kept other := last.others other different
    _ = resumed.state.buckets other := leftBy_of_ne different
    _ = left other := first.others other different
    _ = buckets other := leftBy_of_ne different

/-- A provider that takes one object at a time. -/
def erasing : Keeper where
  without object objects := objects.erase object
  count_lt object objects member := by
    have listed := List.count_pos_iff.mpr member
    rw [List.count_erase_self]
    omega
  count_eq object other objects different := List.count_erase_of_ne different
  notEmpty _ := .rejected 409 "bucket is not empty"

/-- A name is listed twice, and the second deletion is rejected at first. -/
theorem remove_resumes_after_rejection :
    let buckets : Buckets := fun name => if name = "etl-temp" then some ["a", "b", "a"] else none
    let faults : Nat → Option Fault := fun request =>
      if request = 2 then some (.rejected 503 "try later") else none
    let kept := erasing.leftBy "etl-temp" buckets [⟨faults, {}, 9⟩]
    let resumed := erasing.removal Fault.never {} "etl-temp" kept
    kept "etl-temp" = some ["b", "a"] ∧
      CleansUp erasing "etl-temp" buckets (erasing.removal faults {} "etl-temp" buckets) ∧
      resumed.result = some (.ok ()) ∧ resumed.state.buckets "etl-temp" = none :=
  ⟨by decide, (remove_resumes erasing "etl-temp" _).1 _ {},
    ((remove_resumes erasing "etl-temp" _).2 _ [] {} {}).1⟩

end Bucket

end ManagedCluster
