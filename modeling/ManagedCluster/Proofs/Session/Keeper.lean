import Mathlib.Data.List.Count
import Mathlib.Logic.Function.Basic
import ManagedCluster.Proofs.Session.Requests

/-! # A provider that keeps objects

The provider keeps the objects of some buckets, and nobody else writes there. It answers requests
for buckets and objects by what it keeps, unless a fault makes it answer with an error; then nothing
is changed. What it keeps after some events can be told from the events.
-/

namespace ManagedCluster

/-- The names of the objects in each bucket that there is. -/
abbrev Buckets : Type := String → Option (List String)

/-- An error that a request may be answered with, whatever is kept. -/
inductive Fault where
  | rateLimited (message : String)
  | rejected (code : Int32) (message : String)
  deriving DecidableEq

namespace Fault

def error : Fault → ApiError
  | rateLimited message => .rateLimited message
  | rejected code message => .rejected code message

/-- No request meets a fault. -/
def never : Nat → Option Fault := fun _ => none

end Fault

/-- What a provider keeps, and how many requests it was sent. -/
structure Storage where
  buckets : Buckets
  requests : Nat := 0

/-- A provider that keeps objects. -/
structure Keeper where
  /-- The objects without one of them. Where a name is listed several times, one or more go. -/
  without : String → List String → List String
  count_lt : ∀ object objects, object ∈ objects →
    (without object objects).count object < objects.count object
  count_eq : ∀ object other objects, other ≠ object →
    (without object objects).count other = objects.count other
  /-- Why a bucket with objects is not deleted. -/
  notEmpty : String → Fault

namespace Keeper

variable (keeper : Keeper) (faults : Nat → Option Fault)

/-- The answer to a request that no fault meets. No clusters are kept. -/
def reply (buckets : Buckets) : (request : Request) → request.Answer
  | .listObjects bucket =>
    match buckets bucket with
    | some objects => .ok objects
    | none => .error (.notFound bucket)
  | .deleteObject bucket object =>
    if object ∈ (buckets bucket).getD [] then .ok () else .error (.notFound object)
  | .deleteBucket bucket =>
    match buckets bucket with
    | some [] => .ok ()
    | some (_ :: _) => .error (keeper.notEmpty bucket).error
    | none => .error (.notFound bucket)
  | .createCluster _ _ _ | .patchCluster _ _ _ | .getCluster _ | .deleteCluster _
  | .getOperation _ => .error (.notFound "")

/-- What is kept after an event. Only what was granted changes it. -/
def keep (buckets : Buckets) : Event Request Request.Answer → Buckets
  | .answered (.deleteObject bucket object) (.ok _) =>
    Function.update buckets bucket ((buckets bucket).map (keeper.without object))
  | .answered (.deleteBucket bucket) (.ok _) => Function.update buckets bucket none
  | _ => buckets

def step (storage : Storage) (event : Event Request Request.Answer) : Storage where
  buckets := keeper.keep storage.buckets event
  requests := match event with
    | .answered _ _ => storage.requests + 1
    | _ => storage.requests

/-- The storage after some events. -/
def after (storage : Storage) (events : Events) : Storage := events.foldl keeper.step storage

/-- The answer to the next request. -/
def answer (storage : Storage) (request : Request) : request.Answer :=
  match faults storage.requests with
  | some fault => .error fault.error
  | none => keeper.reply storage.buckets request

/-- The world in which the provider answers, with faults at some of the requests. -/
def world : World Request Request.Answer Storage where
  answer request storage :=
    let answer := keeper.answer faults storage request
    (answer, keeper.step storage (.answered request answer))
  readClock storage := (0, storage)
  sleep _ storage := storage

/-- The events can be those of the provider with these faults. -/
def Serves : Storage → Events → Prop
  | _, [] => True
  | storage, .answered request given :: rest =>
    given = keeper.answer faults storage request ∧
      Serves (keeper.step storage (.answered request given)) rest
  | storage, event :: rest => Serves (keeper.step storage event) rest

theorem run_state {α : Type} (program : Session α) (storage : Storage) :
    (program.run (keeper.world faults) storage).state =
      keeper.after storage (program.run (keeper.world faults) storage).events := by
  induction program generalizing storage with
  | done result => rfl
  | send request next ih => exact ih _ _
  | readClock next ih => exact ih _ _
  | sleep duration next ih => exact ih _
  | cutOff => rfl

theorem run_serves {α : Type} (program : Session α) (storage : Storage) :
    keeper.Serves faults storage (program.run (keeper.world faults) storage).events := by
  induction program generalizing storage with
  | done result => trivial
  | send request next ih => exact ⟨rfl, ih _ _⟩
  | readClock next ih => exact ih _ _
  | sleep duration next ih => exact ih _
  | cutOff => trivial

variable {keeper faults} {storage : Storage} {events before later : Events} {bucket other : String}

@[simp] theorem after_nil : keeper.after storage [] = storage := rfl

@[simp] theorem after_cons {event : Event Request Request.Answer} :
    keeper.after storage (event :: events) = keeper.after (keeper.step storage event) events := rfl

@[simp] theorem after_append :
    keeper.after storage (before ++ later) = keeper.after (keeper.after storage before) later :=
  List.foldl_append

theorem serves_append_iff :
    keeper.Serves faults storage (before ++ later) ↔
      keeper.Serves faults storage before ∧
        keeper.Serves faults (keeper.after storage before) later := by
  induction before generalizing storage with
  | nil => simp [Serves]
  | cons event rest ih =>
      cases event <;> simp [Serves, ih, and_assoc]

/-- No fault says that something is not found. -/
theorem reply_of_notFound {request : Request} {resource : String}
    (missing : keeper.answer faults storage request = .error (.notFound resource)) :
    keeper.reply storage.buckets request = .error (.notFound resource) := by
  unfold answer at missing
  split at missing
  · next fault _ => cases fault <;> cases missing
  · exact missing

theorem reply_of_ok {request : Request} {reply : request.Reply}
    (granted : keeper.answer faults storage request = .ok reply) :
    keeper.reply storage.buckets request = .ok reply := by
  unfold answer at granted
  split at granted
  · cases granted
  · exact granted

section Replies

variable {buckets : Buckets} {object resource : String} {objects : List String}

theorem listed_iff :
    keeper.reply buckets (.listObjects bucket) = .ok objects ↔ buckets bucket = some objects := by
  cases kept : buckets bucket <;> simp [reply, kept]

theorem reply_listObjects (keeper : Keeper) (buckets : Buckets) (bucket : String) :
    (∃ objects, keeper.reply buckets (.listObjects bucket) = .ok objects) ∨
      keeper.reply buckets (.listObjects bucket) = .error (.notFound bucket) := by
  cases kept : buckets bucket <;> simp [reply, kept]

theorem reply_deleteObject (keeper : Keeper) (buckets : Buckets) (bucket object : String) :
    keeper.reply buckets (.deleteObject bucket object) = .ok () ∨
      keeper.reply buckets (.deleteObject bucket object) = .error (.notFound object) := by
  by_cases member : object ∈ (buckets bucket).getD [] <;> simp [reply, member]

theorem missing_of_list
    (missing : keeper.reply buckets (.listObjects bucket) = .error (.notFound resource)) :
    buckets bucket = none := by
  cases kept : buckets bucket with
  | none => rfl
  | some objects => simp [reply, kept] at missing

theorem mem_of_deleteObject
    (deleted : keeper.reply buckets (.deleteObject bucket object) = .ok ()) :
    object ∈ (buckets bucket).getD [] := by
  by_contra absent
  simp [reply, absent] at deleted

theorem not_mem_of_deleteObject
    (missing : keeper.reply buckets (.deleteObject bucket object) = .error (.notFound resource)) :
    object ∉ (buckets bucket).getD [] := by
  intro member
  simp [reply, member] at missing

theorem deleteBucket_of_empty (empty : buckets bucket = some []) :
    keeper.reply buckets (.deleteBucket bucket) = .ok () := by
  simp [reply, empty]

end Replies

section Frame

variable {buckets : Buckets} {event : Event Request Request.Answer}

theorem keep_of_none (missing : buckets bucket = none) :
    keeper.keep buckets event bucket = none := by
  unfold keep
  split
  · next about object _ =>
      by_cases same : bucket = about
      · subst same
        simp [missing]
      · rwa [Function.update_of_ne same]
  · next about _ =>
      by_cases same : bucket = about
      · subst same
        exact Function.update_self ..
      · rwa [Function.update_of_ne same]
  · exact missing

/-- A bucket that is gone does not come back. -/
theorem after_of_none (missing : storage.buckets bucket = none) :
    (keeper.after storage events).buckets bucket = none := by
  induction events generalizing storage with
  | nil => exact missing
  | cons event rest ih => exact ih (keep_of_none missing)

theorem keep_of_ne (about : ∀ request, Program.Sent [event] request → request.bucket? = some bucket)
    (different : other ≠ bucket) : keeper.keep buckets event other = buckets other := by
  unfold keep
  split
  · next about' object _ =>
      have same := about (.deleteObject about' object) (by simp)
      obtain rfl : about' = bucket := Option.some.inj same
      exact Function.update_of_ne different ..
  · next about' _ =>
      have same := about (.deleteBucket about') (by simp)
      obtain rfl : about' = bucket := Option.some.inj same
      exact Function.update_of_ne different ..
  · rfl

/-- Events about one bucket leave the others as they are. -/
theorem after_of_ne (about : ∀ request, Program.Sent events request → request.bucket? = some bucket)
    (different : other ≠ bucket) :
    (keeper.after storage events).buckets other = storage.buckets other := by
  induction events generalizing storage with
  | nil => rfl
  | cons event rest ih =>
      have first (request) (sent : Program.Sent [event] request) := about request
        (Program.sent_append_iff.mpr (.inl sent))
      have later (request) (sent : Program.Sent rest request) := about request
        (Program.sent_append_iff.mpr (.inr sent) : Program.Sent ([event] ++ rest) request)
      exact (ih later).trans (keep_of_ne first different)

end Frame

end Keeper

end ManagedCluster
