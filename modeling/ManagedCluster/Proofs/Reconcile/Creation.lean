import ManagedCluster.Proofs.Reconcile.Outcomes
import ManagedCluster.Proofs.Reflection.Basic
import ManagedCluster.Proofs.Session.Operations

/-! # How a creation ends

A creation that ends does so in one of six ways, and what happened tells which. The cluster has an
identity afterwards if its operation was seen to be done without an error, and the live state is
only touched by a creation that succeeds.
-/

namespace ManagedCluster

/-- The provider accepted a cluster. -/
def isAcceptance : Event Request Request.Answer → Bool
  | .answered (.createCluster _ _ _) (.ok _) => true
  | _ => false

def isReading : Event Request Request.Answer → Bool
  | .answered (.getCluster _) _ => true
  | _ => false

theorem any_isReading_eq_false {events : Events}
    (unread : ∀ target, ¬ Program.Sent events (.getCluster target)) :
    events.any isReading = false := by
  refine List.any_eq_false.mpr ?_
  intro event member reads
  unfold isReading at reads
  split at reads
  · next target answer => exact unread target ⟨answer, member⟩
  · cases reads

namespace Reconciler

/-- The ways in which a creation ends. -/
inductive CreateEnding where
  /-- There is no payload to send. -/
  | refused
  | notAccepted
  /-- The cluster did not come up. -/
  | notFinished
  /-- The cluster came up, but was not read. -/
  | notRead
  /-- The cluster came up, but was gone when it was read. -/
  | gone
  | created

variable {reconciler : Reconciler} {desired : Spec} {state : ClusterState} {payload : Report}
  {events : Events} {answer : Except ApiError Operation} {outcome : Outcome}

/-- The cluster is asked for at most three times; each answer but the last says that this was too
often. -/
def Submits (reconciler : Reconciler) (desired : Spec) (payload : Report) (events : Events)
    (answer : Except ApiError Operation) : Prop :=
  ∃ count, count ≤ 3 ∧ Attempts (reconciler.retryPolicy createAttempts)
    (.createCluster payload.projectId desired.region payload) 1 count events answer

/-- The cluster is accepted, and its operation is seen to be done without an error. -/
def ComesUp (reconciler : Reconciler) (desired : Spec) (events : Events) : Prop :=
  ∃ payload operation finished before after,
    desired.payload reconciler.options.defaultProject = .ok payload ∧
    reconciler.Submits desired payload before (.ok operation) ∧
    (reconciler.awaitCreation desired operation).Yields after (some (.ok finished)) ∧
    events = before ++ after ∧ SeenDone events

/-- A creation ends in this way. -/
def EndsAs (reconciler : Reconciler) (desired : Spec) (state : ClusterState) (events : Events)
    (outcome : Outcome) : CreateEnding → Prop
  | .refused => ∃ error, desired.payload reconciler.options.defaultProject = .error error ∧
      events = [] ∧ outcome = (.error (.payload error), state)
  | .notAccepted => ∃ payload error,
      desired.payload reconciler.options.defaultProject = .ok payload ∧
      reconciler.Submits desired payload events (.error error) ∧
      (∀ request, Program.Sent events request →
        request = .createCluster payload.projectId desired.region payload) ∧
      outcome = (.error (.create desired.name
        (.submit ("creating cluster " ++ desired.name) error)), state)
  | .notFinished => ∃ payload operation error before after,
      desired.payload reconciler.options.defaultProject = .ok payload ∧
      reconciler.Submits desired payload before (.ok operation) ∧
      (reconciler.awaitCreation desired operation).Yields after (some (.error error)) ∧
      events = before ++ after ∧ (∀ target, ¬ Program.Sent events (.getCluster target)) ∧
      ¬ SeenDone events ∧ outcome = (.error (.create desired.name error), ⟨none, state.live⟩)
  | .notRead => ∃ before target answer error, reconciler.ComesUp desired before ∧
      reconciler.target desired = .ok target ∧
      events = before ++ [.answered (.getCluster target) answer] ∧
      ReadFails desired answer error ∧ outcome = (.error error, ⟨some desired.name, state.live⟩)
  | .gone => ∃ before target resource, reconciler.ComesUp desired before ∧
      reconciler.target desired = .ok target ∧
      events = before ++ [.answered (.getCluster target) (.error (.notFound resource))] ∧
      outcome = (.ok (), .empty)
  | .created => ∃ before target report live, reconciler.ComesUp desired before ∧
      reconciler.target desired = .ok target ∧
      events = before ++ [.answered (.getCluster target) (.ok report)] ∧
      report.reflectOnto desired = .ok live ∧
      outcome = (.ok (), ⟨some desired.name, some live⟩)

theorem target_of_payload (sent : desired.payload reconciler.options.defaultProject = .ok payload) :
    ∃ target, reconciler.target desired = .ok target := by
  obtain ⟨-, project, resolved, -⟩ := Spec.payload_eq_ok_iff.mp sent
  exact ⟨⟨project, desired.region, desired.name⟩, target_eq_ok_iff.mpr ⟨resolved, rfl, rfl⟩⟩

theorem submits_of_submitCreation {answer : Except PollError Operation}
    (submitted : (reconciler.submitCreation desired payload).Yields events (some answer)) :
    ∃ given, reconciler.Submits desired payload events given ∧
      answer = given.mapError (.submit ("creating cluster " ++ desired.name)) := by
  obtain ⟨given, trace, rfl⟩ := submit_trace submitted
  obtain ⟨count, few, attempts, -⟩ := attempts_of_retry trace
  exact ⟨given, ⟨count, few, attempts⟩, rfl⟩

section Submits

variable (submits : reconciler.Submits desired payload events answer)

include submits

theorem Submits.sent_iff {request : Request} :
    Program.Sent events request ↔
      request = .createCluster payload.projectId desired.region payload := by
  obtain ⟨count, -, attempts⟩ := submits
  exact attempts.sent_iff

theorem Submits.any_isAcceptance : events.any isAcceptance = answer.isOk := by
  obtain ⟨count, -, attempts⟩ := submits
  rw [attempts.any_eq (fun _ => rfl) fun _ => rfl]
  cases answer <;> rfl

theorem Submits.seenDone_iff : SeenDone events ↔ ∃ operation, answer = .ok operation ∧
    operation.Succeeded := by
  obtain ⟨count, -, attempts⟩ := submits
  rw [attempts.seenDone_iff]
  cases answer with
  | error error => simp [reported?]
  | ok operation => simp [reported?]

theorem Submits.looks_eq : looks events = 0 := by
  apply looks_eq_zero
  intro name sent
  cases submits.sent_iff.mp sent

theorem Submits.hasDeadline_append_iff {after : Events} {timeout : Duration} :
    HasDeadline timeout (events ++ after) ↔ HasDeadline timeout after := by
  obtain ⟨count, -, attempts⟩ := submits
  exact ManagedCluster.hasDeadline_append_iff attempts.firstReading?_eq

end Submits

theorem Submits.ne_nil (submits : reconciler.Submits desired payload events answer) :
    events ≠ [] := by
  rintro rfl
  exact Program.not_sent_nil (submits.sent_iff.mpr rfl)

section Awaits

variable {operation : Operation} {out : Option (Except PollError Operation)}

theorem getOperation_of_awaitCreation {request : Request}
    (awaited : (reconciler.awaitCreation desired operation).Yields events out)
    (sent : Program.Sent events request) : ∃ name, request = .getOperation name :=
  PollPolicy.getOperation_of_wait awaited sent

theorem awaitCreation_isOk_iff {waited : Except PollError Operation}
    (awaited : (reconciler.awaitCreation desired operation).Yields events (some waited)) :
    (∃ finished, waited = .ok finished) ↔ operation.Succeeded ∨ SeenDone events := by
  cases waiting_of_wait awaited with
  | timed start early trace => simpa using trace.isOk_iff

theorem looks_of_awaitCreation_cutOff
    (awaited : (reconciler.awaitCreation desired operation).Yields events none) :
    (HasDeadline reconciler.timeouts.create events → looks events = reconciler.patience) ∧
      (¬ HasDeadline reconciler.timeouts.create events → looks events = 0) :=
  (waiting_of_wait awaited).looks_of_cutOff

variable {before after : Events}
  (submits : reconciler.Submits desired payload before (.ok operation))

include submits

theorem seenDone_of_awaited {waited : Except PollError Operation}
    (awaited : (reconciler.awaitCreation desired operation).Yields after (some waited)) :
    SeenDone (before ++ after) ↔ ∃ finished, waited = .ok finished := by
  rw [seenDone_append_iff, submits.seenDone_iff, awaitCreation_isOk_iff awaited]
  simp

theorem not_read_of_awaited
    (awaited : (reconciler.awaitCreation desired operation).Yields after out)
    (target : ClusterRef) : ¬ Program.Sent (before ++ after) (.getCluster target) := by
  intro sent
  rcases Program.sent_append_iff.mp sent with sent | sent
  · cases submits.sent_iff.mp sent
  · obtain ⟨name, other⟩ := getOperation_of_awaitCreation awaited sent
    cases other

theorem any_isAcceptance_of_awaited (after : Events) :
    (before ++ after).any isAcceptance = true := by
  rw [List.any_append, submits.any_isAcceptance]
  rfl

end Awaits

theorem ComesUp.any_isAcceptance (up : reconciler.ComesUp desired events) :
    events.any isAcceptance = true ∧ events.any isReading = false := by
  obtain ⟨payload, operation, finished, before, after, -, submits, awaited, rfl, -⟩ := up
  exact ⟨any_isAcceptance_of_awaited submits after,
    any_isReading_eq_false (not_read_of_awaited submits awaited)⟩

/-- The way in which a creation ended, from what happened. -/
def endingOf (events : Events) (outcome : Outcome) : CreateEnding :=
  if events.any isAcceptance then
    if events.any isReading then
      match outcome with
      | (.error _, _) => .notRead
      | (.ok _, ⟨none, _⟩) => .gone
      | (.ok _, ⟨some _, _⟩) => .created
    else .notFinished
  else if events.isEmpty then .refused
  else .notAccepted

theorem EndsAs.ending_eq {ending : CreateEnding}
    (ends : reconciler.EndsAs desired state events outcome ending) :
    endingOf events outcome = ending := by
  cases ending with
  | refused =>
      obtain ⟨error, -, rfl, rfl⟩ := ends
      rfl
  | notAccepted =>
      obtain ⟨payload, error, -, submits, -, rfl⟩ := ends
      simp [endingOf, submits.any_isAcceptance, submits.ne_nil, Except.isOk, Except.toBool]
  | notFinished =>
      obtain ⟨payload, operation, error, before, after, -, submits, -, rfl, unread, -, rfl⟩ := ends
      simp only [endingOf, any_isAcceptance_of_awaited submits after, any_isReading_eq_false unread,
        if_true, Bool.false_eq_true, if_false]
  | notRead =>
      obtain ⟨before, target, answer, error, up, -, rfl, -, rfl⟩ := ends
      obtain ⟨accepts, -⟩ := up.any_isAcceptance
      simp only [endingOf, List.any_append, accepts, Bool.true_or, if_true]
      simp [isReading]
  | gone =>
      obtain ⟨before, target, resource, up, -, rfl, rfl⟩ := ends
      obtain ⟨accepts, -⟩ := up.any_isAcceptance
      simp only [endingOf, List.any_append, accepts, Bool.true_or, if_true]
      simp [isReading, ClusterState.empty]
  | created =>
      obtain ⟨before, target, report, live, up, -, rfl, -, rfl⟩ := ends
      obtain ⟨accepts, -⟩ := up.any_isAcceptance
      simp only [endingOf, List.any_append, accepts, Bool.true_or, if_true]
      simp [isReading]

theorem endsAs_of_read {before last : Events} (up : reconciler.ComesUp desired before)
    (read : (reconciler.refresh desired { state with id := some desired.name }).Yields last
      (some outcome)) :
    ∃ ending, reconciler.EndsAs desired state (before ++ last) outcome ending := by
  cases refresh_trace read with
  | nowhere unknown =>
      obtain ⟨payload, -, -, -, -, sent, -⟩ := up
      obtain ⟨target, found⟩ := target_of_payload sent
      cases unknown.symm.trans found
  | @gone target resource found => exact ⟨.gone, before, target, resource, up, found, rfl, rfl⟩
  | @failed target answer error found fails =>
      exact ⟨.notRead, before, target, answer, error, up, found, rfl, fails, rfl⟩
  | @stored target report live found reflected =>
      exact ⟨.created, before, target, report, live, up, found, rfl, reflected, rfl⟩

theorem exists_endsAs (trace : (reconciler.create desired state).Yields events (some outcome)) :
    ∃ ending, reconciler.EndsAs desired state events outcome ending := by
  cases create_trace trace with
  | refused refusal => exact ⟨.refused, _, refusal, rfl, rfl⟩
  | notAccepted sent submitted =>
      obtain ⟨given, submits, same⟩ := submits_of_submitCreation submitted
      cases given with
      | ok operation => cases same
      | error error =>
          cases same
          exact ⟨.notAccepted, _, error, sent, submits,
            fun request sent => submits.sent_iff.mp sent, rfl⟩
  | @notFinished payload operation error before after sent submitted awaited =>
      obtain ⟨given, submits, same⟩ := submits_of_submitCreation submitted
      cases given with
      | error error => cases same
      | ok accepted =>
          cases same
          refine ⟨.notFinished, payload, operation, error, before, after, sent, submits, awaited,
            rfl, not_read_of_awaited submits awaited, ?_, rfl⟩
          rw [seenDone_of_awaited submits awaited]
          rintro ⟨finished, ⟨⟩⟩
  | @created payload operation finished before after last outcome sent submitted awaited read =>
      obtain ⟨given, submits, same⟩ := submits_of_submitCreation submitted
      cases given with
      | error error => cases same
      | ok accepted =>
          cases same
          rw [← List.append_assoc]
          have seen := (seenDone_of_awaited submits awaited).mpr ⟨finished, rfl⟩
          exact endsAs_of_read
            ⟨payload, operation, finished, before, after, sent, submits, awaited, rfl, seen⟩ read

theorem create_cutOff (trace : (reconciler.create desired state).Yields events none) :
    events.any isAcceptance = true ∧
      (HasDeadline reconciler.timeouts.create events → looks events = reconciler.patience) ∧
      (¬ HasDeadline reconciler.timeouts.create events → looks events = 0) := by
  unfold create at trace
  cases sent : desired.payload reconciler.options.defaultProject with
  | error error =>
      simp only [sent] at trace
      cases trace
  | ok payload =>
      simp only [sent] at trace
      rcases Program.yields_bind_iff.mp trace with
        ⟨unsent, -⟩ | ⟨answer, before, rest, submitted, trace, rfl⟩
      · exact absurd unsent (not_submit_cutOff fun events => not_retryFrom_cutOff)
      · cases answer with
        | error error => cases trace
        | ok operation =>
            obtain ⟨given, submits, same⟩ := submits_of_submitCreation submitted
            cases given with
            | error error => cases same
            | ok accepted =>
                cases same
                refine ⟨any_isAcceptance_of_awaited submits rest, ?_⟩
                rcases Program.yields_bind_iff.mp trace with
                  ⟨cut, -⟩ | ⟨waited, between, last, -, ending, rfl⟩
                · rw [looks_append, submits.looks_eq, Nat.zero_add, submits.hasDeadline_append_iff]
                  exact looks_of_awaitCreation_cutOff cut
                · cases waited with
                  | error error => cases ending
                  | ok finished => exact absurd ending not_refresh_cutOff

/-- What a creation that fails does to the state. -/
theorem state_of_endsAs {ending : CreateEnding} {error : ReconcileError} {after : ClusterState}
    (ends : reconciler.EndsAs desired state events (.error error, after) ending) :
    after.live = state.live ∧
      (SeenDone events → after.id = some desired.name) ∧
      (¬ SeenDone events → events.any isAcceptance = true → after.id = none) ∧
      (events.any isAcceptance = false → after.id = state.id) := by
  cases ending with
  | refused =>
      obtain ⟨error, -, rfl, same⟩ := ends
      cases same
      exact ⟨rfl, fun seen => absurd seen not_seenDone_nil, nofun, fun _ => rfl⟩
  | notAccepted =>
      obtain ⟨payload, error, -, submits, -, same⟩ := ends
      cases same
      have unseen : ¬ SeenDone events := by simp [submits.seenDone_iff]
      have unaccepted : events.any isAcceptance = false := submits.any_isAcceptance
      exact ⟨rfl, fun seen => absurd seen unseen, by simp [unaccepted], fun _ => rfl⟩
  | notFinished =>
      obtain ⟨payload, operation, error, before, after, -, submits, -, rfl, -, unseen, same⟩ := ends
      cases same
      have accepted := any_isAcceptance_of_awaited submits after
      exact ⟨rfl, fun seen => absurd seen unseen, fun _ _ => rfl, by simp [accepted]⟩
  | notRead =>
      obtain ⟨before, target, answer, error, up, -, rfl, -, same⟩ := ends
      cases same
      obtain ⟨accepted, -⟩ := up.any_isAcceptance
      obtain ⟨-, -, -, -, -, -, -, -, -, seen⟩ := up
      refine ⟨rfl, fun _ => rfl, fun unseen => ?_, by simp [accepted]⟩
      exact absurd (seenDone_append_iff.mpr (.inl seen)) unseen
  | gone =>
      obtain ⟨_, _, _, -, -, -, same⟩ := ends
      cases same
  | created =>
      obtain ⟨_, _, _, _, -, -, -, -, same⟩ := ends
      cases same

/-- A creation ends in exactly one of six ways. One that fails leaves the live state as it was, and
its identity behind exactly if the operation was seen to be done without an error. Only a wait for
an accepted cluster that has no looks left, or no deadline, does not end. -/
theorem create_ends (reconciler : Reconciler) (desired : Spec) (state : ClusterState) :
    (∀ events outcome, (reconciler.create desired state).Yields events (some outcome) →
      (∃! ending, reconciler.EndsAs desired state events outcome ending) ∧
      ∀ error after, outcome = (.error error, after) →
        after.live = state.live ∧
        (SeenDone events → after.id = some desired.name) ∧
        (¬ SeenDone events → events.any isAcceptance = true → after.id = none) ∧
        (events.any isAcceptance = false → after.id = state.id)) ∧
    (∀ events, (reconciler.create desired state).Yields events none →
      events.any isAcceptance = true ∧
      (HasDeadline reconciler.timeouts.create events → looks events = reconciler.patience) ∧
      (¬ HasDeadline reconciler.timeouts.create events → looks events = 0)) := by
  refine ⟨?_, fun _ trace => create_cutOff trace⟩
  intro events outcome trace
  obtain ⟨ending, ends⟩ := exists_endsAs trace
  refine ⟨⟨ending, ends, fun other same => ?_⟩, ?_⟩
  · exact same.ending_eq.symm.trans ends.ending_eq
  · rintro error after rfl
    exact state_of_endsAs ends

def barePayload : Report where
  clusterName := "etl"
  projectId := "analytics"

/-- The second request for the cluster is accepted, and its operation fails. -/
def failedCreation : Events := [
  .answered (.createCluster "analytics" "europe-west1" barePayload)
    (.error (.rateLimited "slow down")),
  .slept usual.options.initialBackoff,
  .answered (.createCluster "analytics" "europe-west1" barePayload) (.ok { name := "op" }),
  .clockRead 0,
  .clockRead 0,
  .slept usual.options.pollInterval,
  .answered (.getOperation "op") (.ok { name := "op", done := true, error := some { code := 9 } }),
  .clockRead 10000000000]

theorem payload_bare : bare.payload none = .ok barePayload :=
  Spec.payload_eq_ok_iff.mpr ⟨by decide +kernel, "analytics", by decide +kernel, rfl⟩

theorem create_ends_bare :
    (usual.create bare ⟨some "old", none⟩).Yields failedCreation
      (some (.error (.create "etl" (.failed "creating cluster etl" "op" { code := 9 })),
        ⟨none, none⟩)) ∧
    ∀ error after, (usual.create bare ⟨some "old", none⟩).Yields failedCreation
      (some (.error error, after)) → after.id = none := by
  constructor
  · unfold create
    simp only [show usual.options.defaultProject = none from rfl, payload_bare]
    refine .send _ (.sleep (.send _ (.readClock 0 ?_)))
    unfold PollPolicy.waitUntil
    refine .readClock 0 (.sleep (.send _ ?_))
    unfold PollPolicy.waitUntil
    exact .readClock _ .done
  · intro error after trace
    obtain ⟨ended, -⟩ := create_ends usual bare ⟨some "old", none⟩
    obtain ⟨-, -, forgotten, -⟩ := (ended failedCreation _ trace).2 error after rfl
    refine forgotten ?_ rfl
    simp [failedCreation, reported?, Operation.Succeeded]

end Reconciler

end ManagedCluster
