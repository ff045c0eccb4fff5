import ManagedCluster.Proofs.Session.Requests
import ManagedCluster.Reconcile

/-! # What each call comes to

The finished traces of each call, sorted by where the call ended. Whatever a call does to the state
can be read off here.
-/

namespace ManagedCluster

/-- The result of a call and the state after it. -/
abbrev Outcome : Type := Except ReconcileError Unit × ClusterState

namespace Reconciler

variable {reconciler : Reconciler} {desired : Spec} {state : ClusterState}
  {events : Events}

theorem target_eq_ok_iff {spec : Spec} {target : ClusterRef} :
    reconciler.target spec = .ok target ↔
      spec.projectOr reconciler.options.defaultProject = .ok target.project ∧
        target.region = spec.region ∧ target.name = spec.name := by
  obtain ⟨project, region, name⟩ := target
  unfold Reconciler.target
  cases spec.projectOr reconciler.options.defaultProject with
  | error error => simp
  | ok resolved => simp [eq_comm]

/-- What a read makes of the answer. -/
def afterRead (desired : Spec) (state : ClusterState) : Except ApiError Report → Outcome
  | .error (.notFound _) => (.ok (), .empty)
  | .error error => (.error (.read desired.name error), state)
  | .ok report =>
    match report.reflectOnto desired with
    | .error error => (.error (.reflect desired.name error), state)
    | .ok live => (.ok (), ⟨some desired.name, some live⟩)

theorem refresh_of_target {target : ClusterRef} (found : reconciler.target desired = .ok target) :
    reconciler.refresh desired state =
      .send (.getCluster target) fun answer => .done (afterRead desired state answer) := by
  unfold refresh read
  simp only [found, Session.getCluster, Program.ask, Program.send_bind, Program.done_bind]
  congr 1
  funext answer
  rcases answer with (_ | _ | _) | report
  · rfl
  · rfl
  · rfl
  · cases reflected : report.reflectOnto desired <;> simp [afterRead, reflected, Except.map]

theorem refresh_yields_iff {out : Option Outcome} :
    (reconciler.refresh desired state).Yields events out ↔
      (∃ error, reconciler.target desired = .error error ∧ events = [] ∧
        out = some (.error error, state)) ∨
      ∃ target answer, reconciler.target desired = .ok target ∧
        events = [.answered (.getCluster target) answer] ∧
        out = some (afterRead desired state answer) := by
  cases found : reconciler.target desired with
  | error error =>
      unfold refresh read
      simp [found, Except.map]
  | ok target =>
      rw [refresh_of_target found, Program.yields_send_iff]
      simp only [Program.yields_done_iff, reduceCtorEq, false_and, exists_false, false_or,
        Except.ok.injEq]
      constructor
      · rintro ⟨answer, _, rfl, rfl, rfl⟩
        exact ⟨target, answer, rfl, rfl, rfl⟩
      · rintro ⟨_, answer, rfl, rfl, rfl⟩
        exact ⟨answer, [], rfl, rfl, rfl⟩

theorem not_refresh_cutOff : ¬ (reconciler.refresh desired state).Yields events none := by
  intro trace
  rcases refresh_yields_iff.mp trace with ⟨_, -, -, cut⟩ | ⟨_, _, -, -, cut⟩
  · cases cut
  · cases cut

/-- The answer about the cluster is a failure, or cannot be reflected. -/
def ReadFails (desired : Spec) (answer : Except ApiError Report) (error : ReconcileError) : Prop :=
  (∃ failure, answer = .error failure ∧ (∀ resource, failure ≠ .notFound resource) ∧
    error = .read desired.name failure) ∨
  ∃ report failure, answer = .ok report ∧ report.reflectOnto desired = .error failure ∧
    error = .reflect desired.name failure

/-- How a reading as the last part of a change may end. -/
inductive RefreshTrace (reconciler : Reconciler) (desired : Spec) (state : ClusterState) :
    Events → Outcome → Prop
  | nowhere {error : ReconcileError} (unknown : reconciler.target desired = .error error) :
      RefreshTrace reconciler desired state [] (.error error, state)
  | gone {target : ClusterRef} {resource : String} (found : reconciler.target desired = .ok target) :
      RefreshTrace reconciler desired state
        [.answered (.getCluster target) (.error (.notFound resource))] (.ok (), .empty)
  | failed {target : ClusterRef} {answer : Except ApiError Report} {error : ReconcileError}
      (found : reconciler.target desired = .ok target) (fails : ReadFails desired answer error) :
      RefreshTrace reconciler desired state [.answered (.getCluster target) answer]
        (.error error, state)
  | stored {target : ClusterRef} {report : Report} {live : Spec}
      (found : reconciler.target desired = .ok target)
      (reflected : report.reflectOnto desired = .ok live) :
      RefreshTrace reconciler desired state [.answered (.getCluster target) (.ok report)]
        (.ok (), ⟨some desired.name, some live⟩)

theorem refresh_trace {outcome : Outcome}
    (trace : (reconciler.refresh desired state).Yields events (some outcome)) :
    RefreshTrace reconciler desired state events outcome := by
  rcases refresh_yields_iff.mp trace with
    ⟨error, unknown, rfl, ending⟩ | ⟨target, answer, found, rfl, ending⟩
  · cases ending
    exact .nowhere unknown
  · rcases answer with (resource | message | ⟨code, message⟩) | report
    · cases ending
      exact .gone found
    · cases ending
      exact .failed found (.inl ⟨_, rfl, nofun, rfl⟩)
    · cases ending
      exact .failed found (.inl ⟨_, rfl, nofun, rfl⟩)
    · cases reflected : report.reflectOnto desired with
      | error error =>
          simp only [afterRead, reflected] at ending
          cases ending
          exact .failed found (.inr ⟨report, error, rfl, reflected, rfl⟩)
      | ok live =>
          simp only [afterRead, reflected] at ending
          cases ending
          exact .stored found reflected

/-- Ask for the cluster. -/
def submitCreation (reconciler : Reconciler) (desired : Spec) (payload : Report) :
    Session (Except PollError Operation) :=
  (reconciler.pollPolicy reconciler.timeouts.create createAttempts).submit
    ("creating cluster " ++ desired.name)
    (Session.createCluster payload.projectId desired.region payload)

/-- Wait for the cluster that was asked for. -/
def awaitCreation (reconciler : Reconciler) (desired : Spec) (operation : Operation) :
    Session (Except PollError Operation) :=
  (reconciler.pollPolicy reconciler.timeouts.create createAttempts).wait
    ("creating cluster " ++ desired.name) operation

/-- Apply a patch and wait for it. -/
def applyPatch (reconciler : Reconciler) (desired : Spec) (target : ClusterRef) (patch : Patch) :
    Session (Except PollError Operation) :=
  (reconciler.pollPolicy reconciler.timeouts.update updateAttempts).complete
    ("updating cluster " ++ desired.name) (Session.patchCluster target patch.cluster patch.mask)

/-- Delete the cluster and wait for it. -/
def applyDeletion (reconciler : Reconciler) (live : Spec) (target : ClusterRef) :
    Session (Except PollError Operation) :=
  (reconciler.pollPolicy reconciler.timeouts.delete deleteAttempts).complete
    ("deleting cluster " ++ live.name) (Session.deleteCluster target)

/-- How a creation may end. -/
inductive CreateTrace (reconciler : Reconciler) (desired : Spec) (state : ClusterState) :
    Events → Outcome → Prop
  | refused {error : PayloadError}
      (refusal : desired.payload reconciler.options.defaultProject = .error error) :
      CreateTrace reconciler desired state [] (.error (.payload error), state)
  | notAccepted {payload : Report} {error : PollError} {events : Events}
      (sent : desired.payload reconciler.options.defaultProject = .ok payload)
      (submitted : (reconciler.submitCreation desired payload).Yields events
        (some (.error error))) :
      CreateTrace reconciler desired state events (.error (.create desired.name error), state)
  | notFinished {payload : Report} {operation : Operation} {error : PollError}
      {before after : Events}
      (sent : desired.payload reconciler.options.defaultProject = .ok payload)
      (submitted : (reconciler.submitCreation desired payload).Yields before (some (.ok operation)))
      (awaited : (reconciler.awaitCreation desired operation).Yields after (some (.error error))) :
      CreateTrace reconciler desired state (before ++ after)
        (.error (.create desired.name error), { state with id := none })
  | created {payload : Report} {operation finished : Operation} {before after last : Events}
      {outcome : Outcome}
      (sent : desired.payload reconciler.options.defaultProject = .ok payload)
      (submitted : (reconciler.submitCreation desired payload).Yields before (some (.ok operation)))
      (awaited : (reconciler.awaitCreation desired operation).Yields after (some (.ok finished)))
      (read : (reconciler.refresh desired { state with id := some desired.name }).Yields last
        (some outcome)) :
      CreateTrace reconciler desired state (before ++ (after ++ last)) outcome

theorem create_trace {outcome : Outcome}
    (trace : (reconciler.create desired state).Yields events (some outcome)) :
    CreateTrace reconciler desired state events outcome := by
  unfold create at trace
  cases sent : desired.payload reconciler.options.defaultProject with
  | error error =>
      simp only [sent, Program.pure_eq_done, Program.yields_done_some_iff] at trace
      obtain ⟨rfl, rfl⟩ := trace
      exact .refused sent
  | ok payload =>
      simp only [sent] at trace
      obtain ⟨answer, before, rest, submitted, trace, rfl⟩ := Program.yields_bind_some trace
      cases answer with
      | error error =>
          obtain ⟨rfl, rfl⟩ := Program.yields_done_some_iff.mp trace
          rw [List.append_nil]
          exact .notAccepted sent submitted
      | ok operation =>
          obtain ⟨waited, after, last, awaited, trace, rfl⟩ := Program.yields_bind_some trace
          cases waited with
          | error error =>
              obtain ⟨rfl, rfl⟩ := Program.yields_done_some_iff.mp trace
              rw [List.append_nil]
              exact .notFinished sent submitted awaited
          | ok finished => exact .created sent submitted awaited trace

/-- How an update may end. -/
inductive UpdateTrace (reconciler : Reconciler) (desired : Spec) (state : ClusterState) :
    Events → Outcome → Prop
  | notCreated (missing : state.live = none) :
      UpdateTrace reconciler desired state [] (.error (.notCreated desired.name), state)
  | refused {prior : Spec} {first : Spec.Attribute} {others : List Spec.Attribute}
      (recorded : state.live = some prior)
      (drifted : prior.replacements desired = first :: others) :
      UpdateTrace reconciler desired state []
        (.error (.requiresReplacement desired.name (first :: others)), state)
  | unchanged {prior : Spec} {events : Events} {outcome : Outcome}
      (recorded : state.live = some prior) (kept : prior.replacements desired = [])
      (nothing : prior.patch? desired = none)
      (read : (reconciler.refresh desired state).Yields events (some outcome)) :
      UpdateTrace reconciler desired state events outcome
  | nowhere {prior : Spec} {patch : Patch} {error : ReconcileError}
      (recorded : state.live = some prior) (kept : prior.replacements desired = [])
      (due : prior.patch? desired = some patch)
      (noTarget : reconciler.target desired = .error error) :
      UpdateTrace reconciler desired state [] (.error error, state)
  | notFinished {prior : Spec} {patch : Patch} {target : ClusterRef} {error : PollError}
      {events : Events}
      (recorded : state.live = some prior) (kept : prior.replacements desired = [])
      (due : prior.patch? desired = some patch) (found : reconciler.target desired = .ok target)
      (applied : (reconciler.applyPatch desired target patch).Yields events (some (.error error))) :
      UpdateTrace reconciler desired state events (.error (.update desired.name error), state)
  | patched {prior : Spec} {patch : Patch} {target : ClusterRef} {finished : Operation}
      {before after : Events} {outcome : Outcome}
      (recorded : state.live = some prior) (kept : prior.replacements desired = [])
      (due : prior.patch? desired = some patch) (found : reconciler.target desired = .ok target)
      (applied : (reconciler.applyPatch desired target patch).Yields before (some (.ok finished)))
      (read : (reconciler.refresh desired state).Yields after (some outcome)) :
      UpdateTrace reconciler desired state (before ++ after) outcome

theorem update_trace {outcome : Outcome}
    (trace : (reconciler.update desired state).Yields events (some outcome)) :
    UpdateTrace reconciler desired state events outcome := by
  unfold update at trace
  cases recorded : state.live with
  | none =>
      simp only [recorded, Program.pure_eq_done, Program.yields_done_some_iff] at trace
      obtain ⟨rfl, rfl⟩ := trace
      exact .notCreated recorded
  | some prior =>
      simp only [recorded] at trace
      cases kept : prior.replacements desired with
      | cons first others =>
          simp only [kept, Program.pure_eq_done, Program.yields_done_some_iff] at trace
          obtain ⟨rfl, rfl⟩ := trace
          exact .refused recorded kept
      | nil =>
          simp only [kept] at trace
          cases due : prior.patch? desired with
          | none =>
              simp only [due] at trace
              exact .unchanged recorded kept due trace
          | some patch =>
              simp only [due] at trace
              cases found : reconciler.target desired with
              | error error =>
                  simp only [found, Program.pure_eq_done, Program.yields_done_some_iff] at trace
                  obtain ⟨rfl, rfl⟩ := trace
                  exact .nowhere recorded kept due found
              | ok target =>
                  simp only [found] at trace
                  obtain ⟨answer, before, after, applied, trace, rfl⟩ :=
                    Program.yields_bind_some trace
                  cases answer with
                  | error error =>
                      obtain ⟨rfl, rfl⟩ := Program.yields_done_some_iff.mp trace
                      rw [List.append_nil]
                      exact .notFinished recorded kept due found applied
                  | ok finished => exact .patched recorded kept due found applied trace

/-- How a deletion may end. -/
inductive DeleteTrace (reconciler : Reconciler) (state : ClusterState) :
    Events → Outcome → Prop
  | nothing (noLive : state.live = none) (noId : state.id = none) :
      DeleteTrace reconciler state [] (.ok (), state)
  | neverRead {id : String} (noLive : state.live = none) (known : state.id = some id) :
      DeleteTrace reconciler state [] (.error (.missingLiveState id), state)
  | nowhere {live : Spec} {error : ReconcileError} (recorded : state.live = some live)
      (noTarget : reconciler.target live = .error error) :
      DeleteTrace reconciler state [] (.error error, state)
  | bucketKept {live : Spec} {target : ClusterRef} {error : ReconcileError} {events : Events}
      (recorded : state.live = some live) (found : reconciler.target live = .ok target)
      (removed : (reconciler.removeBucket live).Yields events (some (.error error))) :
      DeleteTrace reconciler state events (.error error, state)
  | notFinished {live : Spec} {target : ClusterRef} {error : PollError} {before after : Events}
      (recorded : state.live = some live) (found : reconciler.target live = .ok target)
      (removed : (reconciler.removeBucket live).Yields before (some (.ok ())))
      (deleted : (reconciler.applyDeletion live target).Yields after (some (.error error))) :
      DeleteTrace reconciler state (before ++ after) (.error (.delete live.name error), state)
  | deleted {live : Spec} {target : ClusterRef} {finished : Operation} {before after : Events}
      (recorded : state.live = some live) (found : reconciler.target live = .ok target)
      (removed : (reconciler.removeBucket live).Yields before (some (.ok ())))
      (deleted : (reconciler.applyDeletion live target).Yields after (some (.ok finished))) :
      DeleteTrace reconciler state (before ++ after) (.ok (), .empty)

theorem delete_trace {outcome : Outcome}
    (trace : (reconciler.delete state).Yields events (some outcome)) :
    DeleteTrace reconciler state events outcome := by
  unfold delete at trace
  cases recorded : state.live with
  | none =>
      cases known : state.id with
      | none =>
          simp only [recorded, known, Program.pure_eq_done, Program.yields_done_some_iff] at trace
          obtain ⟨rfl, rfl⟩ := trace
          exact .nothing recorded known
      | some id =>
          simp only [recorded, known, Program.pure_eq_done, Program.yields_done_some_iff] at trace
          obtain ⟨rfl, rfl⟩ := trace
          exact .neverRead recorded known
  | some live =>
      simp only [recorded] at trace
      cases found : reconciler.target live with
      | error error =>
          simp only [found, Program.pure_eq_done, Program.yields_done_some_iff] at trace
          obtain ⟨rfl, rfl⟩ := trace
          exact .nowhere recorded found
      | ok target =>
          simp only [found] at trace
          obtain ⟨cleanup, before, rest, removed, trace, rfl⟩ := Program.yields_bind_some trace
          cases cleanup with
          | error error =>
              obtain ⟨rfl, rfl⟩ := Program.yields_done_some_iff.mp trace
              rw [List.append_nil]
              exact .bucketKept recorded found removed
          | ok removedAll =>
              obtain ⟨answer, after, last, deleted, trace, rfl⟩ := Program.yields_bind_some trace
              cases answer with
              | error error =>
                  obtain ⟨rfl, rfl⟩ := Program.yields_done_some_iff.mp trace
                  rw [List.append_nil]
                  exact .notFinished recorded found removed deleted
              | ok finished =>
                  obtain ⟨rfl, rfl⟩ := Program.yields_done_some_iff.mp trace
                  rw [List.append_nil]
                  exact .deleted recorded found removed deleted

end Reconciler

end ManagedCluster
