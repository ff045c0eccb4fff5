import ManagedCluster.Proofs.Reconcile.Calls

/-! # What a call leaves behind

A read, an update or a deletion that fails leaves the state as it was. One that succeeds makes a
state of what it saw last, and nothing of the state before goes into it. Creations are the exception
and have a module of their own.
-/

namespace ManagedCluster

/-- The last answer to a request for the cluster. -/
def finalRead? (events : Events) : Option (Except ApiError Report) :=
  events.foldl (fun last event =>
    match event with
    | .answered (.getCluster _) answer => some answer
    | _ => last) none

@[simp] theorem finalRead?_append_getCluster (before : Events) (target : ClusterRef)
    (answer : Except ApiError Report) :
    finalRead? (before ++ [.answered (.getCluster target) answer]) = some answer := by
  simp [finalRead?]

namespace Reconciler

/-- The state is made of the last answer about the cluster. It is empty exactly if the cluster is
gone. -/
structure Rereads (desired : Spec) (events : Events) (after : ClusterState) : Prop where
  empty_iff : after = .empty ↔ ∃ resource, finalRead? events = some (.error (.notFound resource))
  stored : after ≠ .empty → ∃ report live, finalRead? events = some (.ok report) ∧
    report.reflectOnto desired = .ok live ∧ after = ⟨some desired.name, some live⟩

variable {reconciler : Reconciler} {desired : Spec} {state after : ClusterState}
  {events : Events}

theorem rereads_of_gone {resource : String}
    (answer : finalRead? events = some (.error (.notFound resource))) :
    Rereads desired events .empty where
  empty_iff := ⟨fun _ => ⟨resource, answer⟩, fun _ => rfl⟩
  stored := fun nonempty => absurd rfl nonempty

theorem rereads_of_live {report : Report} {live : Spec}
    (answer : finalRead? events = some (.ok report))
    (reflected : report.reflectOnto desired = .ok live) :
    Rereads desired events ⟨some desired.name, some live⟩ where
  empty_iff := by simp [answer, ClusterState.empty]
  stored := fun _ => ⟨report, live, answer, reflected, rfl⟩

theorem refresh_state (before : Events) {result : Except ReconcileError Unit}
    (trace : (reconciler.refresh desired state).Yields events (some (result, after))) :
    (∀ error, result = .error error → after = state) ∧
      (result = .ok () → Rereads desired (before ++ events) after) := by
  cases refresh_trace trace with
  | nowhere => exact ⟨fun _ _ => rfl, nofun⟩
  | @gone target resource =>
      exact ⟨nofun, fun _ => rereads_of_gone (finalRead?_append_getCluster before target _)⟩
  | failed => exact ⟨fun _ _ => rfl, nofun⟩
  | @stored target report live found reflected =>
      refine ⟨nofun, fun _ => ?_⟩
      exact rereads_of_live (finalRead?_append_getCluster before target _) reflected

/-- A reading is a refresh that also returns what it stores. -/
theorem refresh_of_read {result : Except ReconcileError (Option Spec)}
    (trace : (reconciler.read desired state).Yields events (some (result, after))) :
    (reconciler.refresh desired state).Yields events (some (result.map fun _ => (), after)) := by
  have last : (Program.done (result.map fun _ => (), after) : Session Outcome).Yields []
      (some (result.map fun _ => (), after)) := .done
  have whole : (reconciler.refresh desired state).Yields (events ++ []) _ := trace.bind last
  rwa [List.append_nil] at whole

theorem read_returns {live : Option Spec}
    (trace : (reconciler.read desired state).Yields events (some (.ok live, after))) :
    live = after.live := by
  unfold read at trace
  cases found : reconciler.target desired with
  | error error =>
      simp only [found] at trace
      cases trace
  | ok target =>
      simp only [found] at trace
      obtain ⟨answer, rest, -, ending⟩ := Program.yields_ask_bind_iff.mp trace
      rcases answer with (resource | message | ⟨code, message⟩) | report
      · cases ending
        rfl
      · cases ending
      · cases ending
      · cases reflected : report.reflectOnto desired with
        | error error =>
            simp only [reflected] at ending
            cases ending
        | ok live =>
            simp only [reflected] at ending
            cases ending
            rfl

theorem update_state {result : Except ReconcileError Unit}
    (trace : (reconciler.update desired state).Yields events (some (result, after))) :
    (∀ error, result = .error error → after = state) ∧
      (result = .ok () → Rereads desired events after) := by
  cases update_trace trace with
  | notCreated => exact ⟨fun _ _ => rfl, nofun⟩
  | refused => exact ⟨fun _ _ => rfl, nofun⟩
  | unchanged _ _ _ read => exact refresh_state [] read
  | nowhere => exact ⟨fun _ _ => rfl, nofun⟩
  | notFinished => exact ⟨fun _ _ => rfl, nofun⟩
  | patched _ _ _ _ _ read => exact refresh_state _ read

theorem delete_state {result : Except ReconcileError Unit}
    (trace : (reconciler.delete state).Yields events (some (result, after))) :
    (∀ error, result = .error error → after = state) ∧ (result = .ok () → after = .empty) := by
  cases delete_trace trace with
  | nothing noLive noId =>
      refine ⟨fun _ _ => rfl, fun _ => ?_⟩
      obtain ⟨id, live⟩ := state
      cases noLive
      cases noId
      rfl
  | neverRead => exact ⟨fun _ _ => rfl, nofun⟩
  | nowhere => exact ⟨fun _ _ => rfl, nofun⟩
  | bucketKept => exact ⟨fun _ _ => rfl, nofun⟩
  | notFinished => exact ⟨fun _ _ => rfl, nofun⟩
  | deleted => exact ⟨nofun, fun _ => rfl⟩

/-- A call that fails leaves the state as it was. After a deletion that succeeds the state is empty;
after a reading or an update that succeeds it is made of the last answer about the cluster. -/
theorem state_after_call (reconciler : Reconciler) (desired : Spec) (state : ClusterState) :
    (∀ events result after, (reconciler.read desired state).Yields events (some (result, after)) →
      (∀ error, result = .error error → after = state) ∧
      (∀ live, result = .ok live → live = after.live ∧ Rereads desired events after)) ∧
    (∀ events result after, (reconciler.update desired state).Yields events (some (result, after)) →
      (∀ error, result = .error error → after = state) ∧
      (result = .ok () → Rereads desired events after)) ∧
    (∀ events result after, (reconciler.delete state).Yields events (some (result, after)) →
      (∀ error, result = .error error → after = state) ∧
      (result = .ok () → after = .empty)) := by
  refine ⟨?_, fun _ _ _ trace => update_state trace, fun _ _ _ trace => delete_state trace⟩
  intro events result after trace
  have refreshed := refresh_of_read trace
  cases result with
  | error error =>
      obtain ⟨kept, -⟩ := refresh_state [] refreshed
      refine ⟨fun _ _ => kept error rfl, ?_⟩
      intro returned same
      cases same
  | ok live =>
      obtain ⟨-, reread⟩ := refresh_state [] refreshed
      refine ⟨nofun, ?_⟩
      intro returned same
      cases same
      exact ⟨read_returns trace, reread rfl⟩

/-- A reconciler with the default options. -/
def usual : Reconciler where
  options := default
  timeouts := .standard
  patience := 1

def bare : Spec where
  name := "etl"
  project := some "analytics"
  region := "europe-west1"

/-- The bare cluster with some workers. -/
def staffed : Spec := { bare with config := some { worker := some { numInstances := some 3 } } }

/-- The patch is accepted, and its operation has failed. -/
def failedPatch : Events := [
  .answered (.patchCluster ⟨"analytics", "europe-west1", "etl"⟩
      { config := some { worker := some { numInstances := some 3 } } }
      "config.worker_config.num_instances")
    (.ok { name := "op", done := true, error := some { code := 9 } }),
  .clockRead 0,
  .clockRead 0]

theorem state_after_call_staffed :
    (usual.update staffed ⟨some "etl", some bare⟩).Yields failedPatch
      (some (.error (.update "etl" (.failed "updating cluster etl" "op" { code := 9 })),
        ⟨some "etl", some bare⟩)) ∧
    ∀ error after, (usual.update staffed ⟨some "etl", some bare⟩).Yields failedPatch
      (some (.error error, after)) → after = ⟨some "etl", some bare⟩ := by
  constructor
  · have kept : bare.replacements staffed = [] := by decide +kernel
    unfold update
    simp only [kept]
    exact .send _ (.readClock 0 (.readClock 0 .done))
  · intro error after trace
    obtain ⟨-, updated, -⟩ := state_after_call usual staffed ⟨some "etl", some bare⟩
    exact (updated failedPatch _ after trace).1 error rfl

end Reconciler

end ManagedCluster
