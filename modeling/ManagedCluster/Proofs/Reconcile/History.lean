import ManagedCluster.Proofs.Reconcile.Calls

/-! # Calls in a row

Any number of calls on one state, from the empty state on. A call stores what it read, leaves the
live state as it was, or empties it. So the live state always comes from the last call that stored
one.
-/

namespace ManagedCluster

namespace Reconciler

/-- A call to a reconciler. -/
inductive Call where
  | create (desired : Spec)
  | read (desired : Spec)
  | update (desired : Spec)
  | delete

/-- The spec that a call is given. -/
def Call.desired? : Call → Option Spec
  | create desired | read desired | update desired => some desired
  | delete => none

/-- A call that has ended, with what happened and the state after it. -/
structure Step where
  call : Call
  events : Events
  result : Except ReconcileError Unit
  after : ClusterState

/-- All events of some steps, of which the last comes first. -/
def history : List Step → Events
  | [] => []
  | step :: earlier => history earlier ++ step.events

/-- The step that stored the live state, with the steps before it. -/
def recording : List Step → Option (Step × List Step)
  | [] => none
  | step :: earlier =>
    match step.after.live, step.result with
    | none, _ => none
    | some _, .ok _ => some (step, earlier)
    | some _, .error _ => recording earlier

variable {reconciler : Reconciler} {call : Call} {state : ClusterState}
  {events : Events}

def perform (reconciler : Reconciler) (call : Call) (state : ClusterState) : Session Outcome :=
  match call with
  | .create desired => reconciler.create desired state
  | .read desired => reconciler.refresh desired state
  | .update desired => reconciler.update desired state
  | .delete => reconciler.delete state

/-- Steps that lead from the empty state to a state, the last first. -/
inductive Reaches (reconciler : Reconciler) : List Step → ClusterState → Prop
  | start : Reaches reconciler [] .empty
  | next {steps : List Step} {state after : ClusterState} {call : Call} {events : Events}
      {result : Except ReconcileError Unit} :
      Reaches reconciler steps state →
      (reconciler.perform call state).Yields events (some (result, after)) →
      Reaches reconciler (⟨call, events, result, after⟩ :: steps) after

/-- The call ended with reading the live state. -/
def Stores (reconciler : Reconciler) (call : Call) (events : Events)
    (live : Spec) : Prop :=
  ∃ desired target report before, call.desired? = some desired ∧
    reconciler.target desired = .ok target ∧ report.reflectOnto desired = .ok live ∧
    events = before ++ [.answered (.getCluster target) (.ok report)]

/-- What a call may do to the live state. -/
inductive Effect (reconciler : Reconciler) (call : Call) (state : ClusterState)
    (events : Events) : Outcome → Prop
  | emptied {result : Except ReconcileError Unit} {after : ClusterState}
      (gone : after.live = none) : Effect reconciler call state events (result, after)
  | left {error : ReconcileError} {after : ClusterState} (same : after.live = state.live) :
      Effect reconciler call state events (.error error, after)
  | stored {live : Spec} {after : ClusterState} (stores : reconciler.Stores call events live)
      (inState : after.live = some live) : Effect reconciler call state events (.ok (), after)

theorem refresh_effect {desired : Spec} {prior : ClusterState} {outcome : Outcome}
    (trace : (reconciler.refresh desired prior).Yields events (some outcome))
    (before : Events)
    (asked : call.desired? = some desired) (sameLive : prior.live = state.live) :
    Effect reconciler call state (before ++ events) outcome := by
  rcases refresh_yields_iff.mp trace with
    ⟨error, -, rfl, ending⟩ | ⟨target, answer, found, rfl, ending⟩
  · obtain rfl := Option.some.inj ending
    exact .left sameLive
  · obtain rfl := Option.some.inj ending
    cases answer with
    | error error =>
        cases error with
        | notFound resource => exact .emptied rfl
        | rateLimited message => exact .left sameLive
        | rejected code message => exact .left sameLive
    | ok report =>
        cases reflected : report.reflectOnto desired with
        | error error =>
            simp only [afterRead, reflected]
            exact .left sameLive
        | ok live =>
            simp only [afterRead, reflected]
            exact .stored ⟨desired, target, report, before, asked, found, reflected, rfl⟩ rfl

theorem perform_effect {outcome : Outcome}
    (trace : (reconciler.perform call state).Yields events (some outcome)) :
    Effect reconciler call state events outcome := by
  cases call with
  | create desired =>
      cases create_trace trace with
      | refused => exact .left rfl
      | notAccepted => exact .left rfl
      | notFinished => exact .left rfl
      | @created _ _ _ before after last _ _ _ _ read =>
          rw [← List.append_assoc]
          exact refresh_effect read _ rfl rfl
  | read desired => exact refresh_effect trace [] rfl rfl
  | update desired =>
      cases update_trace trace with
      | notCreated => exact .left rfl
      | refused => exact .left rfl
      | unchanged _ _ _ read => exact refresh_effect read [] rfl rfl
      | nowhere => exact .left rfl
      | notFinished => exact .left rfl
      | patched _ _ _ _ _ read => exact refresh_effect read _ rfl rfl
  | delete =>
      cases delete_trace trace with
      | nothing noLive => exact .emptied noLive
      | neverRead => exact .left rfl
      | nowhere => exact .left rfl
      | bucketKept => exact .left rfl
      | notFinished => exact .left rfl
      | deleted => exact .emptied rfl

/-- There is a live state if and only if a step is recorded as its source, and then it was stored in
that step. -/
theorem Reaches.recorded {steps : List Step} (reached : reconciler.Reaches steps state) :
    (recording steps = none ∧ state.live = none) ∨
    ∃ step earlier live, recording steps = some (step, earlier) ∧ state.live = some live ∧
      reconciler.Stores step.call step.events live := by
  induction reached with
  | start => exact .inl ⟨rfl, rfl⟩
  | @next steps state after call events result reached trace ih =>
      cases perform_effect trace with
      | emptied gone => exact .inl ⟨by simp only [recording, gone], gone⟩
      | @left error after same =>
          -- a failure keeps the live state and also the step that it came from
          rcases ih with ⟨unrecorded, noLive⟩ | ⟨step, earlier, live, recorded, isLive, stores⟩
          · have gone : after.live = none := same.trans noLive
            exact .inl ⟨by simp only [recording, gone], gone⟩
          · have kept : after.live = some live := same.trans isLive
            exact .inr ⟨step, earlier, live, by simp only [recording, kept, recorded], kept, stores⟩
      | stored stores inState =>
          exact .inr ⟨⟨call, events, .ok (), after⟩, steps, _, by simp only [recording, inState],
            inState, stores⟩

theorem recording_suffix {steps earlier : List Step} {step : Step}
    (recorded : recording steps = some (step, earlier)) : step :: earlier <:+ steps := by
  induction steps with
  | nil => cases recorded
  | cons head rest ih =>
      unfold recording at recorded
      split at recorded
      · cases recorded
      · cases recorded
        exact List.suffix_rfl
      · exact (ih recorded).trans (List.suffix_cons head rest)

theorem history_append (later earlier : List Step) :
    history (later ++ earlier) = history earlier ++ history later := by
  induction later with
  | nil => simp [history]
  | cons step later ih => simp [history, ih]

end Reconciler

end ManagedCluster
