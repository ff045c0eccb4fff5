import ManagedCluster.Proofs.Reconcile.Creation
import ManagedCluster.Proofs.Reconcile.History
import ManagedCluster.Proofs.Reflection.WriteOnly

/-! # Identity and live state agree

Over any calls in a row the identity in a state and the live state are of the same cluster, and the
live state has what no report says from the spec that it was read for. An identity without a live
state is that of a cluster that came up and was never read.
-/

namespace ManagedCluster

/-- A cluster that is reported has the name that was asked for. -/
def ReportsNames (events : Events) : Prop :=
  ∀ target report, .answered (.getCluster target) (.ok report) ∈ events →
    report.clusterName = target.name

theorem reportsNames_append_iff {before after : Events} :
    ReportsNames (before ++ after) ↔ ReportsNames before ∧ ReportsNames after := by
  simp only [ReportsNames, List.mem_append, or_imp, forall_and]

namespace Reconciler

variable {reconciler : Reconciler} {call : Call} {steps : List Step} {state : ClusterState}
  {events : Events}

/-- The state after some steps, of which the last comes first. -/
def stateAfter : List Step → ClusterState
  | [] => .empty
  | step :: _ => step.after

/-- No cluster is created while one is live. -/
def CreatesAnew : List Step → Prop
  | [] => True
  | step :: earlier =>
    (∀ desired, step.call = .create desired → (stateAfter earlier).live = none) ∧
      CreatesAnew earlier

/-- The last steps are a creation of a cluster that came up and could not be read, and then calls
that changed nothing. -/
def LeftUnread (reconciler : Reconciler) (steps : List Step) (name : String) : Prop :=
  ∃ later step earlier desired, steps = later ++ step :: earlier ∧
    step.call = .create desired ∧ desired.name = name ∧
    reconciler.EndsAs desired (stateAfter earlier) step.events (step.result, step.after) .notRead ∧
    ∀ after ∈ later, after.after = step.after

/-- What a call may do to the state. -/
inductive Change (reconciler : Reconciler) (call : Call) (state : ClusterState) (events : Events) :
    Outcome → Prop
  | kept {result : Except ReconcileError Unit} :
      Change reconciler call state events (result, state)
  | emptied {result : Except ReconcileError Unit} :
      Change reconciler call state events (result, .empty)
  | stored {desired : Spec} {target : ClusterRef} {report : Report} {live : Spec} {before : Events}
      (asked : call.desired? = some desired) (found : reconciler.target desired = .ok target)
      (reflected : report.reflectOnto desired = .ok live)
      (ends : events = before ++ [.answered (.getCluster target) (.ok report)]) :
      Change reconciler call state events (.ok (), ⟨some desired.name, some live⟩)
  | unread {desired : Spec} {error : ReconcileError} (creates : call = .create desired)
      (ends : reconciler.EndsAs desired state events (.error error, ⟨some desired.name, none⟩)
        .notRead) :
      Change reconciler call state events (.error error, ⟨some desired.name, none⟩)

theorem refresh_change {desired : Spec} {outcome : Outcome} (before : Events)
    (asked : call.desired? = some desired)
    (trace : (reconciler.refresh desired state).Yields events (some outcome)) :
    Change reconciler call state (before ++ events) outcome := by
  cases refresh_trace trace with
  | nowhere => exact .kept
  | gone => exact .emptied
  | failed => exact .kept
  | stored found reflected => exact .stored asked found reflected rfl

theorem create_change {desired : Spec} {outcome : Outcome} (anew : state.live = none)
    (trace : (reconciler.create desired state).Yields events (some outcome)) :
    Change reconciler (.create desired) state events outcome := by
  obtain ⟨ending, ends⟩ := exists_endsAs trace
  cases ending with
  | refused =>
      obtain ⟨error, -, -, rfl⟩ := ends
      exact .kept
  | notAccepted =>
      obtain ⟨payload, error, -, -, -, rfl⟩ := ends
      exact .kept
  | notFinished =>
      obtain ⟨payload, operation, error, before, after, -, -, -, -, -, -, rfl⟩ := ends
      rw [anew]
      exact .emptied
  | notRead =>
      have same := ends
      obtain ⟨before, target, answer, error, -, -, -, -, rfl⟩ := same
      rw [anew] at ends ⊢
      exact .unread rfl ends
  | gone =>
      obtain ⟨before, target, resource, -, -, -, rfl⟩ := ends
      exact .emptied
  | created =>
      obtain ⟨before, target, report, live, -, found, split, reflected, rfl⟩ := ends
      exact .stored rfl found reflected split

theorem perform_change {outcome : Outcome}
    (anew : ∀ desired, call = .create desired → state.live = none)
    (trace : (reconciler.perform call state).Yields events (some outcome)) :
    Change reconciler call state events outcome := by
  cases call with
  | create desired => exact create_change (anew desired rfl) trace
  | read desired => exact refresh_change [] rfl trace
  | update desired =>
      cases update_trace trace with
      | notCreated => exact .kept
      | refused => exact .kept
      | unchanged _ _ _ read => exact refresh_change [] rfl read
      | nowhere => exact .kept
      | notFinished => exact .kept
      | patched _ _ _ _ _ read => exact refresh_change _ rfl read
  | delete =>
      obtain ⟨result, after⟩ := outcome
      obtain ⟨failed, deleted⟩ := delete_state trace
      cases result with
      | error error =>
          rw [failed error rfl]
          exact .kept
      | ok done =>
          rw [deleted rfl]
          exact .emptied

theorem Reaches.stateAfter_eq (reached : reconciler.Reaches steps state) :
    stateAfter steps = state := by
  cases reached with
  | start => rfl
  | next => rfl

/-- A live state that is stored has the name that it is stored under. -/
theorem name_of_stored {desired live : Spec} {target : ClusterRef} {report : Report}
    {before : Events} (found : reconciler.target desired = .ok target)
    (reflected : report.reflectOnto desired = .ok live)
    (names : ReportsNames (before ++ [.answered (.getCluster target) (.ok report)])) :
    live.name = desired.name := by
  obtain ⟨actions, -, rfl⟩ := Report.reflectOnto_eq_ok_iff.mp reflected
  obtain ⟨-, -, sameName⟩ := target_eq_ok_iff.mp found
  have named : report.clusterName = target.name := names target report (by simp)
  calc (desired.carry (report.reflectWith actions)).name = report.clusterName := rfl
    _ = target.name := named
    _ = desired.name := sameName

/-- A live state has the identity of its cluster. -/
theorem Reaches.id_of_live (reached : reconciler.Reaches steps state) (anew : CreatesAnew steps)
    (names : ReportsNames (history steps)) :
    ∀ live, state.live = some live → state.id = some live.name := by
  induction reached with
  | start =>
      intro live isLive
      cases isLive
  | @next steps state after call events result reached trace ih =>
      obtain ⟨whenCreating, anew⟩ := anew
      obtain ⟨earlier, last⟩ := reportsNames_append_iff.mp names
      rw [reached.stateAfter_eq] at whenCreating
      cases perform_change whenCreating trace with
      | kept => exact ih anew earlier
      | emptied =>
          intro live isLive
          cases isLive
      | stored asked found reflected split =>
          intro live isLive
          cases isLive
          rw [name_of_stored found reflected (split ▸ last)]
      | unread =>
          intro live isLive
          cases isLive

/-- An identity without a live state is left by a creation whose reading failed. -/
theorem Reaches.leftUnread (reached : reconciler.Reaches steps state) (anew : CreatesAnew steps)
    {name : String} (known : state.id = some name) (noLive : state.live = none) :
    reconciler.LeftUnread steps name := by
  induction reached with
  | start => cases known
  | @next steps state after call events result reached trace ih =>
      obtain ⟨whenCreating, anew⟩ := anew
      rw [reached.stateAfter_eq] at whenCreating
      cases perform_change whenCreating trace with
      | kept =>
          obtain ⟨later, step, earlier, desired, rfl, creates, named, ends, same⟩ :=
            ih anew known noLive
          refine ⟨_ :: later, step, earlier, desired, rfl, creates, named, ends, ?_⟩
          intro next member
          rcases List.mem_cons.mp member with rfl | member
          · rw [← reached.stateAfter_eq]
            cases later with
            | nil => rfl
            | cons last later => exact same last List.mem_cons_self
          · exact same next member
      | emptied => cases known
      | stored => cases noLive
      | unread creates ends =>
          cases known
          refine ⟨[], _, steps, _, rfl, creates, rfl, ?_,
            List.forall_mem_nil _⟩
          rw [reached.stateAfter_eq]
          exact ends

/-- The identity of such a creation is all that there is in the state. -/
theorem Reaches.of_leftUnread (reached : reconciler.Reaches steps state) (anew : CreatesAnew steps)
    {name : String} (unread : reconciler.LeftUnread steps name) : state = ⟨some name, none⟩ := by
  obtain ⟨later, step, earlier, desired, rfl, creates, rfl, ends, same⟩ := unread
  have creating : CreatesAnew (step :: earlier) := by
    clear reached same
    induction later with
    | nil => exact anew
    | cons _ later ih => exact ih anew.2
  obtain ⟨_, _, _, _, -, -, -, -, outcome⟩ := ends
  have left : step.after = ⟨some desired.name, none⟩ := by
    rw [(Prod.mk.inj outcome).2, creating.1 desired creates]
  rw [← left, ← reached.stateAfter_eq]
  cases later with
  | nil => rfl
  | cons last later => exact same last List.mem_cons_self

/-- A deletion only fails for a missing live state if there is an identity without one. -/
theorem delete_missingLiveState_iff {name : String} :
    (∃ events after, (reconciler.delete state).Yields events
      (some (.error (.missingLiveState name), after))) ↔ state = ⟨some name, none⟩ := by
  constructor
  · rintro ⟨events, after, trace⟩
    generalize ending : (Except.error (ReconcileError.missingLiveState name), after) = outcome
      at trace
    cases delete_trace trace with
    | nothing => cases ending
    | neverRead noLive known =>
        cases ending
        obtain ⟨id, live⟩ := state
        cases noLive
        cases known
        rfl
    | nowhere recorded noTarget =>
        cases ending
        unfold target at noTarget
        split at noTarget <;> cases noTarget
    | bucketKept recorded found removed =>
        cases ending
        unfold removeBucket at removed
        split at removed
        · cases removed
        · obtain ⟨answer, _, _, -, ends, -⟩ := Program.yields_bind_some removed
          cases answer <;> cases ends
    | notFinished => cases ending
    | deleted => cases ending
  · rintro rfl
    exact ⟨[], _, .done⟩

/-- Whatever calls are made and whatever is answered, a live state has the identity of its cluster
and what no report says from the spec of the call that stored it. A deletion misses a live state
exactly if a creation left one unread. -/
theorem state_coherent (reached : reconciler.Reaches steps state) (anew : CreatesAnew steps)
    (names : ReportsNames (history steps)) :
    (∀ live, state.live = some live → state.id = some live.name ∧
      ∃ step earlier desired, recording steps = some (step, earlier) ∧
        step.call.desired? = some desired ∧ live.writeOnly = desired.writeOnly) ∧
    ∀ name, (∃ events after, (reconciler.delete state).Yields events
        (some (.error (.missingLiveState name), after))) ↔
      reconciler.LeftUnread steps name := by
  constructor
  · intro live isLive
    refine ⟨reached.id_of_live anew names live isLive, ?_⟩
    rcases reached.recorded with ⟨-, noLive⟩ | ⟨step, earlier, stored, recorded, isStored, stores⟩
    · cases noLive.symm.trans isLive
    · cases isStored.symm.trans isLive
      obtain ⟨desired, target, report, before, asked, -, reflected, -⟩ := stores
      obtain ⟨actions, -, rfl⟩ := Report.reflectOnto_eq_ok_iff.mp reflected
      exact ⟨step, earlier, desired, recorded, asked, Spec.writeOnly_carry⟩
  · intro name
    rw [delete_missingLiveState_iff]
    constructor
    · rintro rfl
      exact reached.leftUnread anew rfl rfl
    · exact reached.of_leftUnread anew

/-- The cluster comes up and is not read. -/
def unreadStep : Step where
  call := .create bare
  events := [
    .answered (.createCluster "analytics" "europe-west1" barePayload)
      (.ok { name := "op", done := true }),
    .clockRead 0,
    .clockRead 0,
    .answered (.getCluster ⟨"analytics", "europe-west1", "etl"⟩)
      (.error (.rateLimited "slow down"))]
  result := .error (.read "etl" (.rateLimited "slow down"))
  after := ⟨some "etl", none⟩

/-- The cluster is read later. -/
def rereadStep : Step where
  call := .read bare
  events := [.answered (.getCluster ⟨"analytics", "europe-west1", "etl"⟩) (.ok barePayload)]
  result := .ok ()
  after := ⟨some "etl", some bare⟩

theorem reaches_unreadStep : usual.Reaches [unreadStep] ⟨some "etl", none⟩ := by
  refine .next .start ?_
  unfold perform create
  simp only [show usual.options.defaultProject = none from rfl, payload_bare]
  exact .send _ (.readClock 0 (.readClock 0 (.send _ .done)))

theorem reaches_rereadStep :
    usual.Reaches [rereadStep, unreadStep] ⟨some "etl", some bare⟩ :=
  .next reaches_unreadStep (.send _ .done)

theorem createsAnew_rereadStep : CreatesAnew [rereadStep, unreadStep] := by
  refine ⟨?_, fun _ _ => rfl, trivial⟩
  intro desired creates
  unfold rereadStep at creates
  cases creates

theorem reportsNames_rereadStep : ReportsNames (history [rereadStep, unreadStep]) := by
  intro target report reported
  simp only [history, rereadStep, unreadStep, List.nil_append, List.cons_append,
    List.mem_cons, List.not_mem_nil, or_false, reduceCtorEq, false_or] at reported
  rcases reported with created | read | reread
  · cases created
  · cases read
  · cases reread
    rfl

/-- A deletion after the first step misses the live state that the second step stores. -/
theorem state_coherent_rereadStep :
    usual.Reaches [rereadStep, unreadStep] ⟨some "etl", some bare⟩ ∧
      usual.LeftUnread [unreadStep] "etl" ∧ some "etl" = some bare.name := by
  refine ⟨reaches_rereadStep, ?_, ?_⟩
  · have names := (reportsNames_append_iff.mp reportsNames_rereadStep).1
    obtain ⟨-, missing⟩ := state_coherent reaches_unreadStep createsAnew_rereadStep.2 names
    exact (missing "etl").mp ⟨[], _, .done⟩
  · obtain ⟨coherent, -⟩ :=
      state_coherent reaches_rereadStep createsAnew_rereadStep reportsNames_rereadStep
    exact (coherent bare rfl).1

end Reconciler

end ManagedCluster
