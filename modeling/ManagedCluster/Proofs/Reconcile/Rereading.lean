import ManagedCluster.Proofs.Reconcile.Buckets
import ManagedCluster.Proofs.Reconcile.Outcomes
import ManagedCluster.Proofs.Reflection.WriteOnly

/-! # Drift before and after a reading

A reading for a changed spec takes what the provider does not report from that spec. So an update
that follows it no longer sees these changes, although the cluster is the one that it was. It still
sees every other change.
-/

namespace ManagedCluster

namespace Reconciler

variable {reconciler : Reconciler} {given desired live : Spec} {state after : ClusterState}
  {report : Report} {events : Events}

/-- An update is refused only for drift, and then for all of it and before anything is sent. -/
theorem update_requiresReplacement_iff {name : String} {attributes : List Spec.Attribute}
    (recorded : state.live = some live) :
    (reconciler.update desired state).Yields events
        (some (.error (.requiresReplacement name attributes), after)) ↔
      attributes ≠ [] ∧ attributes = live.replacements desired ∧ name = desired.name ∧
        events = [] ∧ after = state := by
  constructor
  · intro trace
    have notRead {prior : ClusterState} {last : Events}
        (read : (reconciler.refresh desired prior).Yields last
          (some (.error (.requiresReplacement name attributes), after))) : False := by
      cases refresh_trace read with
      | nowhere unknown =>
          unfold target at unknown
          split at unknown <;> cases unknown
      | failed _ fails =>
          rcases fails with ⟨_, -, -, same⟩ | ⟨_, _, -, -, same⟩ <;> cases same
    cases update_trace trace with
    | @refused prior first others inState drifted =>
        cases recorded.symm.trans inState
        exact ⟨List.cons_ne_nil first others, drifted.symm, rfl, rfl, rfl⟩
    | nowhere _ _ _ noTarget =>
        unfold target at noTarget
        split at noTarget <;> cases noTarget
    | unchanged _ _ _ read => exact (notRead read).elim
    | patched _ _ _ _ _ read => exact (notRead read).elim
  · rintro ⟨drifted, rfl, rfl, rfl, rfl⟩
    unfold update
    cases changed : live.replacements desired with
    | nil => exact absurd changed drifted
    | cons first others =>
        simp only [recorded, changed]
        exact .done

/-- A call that stored a live state read it for the spec that it was given. -/
theorem stored_of_perform (call : Call) {start : ClusterState} (asked : call.desired? = some given)
    (shown : finalRead? events = some (.ok report))
    (trace : (reconciler.perform call start).Yields events (some (.ok (), state))) :
    ∃ live, report.reflectOnto given = .ok live ∧ state.live = some live := by
  have ending {prior : ClusterState} (before : Events) {last : Events}
      (shown : finalRead? (before ++ last) = some (.ok report))
      (read : (reconciler.refresh given prior).Yields last (some (.ok (), state))) :
      ∃ live, report.reflectOnto given = .ok live ∧ state.live = some live := by
    cases refresh_trace read with
    | gone => simp at shown
    | stored _ reflected =>
        rw [finalRead?_append_getCluster, Option.some.injEq, Except.ok.injEq] at shown
        exact ⟨_, shown ▸ reflected, rfl⟩
  cases call with
  | create desired =>
      cases asked
      cases create_trace trace with
      | created _ _ _ read =>
          rw [← List.append_assoc] at shown
          exact ending _ shown read
  | read desired =>
      cases asked
      exact ending [] shown trace
  | update desired =>
      cases asked
      cases update_trace trace with
      | unchanged _ _ _ read => exact ending [] shown read
      | patched _ _ _ _ _ read => exact ending _ shown read
  | delete => cases asked

/-- If the same report is read again for a changed spec, only the drift of what is reported is left.
Nothing is lost exactly if all that differs between the two specs is reported. -/
theorem replacements_of_reread {call : Call} {start later : ClusterState} {before : Events}
    {fresh : Option Spec} (asked : call.desired? = some given)
    (first : (reconciler.perform call start).Yields before (some (.ok (), state)))
    (shown : finalRead? before = some (.ok report)) (recorded : later.live = state.live)
    (again : (reconciler.read desired later).Yields events (some (.ok fresh, after)))
    (shownAgain : finalRead? events = some (.ok report)) :
    ∃ live reread, later.live = some live ∧ fresh = some reread ∧ after.live = some reread ∧
      reread.replacements desired = (live.replacements desired).filter (·.isReported report) ∧
      (reread.replacements desired = live.replacements desired ↔
        ∀ a ∈ given.replacements desired, a.isReported report = true) ∧
      ∀ attributes,
        (∃ last out, (reconciler.update desired after).Yields last
          (some (.error (.requiresReplacement desired.name attributes), out))) ↔
        attributes ≠ [] ∧ attributes = (live.replacements desired).filter (·.isReported report) := by
  obtain ⟨live, reflected, isLive⟩ := stored_of_perform call asked shown first
  obtain ⟨reread, rereflected, isReread⟩ :=
    stored_of_perform (.read desired) rfl shownAgain (refresh_of_read again)
  obtain ⟨actions, read, rfl⟩ := Report.reflectOnto_eq_ok_iff.mp reflected
  obtain ⟨sameActions, readAgain, rfl⟩ := Report.reflectOnto_eq_ok_iff.mp rereflected
  obtain rfl : actions = sameActions := Except.ok.inj (read.symm.trans readAgain)
  have left : (desired.carry (report.reflectWith actions)).replacements desired =
      ((given.carry (report.reflectWith actions)).replacements desired).filter
        (·.isReported report) := Spec.replacements_carry_self read
  refine ⟨_, _, recorded.trans isLive, (read_returns again).trans isReread, isReread, left, ?_, ?_⟩
  · rw [left]
    exact Spec.filter_replacements_carry_eq_self_iff
  · intro attributes
    simp only [update_requiresReplacement_iff isReread, left, true_and]
    constructor
    · rintro ⟨_, _, drifted, same, -, -⟩
      exact ⟨drifted, same⟩
    · rintro ⟨drifted, same⟩
      exact ⟨[], after, drifted, same, rfl, rfl⟩

/-- The cluster with another bucket of the user. -/
def archiving : Spec where
  name := "etl"
  region := "europe-west1"
  config := some { stagingBucket := some "etl-archive" }

/-- The cluster as it is read for the other bucket, which it does not have. -/
def archivedLive : Spec where
  name := "etl"
  project := some "analytics"
  region := "europe-west1"
  config := some { stagingBucket := some "etl-archive", bucket := some "etl-data" }

/-- The provider reports the cluster as it was created. -/
def etlReading : Events := [.answered (.getCluster etlTarget) (.ok etlReport)]

theorem read_supplying :
    (inAnalytics.perform (.read supplying) .empty).Yields etlReading
      (some (.ok (), ⟨some "etl", some suppliedLive⟩)) :=
  .send _ .done

theorem read_archiving :
    (inAnalytics.read archiving ⟨some "etl", some suppliedLive⟩).Yields etlReading
      (some (.ok (some archivedLive), ⟨some "etl", some archivedLive⟩)) :=
  .send _ .done

/-- The change of the bucket needs a new cluster, and is no longer seen after a reading. -/
theorem replacements_of_reread_archiving :
    (inAnalytics.perform (.read supplying) .empty).Yields etlReading
        (some (.ok (), ⟨some "etl", some suppliedLive⟩)) ∧
      (inAnalytics.read archiving ⟨some "etl", some suppliedLive⟩).Yields etlReading
        (some (.ok (some archivedLive), ⟨some "etl", some archivedLive⟩)) ∧
      suppliedLive.replacements archiving = [.stagingBucket] ∧
      ∀ attributes, ¬ ∃ last out,
        (inAnalytics.update archiving ⟨some "etl", some archivedLive⟩).Yields last
          (some (.error (.requiresReplacement "etl" attributes), out)) := by
  have drifted : suppliedLive.replacements archiving = [.stagingBucket] := by decide +kernel
  refine ⟨read_supplying, read_archiving, drifted, ?_⟩
  intro attributes refused
  obtain ⟨live, reread, isLive, -, -, -, -, left⟩ :=
    replacements_of_reread rfl read_supplying rfl rfl read_archiving rfl
  obtain rfl : suppliedLive = live := Option.some.inj isLive
  obtain ⟨some, none⟩ := (left attributes).mp refused
  rw [drifted] at none
  exact some none

/-- A change that needs a new cluster can be hidden by a reading. -/
theorem not_forall_replacements_survive_reread :
    ¬ ∀ (reconciler : Reconciler) (call : Call) (given desired live reread : Spec)
      (report : Report) (start state after : ClusterState) (before events : Events),
      call.desired? = some given →
      (reconciler.perform call start).Yields before (some (.ok (), state)) →
      finalRead? before = some (.ok report) → state.live = some live →
      reconciler.target desired = reconciler.target given →
      (reconciler.read desired state).Yields events (some (.ok (some reread), after)) →
      finalRead? events = some (.ok report) →
      reread.replacements desired = live.replacements desired := by
  intro survives
  have same := survives inAnalytics (.read supplying) supplying archiving suppliedLive archivedLive
    etlReport .empty _ _ etlReading etlReading rfl read_supplying rfl rfl (by decide +kernel)
    read_archiving rfl
  have hidden : archivedLive.replacements archiving ≠ suppliedLive.replacements archiving := by
    decide +kernel
  exact hidden same

end Reconciler

end ManagedCluster
