import ManagedCluster.Proofs.Drift
import ManagedCluster.Proofs.Reconcile.Calls
import ManagedCluster.Proofs.Reflection.Basic
import ManagedCluster.Rehearsal

/-! # Which cluster a call addresses

A deletion addresses the cluster that the state records, an update the one that the desired spec
names. The two agree on the region and the name. They part where the spec names no project and the
recorded cluster is outside of the default one.
-/

namespace ManagedCluster

namespace Reconciler

variable {reconciler : Reconciler} {desired : Spec} {state : ClusterState}
  {allowed : Request → Prop}

theorem onlySends_refresh
    (reads : ∀ target, reconciler.target desired = .ok target → allowed (.getCluster target)) :
    (reconciler.refresh desired state).OnlySends allowed := by
  intro events out trace request sent
  rcases refresh_yields_iff.mp trace with ⟨_, _, rfl, _⟩ | ⟨target, answer, found, rfl, _⟩
  · exact absurd sent Program.not_sent_nil
  · obtain rfl : request = .getCluster target := by simpa using sent
    exact reads target found

theorem onlySends_create
    (creates : ∀ project region cluster, allowed (.createCluster project region cluster))
    (looks : ∀ name, allowed (.getOperation name))
    (reads : ∀ target, reconciler.target desired = .ok target → allowed (.getCluster target)) :
    (reconciler.create desired state).OnlySends allowed := by
  unfold create
  split
  · exact Program.onlySends_done _
  · refine (PollPolicy.onlySends_submit (Program.onlySends_ask (creates _ _ _))).bind ?_
    intro answer
    split
    · exact Program.onlySends_done _
    · refine (PollPolicy.onlySends_wait looks _).bind ?_
      intro waited
      split
      · exact Program.onlySends_done _
      · exact onlySends_refresh reads

theorem onlySends_update
    (patches : ∀ target cluster mask, reconciler.target desired = .ok target →
      allowed (.patchCluster target cluster mask))
    (looks : ∀ name, allowed (.getOperation name))
    (reads : ∀ target, reconciler.target desired = .ok target → allowed (.getCluster target)) :
    (reconciler.update desired state).OnlySends allowed := by
  unfold update
  cases state.live with
  | none => exact Program.onlySends_done _
  | some prior =>
      cases kept : prior.replacements desired with
      | cons first others =>
          simp only [kept]
          exact Program.onlySends_done _
      | nil =>
          simp only [kept]
          cases due : prior.patch? desired with
          | none => exact onlySends_refresh reads
          | some patch =>
              cases found : reconciler.target desired with
              | error error => exact Program.onlySends_done _
              | ok target =>
                  have once : (Session.patchCluster target patch.cluster patch.mask).OnlySends
                      allowed := Program.onlySends_ask (patches _ _ _ found)
                  refine (PollPolicy.onlySends_complete once looks).bind ?_
                  intro answer
                  cases answer with
                  | error error => exact Program.onlySends_done _
                  | ok finished => exact onlySends_refresh reads

theorem onlySends_removeBucket {live : Spec}
    (removes : ∀ bucket request, live.generatedBucket? = some bucket →
      request.bucket? = some bucket → allowed request) :
    (reconciler.removeBucket live).OnlySends allowed := by
  unfold removeBucket
  cases generated : live.generatedBucket? with
  | none => exact Program.onlySends_done _
  | some bucket =>
      have removal := (Bucket.onlySends_remove
        (reconciler.retryPolicy reconciler.options.bucketDeleteAttempts) bucket).mono
        fun request about => removes bucket request generated about
      exact removal.bind fun _ => Program.onlySends_done _

theorem onlySends_delete
    (deletes : ∀ live target, state.live = some live → reconciler.target live = .ok target →
      allowed (.deleteCluster target))
    (looks : ∀ name, allowed (.getOperation name))
    (removes : ∀ live bucket request, state.live = some live →
      live.generatedBucket? = some bucket → request.bucket? = some bucket → allowed request) :
    (reconciler.delete state).OnlySends allowed := by
  unfold delete
  cases recorded : state.live with
  | none => cases state.id <;> exact Program.onlySends_done _
  | some live =>
      cases found : reconciler.target live with
      | error error =>
          simp only [found]
          exact Program.onlySends_done _
      | ok target =>
          simp only [found]
          have cleanup : (reconciler.removeBucket live).OnlySends allowed :=
            onlySends_removeBucket fun bucket request => removes live bucket request recorded
          refine cleanup.bind ?_
          intro removed
          cases removed with
          | error error => exact Program.onlySends_done _
          | ok removedAll =>
              have once : (Session.deleteCluster target).OnlySends allowed :=
                Program.onlySends_ask (deletes live target recorded found)
              refine (PollPolicy.onlySends_complete once looks).bind ?_
              intro answer
              cases answer with
              | error error => exact Program.onlySends_done _
              | ok finished => exact Program.onlySends_done _

/-- The desired spec keeps the recorded cluster but leads to the default project, which is another
one than the recorded. -/
def Diverts (reconciler : Reconciler) (live desired : Spec) : Prop :=
  live.replacements desired = [] ∧ desired.project = none ∧
    ∃ fallback recorded, reconciler.options.defaultProject = some fallback ∧ fallback ≠ "" ∧
      live.project = some recorded ∧ recorded ≠ fallback

theorem identity_of_replacements {live : Spec} (kept : live.replacements desired = []) :
    desired.name = live.name ∧ desired.region = live.region ∧
      Kept Eq desired.project live.project := by
  have same := Spec.replacements_eq_nil_iff.mp kept
  refine ⟨?_, ?_, ?_⟩
  · exact Option.some.inj (Kept.some_eq_iff.mp (Spec.differs_eq_false_iff.mp (same .name)))
  · exact Option.some.inj (Kept.some_eq_iff.mp (Spec.differs_eq_false_iff.mp (same .region)))
  · exact Spec.differs_eq_false_iff.mp (same .project)

theorem target_live_iff {live : Spec} {target : ClusterRef}
    (kept : live.replacements desired = []) (found : reconciler.target desired = .ok target) :
    reconciler.target live = .ok target ↔ ¬ reconciler.Diverts live desired := by
  obtain ⟨sameName, sameRegion, keptProject⟩ := identity_of_replacements kept
  obtain ⟨resolved, region, name⟩ := target_eq_ok_iff.mp found
  obtain ⟨project, nonempty⟩ := Spec.projectOr_eq_ok_iff.mp resolved
  have address : target.region = live.region ∧ target.name = live.name :=
    ⟨region.trans sameRegion, name.trans sameName⟩
  rw [target_eq_ok_iff, Spec.projectOr_eq_ok_iff, and_iff_left address, and_iff_left nonempty]
  cases asked : desired.project with
  | some given =>
      -- a project that is asked for is compared, so the recorded one is the same
      have inLive : live.project = some given := by
        rw [asked] at keptProject
        exact (Kept.some_eq_iff.mp keptProject).symm
      rw [asked, Option.some_or] at project
      simp [Diverts, asked, inLive, project]
  | none =>
      rw [asked, Option.none_or] at project
      cases inLive : live.project with
      | none => simp [Diverts, inLive, project]
      | some recorded => simp [Diverts, asked, inLive, project, kept, nonempty]

theorem update_of_drifted {live : Spec} (recorded : state.live = some live)
    (drifted : live.replacements desired ≠ []) :
    ∃ outcome, reconciler.update desired state = .done outcome := by
  unfold update
  cases changed : live.replacements desired with
  | nil => exact absurd changed drifted
  | cons first others =>
      refine ⟨(.error (.requiresReplacement desired.name (first :: others)), state), ?_⟩
      simp only [recorded, changed, Program.pure_eq_done]

/-- Whatever an update sends about a cluster is about the one that the desired spec names. -/
theorem target_of_sent {live : Spec} {events : Events}
    {out : Option Outcome} {request : Request} {target : ClusterRef}
    (recorded : state.live = some live)
    (trace : (reconciler.update desired state).Yields events out)
    (sent : Program.Sent events request) (about : request.cluster? = some target) :
    live.replacements desired = [] ∧ reconciler.target desired = .ok target := by
  constructor
  · by_contra drifted
    obtain ⟨outcome, nothing⟩ : ∃ outcome, reconciler.update desired state = .done outcome :=
      update_of_drifted recorded drifted
    rw [nothing] at trace
    obtain ⟨rfl, -⟩ := Program.yields_done_iff.mp trace
    exact Program.not_sent_nil sent
  · have addressed : (reconciler.update desired state).OnlySends fun request =>
        ∀ target, request.cluster? = some target → reconciler.target desired = .ok target := by
      refine onlySends_update ?_ ?_ ?_
      · intro target cluster mask found other same
        exact Option.some.inj same ▸ found
      · intro name other same
        cases same
      · intro target found other same
        exact Option.some.inj same ▸ found
    exact addressed _ _ trace request sent target about

/-- An update that may go on and knows its target sends something to it. -/
theorem exists_sent_of_target {live : Spec} {events : Events}
    {out : Option Outcome} {target : ClusterRef} (recorded : state.live = some live)
    (kept : live.replacements desired = []) (found : reconciler.target desired = .ok target)
    (trace : (reconciler.update desired state).Yields events out) :
    ∃ request, Program.Sent events request ∧ request.cluster? = some target := by
  unfold update at trace
  simp only [recorded, kept] at trace
  cases due : live.patch? desired with
  | none =>
      simp only [due, refresh_of_target found] at trace
      obtain ⟨answer, rest, rfl, -⟩ := Program.yields_send_iff.mp trace
      exact ⟨.getCluster target, Program.sent_answered_iff.mpr (.inl rfl), rfl⟩
  | some patch =>
      simp only [due, found] at trace
      have once (events out)
          (trace : (Session.patchCluster target patch.cluster patch.mask).Yields events out) :
          Program.Sent events (.patchCluster target patch.cluster patch.mask) := by
        obtain ⟨answer, rfl, -⟩ := Program.yields_ask_iff.mp trace
        exact Program.sent_answered_iff.mpr (.inl rfl)
      refine ⟨.patchCluster target patch.cluster patch.mask, ?_, rfl⟩
      rcases Program.yields_bind_iff.mp trace with ⟨cut, -⟩ | ⟨_, before, after, applied, -, rfl⟩
      · exact PollPolicy.sent_of_complete once cut
      · exact Program.sent_append_iff.mpr (.inl (PollPolicy.sent_of_complete once applied))

/-- A deletion addresses the recorded cluster and no other. -/
theorem delete_target {live : Spec} {events : Events}
    {out : Option Outcome} {request : Request} {target : ClusterRef}
    (recorded : state.live = some live) (trace : (reconciler.delete state).Yields events out)
    (sent : Program.Sent events request) (about : request.cluster? = some target) :
    reconciler.target live = .ok target := by
  have addressed : (reconciler.delete state).OnlySends fun request =>
      ∀ target, request.cluster? = some target → reconciler.target live = .ok target := by
    refine onlySends_delete ?_ ?_ ?_
    · intro other target isLive found _ same
      obtain rfl : live = other := Option.some.inj (recorded.symm.trans isLive)
      exact Option.some.inj same ▸ found
    · intro name other same
      cases same
    · intro other bucket request _ _ aboutBucket target aboutCluster
      cases request <;> simp [Request.bucket?, Request.cluster?] at aboutBucket aboutCluster
  exact addressed _ _ trace request sent target about

theorem Diverts.target {live : Spec} (diverts : reconciler.Diverts live desired) :
    ∃ fallback, reconciler.options.defaultProject = some fallback ∧
      reconciler.target desired = .ok ⟨fallback, desired.region, desired.name⟩ := by
  obtain ⟨-, unset, fallback, _, isDefault, nonempty, -, -⟩ := diverts
  refine ⟨fallback, isDefault, target_eq_ok_iff.mpr ⟨?_, rfl, rfl⟩⟩
  exact Spec.projectOr_eq_ok_iff.mpr ⟨by rw [unset, Option.none_or, isDefault], nonempty⟩

/-- An update addresses the cluster that a deletion would, unless it diverts to the default project.
Then it addresses the cluster of that name there. -/
theorem update_target_iff {live : Spec} {events : Events}
    {out : Option Outcome} (recorded : state.live = some live)
    (trace : (reconciler.update desired state).Yields events out) :
    ((∀ request target, Program.Sent events request → request.cluster? = some target →
        reconciler.target live = .ok target) ↔ ¬ reconciler.Diverts live desired) ∧
    (∀ request target, Program.Sent events request → request.cluster? = some target →
      target.region = live.region ∧ target.name = live.name ∧
        (reconciler.Diverts live desired →
          some target.project = reconciler.options.defaultProject)) ∧
    (∀ deletion ending, (reconciler.delete state).Yields deletion ending →
      ∀ request target, Program.Sent deletion request → request.cluster? = some target →
        reconciler.target live = .ok target) := by
  refine ⟨⟨?_, ?_⟩, ?_, ?_⟩
  · intro stays diverts
    obtain ⟨fallback, -, found⟩ := diverts.target
    obtain ⟨request, sent, about⟩ := exists_sent_of_target recorded diverts.1 found trace
    exact (target_live_iff diverts.1 found).mp (stays request _ sent about) diverts
  · intro stays request target sent about
    obtain ⟨kept, found⟩ := target_of_sent recorded trace sent about
    exact (target_live_iff kept found).mpr stays
  · intro request target sent about
    obtain ⟨kept, found⟩ := target_of_sent recorded trace sent about
    obtain ⟨sameName, sameRegion, -⟩ := identity_of_replacements kept
    obtain ⟨-, region, name⟩ := target_eq_ok_iff.mp found
    refine ⟨region.trans sameRegion, name.trans sameName, fun diverts => ?_⟩
    obtain ⟨fallback, isDefault, there⟩ := diverts.target
    obtain rfl := Except.ok.inj (there.symm.trans found)
    exact isDefault.symm
  · intro deletion ending deleted request target sent about
    exact delete_target recorded deleted sent about

/-- A reconciler whose default project is a shared one. -/
def inShared : Reconciler where
  options := { (default : Options) with defaultProject := some "shared" }
  timeouts := .standard
  patience := 1

/-- A cluster outside of the shared project. -/
def elsewhere : Spec where
  name := "etl"
  project := some "analytics"
  region := "europe-west1"
  config := some { worker := some { numInstances := some 2 } }

/-- The cluster with one more worker, in no named project. -/
def largerEtl : Spec where
  name := "etl"
  region := "europe-west1"
  config := some { worker := some { numInstances := some 3 } }

/-- The provider finishes the patch at once. -/
def promptly : Rehearsal where
  script := {
    patchCluster := [.ok { name := "op-1", done := true }]
    getCluster := [.ok { clusterName := "etl", projectId := "shared" }] }

theorem largerEtl_diverts : inShared.Diverts elsewhere largerEtl :=
  ⟨by decide +kernel, rfl, "shared", "analytics", rfl, by decide, rfl, by decide⟩

/-- Where an update diverts, a patch goes to a cluster that the state does not record. -/
theorem update_target_iff_largerEtl :
    inShared.Diverts elsewhere largerEtl ∧ ∃ events out,
      (inShared.update largerEtl ⟨some "etl", some elsewhere⟩).Yields events out ∧
      ¬ ∀ request target, Program.Sent events request → request.cluster? = some target →
        inShared.target elsewhere = .ok target :=
  have run := Program.run_yields Rehearsal.world
    (inShared.update largerEtl ⟨some "etl", some elsewhere⟩) promptly
  ⟨largerEtl_diverts, _, _, run, fun stays =>
    (update_target_iff rfl run).1.mp stays largerEtl_diverts⟩

theorem not_forall_update_target_recorded :
    ¬ ∀ (reconciler : Reconciler) (state : ClusterState) (live desired : Spec)
      (events : Events) (out : Option Outcome),
      state.live = some live → (reconciler.update desired state).Yields events out →
      ∀ request target, Program.Sent events request → request.cluster? = some target →
        reconciler.target live = .ok target := by
  intro stays
  have run := Program.run_yields Rehearsal.world
    (inShared.update largerEtl ⟨some "etl", some elsewhere⟩) promptly
  have patched := stays _ _ elsewhere _ _ _ rfl run _ ⟨"shared", "europe-west1", "etl"⟩
    ⟨_, List.Mem.head _⟩ rfl
  exact absurd patched (by decide)

end Reconciler

end ManagedCluster
