import ManagedCluster.Proofs.Reconcile.History
import ManagedCluster.Proofs.Reconcile.Targets

/-! # Which buckets a cluster takes with it

A deletion removes the bucket of a live cluster if the spec that was last read for it asks to and
names no staging bucket of its own. What the cluster was created with does not matter then: a
supplied bucket is removed like a generated one.
-/

namespace ManagedCluster

/-- The bucket of a cluster. -/
def Report.bucket? (report : Report) : Option String := report.config.bind (·.configBucket)

/-- The spec asks to delete a generated bucket and supplies none. -/
def Spec.removesBucket (spec : Spec) : Bool :=
  spec.config.any fun config => config.deleteAutogenBucket && config.stagingBucket.isNone

theorem Spec.generatedBucket_of_reflectOnto {report : Report} {desired live : Spec}
    (reflected : report.reflectOnto desired = .ok live) :
    live.generatedBucket? =
      if desired.removesBucket then report.bucket?.filter (!·.isEmpty) else none := by
  obtain ⟨actions, -, rfl⟩ := Report.reflectOnto_eq_ok_iff.mp reflected
  obtain ⟨name, project, region, labels, config⟩ := desired
  cases config with
  | none => cases inReport : report.config <;>
      simp [Spec.generatedBucket?, Spec.removesBucket, Spec.carry, Report.reflectWith, inReport,
        Report.Config.reflectWith]
  | some config => cases inReport : report.config <;>
      simp [Spec.generatedBucket?, Spec.removesBucket, Spec.carry, Spec.carryConfig,
        Report.reflectWith, inReport, Report.Config.reflectWith, Report.bucket?]

/-- The cluster that was last created at the target, after one more event. -/
def noteCreation (target : ClusterRef) (known : Option Report) :
    Event Request Request.Answer → Option Report
  | .answered (.createCluster project region cluster) (.ok _) =>
    if target = ⟨project, region, cluster.clusterName⟩ then some cluster else known
  | _ => known

/-- The payload of the last creation that was accepted for the target. -/
def lastCreated (target : ClusterRef) (events : Events) :
    Option Report :=
  events.foldl (noteCreation target) none

/-- A cluster that was created with a bucket is reported with that bucket. -/
def ReportsBuckets (events : Events) : Prop :=
  ∀ before target report after,
    events = before ++ .answered (.getCluster target) (.ok report) :: after →
    ∀ payload bucket, lastCreated target before = some payload →
      payload.bucket? = some bucket → report.bucket? = some bucket

namespace Reconciler

variable {reconciler : Reconciler} {state : ClusterState}

/-- The live state was stored for the spec, and its cluster was created with the bucket. -/
def RecordedWith (reconciler : Reconciler) (steps : List Step) (desired : Spec) (bucket : String) :
    Prop :=
  ∃ step earlier target payload, recording steps = some (step, earlier) ∧
    step.call.desired? = some desired ∧ reconciler.target desired = .ok target ∧
    lastCreated target (history (step :: earlier)) = some payload ∧
    payload.bucket? = some bucket

theorem target_of_reflectOnto {desired live : Spec} {report : Report} {target : ClusterRef}
    (found : reconciler.target desired = .ok target)
    (reflected : report.reflectOnto desired = .ok live) :
    ∃ recorded, reconciler.target live = .ok recorded := by
  obtain ⟨actions, -, rfl⟩ := Report.reflectOnto_eq_ok_iff.mp reflected
  obtain ⟨resolved, -, -⟩ := target_eq_ok_iff.mp found
  obtain ⟨chosen, nonempty⟩ := Spec.projectOr_eq_ok_iff.mp resolved
  by_cases unreported : report.projectId = ""
  · refine ⟨⟨target.project, _, _⟩, target_eq_ok_iff.mpr ⟨?_, rfl, rfl⟩⟩
    refine Spec.projectOr_eq_ok_iff.mpr ⟨?_, nonempty⟩
    simpa [Spec.carry, Report.reflectWith, unreported] using chosen
  · refine ⟨⟨report.projectId, _, _⟩, target_eq_ok_iff.mpr ⟨?_, rfl, rfl⟩⟩
    refine Spec.projectOr_eq_ok_iff.mpr ⟨?_, unreported⟩
    simp [Spec.carry, Report.reflectWith, unreported]

theorem lastCreated_append_getCluster (target other : ClusterRef) (answer : Except ApiError Report)
    (events : Events) :
    lastCreated target (events ++ [.answered (.getCluster other) answer]) =
      lastCreated target events := by
  simp [lastCreated, noteCreation]

/-- What a deletion does to the bucket that a cluster was created with. -/
theorem generatedBucket_of_recordedWith {steps : List Step} {desired : Spec} {bucket : String}
    (reached : reconciler.Reaches steps state) (reports : ReportsBuckets (history steps))
    (recorded : reconciler.RecordedWith steps desired bucket) :
    ∃ live target, state.live = some live ∧ reconciler.target live = .ok target ∧
      live.generatedBucket? =
        if desired.removesBucket then (some bucket).filter (!·.isEmpty) else none := by
  obtain ⟨step, earlier, target, payload, found, asked, resolved, created, supplied⟩ := recorded
  rcases reached.recorded with ⟨unrecorded, -⟩ | ⟨_, _, live, same, isLive, stores⟩
  · cases unrecorded.symm.trans found
  · cases found.symm.trans same
    obtain ⟨_, _, report, before, askedThen, resolvedThen, reflected, split⟩ := stores
    cases asked.symm.trans askedThen
    cases resolved.symm.trans resolvedThen
    obtain ⟨later, rfl⟩ := recording_suffix found
    -- the recording step ends with the reading that the provider's promise is about
    have inHistory : history (later ++ step :: earlier) =
        (history earlier ++ before) ++ .answered (.getCluster target) (.ok report) ::
          history later := by
      simp [history_append, history, split]
    have createdBefore : lastCreated target (history earlier ++ before) = some payload := by
      rw [history, split, ← List.append_assoc, lastCreated_append_getCluster] at created
      exact created
    have reported := reports _ _ _ _ inHistory payload bucket createdBefore supplied
    obtain ⟨liveTarget, leads⟩ := target_of_reflectOnto resolved reflected
    refine ⟨live, liveTarget, isLive, leads, ?_⟩
    rw [Spec.generatedBucket_of_reflectOnto reflected, reported]

theorem listObjects_of_delete {live : Spec} {target : ClusterRef} {bucket : String}
    {events : Events} {out : Option Outcome}
    (recorded : state.live = some live) (found : reconciler.target live = .ok target)
    (generated : live.generatedBucket? = some bucket)
    (trace : (reconciler.delete state).Yields events out) :
    Program.Sent events (.listObjects bucket) := by
  have listed (events out) (trace : (reconciler.removeBucket live).Yields events out) :
      Program.Sent events (.listObjects bucket) := by
    unfold removeBucket at trace
    simp only [generated] at trace
    rcases Program.yields_bind_iff.mp trace with ⟨cut, -⟩ | ⟨_, before, after, removed, -, rfl⟩
    · exact Bucket.sent_of_remove cut
    · exact Program.sent_append_iff.mpr (.inl (Bucket.sent_of_remove removed))
  unfold delete at trace
  simp only [recorded, found] at trace
  rcases Program.yields_bind_iff.mp trace with ⟨cut, -⟩ | ⟨_, before, after, removed, -, rfl⟩
  · exact listed _ _ cut
  · exact Program.sent_append_iff.mpr (.inl (listed _ _ removed))

/-- Only a deletion has to do with buckets, and only with the one that it removes. -/
theorem generatedBucket_of_sent {call : Call} {bucket : String} {request : Request}
    {events : Events} {out : Option Outcome}
    (trace : (reconciler.perform call state).Yields events out)
    (sent : Program.Sent events request) (about : request.bucket? = some bucket) :
    call = .delete ∧ ∃ live, state.live = some live ∧ live.generatedBucket? = some bucket := by
  have unconcerned {program : Session Outcome}
      (sends : program.OnlySends (·.bucket? = none)) (trace : program.Yields events out) :
      False := by
    have noBucket : request.bucket? = none := sends _ _ trace request sent
    cases about.symm.trans noBucket
  cases call with
  | create desired =>
      exact (unconcerned (onlySends_create (fun _ _ _ => rfl) (fun _ => rfl) (fun _ _ => rfl))
        trace).elim
  | read desired => exact (unconcerned (onlySends_refresh fun _ _ => rfl) trace).elim
  | update desired =>
      exact (unconcerned (onlySends_update (fun _ _ _ _ => rfl) (fun _ => rfl) (fun _ _ => rfl))
        trace).elim
  | delete =>
      have concerned : (reconciler.delete state).OnlySends fun request =>
          ∀ bucket, request.bucket? = some bucket →
            ∃ live, state.live = some live ∧ live.generatedBucket? = some bucket := by
        refine onlySends_delete ?_ ?_ ?_
        · intro live target _ _ bucket none
          cases none
        · intro name bucket none
          cases none
        · intro live generated request recorded removes is other same
          cases is.symm.trans same
          exact ⟨live, recorded, removes⟩
      exact ⟨rfl, concerned _ _ trace request sent bucket about⟩

/-- A bucket that a cluster was created with is only touched by a deletion, and exactly if the spec
that the live state was last read for asks to remove a generated bucket and supplies none. -/
theorem bucket_sent_iff {steps : List Step} {desired : Spec} {bucket : String} {call : Call}
    {events : Events} {out : Option Outcome}
    (reached : reconciler.Reaches steps state) (reports : ReportsBuckets (history steps))
    (recorded : reconciler.RecordedWith steps desired bucket)
    (trace : (reconciler.perform call state).Yields events out) :
    (∃ request, Program.Sent events request ∧ request.bucket? = some bucket) ↔
      call = .delete ∧ desired.removesBucket = true ∧ bucket ≠ "" := by
  obtain ⟨live, target, isLive, leads, generated⟩ :=
    generatedBucket_of_recordedWith reached reports recorded
  have removes : live.generatedBucket? = some bucket ↔
      desired.removesBucket = true ∧ bucket ≠ "" := by
    rw [generated]
    cases desired.removesBucket <;> simp [Option.filter_eq_some_iff]
  constructor
  · intro touched
    obtain ⟨request, sent, about⟩ := touched
    obtain ⟨isDelete, other, isOther, generated⟩ := generatedBucket_of_sent trace sent about
    cases isLive.symm.trans isOther
    exact ⟨isDelete, removes.mp generated⟩
  · intro removed
    obtain ⟨rfl, removed⟩ := removed
    exact ⟨.listObjects bucket, listObjects_of_delete isLive leads (removes.mpr removed) trace, rfl⟩

/-- A reconciler whose clusters are in one project. -/
def inAnalytics : Reconciler where
  options := { (default : Options) with defaultProject := some "analytics" }
  timeouts := .standard
  patience := 1

/-- A cluster with a bucket of the user. -/
def supplying : Spec where
  name := "etl"
  region := "europe-west1"
  config := some { stagingBucket := some "etl-data" }

/-- The same cluster, without a word about the bucket of the user. -/
def forgetting : Spec where
  name := "etl"
  region := "europe-west1"
  config := some { deleteAutogenBucket := true }

def etlReport : Report where
  clusterName := "etl"
  projectId := "analytics"
  config := some { configBucket := some "etl-data" }

def etlTarget : ClusterRef := ⟨"analytics", "europe-west1", "etl"⟩

/-- The cluster as it is read after its creation. -/
def suppliedLive : Spec where
  name := "etl"
  project := some "analytics"
  region := "europe-west1"
  config := some { stagingBucket := some "etl-data", bucket := some "etl-data" }

/-- The cluster as it is read after the update. -/
def forgottenLive : Spec where
  name := "etl"
  project := some "analytics"
  region := "europe-west1"
  config := some { deleteAutogenBucket := true, bucket := some "etl-data" }

/-- The steps that create the cluster and then update it. -/
def etlSteps : List Step := [
  { call := .update forgetting
    events := [.answered (.getCluster etlTarget) (.ok etlReport)]
    result := .ok ()
    after := ⟨some "etl", some forgottenLive⟩ },
  { call := .create supplying
    events := [
      .answered (.createCluster "analytics" "europe-west1" etlReport)
        (.ok { name := "op-1", done := true }),
      .clockRead 0,
      .clockRead 0,
      .answered (.getCluster etlTarget) (.ok etlReport)]
    result := .ok ()
    after := ⟨some "etl", some suppliedLive⟩ }]

theorem payload_supplying : supplying.payload (some "analytics") = .ok etlReport :=
  Spec.payload_eq_ok_iff.mpr ⟨by decide +kernel, "analytics", by decide +kernel, rfl⟩

theorem reaches_etlSteps :
    inAnalytics.Reaches etlSteps ⟨some "etl", some forgottenLive⟩ := by
  refine .next (.next .start ?_) ?_
  · unfold perform create
    simp only [show inAnalytics.options.defaultProject = some "analytics" from rfl,
      payload_supplying]
    exact .send _ (.readClock 0 (.readClock 0 (.send _ .done)))
  · have kept : suppliedLive.replacements forgetting = [] := by decide +kernel
    unfold perform update
    simp only [kept]
    exact .send _ .done

theorem reportsBuckets_etlSteps : ReportsBuckets (history etlSteps) := by
  intro before target report after split payload bucket created supplied
  have first : report = etlReport ∧ payload = etlReport := by
    rcases before with _ | ⟨_, _ | ⟨_, _ | ⟨_, _ | ⟨_, _ | ⟨_, _⟩⟩⟩⟩⟩
    · cases split
    · cases split
    · cases split
    · cases split
      exact ⟨rfl, (Option.some.inj created).symm⟩
    · cases split
      exact ⟨rfl, (Option.some.inj created).symm⟩
    · simp [history, etlSteps] at split
  obtain ⟨rfl, rfl⟩ := first
  exact supplied

theorem recordedWith_etlSteps : inAnalytics.RecordedWith etlSteps forgetting "etl-data" :=
  ⟨_, _, etlTarget, etlReport, rfl, rfl, by decide +kernel, by decide +kernel, rfl⟩

/-- The bucket that the cluster was created with is removed after an update left it out. -/
theorem bucket_sent_iff_etlSteps :
    inAnalytics.Reaches etlSteps ⟨some "etl", some forgottenLive⟩ ∧
      ReportsBuckets (history etlSteps) ∧
      inAnalytics.RecordedWith etlSteps forgetting "etl-data" ∧
      ∀ events out,
        (inAnalytics.perform .delete ⟨some "etl", some forgottenLive⟩).Yields events out →
        ∃ request, Program.Sent events request ∧ request.bucket? = some "etl-data" :=
  ⟨reaches_etlSteps, reportsBuckets_etlSteps, recordedWith_etlSteps, fun _ _ trace =>
    (bucket_sent_iff reaches_etlSteps reportsBuckets_etlSteps recordedWith_etlSteps trace).mpr
      ⟨rfl, rfl, by decide⟩⟩

theorem not_forall_bucket_kept :
    ¬ ∀ (reconciler : Reconciler) (steps : List Step) (state : ClusterState) (desired : Spec)
      (bucket : String) (call : Call) (events : Events)
      (out : Option Outcome),
      reconciler.Reaches steps state → ReportsBuckets (history steps) →
      reconciler.RecordedWith steps desired bucket →
      (reconciler.perform call state).Yields events out →
      ∀ request, Program.Sent events request → request.bucket? ≠ some bucket := by
  intro kept
  have found : inAnalytics.target forgottenLive = .ok etlTarget := by decide
  have run := Program.run_yields Rehearsal.world
    (inAnalytics.delete ⟨some "etl", some forgottenLive⟩) {}
  have listed := listObjects_of_delete rfl found (rfl : _ = some "etl-data") run
  exact kept inAnalytics etlSteps _ forgetting "etl-data" .delete _ _ reaches_etlSteps
    reportsBuckets_etlSteps recordedWith_etlSteps run _ listed rfl

end Reconciler

end ManagedCluster
