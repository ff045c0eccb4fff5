import ManagedCluster.Proofs.Reconcile.Creation
import ManagedCluster.Proofs.Reconcile.Targets
import ManagedCluster.Proofs.Session.Cleanup

/-! # The order of a deletion

A deletion first removes the bucket that goes with the cluster, then asks for the cluster to be
deleted, and then waits. It forgets the cluster only after it was seen to be gone. All that it asks
for is about the cluster that was created.
-/

namespace ManagedCluster

theorem Attempts.eq_concat {policy : RetryPolicy} {request : Request} {attempt count : Nat}
    {events : Events} {answer : request.Answer}
    (attempts : Attempts policy request attempt count events answer) :
    ∃ earlier, events = earlier ++ [.answered request answer] := by
  induction attempts with
  | final answer => exact ⟨[], rfl⟩
  | again message _ ih =>
      obtain ⟨earlier, rfl⟩ := ih
      exact ⟨_ :: _ :: earlier, rfl⟩

namespace Reconciler

variable {reconciler : Reconciler} {live : Spec} {state : ClusterState} {target : ClusterRef}
  {events : Events} {out : Option Outcome}

/-- What a deletion makes of the end of its operation. -/
def afterDeletion (live : Spec) (state : ClusterState) : Except PollError Operation → Outcome
  | .error error => (.error (.delete live.name error), state)
  | .ok _ => (.ok (), .empty)

/-- How the deletion of a live cluster may go on, also without an end. -/
inductive LiveDeletion (reconciler : Reconciler) (live : Spec) (state : ClusterState) :
    Events → Option Outcome → Prop
  | nowhere {error : ReconcileError} (noTarget : reconciler.target live = .error error) :
      LiveDeletion reconciler live state [] (some (.error error, state))
  | bucketKept {target : ClusterRef} {error : ReconcileError} {events : Events}
      (found : reconciler.target live = .ok target)
      (kept : (reconciler.removeBucket live).Yields events (some (.error error))) :
      LiveDeletion reconciler live state events (some (.error error, state))
  | asked {target : ClusterRef} {before after : Events}
      {answer : Option (Except PollError Operation)}
      (found : reconciler.target live = .ok target)
      (removed : (reconciler.removeBucket live).Yields before (some (.ok ())))
      (applied : (reconciler.applyDeletion live target).Yields after answer) :
      LiveDeletion reconciler live state (before ++ after) (answer.map (afterDeletion live state))

theorem not_removeBucket_cutOff : ¬ (reconciler.removeBucket live).Yields events none := by
  intro trace
  unfold removeBucket at trace
  split at trace
  · cases trace
  · rcases Program.yields_bind_iff.mp trace with ⟨cut, -⟩ | ⟨answer, _, _, -, ending, -⟩
    · exact Bucket.not_remove_cutOff cut
    · cases ending

theorem liveDeletion_of_delete (recorded : state.live = some live)
    (trace : (reconciler.delete state).Yields events out) :
    LiveDeletion reconciler live state events out := by
  unfold delete at trace
  simp only [recorded] at trace
  cases found : reconciler.target live with
  | error error =>
      simp only [found] at trace
      obtain ⟨rfl, rfl⟩ := Program.yields_done_iff.mp trace
      exact .nowhere found
  | ok target =>
      simp only [found] at trace
      rcases Program.yields_bind_iff.mp trace with
        ⟨cut, -⟩ | ⟨cleanup, before, rest, removed, trace, rfl⟩
      · exact absurd cut not_removeBucket_cutOff
      · cases cleanup with
        | error error =>
            obtain ⟨rfl, rfl⟩ := Program.yields_done_iff.mp trace
            rw [List.append_nil]
            exact .bucketKept found removed
        | ok done =>
            rcases Program.yields_bind_iff.mp trace with
              ⟨cut, rfl⟩ | ⟨answer, after, last, applied, ending, rfl⟩
            · exact .asked found removed cut
            · cases answer with
              | error error =>
                  obtain ⟨rfl, rfl⟩ := Program.yields_done_iff.mp ending
                  rw [List.append_nil]
                  exact .asked found removed applied
              | ok finished =>
                  obtain ⟨rfl, rfl⟩ := Program.yields_done_iff.mp ending
                  rw [List.append_nil]
                  exact .asked found removed applied

/-- Removing the bucket concerns that bucket only, and leaves nothing of it when it succeeds. -/
theorem removeBucket_sent {result : Option (Except ReconcileError Unit)} {request : Request}
    (trace : (reconciler.removeBucket live).Yields events result)
    (sent : Program.Sent events request) :
    ∃ bucket, live.generatedBucket? = some bucket ∧ request.bucket? = some bucket := by
  have concerned : (reconciler.removeBucket live).OnlySends fun request =>
      ∃ bucket, live.generatedBucket? = some bucket ∧ request.bucket? = some bucket :=
    onlySends_removeBucket fun bucket request generated about => ⟨bucket, generated, about⟩
  exact concerned _ _ trace request sent

theorem not_mem_of_removeBucket {result : Option (Except ReconcileError Unit)}
    {answer : Except ApiError Operation}
    (trace : (reconciler.removeBucket live).Yields events result) :
    .answered (.deleteCluster target) answer ∉ events := by
  intro member
  have sent : Program.Sent events (.deleteCluster target) := ⟨answer, member⟩
  obtain ⟨bucket, -, about⟩ := removeBucket_sent trace sent
  cases about

theorem removed_of_removeBucket {bucket : String} (generated : live.generatedBucket? = some bucket)
    (trace : (reconciler.removeBucket live).Yields events (some (.ok ()))) :
    Bucket.Removed (reconciler.retryPolicy reconciler.options.bucketDeleteAttempts) bucket
      events := by
  unfold removeBucket at trace
  simp only [generated] at trace
  obtain ⟨answer, before, after, removed, ending, rfl⟩ := Program.yields_bind_some trace
  cases answer with
  | error error => cases ending
  | ok done =>
      obtain ⟨rfl, -⟩ := Program.yields_done_iff.mp ending
      rw [List.append_nil]
      exact Bucket.removed_of_remove removed

theorem applyDeletion_sent {result : Option (Except PollError Operation)} {request : Request}
    (trace : (reconciler.applyDeletion live target).Yields events result)
    (sent : Program.Sent events request) :
    request = .deleteCluster target ∨ ∃ name, request = .getOperation name := by
  have sends : (reconciler.applyDeletion live target).OnlySends fun request =>
      request = .deleteCluster target ∨ ∃ name, request = .getOperation name :=
    PollPolicy.onlySends_complete (Program.onlySends_ask (.inl rfl)) fun name => .inr ⟨name, rfl⟩
  exact sends _ _ trace request sent

/-- The deletion was accepted, and the operation that it started was looked at by the name that it
had last, until it was done without an error. -/
def SeenDeleted (target : ClusterRef) (events : Events) : Prop :=
  ∃ before operation last,
    events = before ++ .answered (.deleteCluster target) (.ok operation) :: last ∧
    (lastSeen operation last).Succeeded ∧
    ∀ between name answer rest,
      last = between ++ .answered (.getOperation name) answer :: rest →
      name = (lastSeen operation between).name

theorem seenDeleted_of_applyDeletion {finished : Operation}
    (trace : (reconciler.applyDeletion live target).Yields events (some (.ok finished))) :
    SeenDeleted target events := by
  obtain ⟨answer, before, after, submitted, trace, rfl⟩ := Program.yields_bind_some trace
  obtain ⟨given, tries, same⟩ := submit_trace submitted
  obtain ⟨count, -, attempts, -⟩ := attempts_of_retry tries
  obtain ⟨earlier, rfl⟩ := attempts.eq_concat
  cases given with
  | error error =>
      cases same
      cases trace
  | ok operation =>
      cases same
      have waiting := waiting_of_wait trace
      obtain ⟨last, succeeded⟩ := waiting.lastSeen_eq
      refine ⟨earlier, operation, after, by simp, ?_, ?_⟩
      · rwa [last]
      · intro between name answer others split
        exact waiting.name_eq split

/-- A deletion of a live cluster removes things in order, and forgets only what is gone. -/
structure Orderly (reconciler : Reconciler) (live : Spec) (state : ClusterState) (events : Events)
    (out : Option Outcome) : Prop where
  /-- The deletion is asked for where the cluster is, after its bucket is gone. -/
  deletes : ∀ before target answer after,
    events = before ++ .answered (.deleteCluster target) answer :: after →
    reconciler.target live = .ok target ∧
      (∀ bucket, live.generatedBucket? = some bucket → ∃ cleanup rest,
        before = cleanup ++ rest ∧
          Bucket.Removed (reconciler.retryPolicy reconciler.options.bucketDeleteAttempts) bucket
            cleanup) ∧
      ∀ request, Program.Sent after request → request.bucket? = none
  /-- No other bucket is touched. -/
  cleansUp : ∀ request bucket, Program.Sent events request → request.bucket? = some bucket →
    live.generatedBucket? = some bucket
  nowhere : ∀ error, live.projectOr reconciler.options.defaultProject = .error error →
    events = [] ∧ out = some (.error (.payload error), state)
  fails : ∀ error after, out = some (.error error, after) → after = state
  succeeds : ∀ after, out = some (.ok (), after) → after = .empty ∧
    ∃ target, reconciler.target live = .ok target ∧ SeenDeleted target events

theorem not_noProject_of_target {error : PayloadError}
    (found : reconciler.target live = .ok target) :
    live.projectOr reconciler.options.defaultProject ≠ .error error := by
  intro missing
  obtain ⟨resolved, -, -⟩ := target_eq_ok_iff.mp found
  cases missing.symm.trans resolved

theorem orderly_nowhere {error : ReconcileError}
    (noTarget : reconciler.target live = .error error) :
    reconciler.Orderly live state [] (some (.error error, state)) where
  deletes before target answer after split := by simp at split
  cleansUp request bucket sent := absurd sent Program.not_sent_nil
  nowhere missing noProject := by
    simp only [Reconciler.target, noProject, Except.error.injEq] at noTarget
    exact ⟨rfl, by rw [noTarget]⟩
  fails other after same := by
    cases same
    rfl
  succeeds after same := by cases same

theorem orderly_bucketKept {error : ReconcileError} (found : reconciler.target live = .ok target)
    (kept : (reconciler.removeBucket live).Yields events (some (.error error))) :
    reconciler.Orderly live state events (some (.error error, state)) where
  deletes before target answer after split := by
    have member : .answered (.deleteCluster target) answer ∈ events := by simp [split]
    exact absurd member (not_mem_of_removeBucket kept)
  cleansUp request bucket sent about := by
    obtain ⟨generated, is, same⟩ := removeBucket_sent kept sent
    rw [is, ← same, about]
  nowhere missing noProject := absurd noProject (not_noProject_of_target found)
  fails other after same := by
    cases same
    rfl
  succeeds after same := by cases same

theorem orderly_asked {cleanup rest : Events} {answer : Option (Except PollError Operation)}
    (found : reconciler.target live = .ok target)
    (removed : (reconciler.removeBucket live).Yields cleanup (some (.ok ())))
    (applied : (reconciler.applyDeletion live target).Yields rest answer) :
    reconciler.Orderly live state (cleanup ++ rest) (answer.map (afterDeletion live state)) where
  deletes before other given after split := by
    obtain ⟨between, rfl, rfl⟩ := split_of_not_mem split (not_mem_of_removeBucket removed)
    refine ⟨?_, ?_, ?_⟩
    · rcases applyDeletion_sent applied (by simp : Program.Sent _ (.deleteCluster other)) with
        same | ⟨name, same⟩
      · cases same
        exact found
      · cases same
    · intro bucket generated
      exact ⟨cleanup, between, rfl, removed_of_removeBucket generated removed⟩
    · intro request sent
      rcases applyDeletion_sent applied (by simp [sent] : Program.Sent _ request) with
        rfl | ⟨name, rfl⟩
      · rfl
      · rfl
  cleansUp request bucket sent about := by
    rcases Program.sent_append_iff.mp sent with sent | sent
    · obtain ⟨generated, is, same⟩ := removeBucket_sent removed sent
      rw [is, ← same, about]
    · rcases applyDeletion_sent applied sent with rfl | ⟨name, rfl⟩
      · cases about
      · cases about
  nowhere missing noProject := absurd noProject (not_noProject_of_target found)
  fails error after same := by
    rcases answer with _ | _ | _ <;> cases same
    rfl
  succeeds after same := by
    rcases answer with _ | _ | finished <;> cases same
    obtain ⟨before, operation, last, rfl, seen, names⟩ := seenDeleted_of_applyDeletion applied
    exact ⟨rfl, target, found, cleanup ++ before, operation, last, by simp, seen, names⟩

theorem orderly_of_delete (recorded : state.live = some live)
    (trace : (reconciler.delete state).Yields events out) :
    reconciler.Orderly live state events out := by
  cases liveDeletion_of_delete recorded trace with
  | nowhere noTarget => exact orderly_nowhere noTarget
  | bucketKept found kept => exact orderly_bucketKept found kept
  | asked found removed applied => exact orderly_asked found removed applied

/-- The cluster is reported by its name, and in its project or none. -/
def ReportsItself (events : Events) : Prop :=
  ∀ target report, .answered (.getCluster target) (.ok report) ∈ events →
    report.clusterName = target.name ∧ (report.projectId = target.project ∨ report.projectId = "")

theorem target_of_reported {desired : Spec} {report : Report}
    (found : reconciler.target desired = .ok target)
    (reflected : report.reflectOnto desired = .ok live)
    (named : report.clusterName = target.name)
    (inProject : report.projectId = target.project ∨ report.projectId = "") :
    reconciler.target live = .ok target := by
  obtain ⟨actions, -, rfl⟩ := Report.reflectOnto_eq_ok_iff.mp reflected
  obtain ⟨resolved, sameRegion, -⟩ := target_eq_ok_iff.mp found
  obtain ⟨chosen, nonempty⟩ := Spec.projectOr_eq_ok_iff.mp resolved
  refine target_eq_ok_iff.mpr ⟨Spec.projectOr_eq_ok_iff.mpr ⟨?_, nonempty⟩, sameRegion, ?_⟩
  · rcases inProject with same | missing
    · simp [Spec.carry, Report.reflectWith, same, nonempty]
    · simpa [Spec.carry, Report.reflectWith, missing] using chosen
  · exact named.symm

/-- A live state that a creation stored leads to the cluster that was created. -/
theorem target_of_created {desired : Spec} {start stored : ClusterState}
    (trace : (reconciler.create desired start).Yields events (some (.ok (), stored)))
    (inState : stored.live = some live) (reports : ReportsItself events) :
    ∃ target, reconciler.target live = .ok target ∧
      ∀ project region cluster, Program.Sent events (.createCluster project region cluster) →
        target = ⟨project, region, cluster.clusterName⟩ := by
  obtain ⟨ending, ends⟩ := exists_endsAs trace
  cases ending with
  | refused | notAccepted | notFinished | notRead => simp [EndsAs] at ends
  | gone =>
      obtain ⟨_, _, _, -, -, -, same⟩ := ends
      cases same
      cases inState
  | created =>
      obtain ⟨before, target, report, _, up, found, rfl, reflected, same⟩ := ends
      cases same
      cases inState
      obtain ⟨named, inProject⟩ := reports target report (by simp)
      refine ⟨target, target_of_reported found reflected named inProject, ?_⟩
      intro project region cluster sent
      obtain ⟨payload, operation, finished, first, last, built, submits, awaited, rfl, -⟩ := up
      have asked : Program.Sent first (.createCluster project region cluster) := by
        simp only [Program.sent_append_iff, Program.sent_answered_iff, reduceCtorEq,
          Program.not_sent_nil, or_false] at sent
        rcases sent with sent | sent
        · exact sent
        · obtain ⟨name, other⟩ := getOperation_of_awaitCreation awaited sent
          cases other
      cases submits.sent_iff.mp asked
      obtain ⟨-, home, resolved, rfl⟩ := Spec.payload_eq_ok_iff.mp built
      obtain ⟨resolvedThere, sameRegion, sameName⟩ := target_eq_ok_iff.mp found
      obtain rfl : target.project = home := Except.ok.inj (resolvedThere.symm.trans resolved)
      rw [← sameRegion, ← sameName]

/-- A deletion of a live cluster is orderly, whatever is answered. If the live state was stored by
the creation, the cluster that is deleted is the one that was created. -/
theorem delete_orderly (recorded : state.live = some live)
    (trace : (reconciler.delete state).Yields events out) :
    reconciler.Orderly live state events out ∧
      ∀ desired start before stored,
        (reconciler.create desired start).Yields before (some (.ok (), stored)) →
        stored.live = some live → ReportsItself before →
        ∃ created, reconciler.target live = .ok created ∧
          (∀ project region cluster, Program.Sent before (.createCluster project region cluster) →
            created = ⟨project, region, cluster.clusterName⟩) ∧
          ∀ target, Program.Sent events (.deleteCluster target) → target = created := by
  have orderly := orderly_of_delete recorded trace
  refine ⟨orderly, ?_⟩
  intro desired start before stored creation inState reports
  obtain ⟨created, found, only⟩ := target_of_created creation inState reports
  refine ⟨created, found, only, ?_⟩
  intro target sent
  obtain ⟨answer, member⟩ := sent
  obtain ⟨earlier, later, split⟩ := List.append_of_mem member
  obtain ⟨foundThere, -, -⟩ := orderly.deletes earlier target answer later split
  exact Except.ok.inj (foundThere.symm.trans found)

/-- The bare cluster, with a generated bucket that goes with it. -/
def tidy : Spec := { bare with config := some { deleteAutogenBucket := true } }

def tidyPayload : Report := { barePayload with config := some {} }

def tidyLive : Spec :=
  { bare with config := some { deleteAutogenBucket := true, bucket := some "etl-generated" } }

def bareTarget : ClusterRef := ⟨"analytics", "europe-west1", "etl"⟩

/-- The cluster comes up with a bucket. -/
def tidyCreation : Events := [
  .answered (.createCluster "analytics" "europe-west1" tidyPayload)
    (.ok { name := "op", done := true }),
  .clockRead 0,
  .clockRead 0,
  .answered (.getCluster bareTarget)
    (.ok { clusterName := "etl", config := some { configBucket := some "etl-generated" } })]

/-- The only object of the bucket is gone already, and the bucket is deleted at the second try. -/
def tidyDeletion : Events := [
  .answered (.listObjects "etl-generated") (.ok ["results.csv"]),
  .answered (.deleteObject "etl-generated" "results.csv") (.error (.notFound "results.csv")),
  .answered (.deleteBucket "etl-generated") (.error (.rateLimited "slow down")),
  .slept usual.options.initialBackoff,
  .answered (.deleteBucket "etl-generated") (.ok ()),
  .answered (.deleteCluster bareTarget) (.ok { name := "op", done := true }),
  .clockRead 0,
  .clockRead 0]

theorem payload_tidy : tidy.payload none = .ok tidyPayload :=
  Spec.payload_eq_ok_iff.mpr ⟨by decide +kernel, "analytics", by decide +kernel, rfl⟩

theorem create_tidy :
    (usual.create tidy .empty).Yields tidyCreation
      (some (.ok (), ⟨some "etl", some tidyLive⟩)) := by
  unfold create
  simp only [show usual.options.defaultProject = none from rfl, payload_tidy]
  exact .send _ (.readClock 0 (.readClock 0 (.send _ .done)))

theorem delete_tidy :
    (usual.delete ⟨some "etl", some tidyLive⟩).Yields tidyDeletion (some (.ok (), .empty)) :=
  .send _ (.send _ (.send _ (.sleep (.send _ (.send _ (.readClock 0 (.readClock 0 .done)))))))

theorem reportsItself_tidyCreation : ReportsItself tidyCreation := by
  intro target report reported
  simp only [tidyCreation, List.mem_cons, List.not_mem_nil, or_false, reduceCtorEq,
    false_or] at reported
  rcases reported with created | read
  · cases created
  · cases read
    exact ⟨rfl, .inr rfl⟩

/-- Only the cluster that was created is deleted, and at the end it is known to be gone. -/
theorem delete_orderly_tidy :
    (usual.create tidy .empty).Yields tidyCreation
        (some (.ok (), ⟨some "etl", some tidyLive⟩)) ∧
      SeenDeleted bareTarget tidyDeletion ∧
      ∀ events out target, (usual.delete ⟨some "etl", some tidyLive⟩).Yields events out →
        Program.Sent events (.deleteCluster target) → target = bareTarget := by
  have created : Program.Sent tidyCreation
      (.createCluster "analytics" "europe-west1" tidyPayload) := by
    simp [tidyCreation]
  refine ⟨create_tidy, ?_, ?_⟩
  · obtain ⟨orderly, -⟩ := delete_orderly rfl delete_tidy
    obtain ⟨-, target, found, seen⟩ := orderly.succeeds .empty rfl
    cases found
    exact seen
  · intro events out target trace sent
    obtain ⟨-, identity⟩ := delete_orderly rfl trace
    obtain ⟨home, -, only, same⟩ :=
      identity tidy .empty tidyCreation _ create_tidy rfl reportsItself_tidyCreation
    exact (same target sent).trans (only _ _ _ created)

end Reconciler

end ManagedCluster
