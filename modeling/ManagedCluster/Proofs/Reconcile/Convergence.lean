import ManagedCluster.Proofs.Drift
import ManagedCluster.Proofs.Patch
import ManagedCluster.Reconcile

/-! # Updates that converge

Once a patch is applied, the live state that is read has everything that the desired spec asks for.
A patch changes nothing that is compared elsewhere, and what is carried over to the live state comes
from the desired spec itself. So the same update does nothing but read when it is made again.
-/

namespace ManagedCluster

namespace Spec

section SecondReading

variable {prior desired : Spec} {report changed : Report} {actions : List Action}

theorem machineType_reflect (group : Option Report.Group) :
    (group.map Report.Group.reflect).bind (·.machineType) =
      (Report.Group.uncounted group).machineTypeUri.map Uri.lastSegment := by
  cases group <;> rfl

theorem disk_reflect (group : Option Report.Group) :
    disk (group.map Report.Group.reflect) =
      ((Report.Group.uncounted group).disk.map Report.Disk.reflect).getD {} := by
  cases group <;> rfl

theorem preemptibleDisk_reflect (group : Option Report.Group) :
    (group.map Report.Group.reflectPreemptible).bind (·.disk) =
      (Report.Group.uncounted group).disk.map Report.Disk.reflectPreemptible := by
  cases group <;> rfl

/-- What has not drifted from the desired spec does not drift when the cluster is read again onto
that spec, if only the fields of a patch have changed. -/
theorem hasDrifted_of_sameElsewhere (same : report.SameElsewhere changed)
    (read : report.actions.mapM Report.Action.reflect = .ok actions) (a : Attribute)
    (kept : (prior.carry (report.reflectWith actions)).hasDrifted desired a = false) :
    (desired.carry (changed.reflectWith actions)).hasDrifted desired a = false := by
  have readAgain : changed.actions.mapM Report.Action.reflect = .ok actions := by
    rw [same.actions, read]
  cases a with
  | name => simpa only [hasDrifted, carry, Report.reflectWith, same.clusterName] using kept
  | project =>
      -- a project that is not reported is carried over from the desired spec
      apply differs_eq_false_iff.mpr
      have before := differs_eq_false_iff.mp kept
      simp only [carry, Report.reflectWith, same.projectId] at before ⊢
      cases missing : report.projectId.isEmpty with
      | true => exact Kept.refl desired.project
      | false => simpa [missing] using before
  | region =>
      apply differs_eq_false_iff.mpr
      exact Kept.refl _
  | stagingBucket =>
      apply differs_eq_false_iff.mpr
      rw [stagingBucket_carry]
      exact Kept.refl _
  | zone | network | subnetwork | tags | serviceAccount =>
      simpa only [hasDrifted, gce?_carry, same.gce] using kept
  | serviceAccountScopes => simpa only [hasDrifted, scopes, gce?_carry, same.gce] using kept
  | masterCount | masterMachineType | masterLocalSsds | masterBootDisk =>
      simpa only [hasDrifted, master?_carry, same.master] using kept
  | workerMachineType =>
      simpa only [hasDrifted, worker?_carry, machineType_reflect, same.worker] using kept
  | workerLocalSsds | workerBootDisk =>
      simpa only [hasDrifted, localSsds, bootDisk, worker?_carry, disk_reflect, same.worker]
        using kept
  | preemptibleBootDisk =>
      simpa only [hasDrifted, preemptibleWorker?_carry, preemptibleDisk_reflect,
        same.secondaryWorker] using kept
  | imageVersion => simpa only [hasDrifted, imageVersion_carry, same.software] using kept
  | overrideProperties =>
      apply differs_eq_false_iff.mpr
      cases asked : desired.software? with
      | none => exact Kept.none
      | some software =>
          rw [overrideProperties_carry _ _ _ asked]
          exact (Kept.refl _).filter _
  | initializationActions =>
      simpa only [hasDrifted, actions_of_read _ read, actions_of_read _ readAgain] using kept

theorem changed?_or_changed? {α : Type} [DecidableEq α] (before desired : Option α) :
    changed? ((changed? before desired).or before) desired = none := by
  by_cases same : desired = before
  · simp [changed?, same]
  · cases desired <;> simp [changed?, same]

variable {patch : Patch}

theorem workerCount?_applyPatch_of_due
    (due : (prior.carry (report.reflectWith actions)).patch? desired = some patch) :
    (report.applyPatch patch).workerCount? =
      (changed? report.workerCount? desired.workerCount?).or report.workerCount? := by
  obtain ⟨-, ⟨named, carried⟩, -⟩ := of_patch?_eq_some due
  rw [workerCount?_carry] at named carried
  rw [Report.workerCount?_applyPatch, carried]
  cases change : changed? report.workerCount? desired.workerCount? <;> simp [named, change]

theorem secondaryWorkerCount?_applyPatch_of_due
    (due : (prior.carry (report.reflectWith actions)).patch? desired = some patch) :
    (report.applyPatch patch).secondaryWorkerCount? =
      (changed? report.secondaryWorkerCount? desired.preemptibleWorkerCount?).or
        report.secondaryWorkerCount? := by
  obtain ⟨-, -, named, carried⟩ := of_patch?_eq_some due
  rw [preemptibleWorkerCount?_carry] at named carried
  rw [Report.secondaryWorkerCount?_applyPatch, carried]
  cases change : changed? report.secondaryWorkerCount? desired.preemptibleWorkerCount? <;>
    simp [named, change]

theorem userLabels_applyPatch_of_due
    (due : (prior.carry (report.reflectWith actions)).patch? desired = some patch)
    (named : .labels ∈ patch.fields) :
    (report.applyPatch patch).userLabels = desired.userLabels := by
  obtain ⟨⟨change, carried⟩, -⟩ := of_patch?_eq_some due
  have changes := change.mp named
  unfold changedLabels? at changes carried
  split at changes
  · cases changes
  · next differ =>
      rw [if_neg differ, Option.getD_some] at carried
      rw [Report.userLabels_applyPatch, if_pos named, Report.userLabels, carried, userLabels,
        StringMap.filterKeys_filterKeys]
      simp only [Bool.and_self]

theorem changedLabels?_applyPatch
    (due : (prior.carry (report.reflectWith actions)).patch? desired = some patch) :
    changedLabels? (desired.carry ((report.applyPatch patch).reflectWith actions)) desired =
      none := by
  by_cases named : .labels ∈ patch.fields
  · simp [changedLabels?, userLabels_applyPatch_of_due due named]
  · obtain ⟨⟨change, -⟩, -⟩ := of_patch?_eq_some due
    have unchanged := Option.not_isSome_iff_eq_none.mp (named ∘ change.mpr)
    unfold changedLabels? at unchanged ⊢
    rw [userLabels_carry_reflectWith] at unchanged ⊢
    rwa [Report.userLabels_applyPatch, if_neg named]

/-- Nothing is left to patch once a patch that is due is applied. -/
theorem patch?_applyPatch
    (due : (prior.carry (report.reflectWith actions)).patch? desired = some patch) :
    (desired.carry ((report.applyPatch patch).reflectWith actions)).patch? desired = none := by
  refine patch?_eq_none_iff.mpr ⟨changedLabels?_applyPatch due, ?_, ?_⟩
  · rw [workerCount?_carry, workerCount?_applyPatch_of_due due, changed?_or_changed?]
  · rw [preemptibleWorkerCount?_carry, secondaryWorkerCount?_applyPatch_of_due due,
      changed?_or_changed?]

end SecondReading

end Spec

namespace Reconciler

theorem update_eq_refresh (reconciler : Reconciler) {desired live : Spec}
    (kept : live.replacements desired = []) (nothing : live.patch? desired = none)
    (id : Option String) :
    reconciler.update desired ⟨id, some live⟩ = reconciler.refresh desired ⟨id, some live⟩ := by
  simp only [update, kept, nothing]

/-- After a patch that was due, the cluster is read as it is desired: nothing is left to patch or to
replace, and the same update made again only reads the cluster. -/
theorem update_converges {report : Report} {prior desired live : Spec} {patch : Patch}
    (read : report.reflectOnto prior = .ok live) (kept : live.replacements desired = [])
    (due : live.patch? desired = some patch) :
    ∃ after, (report.applyPatch patch).reflectOnto desired = .ok after ∧
      after.patch? desired = none ∧ after.replacements desired = [] ∧
      ∀ (reconciler : Reconciler) (id : Option String),
        reconciler.update desired ⟨id, some after⟩ =
          reconciler.refresh desired ⟨id, some after⟩ := by
  obtain ⟨actions, readActions, rfl⟩ := Report.reflectOnto_eq_ok_iff.mp read
  have same := report.applyPatch_sameElsewhere patch
  have nothing := Spec.patch?_applyPatch due
  have keptAgain : (desired.carry ((report.applyPatch patch).reflectWith actions)).replacements
      desired = [] := by
    apply Spec.replacements_eq_nil_iff.mpr
    intro a
    exact Spec.hasDrifted_of_sameElsewhere same readActions a
      (Spec.replacements_eq_nil_iff.mp kept a)
  refine ⟨_, ?_, nothing, keptAgain, ?_⟩
  · apply Report.reflectOnto_eq_ok_iff.mpr
    exact ⟨actions, by rw [same.actions, readActions], rfl⟩
  · intro reconciler id
    exact update_eq_refresh reconciler keptAgain nothing id

/-- A cluster without workers, as it is reported. -/
def unstaffedReport : Report where
  clusterName := "etl"
  labels := .ofList [("goog-dataproc-location", "europe-west1"), ("team", "web")]

def unstaffed : Spec where
  name := "etl"
  project := some "analytics"
  labels := .ofList [("goog-dataproc-location", "europe-west1"), ("team", "web")]

/-- The cluster with workers of both kinds and another label. -/
def scaledUp : Spec where
  name := "etl"
  project := some "analytics"
  labels := .ofList [("goog-dataproc-location", "us-east1"), ("team", "data")]
  config := some {
    worker := some { numInstances := some 4 }
    preemptibleWorker := some { numInstances := some 2 } }

def scalingPatch : Patch where
  fields := [.labels, .workerCount, .preemptibleWorkerCount]
  cluster := {
    labels := .ofList [("team", "data")]
    config := some {
      worker := some { numInstances := some 4 }
      secondaryWorker := some { numInstances := some 2 } } }

theorem update_converges_scaledUp :
    unstaffedReport.reflectOnto unstaffed = .ok unstaffed ∧
    unstaffed.replacements scaledUp = [] ∧ unstaffed.patch? scaledUp = some scalingPatch ∧
    ∃ after, (unstaffedReport.applyPatch scalingPatch).reflectOnto scaledUp = .ok after ∧
      after.patch? scaledUp = none ∧ after.replacements scaledUp = [] ∧
      ∀ (reconciler : Reconciler) (id : Option String),
        reconciler.update scaledUp ⟨id, some after⟩ =
          reconciler.refresh scaledUp ⟨id, some after⟩ := by
  have read : unstaffedReport.reflectOnto unstaffed = .ok unstaffed := by decide +kernel
  have kept : unstaffed.replacements scaledUp = [] := by decide +kernel
  have due : unstaffed.patch? scaledUp = some scalingPatch := by decide +kernel
  exact ⟨read, kept, due, update_converges read kept due⟩

end Reconciler

end ManagedCluster
