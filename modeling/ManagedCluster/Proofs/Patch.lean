import ManagedCluster.Patch
import ManagedCluster.Proofs.Reflection.Live
import ManagedCluster.Proofs.StringMap

/-! # Patches that are applied

A provider that takes a patch changes the fields that the patch names and nothing else. The labels
of the provider itself stay beside those of the patch, and a group of which only the number of
instances is given is made if there is none.
-/

namespace ManagedCluster

namespace Report

/-- The group with a number of instances, made if there is none. -/
def Group.counted (count : Option UInt32) (group : Option Group) : Group :=
  { group.getD {} with numInstances := count }

/-- All of a group but its number of instances. -/
def Group.uncounted (group : Option Group) : Group := Group.counted none group

/-- The report with one field of a patch. -/
def applyField (patch : Patch) (report : Report) : PatchField → Report
  | .labels =>
    { report with
      labels := (report.labels.filterKeys isProviderLabel).insertAll patch.cluster.labels }
  | .workerCount =>
    let config := report.config.getD {}
    { report with
      config := some { config with
        worker := some (Group.counted patch.cluster.workerCount? config.worker) } }
  | .preemptibleWorkerCount =>
    let config := report.config.getD {}
    { report with
      config := some { config with
        secondaryWorker :=
          some (Group.counted patch.cluster.secondaryWorkerCount? config.secondaryWorker) } }

/-- The report of the cluster once the patch is applied. -/
def applyPatch (report : Report) (patch : Patch) : Report :=
  patch.fields.foldl (applyField patch) report

/-- Two reports that differ in what a patch can change, if at all. -/
structure SameElsewhere (report changed : Report) : Prop where
  clusterName : changed.clusterName = report.clusterName
  projectId : changed.projectId = report.projectId
  gce : changed.gce? = report.gce?
  master : changed.master? = report.master?
  worker : Group.uncounted changed.worker? = Group.uncounted report.worker?
  secondaryWorker :
    Group.uncounted changed.secondaryWorker? = Group.uncounted report.secondaryWorker?
  software : changed.software? = report.software?
  actions : changed.actions = report.actions

namespace SameElsewhere

variable {report changed final : Report}

theorem refl (report : Report) : SameElsewhere report report :=
  ⟨rfl, rfl, rfl, rfl, rfl, rfl, rfl, rfl⟩

theorem trans (first : SameElsewhere report changed) (second : SameElsewhere changed final) :
    SameElsewhere report final where
  clusterName := second.clusterName.trans first.clusterName
  projectId := second.projectId.trans first.projectId
  gce := second.gce.trans first.gce
  master := second.master.trans first.master
  worker := second.worker.trans first.worker
  secondaryWorker := second.secondaryWorker.trans first.secondaryWorker
  software := second.software.trans first.software
  actions := second.actions.trans first.actions

end SameElsewhere

section Fields

variable (patch : Patch)

theorem applyField_sameElsewhere (report : Report) (field : PatchField) :
    report.SameElsewhere (report.applyField patch field) := by
  obtain ⟨_, _, config, _, _⟩ := report
  cases field with
  | labels => exact ⟨rfl, rfl, rfl, rfl, rfl, rfl, rfl, rfl⟩
  | workerCount => cases config <;> exact ⟨rfl, rfl, rfl, rfl, rfl, rfl, rfl, rfl⟩
  | preemptibleWorkerCount => cases config <;> exact ⟨rfl, rfl, rfl, rfl, rfl, rfl, rfl, rfl⟩

theorem foldl_sameElsewhere (fields : List PatchField) (report : Report) :
    report.SameElsewhere (fields.foldl (applyField patch) report) := by
  induction fields generalizing report with
  | nil => exact .refl report
  | cons field fields ih => exact (applyField_sameElsewhere patch report field).trans (ih _)

/-- What is read of a report once all fields of a list are applied, if one field sets it and the
others leave it alone. -/
theorem foldl_applyField {α : Type} {read : Report → α} {value : α} {own : PatchField}
    (sets : ∀ report, read (applyField patch report own) = value)
    (leaves : ∀ report field, field ≠ own → read (applyField patch report field) = read report)
    (fields : List PatchField) (report : Report) :
    read (fields.foldl (applyField patch) report) =
      if own ∈ fields then value else read report := by
  induction fields generalizing report with
  | nil => simp
  | cons field fields ih =>
      rw [List.foldl_cons, ih]
      by_cases same : field = own
      · subst same
        simp [sets]
      · simp [leaves report field same, Ne.symm same]

end Fields

variable (report : Report) (patch : Patch)

theorem applyPatch_sameElsewhere : report.SameElsewhere (report.applyPatch patch) :=
  foldl_sameElsewhere patch patch.fields report

theorem userLabels_applyPatch :
    (report.applyPatch patch).userLabels =
      if .labels ∈ patch.fields then patch.cluster.userLabels else report.userLabels := by
  refine foldl_applyField patch (fun report => ?_) (fun report field other => ?_) _ report
  · exact StringMap.filterKeys_not_insertAll isProviderLabel report.labels patch.cluster.labels
  · cases field with
    | labels => exact absurd rfl other
    | workerCount | preemptibleWorkerCount => rfl

theorem workerCount?_applyPatch :
    (report.applyPatch patch).workerCount? =
      if .workerCount ∈ patch.fields then patch.cluster.workerCount? else report.workerCount? := by
  refine foldl_applyField patch (fun report => rfl) (fun report field other => ?_) _ report
  cases field with
  | workerCount => exact absurd rfl other
  | labels => rfl
  | preemptibleWorkerCount =>
      cases missing : report.config <;> simp [applyField, workerCount?, worker?, missing]

theorem secondaryWorkerCount?_applyPatch :
    (report.applyPatch patch).secondaryWorkerCount? =
      if .preemptibleWorkerCount ∈ patch.fields then patch.cluster.secondaryWorkerCount?
      else report.secondaryWorkerCount? := by
  refine foldl_applyField patch (fun report => rfl) (fun report field other => ?_) _ report
  cases field with
  | preemptibleWorkerCount => exact absurd rfl other
  | labels => rfl
  | workerCount =>
      cases missing : report.config <;>
        simp [applyField, secondaryWorkerCount?, secondaryWorker?, missing]

end Report

namespace Spec

variable {prior desired : Spec} {patch : Patch}

/-- A patch that is due names exactly what changes and carries the desired values of that. -/
theorem of_patch?_eq_some (due : prior.patch? desired = some patch) :
    ((.labels ∈ patch.fields ↔ (changedLabels? prior desired).isSome) ∧
      patch.cluster.labels = (changedLabels? prior desired).getD .empty) ∧
    ((.workerCount ∈ patch.fields ↔
        (changed? prior.workerCount? desired.workerCount?).isSome) ∧
      patch.cluster.workerCount? = changed? prior.workerCount? desired.workerCount?) ∧
    ((.preemptibleWorkerCount ∈ patch.fields ↔
        (changed? prior.preemptibleWorkerCount? desired.preemptibleWorkerCount?).isSome) ∧
      patch.cluster.secondaryWorkerCount? =
        changed? prior.preemptibleWorkerCount? desired.preemptibleWorkerCount?) := by
  unfold patch? at due
  cases labels : changedLabels? prior desired <;>
    cases workers : changed? prior.workerCount? desired.workerCount? <;>
    cases preemptible : changed? prior.preemptibleWorkerCount? desired.preemptibleWorkerCount? <;>
    simp only [labels, workers, preemptible] at due <;> cases due <;>
    simp [countsConfig, countOnly, Report.workerCount?, Report.worker?,
      Report.secondaryWorkerCount?, Report.secondaryWorker?]

end Spec

end ManagedCluster
