import ManagedCluster.Report.Basic
import ManagedCluster.Spec.Basic

/-! # Changes to a running cluster

Labels and the numbers of workers can change while a cluster runs. A patch is a payload that carries
only what changes, with the list of the fields that it carries. What the desired spec leaves unset
stays as it is.
-/

namespace ManagedCluster

/-- A field that can change on a running cluster. -/
inductive PatchField where
  | labels
  | workerCount
  | preemptibleWorkerCount
  deriving Repr, DecidableEq

namespace PatchField

/-- The field as the provider calls it. -/
def path : PatchField → String
  | labels => "labels"
  | workerCount => "config.worker_config.num_instances"
  | preemptibleWorkerCount => "config.secondary_worker_config.num_instances"

end PatchField

/-- A partial cluster and the fields of it that apply. -/
structure Patch where
  fields : List PatchField
  cluster : Report
  deriving Repr, DecidableEq

namespace Patch

/-- The fields as the provider takes them. -/
def mask (patch : Patch) : String := ",".intercalate (patch.fields.map PatchField.path)

end Patch

/-- How the labels start that the provider sets by itself. -/
def providerLabelStart : String := "goog-dataproc-"

/-- The label is the provider's own. -/
def isProviderLabel (key : String) : Bool := providerLabelStart.toList.isPrefixOf key.toList

namespace Spec

/-- The labels that are not the provider's. -/
def userLabels (spec : Spec) : StringMap := spec.labels.filterKeys (!isProviderLabel ·)

def workerCount? (spec : Spec) : Option UInt32 := spec.worker?.bind (·.numInstances)

def preemptibleWorkerCount? (spec : Spec) : Option UInt32 :=
  spec.preemptibleWorker?.bind (·.numInstances)

/-- The desired value, if it is set and not the prior one. -/
def changed? {α : Type} [DecidableEq α] (prior desired : Option α) : Option α :=
  if desired = prior then none else desired

/-- The desired labels, if there are any and they are not the prior ones. -/
def changedLabels? (prior desired : Spec) : Option StringMap :=
  if desired.userLabels.isEmpty || desired.userLabels = prior.userLabels then none
  else some desired.userLabels

/-- A group of which only the number of instances is given. -/
def countOnly (count : UInt32) : Report.Group := { numInstances := some count }

/-- The config that carries the given counts, if any. -/
def countsConfig : Option UInt32 → Option UInt32 → Option Report.Config
  | none, none => none
  | workers, preemptible =>
    some { worker := workers.map countOnly, secondaryWorker := preemptible.map countOnly }

/-- The patch that makes the desired spec of the prior one, unless nothing changes. -/
def patch? (prior desired : Spec) : Option Patch :=
  let labels := changedLabels? prior desired
  let workers := changed? prior.workerCount? desired.workerCount?
  let preemptible := changed? prior.preemptibleWorkerCount? desired.preemptibleWorkerCount?
  let fields :=
    (labels.map fun _ => PatchField.labels).toList
      ++ (workers.map fun _ => PatchField.workerCount).toList
      ++ (preemptible.map fun _ => PatchField.preemptibleWorkerCount).toList
  if fields.isEmpty then none
  else some {
    fields := fields
    cluster := { labels := labels.getD .empty, config := countsConfig workers preemptible } }

end Spec

end ManagedCluster
