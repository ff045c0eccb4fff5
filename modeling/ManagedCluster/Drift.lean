import ManagedCluster.Scope
import ManagedCluster.Spec.Attribute
import ManagedCluster.Spec.Basic
import ManagedCluster.Uri

/-! # Changes that need a new cluster

An attribute has drifted if the desired spec sets it and the prior spec does not agree. Each
attribute has its own agreement: addresses agree by their last segment, scopes by the access they
give, an image version with any more specific one, and a timeout is only compared where it is
asked for.
-/

namespace ManagedCluster

namespace Spec

/-- A value is desired that the prior spec does not have. -/
def differs {α : Type} [DecidableEq α] (desired prior : Option α) : Bool :=
  desired.isSome && desired ≠ prior

/-- An address is desired whose last segment the prior spec does not have. -/
def differsUri (desired prior : Option String) : Bool :=
  differs (desired.map Uri.lastSegment) (prior.map Uri.lastSegment)

/-- The reported version is the desired one or a more specific one. -/
def versionMatches (desired reported : String) : Bool :=
  let wanted := desired.toList
  let given := reported.toList
  given = wanted
    || wanted.isPrefixOf given && (given.drop wanted.length).head?.any fun c => c == '.' || c == '-'

/-- The reported action runs the desired script, with the desired timeout if one is asked for. -/
def Action.isMet (desired reported : Action) : Bool :=
  desired.script = reported.script
    && desired.timeoutSec.all fun seconds => reported.timeoutSec = some seconds

/-- The reported actions are the desired ones, one by one. -/
def actionsMatch : List Action → List Action → Bool
  | [], [] => true
  | desired :: others, reported :: rest => desired.isMet reported && actionsMatch others rest
  | _, _ => false

/-- The disks of a group, with a missing block as an empty one. -/
def disk (group : Option Group) : Disk := (group.bind (·.disk)).getD {}

def bootDisk (group : Option Group) : Option UInt32 := (disk group).bootDiskSizeGb

def localSsds (group : Option Group) : Option UInt32 := (disk group).numLocalSsds

/-- A list that is set: one with items. -/
def nonEmpty {α : Type} (items : List α) : Option (List α) :=
  if items.isEmpty then none else some items

def actions (spec : Spec) : List Action :=
  (spec.config.map (·.initializationActions)).getD []

def scopes (spec : Spec) : List String :=
  (spec.gce?.map (·.serviceAccountScopes)).getD []

/-- The desired spec sets the attribute, and the prior one does not agree. -/
def hasDrifted (prior desired : Spec) : Attribute → Bool
  | .name => differs (some desired.name) (some prior.name)
  | .project => differs desired.project prior.project
  | .region => differs (some desired.region) (some prior.region)
  | .stagingBucket =>
    differs (desired.config.bind (·.stagingBucket)) (prior.config.bind (·.stagingBucket))
  | .zone => differsUri (desired.gce?.bind (·.zone)) (prior.gce?.bind (·.zone))
  | .network => differsUri (desired.gce?.bind (·.network)) (prior.gce?.bind (·.network))
  | .subnetwork => differsUri (desired.gce?.bind (·.subnetwork)) (prior.gce?.bind (·.subnetwork))
  | .tags => differs (desired.gce?.bind fun gce => nonEmpty gce.tags) (prior.gce?.map (·.tags))
  | .serviceAccount =>
    differs (desired.gce?.bind (·.serviceAccount)) (prior.gce?.bind (·.serviceAccount))
  | .serviceAccountScopes =>
    !desired.scopes.isEmpty && !Scope.equivalent desired.scopes prior.scopes
  | .masterCount =>
    differs (desired.master?.bind (·.numInstances)) (prior.master?.bind (·.numInstances))
  | .masterMachineType =>
    differsUri (desired.master?.bind (·.machineType)) (prior.master?.bind (·.machineType))
  | .masterLocalSsds => differs (localSsds desired.master?) (localSsds prior.master?)
  | .masterBootDisk => differs (bootDisk desired.master?) (bootDisk prior.master?)
  | .workerMachineType =>
    differsUri (desired.worker?.bind (·.machineType)) (prior.worker?.bind (·.machineType))
  | .workerLocalSsds => differs (localSsds desired.worker?) (localSsds prior.worker?)
  | .workerBootDisk => differs (bootDisk desired.worker?) (bootDisk prior.worker?)
  | .preemptibleBootDisk =>
    differs (desired.preemptibleWorker?.bind (·.disk) |>.bind (·.bootDiskSizeGb))
      (prior.preemptibleWorker?.bind (·.disk) |>.bind (·.bootDiskSizeGb))
  | .imageVersion =>
    (desired.software?.bind (·.imageVersion)).any fun version =>
      !(prior.software?.bind (·.imageVersion)).any (versionMatches version)
  | .overrideProperties =>
    differs ((desired.software?.map (·.overrideProperties)).filter (!·.isEmpty))
      (prior.software?.map (·.overrideProperties))
  | .initializationActions =>
    !desired.actions.isEmpty && !actionsMatch desired.actions prior.actions

/-- The attributes whose change needs a new cluster. -/
def replacements (prior desired : Spec) : List Attribute :=
  Attribute.all.filter (hasDrifted prior desired)

end Spec

example : Spec.versionMatches "1.3" "1.3.7" = true ∧ Spec.versionMatches "1.3" "1.30" = false := by
  decide

end ManagedCluster
