import ManagedCluster.Duration.Parse
import ManagedCluster.Report.Basic
import ManagedCluster.Scope
import ManagedCluster.Uri
import ManagedCluster.Validation

/-! # From specs to payloads

A spec that breaks no rule and has a project is turned into the payload that creates its cluster.
Machine types, networks and subnetworks are sent by name, scopes by address and in order.
-/

namespace ManagedCluster

/-- Why a spec has no payload. -/
inductive PayloadError where
  | invalid (cluster : String) (violations : List Violation)
  | missingProject (cluster : String)
  deriving Repr, DecidableEq

namespace PayloadError

def message : PayloadError → String
  | invalid cluster violations =>
    "cluster " ++ Text.quoted cluster ++ " is invalid: " ++ Violation.messages violations
  | missingProject cluster =>
    "cluster " ++ Text.quoted cluster ++ " has no project and no default project is configured"

def causes : PayloadError → List String
  | invalid _ violations => [Violation.messages violations]
  | missingProject _ => []

end PayloadError

namespace Spec

/-- The project of the cluster, or else the default one. An empty text is no project, and one in the
spec hides the default. -/
def projectOr (spec : Spec) (defaultProject : Option String) : Except PayloadError String :=
  match (spec.project.or defaultProject).filter (!·.isEmpty) with
  | some project => .ok project
  | none => .error (.missingProject spec.name)

def Gce.payload (gce : Gce) : Report.Gce where
  zoneUri := gce.zone
  networkUri := gce.network.map Uri.lastSegment
  subnetworkUri := gce.subnetwork.map Uri.lastSegment
  tags := gce.tags
  serviceAccount := gce.serviceAccount
  serviceAccountScopes := Scope.canonicalList gce.serviceAccountScopes

def Disk.payload (disk : Disk) : Report.Disk where
  bootDiskSizeGb := disk.bootDiskSizeGb
  numLocalSsds := disk.numLocalSsds

def PreemptibleDisk.payload (disk : PreemptibleDisk) : Report.Disk where
  bootDiskSizeGb := disk.bootDiskSizeGb

def Group.payload (group : Group) : Report.Group where
  numInstances := group.numInstances
  machineTypeUri := group.machineType.map Uri.lastSegment
  disk := group.disk.map Disk.payload

/-- A group without instances is not marked as preemptible. -/
def PreemptibleGroup.payload (group : PreemptibleGroup) : Report.Group where
  numInstances := group.numInstances
  disk := group.disk.map PreemptibleDisk.payload
  isPreemptible := group.numInstances.any (0 < ·)

def Software.payload (software : Software) : Report.Software where
  imageVersion := software.imageVersion
  properties := software.overrideProperties

def Action.payload (action : Action) : Report.Action where
  executableFile := action.script
  executionTimeout := action.timeoutSec.map fun seconds => Duration.encodeSeconds seconds.toNat

def Config.payload (config : Config) : Report.Config where
  configBucket := config.stagingBucket
  gce := config.gce.map Gce.payload
  master := config.master.map Group.payload
  worker := config.worker.map Group.payload
  secondaryWorker := config.preemptibleWorker.map PreemptibleGroup.payload
  software := config.software.map Software.payload
  initializationActions := config.initializationActions.map Action.payload

/-- The payload that creates the cluster. -/
def payload (spec : Spec) (defaultProject : Option String) : Except PayloadError Report :=
  if spec.violations.isEmpty then do
    let project ← spec.projectOr defaultProject
    return {
      clusterName := spec.name
      projectId := project
      config := spec.config.map Config.payload
      labels := spec.labels }
  else .error (.invalid spec.name spec.violations)

end Spec

end ManagedCluster
