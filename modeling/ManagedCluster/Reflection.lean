import ManagedCluster.Duration.Parse
import ManagedCluster.Report.Basic
import ManagedCluster.Spec.Basic
import ManagedCluster.Uri

/-! # From reports to specs

What the provider reports of a cluster is brought into the form of a spec. The provider does not
report everything: the region, the staging bucket, whether to delete a generated bucket, and the
properties that were asked for are carried over from an earlier spec.
-/

namespace ManagedCluster

/-- A report that has an initialization action with an unreadable timeout. -/
structure ReflectError where
  script : String
  timeout : String
  error : DurationParseError
  deriving Repr, DecidableEq

namespace ReflectError

def message (error : ReflectError) : String :=
  "failed to decode execution timeout " ++ Text.quoted error.timeout
    ++ " of initialization action " ++ Text.quoted error.script

def causes (error : ReflectError) : List String := error.error.message :: error.error.causes

end ReflectError

namespace Report

def Gce.reflect (gce : Gce) : Spec.Gce where
  zone := gce.zoneUri.map Uri.lastSegment
  network := gce.networkUri.map Uri.lastSegment
  subnetwork := gce.subnetworkUri.map Uri.lastSegment
  tags := gce.tags
  serviceAccount := gce.serviceAccount
  serviceAccountScopes := gce.serviceAccountScopes.mergeSort fun a b => a ≤ b

def Disk.reflect (disk : Disk) : Spec.Disk where
  numLocalSsds := disk.numLocalSsds
  bootDiskSizeGb := disk.bootDiskSizeGb

def Disk.reflectPreemptible (disk : Disk) : Spec.PreemptibleDisk where
  bootDiskSizeGb := disk.bootDiskSizeGb

def Group.reflect (group : Group) : Spec.Group where
  numInstances := group.numInstances
  machineType := group.machineTypeUri.map Uri.lastSegment
  disk := group.disk.map Disk.reflect
  instanceNames := group.instanceNames

def Group.reflectPreemptible (group : Group) : Spec.PreemptibleGroup where
  numInstances := group.numInstances
  disk := group.disk.map Disk.reflectPreemptible
  instanceNames := group.instanceNames

def Software.reflect (software : Software) : Spec.Software where
  imageVersion := software.imageVersion
  properties := software.properties

def Action.reflect (action : Action) : Except ReflectError Spec.Action :=
  match action.executionTimeout with
  | none => .ok { script := action.executableFile }
  | some timeout =>
    match Duration.decodeSeconds timeout with
    | .ok seconds =>
      .ok { script := action.executableFile, timeoutSec := some (UInt64.ofNat seconds) }
    | .error error => .error ⟨action.executableFile, timeout, error⟩

/-- The config with actions that are already read. -/
def Config.reflectWith (config : Config) (actions : List Spec.Action) : Spec.Config where
  bucket := config.configBucket
  gce := config.gce.map Gce.reflect
  master := config.master.map Group.reflect
  worker := config.worker.map Group.reflect
  preemptibleWorker := config.secondaryWorker.map Group.reflectPreemptible
  software := config.software.map Software.reflect
  initializationActions := actions

def Config.reflect (config : Config) : Except ReflectError Spec.Config :=
  (config.initializationActions.mapM Action.reflect).map config.reflectWith

/-- The live state of a cluster, as far as the provider reports it. -/
def reflect (report : Report) : Except ReflectError Spec := do
  let config ← match report.config with
    | none => pure none
    | some config => (Config.reflect config).map some
  return {
    name := report.clusterName
    project := if report.projectId.isEmpty then none else some report.projectId
    labels := report.labels
    config := config }

end Report

namespace Spec

/-- The software with the properties that the prior one asked for. -/
def carrySoftware (prior : Software) (live : Option Software) : Software :=
  { live.getD {} with overrideProperties := prior.overrideProperties }

/-- The config with the attributes of the prior one that are not reported. -/
def carryConfig (prior : Config) (live : Option Config) : Config :=
  let config := live.getD {}
  { config with
    deleteAutogenBucket := prior.deleteAutogenBucket
    stagingBucket := prior.stagingBucket
    software := match prior.software with
      | none => config.software
      | some software => some (carrySoftware software config.software) }

/-- The live state with the attributes of a prior spec that are not reported. -/
def carry (prior live : Spec) : Spec :=
  { live with
    region := prior.region
    project := live.project.or prior.project
    config := match prior.config with
      | none => live.config
      | some config => some (carryConfig config live.config) }

end Spec

namespace Report

/-- The live state of a cluster whose spec is given. -/
def reflectOnto (prior : Spec) (report : Report) : Except ReflectError Spec :=
  report.reflect.map (Spec.carry prior)

end Report

end ManagedCluster
