import ManagedCluster.Document.Record
import ManagedCluster.Spec.Basic

/-! # Specs in documents

The fields of a spec and of its blocks, in the order in which they are written. A block can also be
given as a list of at most one block, as older documents have it.
-/

namespace ManagedCluster

namespace Spec

def Disk.codec : Codec Disk :=
  .record "DiskConfig" [
    .optional "num_local_ssds" .word32 (·.numLocalSsds)
      fun v disk => { disk with numLocalSsds := v },
    .optional "boot_disk_size_gb" .word32 (·.bootDiskSizeGb)
      fun v disk => { disk with bootDiskSizeGb := v }]
    ⟨none, none⟩

def PreemptibleDisk.codec : Codec PreemptibleDisk :=
  .record "PreemptibleDiskConfig" [
    .optional "boot_disk_size_gb" .word32 (·.bootDiskSizeGb)
      fun v disk => { disk with bootDiskSizeGb := v }]
    ⟨none⟩

/-- A list of texts that is left out while it is empty. -/
def textsField {σ : Type} (name : String) (get : σ → List String)
    (set : List String → σ → σ) : Field σ :=
  .unlessEmpty name (.list .text) List.isEmpty get set

/-- A map of texts that is left out while it is empty. -/
def mapField {σ : Type} (name : String) (get : σ → StringMap)
    (set : StringMap → σ → σ) : Field σ :=
  .unlessEmpty name .stringMap StringMap.isEmpty get set

def Group.codec : Codec Group :=
  .record "InstanceGroupConfig" [
    .optional "num_instances" .word32 (·.numInstances)
      fun v group => { group with numInstances := v },
    .optional "machine_type" .text (·.machineType) fun v group => { group with machineType := v },
    .block "disk_config" Disk.codec (·.disk) fun v group => { group with disk := v },
    textsField "instance_names" (·.instanceNames)
      fun v group => { group with instanceNames := v }]
    ⟨none, none, none, []⟩

def PreemptibleGroup.codec : Codec PreemptibleGroup :=
  .record "PreemptibleInstanceGroupConfig" [
    .optional "num_instances" .word32 (·.numInstances)
      fun v group => { group with numInstances := v },
    .block "disk_config" PreemptibleDisk.codec (·.disk) fun v group => { group with disk := v },
    textsField "instance_names" (·.instanceNames)
      fun v group => { group with instanceNames := v }]
    ⟨none, none, []⟩

def Gce.codec : Codec Gce :=
  .record "GceClusterConfig" [
    .optional "zone" .text (·.zone) fun v gce => { gce with zone := v },
    .optional "network" .text (·.network) fun v gce => { gce with network := v },
    .optional "subnetwork" .text (·.subnetwork) fun v gce => { gce with subnetwork := v },
    textsField "tags" (·.tags) fun v gce => { gce with tags := v },
    .optional "service_account" .text (·.serviceAccount)
      fun v gce => { gce with serviceAccount := v },
    textsField "service_account_scopes" (·.serviceAccountScopes)
      fun v gce => { gce with serviceAccountScopes := v }]
    ⟨none, none, none, [], none, []⟩

def Software.codec : Codec Software :=
  .record "SoftwareConfig" [
    .optional "image_version" .text (·.imageVersion)
      fun v software => { software with imageVersion := v },
    mapField "override_properties" (·.overrideProperties)
      fun v software => { software with overrideProperties := v },
    mapField "properties" (·.properties) fun v software => { software with properties := v }]
    ⟨none, .empty, .empty⟩

def Action.codec : Codec Action :=
  .record "InitializationAction" [
    .mandatory "script" .text (·.script) fun v action => { action with script := v },
    .optional "timeout_sec" .word64 (·.timeoutSec) fun v action => { action with timeoutSec := v }]
    ⟨"", none⟩

def Config.codec : Codec Config :=
  .record "ClusterConfig" [
    .defaulted "delete_autogen_bucket" .bool (·.deleteAutogenBucket)
      fun v config => { config with deleteAutogenBucket := v },
    .optional "staging_bucket" .text (·.stagingBucket)
      fun v config => { config with stagingBucket := v },
    .optional "bucket" .text (·.bucket) fun v config => { config with bucket := v },
    .block "gce_cluster_config" Gce.codec (·.gce) fun v config => { config with gce := v },
    .block "master_config" Group.codec (·.master) fun v config => { config with master := v },
    .block "worker_config" Group.codec (·.worker) fun v config => { config with worker := v },
    .block "preemptible_worker_config" PreemptibleGroup.codec (·.preemptibleWorker)
      fun v config => { config with preemptibleWorker := v },
    .block "software_config" Software.codec (·.software)
      fun v config => { config with software := v },
    .unlessEmpty "initialization_action" (.list Action.codec) List.isEmpty
      (·.initializationActions) fun v config => { config with initializationActions := v }]
    ⟨false, none, none, none, none, none, none, none, []⟩

def codec : Codec Spec :=
  .record "DataprocClusterSpec" [
    .mandatory "name" .text (·.name) fun v spec => { spec with name := v },
    .optional "project" .text (·.project) fun v spec => { spec with project := v },
    .defaulted "region" .text (·.region) fun v spec => { spec with region := v },
    mapField "labels" (·.labels) fun v spec => { spec with labels := v },
    .block "cluster_config" Config.codec (·.config) fun v spec => { spec with config := v }]
    (named "")

def toDocument (spec : Spec) : Document := codec.write spec

end Spec

end ManagedCluster
