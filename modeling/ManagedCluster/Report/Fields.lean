import ManagedCluster.Report.Basic
import ManagedCluster.Spec.Fields

/-! # Reports in documents

The fields of the provider's messages. Empty lists, maps and texts and flags that are off are left
out.
-/

namespace ManagedCluster

namespace Report

open Spec (textsField mapField)

def Disk.codec : Codec Disk :=
  .record "DiskConfig" [
    .optional "bootDiskSizeGb" .word32 (·.bootDiskSizeGb)
      fun v disk => { disk with bootDiskSizeGb := v },
    .optional "numLocalSsds" .word32 (·.numLocalSsds) fun v disk => { disk with numLocalSsds := v }]
    ⟨none, none⟩

def Group.codec : Codec Group :=
  .record "InstanceGroupConfig" [
    .optional "numInstances" .word32 (·.numInstances)
      fun v group => { group with numInstances := v },
    textsField "instanceNames" (·.instanceNames) fun v group => { group with instanceNames := v },
    .optional "machineTypeUri" .text (·.machineTypeUri)
      fun v group => { group with machineTypeUri := v },
    .optional "diskConfig" Disk.codec (·.disk) fun v group => { group with disk := v },
    .unlessEmpty "isPreemptible" .bool (!·) (·.isPreemptible)
      fun v group => { group with isPreemptible := v }]
    ⟨none, [], none, none, false⟩

def Gce.codec : Codec Gce :=
  .record "GceClusterConfig" [
    .optional "zoneUri" .text (·.zoneUri) fun v gce => { gce with zoneUri := v },
    .optional "networkUri" .text (·.networkUri) fun v gce => { gce with networkUri := v },
    .optional "subnetworkUri" .text (·.subnetworkUri)
      fun v gce => { gce with subnetworkUri := v },
    textsField "tags" (·.tags) fun v gce => { gce with tags := v },
    .optional "serviceAccount" .text (·.serviceAccount)
      fun v gce => { gce with serviceAccount := v },
    textsField "serviceAccountScopes" (·.serviceAccountScopes)
      fun v gce => { gce with serviceAccountScopes := v }]
    ⟨none, none, none, [], none, []⟩

def Software.codec : Codec Software :=
  .record "SoftwareConfig" [
    .optional "imageVersion" .text (·.imageVersion)
      fun v software => { software with imageVersion := v },
    mapField "properties" (·.properties) fun v software => { software with properties := v }]
    ⟨none, .empty⟩

def Action.codec : Codec Action :=
  .record "NodeInitializationAction" [
    .mandatory "executableFile" .text (·.executableFile)
      fun v action => { action with executableFile := v },
    .optional "executionTimeout" .text (·.executionTimeout)
      fun v action => { action with executionTimeout := v }]
    ⟨"", none⟩

def Config.codec : Codec Config :=
  .record "ClusterConfig" [
    .optional "configBucket" .text (·.configBucket)
      fun v config => { config with configBucket := v },
    .optional "gceClusterConfig" Gce.codec (·.gce) fun v config => { config with gce := v },
    .optional "masterConfig" Group.codec (·.master) fun v config => { config with master := v },
    .optional "workerConfig" Group.codec (·.worker) fun v config => { config with worker := v },
    .optional "secondaryWorkerConfig" Group.codec (·.secondaryWorker)
      fun v config => { config with secondaryWorker := v },
    .optional "softwareConfig" Software.codec (·.software)
      fun v config => { config with software := v },
    .unlessEmpty "initializationActions" (.list Action.codec) List.isEmpty
      (·.initializationActions) fun v config => { config with initializationActions := v }]
    ⟨none, none, none, none, none, none, []⟩

def codec : Codec Report :=
  .record "Cluster" [
    .unlessEmpty "clusterName" .text String.isEmpty (·.clusterName)
      fun v report => { report with clusterName := v },
    .unlessEmpty "projectId" .text String.isEmpty (·.projectId)
      fun v report => { report with projectId := v },
    .optional "config" Config.codec (·.config) fun v report => { report with config := v },
    mapField "labels" (·.labels) fun v report => { report with labels := v },
    .optional "clusterUuid" .text (·.clusterUuid) fun v report => { report with clusterUuid := v }]
    ⟨"", "", none, .empty, none⟩

end Report

namespace Status

def codec : Codec Status :=
  .record "Status" [
    .defaulted "code" .int32 (·.code) fun v status => { status with code := v },
    .defaulted "message" .text (·.message) fun v status => { status with message := v }]
    ⟨0, ""⟩

end Status

namespace Operation

def codec : Codec Operation :=
  .record "Operation" [
    .mandatory "name" .text (·.name) fun v operation => { operation with name := v },
    .defaulted "done" .bool (·.done) fun v operation => { operation with done := v },
    .optional "error" Status.codec (·.error) fun v operation => { operation with error := v }]
    ⟨"", false, none⟩

end Operation

end ManagedCluster
