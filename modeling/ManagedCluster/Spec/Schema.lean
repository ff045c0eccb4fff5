import ManagedCluster.Document.Schema
import ManagedCluster.Spec.Basic

/-! # The schema of specs

What a spec looks like in a document, for editors and other tools. The properties stand in the order
in which specs are written.
-/

namespace ManagedCluster

namespace Spec

/-- A property without which a record is wrong. -/
def requiredProperty (name : String) (shape : Shape) (description : List String) : Property where
  name := name
  shape := shape
  description := description
  required := true

/-- A property that may have no value. -/
def nullableProperty (name : String) (shape : Shape) (description : List String) : Property where
  name := name
  shape := shape
  description := description
  nullable := true

/-- A list or a map that is empty where it is missing. -/
def collectionProperty (name : String) (shape : Shape) (description : List String) : Property where
  name := name
  shape := shape
  description := description

def instanceNamesProperty : Property :=
  collectionProperty "instance_names" (.list .text)
    ["Names of the instances in this group. Computed."]

def Disk.schema : RecordSchema where
  name := "DiskConfig"
  properties := [
    nullableProperty "num_local_ssds" (.word 32) [],
    nullableProperty "boot_disk_size_gb" (.word 32) []]

def PreemptibleDisk.schema : RecordSchema where
  name := "PreemptibleDiskConfig"
  properties := [nullableProperty "boot_disk_size_gb" (.word 32) []]

def Group.schema : RecordSchema where
  name := "InstanceGroupConfig"
  properties := [
    nullableProperty "num_instances" (.word 32) [],
    nullableProperty "machine_type" .text ["Machine type name or URI."],
    nullableProperty "disk_config" (.record Disk.schema.name) [],
    instanceNamesProperty]

def PreemptibleGroup.schema : RecordSchema where
  name := "PreemptibleInstanceGroupConfig"
  description := [
    "Preemptible workers always use the machine type of the primary workers, and the provider",
    "ignores any local SSD count, so neither can be configured here."]
  properties := [
    nullableProperty "num_instances" (.word 32) [],
    nullableProperty "disk_config" (.record PreemptibleDisk.schema.name) [],
    instanceNamesProperty]

def Gce.schema : RecordSchema where
  name := "GceClusterConfig"
  properties := [
    nullableProperty "zone" .text
      ["The zone the instances are placed in. Mandatory if the region is `global`."],
    nullableProperty "network" .text
      ["Name or URI of the network. Conflicts with `subnetwork`."],
    nullableProperty "subnetwork" .text
      ["Name or URI of the subnetwork. Conflicts with `network`."],
    collectionProperty "tags" (.list .text) [],
    nullableProperty "service_account" .text [],
    collectionProperty "service_account_scopes" (.list .text)
      ["Scope URIs or short aliases like `storage-rw`."]]

def Software.schema : RecordSchema where
  name := "SoftwareConfig"
  properties := [
    nullableProperty "image_version" .text [],
    collectionProperty "override_properties" .textMap
      ["Properties passed to the cluster software, e.g. `dataproc:dataproc.allow.zero.workers`."],
    collectionProperty "properties" .textMap
      ["All properties reported by the cluster. Computed."]]

def Action.schema : RecordSchema where
  name := "InitializationAction"
  properties := [
    requiredProperty "script" .text ["URI of the executable to run."],
    nullableProperty "timeout_sec" (.word 64)
      ["Execution timeout in seconds. The provider default applies if unset."]]

def Config.schema : RecordSchema where
  name := "ClusterConfig"
  properties := [
    { name := "delete_autogen_bucket"
      shape := .bool
      description := [
        "Empty and delete the bucket the provider generated for the cluster when the cluster is",
        "deleted. Has no effect if a `staging_bucket` was supplied."]
      default := some (.bool false) },
    nullableProperty "staging_bucket" .text
      ["A user supplied bucket to stage job dependencies and driver output in."],
    nullableProperty "bucket" .text
      ["The bucket in use by the cluster, either the `staging_bucket` or the one generated by",
        "the provider. Computed."],
    nullableProperty "gce_cluster_config" (.record Gce.schema.name) [],
    nullableProperty "master_config" (.record Group.schema.name) [],
    nullableProperty "worker_config" (.record Group.schema.name) [],
    nullableProperty "preemptible_worker_config" (.record PreemptibleGroup.schema.name) [],
    nullableProperty "software_config" (.record Software.schema.name) [],
    collectionProperty "initialization_action" (.list (.record Action.schema.name))
      ["Scripts executed on every node after the cluster has been set up."]]

def recordSchema : RecordSchema where
  name := "DataprocClusterSpec"
  properties := [
    requiredProperty "name" .text
      ["The name of the cluster, unique within the project and region. Changing it forces a new",
        "cluster."],
    nullableProperty "project" .text
      ["The project the cluster belongs to. Falls back to the configured default project."],
    { name := "region"
      shape := .text
      description := ["The region the cluster is created in."]
      default := some (.text globalRegion) },
    collectionProperty "labels" .textMap
      ["User labels. The provider adds its own `goog-dataproc-*` labels."],
    nullableProperty "cluster_config" (.record Config.schema.name) []]

def schema : Document :=
  recordSchema.schema [Config.schema, Disk.schema, Gce.schema, Action.schema, Group.schema,
    PreemptibleDisk.schema, PreemptibleGroup.schema, Software.schema]

end Spec

end ManagedCluster
