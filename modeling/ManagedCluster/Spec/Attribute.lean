/-! # Attributes of a spec

The attributes that cannot change on a running cluster. Messages call them by their path in the
document of a spec.
-/

namespace ManagedCluster

namespace Spec

/-- An attribute that only a new cluster can change. -/
inductive Attribute where
  | name
  | project
  | region
  | stagingBucket
  | zone
  | network
  | subnetwork
  | tags
  | serviceAccount
  | serviceAccountScopes
  | masterCount
  | masterMachineType
  | masterLocalSsds
  | masterBootDisk
  | workerMachineType
  | workerLocalSsds
  | workerBootDisk
  | preemptibleBootDisk
  | imageVersion
  | overrideProperties
  | initializationActions
  deriving Repr, DecidableEq

namespace Attribute

/-- All attributes, in the order in which they are listed. -/
def all : List Attribute := [
  name, project, region, stagingBucket, zone, network, subnetwork, tags, serviceAccount,
  serviceAccountScopes, masterCount, masterMachineType, masterLocalSsds, masterBootDisk,
  workerMachineType, workerLocalSsds, workerBootDisk, preemptibleBootDisk, imageVersion,
  overrideProperties, initializationActions]

def inConfig (path : List String) : String := ".".intercalate ("cluster_config" :: path)

def path : Attribute → String
  | name => "name"
  | project => "project"
  | region => "region"
  | stagingBucket => inConfig ["staging_bucket"]
  | zone => inConfig ["gce_cluster_config", "zone"]
  | network => inConfig ["gce_cluster_config", "network"]
  | subnetwork => inConfig ["gce_cluster_config", "subnetwork"]
  | tags => inConfig ["gce_cluster_config", "tags"]
  | serviceAccount => inConfig ["gce_cluster_config", "service_account"]
  | serviceAccountScopes => inConfig ["gce_cluster_config", "service_account_scopes"]
  | masterCount => inConfig ["master_config", "num_instances"]
  | masterMachineType => inConfig ["master_config", "machine_type"]
  | masterLocalSsds => inConfig ["master_config", "disk_config", "num_local_ssds"]
  | masterBootDisk => inConfig ["master_config", "disk_config", "boot_disk_size_gb"]
  | workerMachineType => inConfig ["worker_config", "machine_type"]
  | workerLocalSsds => inConfig ["worker_config", "disk_config", "num_local_ssds"]
  | workerBootDisk => inConfig ["worker_config", "disk_config", "boot_disk_size_gb"]
  | preemptibleBootDisk =>
    inConfig ["preemptible_worker_config", "disk_config", "boot_disk_size_gb"]
  | imageVersion => inConfig ["software_config", "image_version"]
  | overrideProperties => inConfig ["software_config", "override_properties"]
  | initializationActions => inConfig ["initialization_action"]

theorem mem_all (a : Attribute) : a ∈ all := by
  cases a <;> decide

end Attribute

end Spec

end ManagedCluster
