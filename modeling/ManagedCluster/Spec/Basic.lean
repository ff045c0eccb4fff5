import ManagedCluster.StringMap

/-! # Declared clusters

A spec says what cluster is wanted. The same tree holds the live state of a cluster; then the
attributes that only the provider knows (bucket, instance names, properties) have values too. A
block that is absent differs from one that is there and empty.
-/

namespace ManagedCluster

namespace Spec

/-- The disks of each instance of a group. -/
structure Disk where
  numLocalSsds : Option UInt32 := none
  bootDiskSizeGb : Option UInt32 := none
  deriving Repr, DecidableEq

/-- The disks of each preemptible instance. -/
structure PreemptibleDisk where
  bootDiskSizeGb : Option UInt32 := none
  deriving Repr, DecidableEq

/-- A group of instances: the masters or the primary workers. -/
structure Group where
  numInstances : Option UInt32 := none
  machineType : Option String := none
  disk : Option Disk := none
  /-- Known from the provider only. -/
  instanceNames : List String := []
  deriving Repr, DecidableEq

/-- The preemptible workers, which have the machine type of the primary ones. -/
structure PreemptibleGroup where
  numInstances : Option UInt32 := none
  disk : Option PreemptibleDisk := none
  /-- Known from the provider only. -/
  instanceNames : List String := []
  deriving Repr, DecidableEq

/-- Where the instances are placed and what they may access. -/
structure Gce where
  zone : Option String := none
  network : Option String := none
  subnetwork : Option String := none
  tags : List String := []
  serviceAccount : Option String := none
  serviceAccountScopes : List String := []
  deriving Repr, DecidableEq

/-- The software on the cluster. -/
structure Software where
  imageVersion : Option String := none
  overrideProperties : StringMap := .empty
  /-- Known from the provider only. -/
  properties : StringMap := .empty
  deriving Repr, DecidableEq

/-- A script that runs on every node after the cluster is set up. -/
structure Action where
  script : String
  timeoutSec : Option UInt64 := none
  deriving Repr, DecidableEq

/-- All that is said of a cluster beside its name and place. -/
structure Config where
  /-- Delete the generated bucket with the cluster. -/
  deleteAutogenBucket : Bool := false
  stagingBucket : Option String := none
  /-- The bucket in use. Known from the provider only. -/
  bucket : Option String := none
  gce : Option Gce := none
  master : Option Group := none
  worker : Option Group := none
  preemptibleWorker : Option PreemptibleGroup := none
  software : Option Software := none
  initializationActions : List Action := []
  deriving Repr, DecidableEq

/-- The region whose clusters have to name a zone. -/
def globalRegion : String := "global"

end Spec

/-- A declared cluster, or the live state of one. -/
structure Spec where
  name : String
  project : Option String := none
  region : String := Spec.globalRegion
  labels : StringMap := .empty
  config : Option Spec.Config := none
  deriving Repr, DecidableEq

namespace Spec

/-- The spec with only a name, in the default region. -/
def named (name : String) : Spec := ⟨name, none, globalRegion, .empty, none⟩

def gce? (spec : Spec) : Option Gce := spec.config.bind (·.gce)

def master? (spec : Spec) : Option Group := spec.config.bind (·.master)

def worker? (spec : Spec) : Option Group := spec.config.bind (·.worker)

def preemptibleWorker? (spec : Spec) : Option PreemptibleGroup :=
  spec.config.bind (·.preemptibleWorker)

def software? (spec : Spec) : Option Software := spec.config.bind (·.software)

end Spec

end ManagedCluster
