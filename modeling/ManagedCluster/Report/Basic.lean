import ManagedCluster.StringMap

/-! # Clusters as the provider sees them

The provider takes the payload of a cluster to create and reports the clusters that there are,
both in the same form. Requests that change a cluster are answered by an operation, which is
followed until it is done.
-/

namespace ManagedCluster

namespace Report

structure Disk where
  bootDiskSizeGb : Option UInt32 := none
  numLocalSsds : Option UInt32 := none
  deriving Repr, DecidableEq

structure Group where
  numInstances : Option UInt32 := none
  instanceNames : List String := []
  machineTypeUri : Option String := none
  disk : Option Disk := none
  isPreemptible : Bool := false
  deriving Repr, DecidableEq

structure Gce where
  zoneUri : Option String := none
  networkUri : Option String := none
  subnetworkUri : Option String := none
  tags : List String := []
  serviceAccount : Option String := none
  serviceAccountScopes : List String := []
  deriving Repr, DecidableEq

structure Software where
  imageVersion : Option String := none
  properties : StringMap := .empty
  deriving Repr, DecidableEq

structure Action where
  executableFile : String
  executionTimeout : Option String := none
  deriving Repr, DecidableEq

structure Config where
  configBucket : Option String := none
  gce : Option Gce := none
  master : Option Group := none
  worker : Option Group := none
  secondaryWorker : Option Group := none
  software : Option Software := none
  initializationActions : List Action := []
  deriving Repr, DecidableEq

end Report

/-- A cluster as the provider takes or reports it. -/
structure Report where
  clusterName : String := ""
  projectId : String := ""
  config : Option Report.Config := none
  labels : StringMap := .empty
  clusterUuid : Option String := none
  deriving Repr, DecidableEq

/-- The address of a cluster. -/
structure ClusterRef where
  project : String
  region : String
  name : String
  deriving Repr, DecidableEq

namespace ClusterRef

def text (target : ClusterRef) : String :=
  "projects/" ++ target.project ++ "/regions/" ++ target.region ++ "/clusters/" ++ target.name

end ClusterRef

/-- Why an operation failed. -/
structure Status where
  code : Int32 := 0
  message : String := ""
  deriving Repr, DecidableEq

/-- A request that the provider works on. -/
structure Operation where
  name : String
  done : Bool := false
  error : Option Status := none
  deriving Repr, DecidableEq

end ManagedCluster
