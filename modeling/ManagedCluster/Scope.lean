/-! # Access scopes

A scope is written as an address or as a short alias of one. The provider reports addresses only and
adds three baseline scopes to every cluster, so scopes are compared as sets of addresses that
contain the baseline.
-/

namespace ManagedCluster

namespace Scope

/-- How the address of every scope starts. -/
def addressBase : String := "https://www.googleapis.com/auth/"

/-- The scopes that the provider gives to every cluster. -/
def baseline : List String :=
  ["cloud.useraccounts.readonly", "devstorage.read_write", "logging.write"].map (addressBase ++ ·)

def aliasEndings : List (String × String) := [
  ("bigquery", "bigquery"),
  ("cloud-platform", "cloud-platform"),
  ("cloud-source-repos", "source.full_control"),
  ("cloud-source-repos-ro", "source.read_only"),
  ("compute-ro", "compute.readonly"),
  ("compute-rw", "compute"),
  ("datastore", "datastore"),
  ("logging-write", "logging.write"),
  ("monitoring", "monitoring"),
  ("monitoring-write", "monitoring.write"),
  ("pubsub", "pubsub"),
  ("service-control", "servicecontrol"),
  ("service-management", "service.management.readonly"),
  ("sql", "sqlservice"),
  ("sql-admin", "sqlservice.admin"),
  ("storage-full", "devstorage.full_control"),
  ("storage-ro", "devstorage.read_only"),
  ("storage-rw", "devstorage.read_write"),
  ("taskqueue", "taskqueue"),
  ("useraccounts-ro", "cloud.useraccounts.readonly"),
  ("useraccounts-rw", "cloud.useraccounts"),
  ("userinfo-email", "userinfo.email")]

def aliases : List (String × String) :=
  aliasEndings.map fun (name, ending) => (name, addressBase ++ ending)

/-- The address of a scope. A text that is no alias stands for itself. -/
def canonical (scope : String) : String :=
  (aliases.lookup scope).getD scope

/-- The addresses of some scopes in increasing order, with repetitions. -/
def canonicalList (scopes : List String) : List String :=
  (scopes.map canonical).mergeSort fun a b => a ≤ b

/-- The addresses that a cluster with these scopes has. -/
def effective (scopes : List String) : List String :=
  scopes.map canonical ++ baseline

/-- A cluster with the one list of scopes has the same access as a cluster with the other. -/
def equivalent (left right : List String) : Bool :=
  (effective left).all (effective right).contains && (effective right).all (effective left).contains

example : canonical "storage-rw" = "https://www.googleapis.com/auth/devstorage.read_write" := by
  decide +kernel

example : equivalent ["logging-write", "sql"] ["sql", "sql", "storage-rw"] = true := by
  decide +kernel

end Scope

end ManagedCluster
