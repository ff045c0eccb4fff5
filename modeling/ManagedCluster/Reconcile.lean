import ManagedCluster.Bucket
import ManagedCluster.Drift
import ManagedCluster.Options
import ManagedCluster.Patch
import ManagedCluster.Polling
import ManagedCluster.Reflection
import ManagedCluster.Spec.Fields
import ManagedCluster.Payload

/-! # Creating, reading, updating and deleting a cluster

What is known of a cluster between two calls is its state: an identity, once it was created, and
what was last read of it. Each call takes a state and returns the state that holds after it, also
when it fails.
-/

namespace ManagedCluster

/-- What is known of a cluster. -/
structure ClusterState where
  /-- The name of a cluster that was created or read. -/
  id : Option String := none
  /-- The cluster when it was last read. -/
  live : Option Spec := none
  deriving Repr, DecidableEq

namespace ClusterState

/-- The state of a cluster that there is not. -/
def empty : ClusterState := {}

instance : Inhabited ClusterState := ⟨empty⟩

def codec : Codec ClusterState :=
  .record "ResourceState" [
    .optional "id" .text (·.id) fun v state => { state with id := v },
    .optional "live" Spec.codec (·.live) fun v state => { state with live := v }]
    {}

end ClusterState

/-- Why a call failed. -/
inductive ReconcileError where
  | payload (error : PayloadError)
  | create (cluster : String) (error : PollError)
  | read (cluster : String) (error : ApiError)
  | reflect (cluster : String) (error : ReflectError)
  | notCreated (cluster : String)
  | requiresReplacement (cluster : String) (attributes : List Spec.Attribute)
  | update (cluster : String) (error : PollError)
  | cleanup (cluster : String) (error : CleanupError)
  | delete (cluster : String) (error : PollError)
  /-- The cluster was created and then never read. -/
  | missingLiveState (id : String)
  deriving Repr, DecidableEq

namespace ReconcileError

def message : ReconcileError → String
  | payload _ => "failed to translate cluster"
  | create cluster _ => "failed to create cluster " ++ Text.quoted cluster
  | read cluster _ => "failed to read cluster " ++ Text.quoted cluster
  | reflect cluster _ => "failed to reflect the state of cluster " ++ Text.quoted cluster
  | notCreated cluster => "cluster " ++ Text.quoted cluster ++ " has not been created yet"
  | requiresReplacement cluster attributes =>
    "cluster " ++ Text.quoted cluster ++ " must be replaced to change "
      ++ ", ".intercalate (attributes.map Spec.Attribute.path)
  | update cluster _ => "failed to update cluster " ++ Text.quoted cluster
  | cleanup cluster _ =>
    "failed to clean up the staging bucket of cluster " ++ Text.quoted cluster
  | delete cluster _ => "failed to delete cluster " ++ Text.quoted cluster
  | missingLiveState id => "state of cluster " ++ Text.quoted id ++ " is missing its live state"

/-- What lies behind the error, as it is shown, the nearest cause first. -/
def causes : ReconcileError → List String
  | payload error => error.message :: error.causes
  | create _ error | update _ error | delete _ error => error.message :: error.causes
  | read _ error => [error.message]
  | reflect _ error => error.message :: error.causes
  | cleanup _ error => error.message :: error.causes
  | _ => []

end ReconcileError

/-- What all calls for a cluster share. -/
structure Reconciler where
  options : Options
  timeouts : Timeouts
  /-- How often one operation is looked at before waiting for it is cut off. -/
  patience : Nat

namespace Reconciler

/-- How often the creation of a cluster is attempted while it is rate limited. -/
def createAttempts : UInt32 := 3

/-- How often an update is attempted while it is rate limited. -/
def updateAttempts : UInt32 := 2

/-- How often the deletion of a cluster is attempted while it is rate limited. -/
def deleteAttempts : UInt32 := 3

variable (reconciler : Reconciler)

def retryPolicy (maxAttempts : UInt32) : RetryPolicy where
  maxAttempts := maxAttempts
  initialDelay := reconciler.options.initialBackoff
  maxDelay := reconciler.options.maxBackoff

def pollPolicy (timeout : Duration) (maxAttempts : UInt32) : PollPolicy where
  timeout := timeout
  interval := reconciler.options.pollInterval
  retry := reconciler.retryPolicy maxAttempts
  patience := reconciler.patience

/-- Where a cluster is. -/
def target (spec : Spec) : Except ReconcileError ClusterRef :=
  match spec.projectOr reconciler.options.defaultProject with
  | .ok project => .ok ⟨project, spec.region, spec.name⟩
  | .error error => .error (.payload error)

/-- Read the cluster again. The state of one that is gone becomes empty, and one that is there
becomes the live state. -/
def read (desired : Spec) (state : ClusterState) :
    Session (Except ReconcileError (Option Spec) × ClusterState) := do
  match reconciler.target desired with
  | .error error => return (.error error, state)
  | .ok target =>
    match ← Session.getCluster target with
    | .error (.notFound _) => return (.ok none, .empty)
    | .error error => return (.error (.read desired.name error), state)
    | .ok report =>
      match report.reflectOnto desired with
      | .error error => return (.error (.reflect desired.name error), state)
      | .ok live => return (.ok (some live), ⟨some desired.name, some live⟩)

/-- Read the cluster as the last part of a change. -/
def refresh (desired : Spec) (state : ClusterState) :
    Session (Except ReconcileError Unit × ClusterState) := do
  let (result, state) ← reconciler.read desired state
  return (result.map fun _ => (), state)

/-- Create the cluster and read it. A cluster that does not come up has no identity. -/
def create (desired : Spec) (state : ClusterState) :
    Session (Except ReconcileError Unit × ClusterState) := do
  match desired.payload reconciler.options.defaultProject with
  | .error error => return (.error (.payload error), state)
  | .ok payload =>
    let policy := reconciler.pollPolicy reconciler.timeouts.create createAttempts
    let description := "creating cluster " ++ desired.name
    match ← policy.submit description
        (Session.createCluster payload.projectId desired.region payload) with
    | .error error => return (.error (.create desired.name error), state)
    | .ok operation =>
      match ← policy.wait description operation with
      | .error error => return (.error (.create desired.name error), { state with id := none })
      | .ok _ => reconciler.refresh desired { state with id := some desired.name }

/-- Apply to the live cluster what can change while it runs, and read it. Any other change is
refused before anything is sent. -/
def update (desired : Spec) (state : ClusterState) :
    Session (Except ReconcileError Unit × ClusterState) := do
  match state.live with
  | none => return (.error (.notCreated desired.name), state)
  | some prior =>
    match prior.replacements desired with
    | first :: others =>
      return (.error (.requiresReplacement desired.name (first :: others)), state)
    | [] =>
      match prior.patch? desired with
      | none => reconciler.refresh desired state
      | some patch =>
        match reconciler.target desired with
        | .error error => return (.error error, state)
        | .ok target =>
          let policy := reconciler.pollPolicy reconciler.timeouts.update updateAttempts
          match ← policy.complete ("updating cluster " ++ desired.name)
              (Session.patchCluster target patch.cluster patch.mask) with
          | .error error => return (.error (.update desired.name error), state)
          | .ok _ => reconciler.refresh desired state

/-- Remove the generated bucket of a live cluster, if it goes with the cluster. -/
def removeBucket (live : Spec) : Session (Except ReconcileError Unit) := do
  match live.generatedBucket? with
  | none => return .ok ()
  | some bucket =>
    let policy := reconciler.retryPolicy reconciler.options.bucketDeleteAttempts
    return (← Bucket.remove policy bucket).mapError (.cleanup live.name)

/-- Delete the live cluster, and its generated bucket before it. The state becomes empty when the
cluster is gone. -/
def delete (state : ClusterState) : Session (Except ReconcileError Unit × ClusterState) := do
  match state.live, state.id with
  | none, none => return (.ok (), state)
  | none, some id => return (.error (.missingLiveState id), state)
  | some live, _ =>
    match reconciler.target live with
    | .error error => return (.error error, state)
    | .ok target =>
      match ← reconciler.removeBucket live with
      | .error error => return (.error error, state)
      | .ok () =>
        let policy := reconciler.pollPolicy reconciler.timeouts.delete deleteAttempts
        match ← policy.complete ("deleting cluster " ++ live.name)
            (Session.deleteCluster target) with
        | .error error => return (.error (.delete live.name error), state)
        | .ok _ => return (.ok (), .empty)

end Reconciler

end ManagedCluster
