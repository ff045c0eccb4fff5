import ManagedCluster.Retry
import ManagedCluster.Spec.Basic
import ManagedCluster.Text.Quoted

/-! # Generated buckets

A cluster without a staging bucket gets one from the provider, which stays when the cluster is
deleted. It is removed with the cluster if the spec says so. What is gone already needs no removal.
-/

namespace ManagedCluster

/-- Why a bucket could not be removed. -/
inductive CleanupError where
  | list (bucket : String) (error : ApiError)
  | deleteObject (bucket object : String) (error : ApiError)
  | deleteBucket (bucket : String) (error : ApiError)
  deriving Repr, DecidableEq

namespace CleanupError

def message : CleanupError → String
  | list bucket _ => "failed to list objects of bucket " ++ Text.quoted bucket
  | deleteObject bucket object _ =>
    "failed to delete object " ++ Text.quoted object ++ " from bucket " ++ Text.quoted bucket
  | deleteBucket bucket _ => "failed to delete bucket " ++ Text.quoted bucket

def causes : CleanupError → List String
  | list _ error | deleteObject _ _ error | deleteBucket _ error => [error.message]

end CleanupError

namespace Spec

/-- The bucket to remove with the cluster: one in use that no user supplied. -/
def generatedBucket? (live : Spec) : Option String :=
  match live.config with
  | none => none
  | some config =>
    if config.deleteAutogenBucket && config.stagingBucket.isNone then
      config.bucket.filter (!·.isEmpty)
    else none

end Spec

namespace Bucket

/-- Delete objects in order, up to the first that cannot be deleted. -/
def deleteObjects (bucket : String) : List String → Session (Except CleanupError Unit)
  | [] => return .ok ()
  | object :: rest => do
    match ← Session.deleteObject bucket object with
    | .ok () | .error (.notFound _) => deleteObjects bucket rest
    | .error error => return .error (.deleteObject bucket object error)

/-- Delete a bucket without objects. -/
def delete (policy : RetryPolicy) (bucket : String) : Session (Except CleanupError Unit) := do
  match ← policy.retry (Session.deleteBucket bucket) with
  | .ok () | .error (.notFound _) => return .ok ()
  | .error error => return .error (.deleteBucket bucket error)

/-- Delete all objects of a bucket and then the bucket. -/
def remove (policy : RetryPolicy) (bucket : String) : Session (Except CleanupError Unit) := do
  match ← Session.listObjects bucket with
  | .ok objects =>
    match ← deleteObjects bucket objects with
    | .ok () => delete policy bucket
    | .error error => return .error error
  | .error (.notFound _) => return .ok ()
  | .error error => return .error (.list bucket error)

end Bucket

end ManagedCluster
