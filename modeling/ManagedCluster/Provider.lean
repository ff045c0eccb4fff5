import ManagedCluster.Program
import ManagedCluster.Report.Basic

/-! # Requests to the provider

The provider knows few requests. Each is answered by a value of its own type or by an error; only a
request that came too often can be sent again.
-/

namespace ManagedCluster

/-- Why the provider did not do what it was asked. -/
inductive ApiError where
  | notFound (resource : String)
  | rateLimited (message : String)
  | rejected (code : Int32) (message : String)
  deriving Repr, DecidableEq

namespace ApiError

def message : ApiError → String
  | notFound resource => resource ++ " was not found"
  | rateLimited message => "request was rate limited: " ++ message
  | rejected code message =>
    "provider rejected the request with code " ++ toString code.toInt ++ ": " ++ message

end ApiError

/-- A request to the provider. -/
inductive Request where
  | createCluster (project region : String) (cluster : Report)
  | patchCluster (target : ClusterRef) (cluster : Report) (mask : String)
  | getCluster (target : ClusterRef)
  | deleteCluster (target : ClusterRef)
  | getOperation (name : String)
  /-- For the names of the objects in a bucket. -/
  | listObjects (bucket : String)
  | deleteObject (bucket object : String)
  | deleteBucket (bucket : String)
  deriving Repr, DecidableEq

namespace Request

/-- What the provider returns if all is well. -/
@[reducible] def Reply : Request → Type
  | createCluster _ _ _ => Operation
  | patchCluster _ _ _ => Operation
  | getCluster _ => Report
  | deleteCluster _ => Operation
  | getOperation _ => Operation
  | listObjects _ => List String
  | deleteObject _ _ => Unit
  | deleteBucket _ => Unit

abbrev Answer (request : Request) : Type := Except ApiError request.Reply

end Request

/-- A program that talks to the provider. -/
abbrev Session (α : Type) : Type := Program Request Request.Answer α

namespace Session

def createCluster (project region : String) (cluster : Report) :
    Session (Except ApiError Operation) :=
  Program.ask (Request.createCluster project region cluster)

def patchCluster (target : ClusterRef) (cluster : Report) (mask : String) :
    Session (Except ApiError Operation) :=
  Program.ask (Request.patchCluster target cluster mask)

def getCluster (target : ClusterRef) : Session (Except ApiError Report) :=
  Program.ask (Request.getCluster target)

def deleteCluster (target : ClusterRef) : Session (Except ApiError Operation) :=
  Program.ask (Request.deleteCluster target)

def getOperation (name : String) : Session (Except ApiError Operation) :=
  Program.ask (Request.getOperation name)

def listObjects (bucket : String) : Session (Except ApiError (List String)) :=
  Program.ask (Request.listObjects bucket)

def deleteObject (bucket object : String) : Session (Except ApiError Unit) :=
  Program.ask (Request.deleteObject bucket object)

def deleteBucket (bucket : String) : Session (Except ApiError Unit) :=
  Program.ask (Request.deleteBucket bucket)

end Session

end ManagedCluster
