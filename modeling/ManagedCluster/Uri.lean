/-! # Resource addresses

A resource is given by its name alone or by an address whose last segment is that name. The two
forms mean the same resource.
-/

namespace ManagedCluster

namespace Uri

/-- What follows the last slash, or the whole text if it has none. -/
def lastSegment (uri : String) : String :=
  String.ofList (uri.toList.reverse.takeWhile (· ≠ '/')).reverse

example : lastSegment "projects/p/zones/europe-west1-b" = "europe-west1-b" := by decide

example : lastSegment "default" = "default" ∧ lastSegment "net/" = "" := by decide

end Uri

end ManagedCluster
