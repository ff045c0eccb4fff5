import ManagedCluster.Spec.Attribute
import ManagedCluster.Spec.Basic
import ManagedCluster.Text.Quoted

/-! # Rules for specs

The provider refuses some specs only after minutes. The rules that need no provider are checked
beforehand, all at once.
-/

namespace ManagedCluster

/-- A rule that a spec breaks. -/
inductive Violation where
  /-- The name takes too many bytes. -/
  | tooLong (bytes : Nat)
  | badName
  | tooSmall (path : String) (gigabytes : UInt32)
  /-- Two attributes exclude each other. -/
  | conflict (first second : Spec.Attribute)
  | missingZone (region : String)
  deriving Repr, DecidableEq

/-- The most bytes that the name of a cluster can take. -/
def maxNameBytes : Nat := 55

/-- The size of the smallest boot disk. -/
def minBootDiskGigabytes : UInt32 := 10

namespace Violation

/-- The form of a cluster name, as messages show it. -/
def namePattern : String := "[a-z]([-a-z0-9]*[a-z0-9])?"

def nameExamples : List String := ["my-cluster", "etl-2"]

def message : Violation → String
  | tooLong bytes =>
    "input is " ++ toString bytes ++ " bytes long but must be no more than "
      ++ toString maxNameBytes
  | badName =>
    "a cluster name must consist of lower case alphanumeric characters or '-', start with a "
      ++ "letter, and end with a letter or a number (e.g. "
      ++ ", or ".intercalate (nameExamples.map Text.quoted)
      ++ ", regex used for validation is " ++ Text.quoted namePattern ++ ")"
  | tooSmall path gigabytes =>
    path ++ " is " ++ toString gigabytes.toNat ++ " but must be at least "
      ++ toString minBootDiskGigabytes.toNat
  | conflict first second =>
    first.path ++ " conflicts with " ++ second.path ++ ", only one of them may be set"
  | missingZone region => "zone is mandatory when region is set to " ++ Text.quoted region

def messages (violations : List Violation) : String :=
  ", ".intercalate (violations.map message)

end Violation

def isNameLetter (c : Char) : Bool := 'a' ≤ c && c ≤ 'z'

def isNameEnd (c : Char) : Bool := isNameLetter c || ('0' ≤ c && c ≤ '9')

/-- The text starts with a letter, ends with a letter or a digit and has only these and hyphens. -/
def hasNameForm (name : List Char) : Bool :=
  name.head?.any isNameLetter && name.getLast?.any isNameEnd
    && name.all fun c => c == '-' || isNameEnd c

def nameViolations (name : String) : List Violation :=
  (if maxNameBytes < name.utf8ByteSize then [.tooLong name.utf8ByteSize] else [])
    ++ (if hasNameForm name.toList then [] else [.badName])

def bootDiskViolation? (path : String) (gigabytes : UInt32) : Option Violation :=
  if gigabytes < minBootDiskGigabytes then some (.tooSmall path gigabytes) else none

namespace Spec

/-- The attributes that are boot disk sizes, and their values. -/
def bootDisks (spec : Spec) : List (Attribute × Option UInt32) := [
  (.masterBootDisk, spec.master?.bind (·.disk) |>.bind (·.bootDiskSizeGb)),
  (.workerBootDisk, spec.worker?.bind (·.disk) |>.bind (·.bootDiskSizeGb)),
  (.preemptibleBootDisk, spec.preemptibleWorker?.bind (·.disk) |>.bind (·.bootDiskSizeGb))]

/-- A network and a subnetwork are set. -/
def hasConflict (spec : Spec) : Bool :=
  spec.gce?.any fun gce => gce.network.isSome && gce.subnetwork.isSome

/-- A zone is set that is no empty text. -/
def hasZone (spec : Spec) : Bool :=
  (spec.gce?.bind (·.zone)).any fun zone => !zone.isEmpty

def violations (spec : Spec) : List Violation :=
  nameViolations spec.name
    ++ (if spec.hasConflict then [.conflict .network .subnetwork] else [])
    ++ (if spec.region = globalRegion && !spec.hasZone then [.missingZone spec.region] else [])
    ++ spec.bootDisks.filterMap fun (disk, size) =>
      size.bind (bootDiskViolation? disk.path)

end Spec

example : hasNameForm ['e', 't', 'l', '-', '2'] = true ∧ hasNameForm ['e', '-'] = false := by decide

example : hasNameForm [] = false ∧ hasNameForm ['2'] = false ∧ hasNameForm ['a', '\n'] = false := by
  decide

end ManagedCluster
