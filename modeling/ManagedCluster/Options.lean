import ManagedCluster.Document.Record

/-! # Options of a reconciler

How long the provider may take for each kind of change, how often it is asked, and which project
holds the clusters that name none. Every option has a default.
-/

namespace ManagedCluster

/-- How long each kind of change may take. -/
structure Timeouts where
  create : Duration
  update : Duration
  delete : Duration
  deriving Repr, DecidableEq

/-- The options of a reconciler. -/
structure Options where
  /-- The project of clusters that name none. -/
  defaultProject : Option String := none
  createTimeout : Duration := Duration.ofSeconds 600
  updateTimeout : Duration := Duration.ofSeconds 300
  deleteTimeout : Duration := Duration.ofSeconds 300
  /-- The time between two looks at an operation. -/
  pollInterval : Duration := Duration.ofSeconds 10
  /-- The first delay after a request that was rate limited. -/
  initialBackoff : Duration := Duration.ofSeconds 1
  /-- The longest delay between requests that are rate limited. -/
  maxBackoff : Duration := Duration.ofSeconds 30
  /-- How often the deletion of a bucket is attempted. -/
  bucketDeleteAttempts : UInt32 := 5
  deriving Repr, DecidableEq

namespace Options

instance : Inhabited Options := ⟨{}⟩

def timeouts (options : Options) : Timeouts :=
  ⟨options.createTimeout, options.updateTimeout, options.deleteTimeout⟩

def codec : Codec Options :=
  .record "ReconcilerOptions" [
    .optional "defaultProject" .text (·.defaultProject)
      fun v options => { options with defaultProject := v },
    .defaulted "createTimeout" .duration (·.createTimeout)
      fun v options => { options with createTimeout := v },
    .defaulted "updateTimeout" .duration (·.updateTimeout)
      fun v options => { options with updateTimeout := v },
    .defaulted "deleteTimeout" .duration (·.deleteTimeout)
      fun v options => { options with deleteTimeout := v },
    .defaulted "pollInterval" .duration (·.pollInterval)
      fun v options => { options with pollInterval := v },
    .defaulted "initialBackoff" .duration (·.initialBackoff)
      fun v options => { options with initialBackoff := v },
    .defaulted "maxBackoff" .duration (·.maxBackoff)
      fun v options => { options with maxBackoff := v },
    .defaulted "bucketDeleteAttempts" .word32 (·.bucketDeleteAttempts)
      fun v options => { options with bucketDeleteAttempts := v }]
    {}

end Options

def Timeouts.standard : Timeouts := Options.timeouts {}

end ManagedCluster
