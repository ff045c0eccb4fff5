import ManagedCluster.Bucket
import ManagedCluster.CommandLine
import ManagedCluster.Decimal.Shortest
import ManagedCluster.Decimal.Text
import ManagedCluster.Document.Basic
import ManagedCluster.Document.Decoder
import ManagedCluster.Document.Json
import ManagedCluster.Document.Record
import ManagedCluster.Document.Resolution
import ManagedCluster.Document.Schema
import ManagedCluster.Drift
import ManagedCluster.Duration.Basic
import ManagedCluster.Duration.Parse
import ManagedCluster.Numeral
import ManagedCluster.Options
import ManagedCluster.Patch
import ManagedCluster.Payload
import ManagedCluster.Polling
import ManagedCluster.Program
import ManagedCluster.Proofs.Document.Blocks
import ManagedCluster.Proofs.Document.Entries
import ManagedCluster.Proofs.Document.Faithful
import ManagedCluster.Proofs.Document.Numerals
import ManagedCluster.Proofs.Document.Overfull
import ManagedCluster.Proofs.Document.Places
import ManagedCluster.Proofs.Document.RecordBlocks
import ManagedCluster.Proofs.Document.Records
import ManagedCluster.Proofs.Document.RoundTrip
import ManagedCluster.Proofs.Document.Shown
import ManagedCluster.Proofs.Document.SpecBlocks
import ManagedCluster.Proofs.Document.Trees
import ManagedCluster.Proofs.Drift
import ManagedCluster.Proofs.Drift.Changes
import ManagedCluster.Proofs.Drift.Settable
import ManagedCluster.Proofs.Duration.Grammar
import ManagedCluster.Proofs.Duration.Reading
import ManagedCluster.Proofs.Duration.Showing
import ManagedCluster.Proofs.Duration.WireSeconds
import ManagedCluster.Proofs.NormalForm
import ManagedCluster.Proofs.Numeral
import ManagedCluster.Proofs.Patch
import ManagedCluster.Proofs.Patch.Leaves
import ManagedCluster.Proofs.Reconcile.Buckets
import ManagedCluster.Proofs.Reconcile.Calls
import ManagedCluster.Proofs.Reconcile.Coherence
import ManagedCluster.Proofs.Reconcile.Convergence
import ManagedCluster.Proofs.Reconcile.Creation
import ManagedCluster.Proofs.Reconcile.Deletion
import ManagedCluster.Proofs.Reconcile.History
import ManagedCluster.Proofs.Reconcile.Outcomes
import ManagedCluster.Proofs.Reconcile.Patching
import ManagedCluster.Proofs.Reconcile.Rereading
import ManagedCluster.Proofs.Reconcile.Targets
import ManagedCluster.Proofs.Reflection.Basic
import ManagedCluster.Proofs.Reflection.Carried
import ManagedCluster.Proofs.Reflection.Enrichment
import ManagedCluster.Proofs.Reflection.Live
import ManagedCluster.Proofs.Reflection.RoundTrip
import ManagedCluster.Proofs.Reflection.WriteOnly
import ManagedCluster.Proofs.Result
import ManagedCluster.Proofs.Scope
import ManagedCluster.Proofs.Session.Attempts
import ManagedCluster.Proofs.Session.Backoff
import ManagedCluster.Proofs.Session.Cleanup
import ManagedCluster.Proofs.Session.Emptying
import ManagedCluster.Proofs.Session.Keeper
import ManagedCluster.Proofs.Session.Operations
import ManagedCluster.Proofs.Session.Pace
import ManagedCluster.Proofs.Session.Requests
import ManagedCluster.Proofs.Session.Stream
import ManagedCluster.Proofs.Session.Trace
import ManagedCluster.Proofs.StringMap
import ManagedCluster.Proofs.Validation
import ManagedCluster.Proofs.Validation.Name
import ManagedCluster.Provider
import ManagedCluster.Reconcile
import ManagedCluster.Reflection
import ManagedCluster.Rehearsal
import ManagedCluster.Report.Basic
import ManagedCluster.Report.Fields
import ManagedCluster.Retry
import ManagedCluster.Scope
import ManagedCluster.Spec.Attribute
import ManagedCluster.Spec.Basic
import ManagedCluster.Spec.Fields
import ManagedCluster.Spec.Schema
import ManagedCluster.Storage
import ManagedCluster.StringMap
import ManagedCluster.Text.Blank
import ManagedCluster.Text.Printable
import ManagedCluster.Text.Quoted
import ManagedCluster.Uri
import ManagedCluster.Validation
import ManagedCluster.Yaml.Character
import ManagedCluster.Yaml.Cursor
import ManagedCluster.Yaml.Layout
import ManagedCluster.Yaml.Lexer
import ManagedCluster.Yaml.PropertyToken
import ManagedCluster.Yaml.ScalarForm
import ManagedCluster.Yaml.ScalarToken
import ManagedCluster.Yaml.Token
import ManagedCluster.Yaml.Tree
