import CloudReconciler.Time.Duration
import CloudReconciler.Text.Utf8
import CloudReconciler.Text.Blank
import CloudReconciler.Numeric.Binary64
import CloudReconciler.Numeric.Shortest
import CloudReconciler.Time.Instant
import CloudReconciler.Time.Rfc3339
import CloudReconciler.Json.Basic
import CloudReconciler.Json.Token
import CloudReconciler.Json.Reader
import CloudReconciler.Json.Writer
import CloudReconciler.Json.MergePatch
import CloudReconciler.Json.Record
import CloudReconciler.Remote.Problem
import CloudReconciler.Fault
import CloudReconciler.Resource.Phase
import CloudReconciler.Resource.Condition
import CloudReconciler.Resource.Status
import CloudReconciler.Resource.Metadata
import CloudReconciler.Resource.Basic
import CloudReconciler.Resource.Project
import CloudReconciler.Resource.Volume
import CloudReconciler.Effect.Procedure
import CloudReconciler.Remote.Exchange
import CloudReconciler.Remote.Gateway
import CloudReconciler.Remote.ProjectApi
import CloudReconciler.Remote.VolumeApi
import CloudReconciler.Reconcile.Policy
import CloudReconciler.Reconcile.Engine
import CloudReconciler.Reconcile.Transition
import CloudReconciler.Reconcile.Steps
import CloudReconciler.Reconcile.Lifecycle
import CloudReconciler.Reconcile.ProjectLifecycle
import CloudReconciler.Reconcile.VolumeLifecycle
import CloudReconciler.Store.Table
import CloudReconciler.Store.Memory
import CloudReconciler.Scripted.Line
import CloudReconciler.Scripted.Transport
import CloudReconciler.Effect.Tasks
import CloudReconciler.Credentials.Secret
import CloudReconciler.Credentials.Token
import CloudReconciler.Credentials.Manager
import CloudReconciler.Scripted.Desk
import CloudReconciler.Scripted.World
import CloudReconciler.Store.Cluster
import CloudReconciler.Retry.Backoff
import CloudReconciler.Retry.Loop
import CloudReconciler.Credentials.AppRole
import CloudReconciler.Scripted.Backend
import CloudReconciler.Scripted.Timer
import CloudReconciler.Http.Encoding
import CloudReconciler.Text.CodeTable
import CloudReconciler.Text.Mark
import CloudReconciler.Text.Direction
import CloudReconciler.Text.Joining
import CloudReconciler.Text.CombiningClass
import CloudReconciler.Text.Canonical
import CloudReconciler.Text.Folding
import CloudReconciler.Http.Delta
import CloudReconciler.Http.Domain
import CloudReconciler.Http.Host
import CloudReconciler.Http.Url
import CloudReconciler.Http.Wire
import CloudReconciler.Credentials.IdentityClient
import CloudReconciler.Credentials.BackendClient
import CloudReconciler.Remote.Transport
import CloudReconciler.Settings.Basic
import CloudReconciler.Settings.Arguments
import CloudReconciler.Settings.Parameters
import CloudReconciler.Manifest.Schema
import CloudReconciler.Manifest.Definition
import CloudReconciler.Manifest.Yaml
import CloudReconciler.Text.CodeRange
import CloudReconciler.Text.Graphic
import CloudReconciler.Text.Extending
import CloudReconciler.Text.Quoted
import CloudReconciler.Text.Terminal
import CloudReconciler.Credentials.Description
import CloudReconciler.Settings.Help
import CloudReconciler.Command
import CloudReconciler.Main
import CloudReconciler.Proofs.Trace
import CloudReconciler.Proofs.Reconcile.Slot
import CloudReconciler.Proofs.Reconcile.RemoteCalls
import CloudReconciler.Proofs.Reconcile.Invocation
import CloudReconciler.Proofs.Reconcile.Run
import CloudReconciler.Proofs.Scripted.Contract
import CloudReconciler.Proofs.Reconcile.Effect
import CloudReconciler.Proofs.Reconcile.PhaseGraph
import CloudReconciler.Proofs.Reconcile.FinalizerGuard
import CloudReconciler.Proofs.Resource.ConditionHistory
import CloudReconciler.Proofs.Reconcile.StatusRecord
import CloudReconciler.Proofs.Reconcile.SpecDelivery
import CloudReconciler.Proofs.Reconcile.Budget
import CloudReconciler.Proofs.Reconcile.Creation
import CloudReconciler.Proofs.Reconcile.RemoteAddress
import CloudReconciler.Proofs.Interleaving
import CloudReconciler.Proofs.Credentials.ManagerState
import CloudReconciler.Proofs.Reconcile.AuthorizedCalls
import CloudReconciler.Proofs.Operator
import CloudReconciler.Proofs.Credentials.TenantIsolation
import CloudReconciler.Proofs.Credentials.SessionRenewal
import CloudReconciler.Proofs.Reconcile.Outcome
import CloudReconciler.Proofs.Reconcile.RemoteVerdict
import CloudReconciler.Proofs.Reconcile.Rest
import CloudReconciler.Proofs.Reconcile.Deadline
import CloudReconciler.Proofs.Credentials.SerializedLogins
import CloudReconciler.Proofs.Credentials.ColdBurst
import CloudReconciler.Proofs.Reconcile.VolumeHome
import CloudReconciler.Proofs.Time.Calendar
import CloudReconciler.Proofs.Time.Rfc3339
import CloudReconciler.Proofs.Json.Members
import CloudReconciler.Proofs.Resource.StatusDocument
import CloudReconciler.Proofs.Resource.StatusPatch
import CloudReconciler.Proofs.Reconcile.MergedStatus
import CloudReconciler.Proofs.Reconcile.RetryGrid
import CloudReconciler.Proofs.Credentials.CacheHistory
import CloudReconciler.Proofs.Credentials.RenewalSilence
import CloudReconciler.Proofs.Numeric.Rounding
import CloudReconciler.Proofs.Retry.Delays
import CloudReconciler.Proofs.Retry.Settled
import CloudReconciler.Proofs.Reconcile.ReportedState
import CloudReconciler.Proofs.Text.Utf8
import CloudReconciler.Proofs.Json.Lexeme
import CloudReconciler.Proofs.Json.Scan
import CloudReconciler.Proofs.Json.Tree
import CloudReconciler.Proofs.Json.Written
import CloudReconciler.Proofs.Json.Record
import CloudReconciler.Proofs.Remote.ErrorEnvelope
import CloudReconciler.Proofs.Resource.DocumentForms
import CloudReconciler.Proofs.Resource.WireRoundTrip
import CloudReconciler.Proofs.Text.Trimmed
import CloudReconciler.Proofs.Settings.Validation
import CloudReconciler.Proofs.Settings.Endpoints
import CloudReconciler.Proofs.Credentials.RenewalDelay
