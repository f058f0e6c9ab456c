import RelayFleet.Api.Collection
import RelayFleet.Api.Refusal
import RelayFleet.Api.Reply
import RelayFleet.Api.Request
import RelayFleet.Api.Status
import RelayFleet.Api.Write
import RelayFleet.Backoff
import RelayFleet.CommandLine
import RelayFleet.Distribution.Basic
import RelayFleet.Distribution.Forwarder
import RelayFleet.Distribution.Head
import RelayFleet.Distribution.Host
import RelayFleet.Distribution.Http
import RelayFleet.Distribution.Topic
import RelayFleet.Document.Basic
import RelayFleet.Document.Protocol
import RelayFleet.Document.Wire
import RelayFleet.Fault
import RelayFleet.Json.Basic
import RelayFleet.Json.Equality
import RelayFleet.Json.Kept
import RelayFleet.Json.Record
import RelayFleet.Json.Text
import RelayFleet.Json.Token
import RelayFleet.Main
import RelayFleet.Operator.Basic
import RelayFleet.Operator.Call
import RelayFleet.Operator.Round
import RelayFleet.Operator.Tracked
import RelayFleet.Pipeline.Basic
import RelayFleet.Pipeline.Renderer
import RelayFleet.Pipeline.Schedule
import RelayFleet.Program
import RelayFleet.Proofs.Api.Finalizers
import RelayFleet.Proofs.Api.Server
import RelayFleet.Proofs.Distribution.Access
import RelayFleet.Proofs.Distribution.Basic
import RelayFleet.Proofs.Distribution.Calls
import RelayFleet.Proofs.Distribution.Channel
import RelayFleet.Proofs.Distribution.Forwarder
import RelayFleet.Proofs.Distribution.Registry
import RelayFleet.Proofs.Distribution.Subscriber
import RelayFleet.Proofs.Distribution.Versions
import RelayFleet.Proofs.Distribution.View
import RelayFleet.Proofs.Document.Merge
import RelayFleet.Proofs.Document.Wire
import RelayFleet.Proofs.Json.Merge
import RelayFleet.Proofs.Json.Record
import RelayFleet.Proofs.Json.Text
import RelayFleet.Proofs.Json.Token
import RelayFleet.Proofs.Operator.Apart
import RelayFleet.Proofs.Operator.Artifacts
import RelayFleet.Proofs.Operator.Creation
import RelayFleet.Proofs.Operator.Gateways
import RelayFleet.Proofs.Operator.Holders
import RelayFleet.Proofs.Operator.Phase
import RelayFleet.Proofs.Operator.Precedence
import RelayFleet.Proofs.Operator.Published
import RelayFleet.Proofs.Operator.Reconcile
import RelayFleet.Proofs.Operator.Release
import RelayFleet.Proofs.Operator.Round
import RelayFleet.Proofs.Operator.Settled
import RelayFleet.Proofs.Operator.Share
import RelayFleet.Proofs.Operator.Silent
import RelayFleet.Proofs.Operator.Skipped
import RelayFleet.Proofs.Operator.Tracked
import RelayFleet.Proofs.Operator.View
import RelayFleet.Proofs.Operator.Write
import RelayFleet.Proofs.Pipeline.Awaited
import RelayFleet.Proofs.Pipeline.Course
import RelayFleet.Proofs.Pipeline.Creation
import RelayFleet.Proofs.Pipeline.Custody
import RelayFleet.Proofs.Pipeline.Quiescence
import RelayFleet.Proofs.Pipeline.Settlement
import RelayFleet.Proofs.Pipeline.Wakeup
import RelayFleet.Proofs.Pipeline.World
import RelayFleet.Proofs.Program
import RelayFleet.Proofs.Rehearsal.Cluster
import RelayFleet.Proofs.Rehearsal.Finalizers
import RelayFleet.Proofs.Render.Active
import RelayFleet.Proofs.Render.Admission
import RelayFleet.Proofs.Render.Agreement
import RelayFleet.Proofs.Render.Attachment
import RelayFleet.Proofs.Render.Backend
import RelayFleet.Proofs.Render.Document
import RelayFleet.Proofs.Render.Essence
import RelayFleet.Proofs.Render.Exposure
import RelayFleet.Proofs.Render.Feedback
import RelayFleet.Proofs.Render.Gateway
import RelayFleet.Proofs.Render.Locality
import RelayFleet.Proofs.Render.Matching
import RelayFleet.Proofs.Render.Mode
import RelayFleet.Proofs.Render.Modeless
import RelayFleet.Proofs.Render.Parents
import RelayFleet.Proofs.Render.Regular
import RelayFleet.Proofs.Render.Statuses
import RelayFleet.Proofs.Render.Sweep
import RelayFleet.Proofs.Resource.Wire
import RelayFleet.Proofs.Retry
import RelayFleet.Proofs.Retry.Budget
import RelayFleet.Proofs.SortedMap
import RelayFleet.Proofs.SortedSet
import RelayFleet.Proofs.Stamp
import RelayFleet.Proofs.Store.Changes
import RelayFleet.Proofs.Store.Exact
import RelayFleet.Proofs.Store.Index
import RelayFleet.Proofs.Store.Mapped
import RelayFleet.Proofs.Store.Relist
import RelayFleet.Proofs.Store.Reorder
import RelayFleet.Proofs.Store.Snapshot
import RelayFleet.Proofs.Text.Decimal
import RelayFleet.Proofs.Time.Calendar
import RelayFleet.Proofs.Time.Timestamp
import RelayFleet.Proofs.Updater.Account
import RelayFleet.Proofs.Updater.Contention
import RelayFleet.Proofs.Updater.Flush
import RelayFleet.Proofs.Updater.Transition
import RelayFleet.Proofs.Updater.Unchanged
import RelayFleet.Proofs.Watch.Mirror
import RelayFleet.Proofs.Workload.Manifest
import RelayFleet.Rehearsal.ApiScript
import RelayFleet.Rehearsal.Cluster
import RelayFleet.Rehearsal.FaultPlan
import RelayFleet.Rehearsal.Recorder
import RelayFleet.Rehearsal.StatusBoard
import RelayFleet.Rehearsal.Version
import RelayFleet.Rehearsal.WatchScript
import RelayFleet.Render.Address
import RelayFleet.Render.Attachment
import RelayFleet.Render.Backend
import RelayFleet.Render.Gateway
import RelayFleet.Render.Listener
import RelayFleet.Render.Sweep
import RelayFleet.Render.Wire
import RelayFleet.Resource.Condition
import RelayFleet.Resource.Core
import RelayFleet.Resource.Dataplane
import RelayFleet.Resource.Definition
import RelayFleet.Resource.Gateway
import RelayFleet.Resource.GatewayClass
import RelayFleet.Resource.Key
import RelayFleet.Resource.Metadata
import RelayFleet.Resource.Object
import RelayFleet.Resource.Route
import RelayFleet.Retry
import RelayFleet.Schema.Manifest
import RelayFleet.Schema.Metadata
import RelayFleet.Schema.Pod
import RelayFleet.Schema.Shape
import RelayFleet.Schema.Volume
import RelayFleet.Settings
import RelayFleet.SortedMap
import RelayFleet.SortedSet
import RelayFleet.Status
import RelayFleet.Store.Basic
import RelayFleet.Store.Index
import RelayFleet.Store.Snapshot
import RelayFleet.Text.Ascii
import RelayFleet.Text.Blank
import RelayFleet.Text.Decimal
import RelayFleet.Text.Double
import RelayFleet.Text.IpAddress
import RelayFleet.Text.Percent
import RelayFleet.Text.Quoted
import RelayFleet.Text.Target
import RelayFleet.Text.Unmarked
import RelayFleet.Text.Utf8
import RelayFleet.Time.Calendar
import RelayFleet.Time.Timestamp
import RelayFleet.Updater.Basic
import RelayFleet.Updater.Call
import RelayFleet.Updater.Report
import RelayFleet.Watch.Event
import RelayFleet.Watch.Session
import RelayFleet.Workload.Basic
import RelayFleet.Workload.Manifest
import RelayFleet.Workload.Wire
