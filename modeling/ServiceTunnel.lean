import ServiceTunnel.Admission
import ServiceTunnel.Annotations
import ServiceTunnel.Backoff
import ServiceTunnel.Call
import ServiceTunnel.CommandLine
import ServiceTunnel.Controller
import ServiceTunnel.Dict
import ServiceTunnel.Digest.Sha256
import ServiceTunnel.Domain.Direction
import ServiceTunnel.Domain.Joining
import ServiceTunnel.Domain.Mapping
import ServiceTunnel.Domain.Name
import ServiceTunnel.Election
import ServiceTunnel.Error
import ServiceTunnel.Frp
import ServiceTunnel.Health
import ServiceTunnel.Http.Encoding
import ServiceTunnel.Http.Exchange
import ServiceTunnel.Http.Host
import ServiceTunnel.Http.Method
import ServiceTunnel.Http.Path
import ServiceTunnel.Http.Reference
import ServiceTunnel.Http.Url
import ServiceTunnel.Json.Basic
import ServiceTunnel.Json.Decode
import ServiceTunnel.Json.Double
import ServiceTunnel.Json.Fault
import ServiceTunnel.Json.Merge
import ServiceTunnel.Json.Number
import ServiceTunnel.Json.Quote
import ServiceTunnel.Json.Reader
import ServiceTunnel.Json.Shape
import ServiceTunnel.Json.Writer
import ServiceTunnel.Kube.Client
import ServiceTunnel.Kube.Failure
import ServiceTunnel.Kube.Lease
import ServiceTunnel.Kube.Metadata
import ServiceTunnel.Kube.Request
import ServiceTunnel.Kube.Schema.Container
import ServiceTunnel.Kube.Schema.Metadata
import ServiceTunnel.Kube.Schema.Pod
import ServiceTunnel.Kube.Schema.Report
import ServiceTunnel.Kube.Schema.Service
import ServiceTunnel.Kube.Schema.Volume
import ServiceTunnel.Kube.Schema.Workload
import ServiceTunnel.Kube.Service
import ServiceTunnel.Kube.Timestamp
import ServiceTunnel.Kube.Workload
import ServiceTunnel.Lifecycle
import ServiceTunnel.Machine
import ServiceTunnel.Machine.Wire
import ServiceTunnel.Main
import ServiceTunnel.Name
import ServiceTunnel.Program
import ServiceTunnel.Proofs.Contract
import ServiceTunnel.Provider.Client
import ServiceTunnel.Provider.GraphQl
import ServiceTunnel.Quantity
import ServiceTunnel.Reconcile
import ServiceTunnel.Requirements
import ServiceTunnel.Saga
import ServiceTunnel.Settings
import ServiceTunnel.Simulation.Cloud
import ServiceTunnel.Simulation.Cluster
import ServiceTunnel.Simulation.Fault
import ServiceTunnel.Simulation.LeaseServer
import ServiceTunnel.Simulation.Planned
import ServiceTunnel.Simulation.ServiceServer
import ServiceTunnel.Simulation.Timeline
import ServiceTunnel.Simulation.World
import ServiceTunnel.SocketAddress
import ServiceTunnel.Text.Base64
import ServiceTunnel.Text.Blank
import ServiceTunnel.Text.Cased
import ServiceTunnel.Text.CharSet
import ServiceTunnel.Text.CombiningClass
import ServiceTunnel.Text.Composition
import ServiceTunnel.Text.Hex
import ServiceTunnel.Text.Lowercase
import ServiceTunnel.Text.Mark
import ServiceTunnel.Text.Normal
import ServiceTunnel.Text.Part
import ServiceTunnel.Text.Printable
import ServiceTunnel.Text.Punycode
import ServiceTunnel.Text.Quoted
import ServiceTunnel.Text.Table
import ServiceTunnel.Workload
import ServiceTunnel.Proofs.Estate
import ServiceTunnel.Proofs.Lookup
import ServiceTunnel.Proofs.Record
import ServiceTunnel.Proofs.Recording
import ServiceTunnel.Proofs.Scene
import ServiceTunnel.Proofs.Passes
import ServiceTunnel.Proofs.Isolation
import ServiceTunnel.Proofs.Guard
import ServiceTunnel.Proofs.Single
import ServiceTunnel.Proofs.Site
import ServiceTunnel.Proofs.Derived
import ServiceTunnel.Proofs.Standing
import ServiceTunnel.Proofs.Settled
import ServiceTunnel.Proofs.Simulated
import ServiceTunnel.Proofs.Bounds
import ServiceTunnel.Proofs.Runs
import ServiceTunnel.Proofs.Rollback
import ServiceTunnel.Proofs.Demolition
import ServiceTunnel.Proofs.Words
import ServiceTunnel.Proofs.Shown
import ServiceTunnel.Proofs.Ledger
import ServiceTunnel.Proofs.WrittenOnce
import ServiceTunnel.Proofs.Undoing
import ServiceTunnel.Proofs.Contest
import ServiceTunnel.Proofs.HandOver
import ServiceTunnel.Proofs.Pace
import ServiceTunnel.Proofs.SoleHolder
import ServiceTunnel.Proofs.Watched
import ServiceTunnel.Proofs.Dropped
import ServiceTunnel.Proofs.Versions
import ServiceTunnel.Proofs.Disturbed
import ServiceTunnel.Proofs.Merged
import ServiceTunnel.Proofs.Handed
import ServiceTunnel.Proofs.Drift
import ServiceTunnel.Proofs.Provisioned
import ServiceTunnel.Proofs.Rendered
import ServiceTunnel.Proofs.Injected
import ServiceTunnel.Proofs.QueryErrors
import ServiceTunnel.Proofs.Listeners
import ServiceTunnel.Proofs.Meddled
import ServiceTunnel.Proofs.Vanished
import ServiceTunnel.Proofs.Compact
import ServiceTunnel.Proofs.RoundTrip
import ServiceTunnel.Proofs.Unwinding
import ServiceTunnel.Proofs.Grammar
import ServiceTunnel.Proofs.Overrides
import ServiceTunnel.Proofs.Repair
import ServiceTunnel.Proofs.Doubling
import ServiceTunnel.Proofs.Usable
import ServiceTunnel.Proofs.Lossless
import ServiceTunnel.Proofs.Rollout
