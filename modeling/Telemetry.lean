import Telemetry.Collection
import Telemetry.Collection.Poll
import Telemetry.Config.Agent
import Telemetry.Config.Environment
import Telemetry.Config.Server
import Telemetry.Json.Reader
import Telemetry.Json.Text
import Telemetry.Json.Token
import Telemetry.Metric
import Telemetry.Metric.Json
import Telemetry.Number.Binary64
import Telemetry.Number.Decimal
import Telemetry.Number.Layout
import Telemetry.Pool
import Telemetry.Pool.Crew
import Telemetry.Pool.Schedule
import Telemetry.Pool.Shift
import Telemetry.Proofs.Collection
import Telemetry.Proofs.Config.Environment
import Telemetry.Proofs.Config.Redaction
import Telemetry.Proofs.Json.Text
import Telemetry.Proofs.Json.Token
import Telemetry.Proofs.Json.Value
import Telemetry.Proofs.Metric
import Telemetry.Proofs.Metric.Json
import Telemetry.Proofs.Metric.Text
import Telemetry.Proofs.Number.Nearest
import Telemetry.Proofs.Number.Order
import Telemetry.Proofs.Number.Range
import Telemetry.Proofs.Number.Shortest
import Telemetry.Proofs.Number.Text
import Telemetry.Proofs.Pool.Calls
import Telemetry.Proofs.Pool.Cancellation
import Telemetry.Proofs.Pool.Closing
import Telemetry.Proofs.Pool.Crew
import Telemetry.Proofs.Pool.Drain
import Telemetry.Proofs.Pool.Greedy
import Telemetry.Proofs.Pool.Schedule
import Telemetry.Proofs.Pool.Shift
import Telemetry.Proofs.Pool.Tasks
import Telemetry.Proofs.Report.Fleet
import Telemetry.Proofs.Report.Http
import Telemetry.Proofs.Report.Key
import Telemetry.Proofs.Report.Meanwhile
import Telemetry.Proofs.Report.Overlap
import Telemetry.Proofs.Report.Session
import Telemetry.Proofs.Series
import Telemetry.Proofs.Server.Api
import Telemetry.Proofs.Server.Export
import Telemetry.Proofs.Server.Http
import Telemetry.Proofs.Server.Ingestion
import Telemetry.Proofs.Server.Integrity
import Telemetry.Proofs.Server.Refusal
import Telemetry.Proofs.Server.Resource
import Telemetry.Proofs.Server.Views
import Telemetry.Proofs.Signature
import Telemetry.Proofs.Snapshot
import Telemetry.Proofs.Snapshot.Json
import Telemetry.Proofs.Snapshot.Listing
import Telemetry.Proofs.Store.Deployment
import Telemetry.Proofs.Store.Disk
import Telemetry.Proofs.Store.History
import Telemetry.Proofs.Store.Memory
import Telemetry.Proofs.Store.Mirror.File
import Telemetry.Proofs.Store.Mirror.Lock
import Telemetry.Proofs.Store.Mirror.Moves
import Telemetry.Proofs.Store.Mirror.Saves
import Telemetry.Proofs.Store.Mirror.Undisturbed
import Telemetry.Proofs.Store.Relational.Acceptance
import Telemetry.Proofs.Store.Relational.Agreement
import Telemetry.Proofs.Store.Relational.Atomicity
import Telemetry.Proofs.Store.Relational.Cell
import Telemetry.Proofs.Store.Relational.Overflow
import Telemetry.Proofs.Store.Relational.Tables
import Telemetry.Proofs.Store.Relational.Traffic
import Telemetry.Proofs.Store.Relational.Write
import Telemetry.Proofs.Store.Restart
import Telemetry.Proofs.Store.Retry
import Telemetry.Proofs.Store.SnapshotFile
import Telemetry.Proofs.Text
import Telemetry.Proofs.Url
import Telemetry.Proofs.Url.Segment
import Telemetry.Proofs.Wire.Field
import Telemetry.Proofs.Wire.Message
import Telemetry.Report
import Telemetry.Report.Fleet
import Telemetry.Report.Http
import Telemetry.Report.Service
import Telemetry.Report.Session
import Telemetry.Report.Transport
import Telemetry.Series
import Telemetry.Server.Api
import Telemetry.Server.Http
import Telemetry.Server.Message
import Telemetry.Server.Resource
import Telemetry.Server.Rpc
import Telemetry.Signature
import Telemetry.Snapshot
import Telemetry.Snapshot.Json
import Telemetry.Store
import Telemetry.Store.Client
import Telemetry.Store.Deployment
import Telemetry.Store.Disk
import Telemetry.Store.History
import Telemetry.Store.Mirror
import Telemetry.Store.Relational
import Telemetry.Store.Relational.Tables
import Telemetry.Store.Relational.Traffic
import Telemetry.Store.Restart
import Telemetry.Store.Retry
import Telemetry.Store.Settings
import Telemetry.Store.SnapshotFile
import Telemetry.Store.Source
import Telemetry.Text
import Telemetry.Text.CodePoints
import Telemetry.Text.Quoted
import Telemetry.Toml.Reader
import Telemetry.Toml.Text
import Telemetry.Toml.Value
import Telemetry.Toml.Word
import Telemetry.Url
import Telemetry.Url.Host
import Telemetry.Url.HostName
import Telemetry.Url.HostName.Composition
import Telemetry.Url.HostName.Direction
import Telemetry.Url.HostName.Joining
import Telemetry.Url.HostName.Mapping
import Telemetry.Wire.Field
import Telemetry.Wire.Message
