import SessionTelemetry.Benchmark.Options
import SessionTelemetry.Benchmark.Report
import SessionTelemetry.Delivery.Address
import SessionTelemetry.Delivery.Host
import SessionTelemetry.Delivery.Percent
import SessionTelemetry.Delivery.Post
import SessionTelemetry.Dispatch.Dispatcher
import SessionTelemetry.Dispatch.Gated
import SessionTelemetry.Dispatch.Pool
import SessionTelemetry.Dispatch.Settled
import SessionTelemetry.Domain.Context
import SessionTelemetry.Domain.Direction
import SessionTelemetry.Domain.Name
import SessionTelemetry.Domain.Permitted
import SessionTelemetry.Domain.Punycode
import SessionTelemetry.Fault
import SessionTelemetry.Json.Basic
import SessionTelemetry.Json.Reader
import SessionTelemetry.Main
import SessionTelemetry.Metrics.Catalogue
import SessionTelemetry.Metrics.Collectors
import SessionTelemetry.Metrics.Exposition
import SessionTelemetry.Metrics.FanOut
import SessionTelemetry.Metrics.Journal
import SessionTelemetry.Metrics.Memory
import SessionTelemetry.Metrics.Meter
import SessionTelemetry.Metrics.Outcome
import SessionTelemetry.Metrics.Publisher
import SessionTelemetry.Metrics.SeriesName
import SessionTelemetry.Metrics.StandIn
import SessionTelemetry.Metrics.Steps
import SessionTelemetry.Metrics.Stopwatch
import SessionTelemetry.Notify.Bootstrap
import SessionTelemetry.Notify.Demo
import SessionTelemetry.Notify.MetricSignals
import SessionTelemetry.Notify.References
import SessionTelemetry.Notify.Scenario
import SessionTelemetry.Notify.SeriesSignals
import SessionTelemetry.Notify.SeriesSink
import SessionTelemetry.Notify.Service
import SessionTelemetry.Notify.Signal
import SessionTelemetry.Notify.Tree
import SessionTelemetry.Number.Binary64
import SessionTelemetry.Number.Numeral
import SessionTelemetry.Number.Shortest
import SessionTelemetry.Proofs.Dispatch.Limits
import SessionTelemetry.Proofs.Dispatch.Run
import SessionTelemetry.Record
import SessionTelemetry.Series.Event
import SessionTelemetry.Series.Lifecycle
import SessionTelemetry.Series.Payload
import SessionTelemetry.Session.Census
import SessionTelemetry.Session.Graph
import SessionTelemetry.Session.Objects
import SessionTelemetry.Settings.Configuration
import SessionTelemetry.Settings.Metrics
import SessionTelemetry.Settings.Pool
import SessionTelemetry.Settings.Properties
import SessionTelemetry.Settings.Series
import SessionTelemetry.Sorting.Merge
import SessionTelemetry.Sorting.Natural
import SessionTelemetry.Sorting.Search
import SessionTelemetry.Table
import SessionTelemetry.Text.Blank
import SessionTelemetry.Text.Case
import SessionTelemetry.Text.CaseTable
import SessionTelemetry.Text.CodeRanges
import SessionTelemetry.Text.CombiningClass
import SessionTelemetry.Text.Composition
import SessionTelemetry.Text.DecimalDigit
import SessionTelemetry.Text.Mark
import SessionTelemetry.Text.Printable
import SessionTelemetry.Text.Quoted
import SessionTelemetry.Value.Basic
import SessionTelemetry.Value.Display
import SessionTelemetry.Value.HashCode
import SessionTelemetry.Value.Key
import SessionTelemetry.Value.Numeric
import SessionTelemetry.Proofs.Dispatch.WorkConservation
import SessionTelemetry.Proofs.Dispatch.Conservation
import SessionTelemetry.Proofs.Dispatch.Fifo
import SessionTelemetry.Proofs.Json.Tokens
import SessionTelemetry.Proofs.Json.RoundTrip
import SessionTelemetry.Proofs.Series.RoundTrip
import SessionTelemetry.Proofs.Dispatch.Shutdown
import SessionTelemetry.Proofs.Metrics.Isolation
import SessionTelemetry.Proofs.Session.Typed
import SessionTelemetry.Proofs.Notify.Chains
import SessionTelemetry.Proofs.Notify.Containment
import SessionTelemetry.Proofs.Notify.Nesting
import SessionTelemetry.Proofs.Notify.Startup
import SessionTelemetry.Proofs.Metrics.Agreement
import SessionTelemetry.Proofs.Notify.ConferenceMetrics
import SessionTelemetry.Proofs.Metrics.Families
import SessionTelemetry.Proofs.Metrics.Exposition
import SessionTelemetry.Proofs.Metrics.SeriesHistory
import SessionTelemetry.Proofs.Metrics.Exported
import SessionTelemetry.Proofs.Metrics.Collisions
import SessionTelemetry.Proofs.Number.Notation
import SessionTelemetry.Proofs.Series.Cells
import SessionTelemetry.Proofs.Notify.Lineups
import SessionTelemetry.Proofs.Notify.Schemas
import SessionTelemetry.Proofs.Dispatch.Rest
import SessionTelemetry.Proofs.Dispatch.Reclamation
import SessionTelemetry.Proofs.Metrics.Withheld
import SessionTelemetry.Proofs.Metrics.SharedRegistry
import SessionTelemetry.Proofs.Metrics.Refusals
import SessionTelemetry.Proofs.Metrics.Spellings
import SessionTelemetry.Proofs.Text.Spelling
import SessionTelemetry.Proofs.Settings.Credentials
import SessionTelemetry.Proofs.Dispatch.Burst
import SessionTelemetry.Proofs.Settings.Recast
import SessionTelemetry.Proofs.Metrics.Registrations
import SessionTelemetry.Proofs.Session.LiveTree
import SessionTelemetry.Proofs.Session.LiveCounts
import SessionTelemetry.Proofs.Delivery.Posting
import SessionTelemetry.Proofs.Metrics.Timing
import SessionTelemetry.Proofs.Series.Canonical
import SessionTelemetry.Proofs.Metrics.SeriesNames
