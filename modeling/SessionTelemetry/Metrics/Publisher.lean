import SessionTelemetry.Metrics.Exposition
import SessionTelemetry.Metrics.Journal
import SessionTelemetry.Metrics.Memory
import SessionTelemetry.Metrics.Meter
import SessionTelemetry.Metrics.StandIn

/-!
# Metric publishers

All publishers take the same calls. What several of them may share (the clock that times
transactions, collector registries and meters) is kept apart from their own states.
-/

namespace SessionTelemetry

/-- What publishers share. Registries and meters are told apart by name. -/
structure MetricBackends where
  moment : Moment := {}
  processRegistry : CollectorRegistry := {}
  registries : String → CollectorRegistry := fun _ => {}
  meters : String → Meter := fun _ => {}

inductive Publisher where
  /-- A publisher that supports nothing, known by this name. -/
  | silent (name : String)
  | memory (p : MemoryPublisher)
  | journal (p : JournalPublisher)
  | exposition (p : ExpositionPublisher)
  | meter (p : MeterPublisher)
  | standIn (p : StandIn)

namespace MetricBackends

def tick (b : MetricBackends) (now : Value) : MetricBackends :=
  { b with moment := { b.moment with now } }

def registry? (b : MetricBackends) : Value → Option CollectorRegistry
  | .null => some b.processRegistry
  | .registry name => some (b.registries name)
  | _ => none

def setRegistry (b : MetricBackends) (reference : Value) (r : CollectorRegistry) :
    MetricBackends :=
  match reference with
  | .null => { b with processRegistry := r }
  | .registry name =>
    { b with registries := fun other => if other = name then r else b.registries other }
  | _ => b

def meterLink (b : MetricBackends) : Value → MeterLink
  | .null => .idle
  | .meter name => .keeping (b.meters name)
  | _ => .broken

def setMeter (b : MetricBackends) (name : String) (m : Meter) : MetricBackends :=
  { b with meters := fun other => if other = name then m else b.meters other }

def setMeterLink (b : MetricBackends) (reference : Value) (link : MeterLink) : MetricBackends :=
  match reference, link with
  | .meter name, .keeping m => b.setMeter name m
  | _, _ => b

end MetricBackends

structure PublisherAnswer (ε P : Type) where
  reply : Except Fault Reply
  publisher : P
  shared : ε
  records : List Record := []

namespace Publisher

def name : Publisher → Except Fault Value
  | silent name => .ok (.text name)
  | memory _ => .ok (.text "inmemory")
  | journal _ => .ok (.text "logging")
  | exposition _ => .ok (.text "prometheus")
  | meter _ => .ok (.text "otel")
  | standIn p => p.name

def typeName : Publisher → String
  | silent "null" => "NullMetricPublisher"
  | silent _ => "BaseMetricPublisher"
  | memory _ => "InMemoryMetricPublisher"
  | journal _ => "LoggingMetricPublisher"
  | exposition _ => "PrometheusMetricPublisher"
  | meter _ => "OpenTelemetryMetricPublisher"
  | standIn s => s.typeName

/-- The name under which a publisher appears in records: that of its type if it has none of its own.
-/
def title (p : Publisher) : Except Fault String :=
  match p.name with
  | .ok name => if name.truthy then name.shown else .ok p.typeName
  | .error fault => if fault.isAbsent then .ok p.typeName else .error fault

/-- Performs a call on an exposing publisher; without a registry to refer to it cannot. -/
def publishExposition (b : MetricBackends) (p : ExpositionPublisher) (call : MetricCall) :
    PublisherAnswer MetricBackends Publisher :=
  match b.registry? p.registry with
  | some r =>
    let (reply, p, r) := p.publish r b.moment call
    ⟨reply, exposition p, b.setRegistry p.registry r, []⟩
  | none => ⟨.error .absentMember, exposition p, b, []⟩

def respond (b : MetricBackends) (p : Publisher) (call : MetricCall) :
    PublisherAnswer MetricBackends Publisher :=
  match p with
  | silent name => ⟨.ok .unsupported, silent name, b, []⟩
  | memory m =>
    let (reply, m) := m.publish b.moment call
    ⟨reply, memory m, b, []⟩
  | journal j =>
    let (reply, j, records) := j.publish b.moment call
    ⟨reply, journal j, b, records⟩
  | exposition e => publishExposition b e call
  | meter m =>
    let (reply, m, link) := m.publish (b.meterLink m.meter) b.moment call
    ⟨reply, meter m, b.setMeterLink m.meter link, []⟩
  | standIn s =>
    let (reply, s) := s.publish call
    ⟨reply, standIn s, b, []⟩

end Publisher

end SessionTelemetry
