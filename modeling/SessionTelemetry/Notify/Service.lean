import SessionTelemetry.Notify.MetricSignals
import SessionTelemetry.Notify.SeriesSink
import SessionTelemetry.Notify.Tree

/-!
# Logging services

A service is notified of signals: it drops them all, writes time series, publishes metrics, or is
supplied from outside. Services share what they read, the session model and the clocks, and the
registries and meters that their publishers write to.
-/

namespace SessionTelemetry

structure Surroundings where
  graph : SessionGraph
  /-- The reading of the wall clock, in seconds. -/
  wall : Value
  backends : MetricBackends := {}

/-- The back ends of metrics as they are now: objects have the hash codes that the session model
states at the moment. -/
def Surroundings.current (s : Surroundings) : MetricBackends :=
  { s.backends with moment := { s.backends.moment with hashOf := s.graph.hashOf } }

/-- A service supplied from outside. It keeps the signals that reach it and fails at some. -/
structure StandInService where
  typeName : String
  /-- The names of the signals that it fails at. -/
  failures : List (String × Fault) := []
  missing : List String := []
  signals : List Signal := []

namespace StandInService

def isComplete (s : StandInService) : Bool := !s.missing.any Signal.isName

def notify (s : StandInService) (signal : Signal) : Except Fault Unit × StandInService :=
  if s.missing.contains signal.name then (.error .absentMember, s)
  else
    let outcome := match s.failures.lookup signal.name with
      | some fault => .error fault
      | none => .ok ()
    (outcome, { s with signals := s.signals ++ [signal] })

end StandInService

inductive LoggingService where
  | silent
  | series (s : SeriesSink)
  | metrics (s : MetricService)
  | standIn (s : StandInService)

namespace MetricService

def notify (s : MetricService) (shared : Surroundings) (signal : Signal) :
    Reaction Surroundings MetricService :=
  let plan := MetricPlan.ofSignal shared.graph signal
  let (s, backends, records, fault) := s.publishAll shared.current plan.calls
  let outcome := match fault.or plan.fault with
    | some fault => .error fault
    | none => .ok ()
  ⟨outcome, s, { shared with backends }, plan.record.toList ++ records⟩

end MetricService

namespace LoggingService

def title : LoggingService → String
  | silent => "NullLoggingService"
  | series _ => "TimeSeriesLoggingService"
  | metrics _ => "MetricService"
  | standIn s => s.typeName

def react (shared : Surroundings) (service : LoggingService) (signal : Signal) :
    Reaction Surroundings LoggingService :=
  match service with
  | silent => ⟨.ok (), silent, shared, []⟩
  | series s =>
    let (outcome, s, records) := s.notify shared.graph shared.wall signal
    ⟨outcome, series s, shared, records⟩
  | metrics s =>
    let r := s.notify shared signal
    ⟨r.outcome, metrics r.service, r.shared, r.records⟩
  | standIn s =>
    let (outcome, s) := s.notify signal
    ⟨outcome, standIn s, shared, []⟩

def behaviour : Behaviour Surroundings LoggingService := ⟨react, title⟩

end LoggingService

end SessionTelemetry
