import SessionTelemetry.Metrics.Collectors
import SessionTelemetry.Metrics.Outcome
import SessionTelemetry.Metrics.SeriesName
import SessionTelemetry.Metrics.Stopwatch
import SessionTelemetry.Settings.Properties

/-!
# The publisher that exposes series

Numeric metrics become gauges, incremental ones counters and measured transactions histograms of
seconds. A series is registered before its first write, so a write that fails leaves it exposed
with nothing collected. Texts are not supported.
-/

namespace SessionTelemetry

structure ExpositionPublisher where
  /-- What all series names start with. -/
  stem : String := "mediatel"
  /-- The registry to use; null stands for that of the process. -/
  registry : Value := .null
  /-- The family of each metric that has one, by kind and name. -/
  families : Table Key String := {}
  transactions : Stopwatch := {}

namespace ExpositionPublisher

variable [Collectors]

def ofConfig (config : Properties) : ExpositionPublisher where
  stem := ((config.lookup "namespace").getD (.text "mediatel")).display
  registry := (config.lookup "registry").getD .null

def familyKey (hashOf : HashReader) (kind : SeriesKind) (name : Value) : Except Fault Key :=
  (Value.tuple [.text kind.word, name]).toKey hashOf

abbrev Result := Except Fault Reply × ExpositionPublisher × CollectorRegistry

def newFamily (p : ExpositionPublisher) (r : CollectorRegistry) (kind : SeriesKind)
    (name : Value) : Except Fault (String × CollectorRegistry) := do
  let family := kind.familyName p.stem (← SeriesName.ofValue name)
  return (family, ← r.register kind family s!"Media session metric {name.display}")

/-- The family of a metric, registered on first use. -/
def familyOf (p : ExpositionPublisher) (hashOf : HashReader) (r : CollectorRegistry)
    (kind : SeriesKind) (name : Value) :
    Except Fault (String × ExpositionPublisher × CollectorRegistry) := do
  let key ← familyKey hashOf kind name
  match p.families.find? key with
  | some family => return (family, p, r)
  | none =>
    let (family, r) ← p.newFamily r kind name
    return (family, { p with families := p.families.put key family }, r)

/-- A fault of the values given makes the call fail; any other fault is raised. -/
def answerFault (fault : Fault) : Except Fault Reply :=
  if fault.isBadValue then .ok (.failed fault) else .error fault

def write (p : ExpositionPublisher) (hashOf : HashReader) (r : CollectorRegistry)
    (kind : SeriesKind) (name : Value) (f : Collected → Except Fault Collected) : Result :=
  match p.familyOf hashOf r kind name with
  | .error fault => (answerFault fault, p, r)
  | .ok (family, p, r) =>
    match r.change family f with
    | .error fault => (answerFault fault, p, r)
    | .ok r => (.ok .ok, p, r)

def setTo (value : Value) : Collected → Except Fault Collected
  | .gauge _ => do return .gauge (← value.toFloat)
  | c => .ok c

def increaseBy (amount : Value) : Collected → Except Fault Collected
  | .counter total => do
    if ← amount.isBelow 0 then throw .negativeIncrement
    return .counter (total.add (← amount.numberAsFloat))
  | c => .ok c

def observe (seconds : Value) : Collected → Except Fault Collected
  | .histogram counts sum => do
    let x ← seconds.numberAsFloat
    return .histogram (Collected.countIn x Collected.bounds counts) (sum.add x)
  | c => .ok c

def durationName (type : Value) : Value := .text (type.display ++ " seconds")

def publish (p : ExpositionPublisher) (r : CollectorRegistry) (moment : Moment) :
    MetricCall → Result
  | .numeric name value => p.write moment.hashOf r .gauge name (setTo value)
  | .string _ _ => (.ok .unsupported, p, r)
  | .incremental name delta =>
    p.write moment.hashOf r .counter name (increaseBy (delta.getD (.int 1)))
  | .start type id =>
    match p.transactions.start type id moment with
    | .ok w => (.ok .ok, { p with transactions := w }, r)
    | .error fault => (.error fault, p, r)
  | .finish type id =>
    let (stopped, w) := p.transactions.stop type id moment
    let p := { p with transactions := w }
    match stopped with
    | .error fault => (.error fault, p, r)
    | .ok none => (.ok .ok, p, r)
    | .ok (some seconds) => p.write moment.hashOf r .histogram (durationName type) (observe seconds)

end ExpositionPublisher

end SessionTelemetry
