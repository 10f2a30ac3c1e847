import SessionTelemetry.Metrics.Outcome
import SessionTelemetry.Metrics.Stopwatch
import SessionTelemetry.Settings.Properties

/-!
# The publisher that drives a meter

A meter hands out instruments. Numeric metrics are exported as changes of an up-down counter,
incremental ones by a counter and measured transactions by a histogram of milliseconds. Texts are
not supported. Every fault on the way makes the call fail.
-/

namespace SessionTelemetry

inductive InstrumentKind where
  | upDown
  | counter
  | histogram
  deriving DecidableEq, Repr

namespace InstrumentKind

def word : InstrumentKind → String
  | upDown => "updown"
  | counter => "counter"
  | histogram => "histogram"

def unit? : InstrumentKind → Option String
  | histogram => some "ms"
  | _ => none

def operation : InstrumentKind → String
  | histogram => "record"
  | _ => "add"

end InstrumentKind

inductive Measurement where
  | created (kind : InstrumentKind) (name : Value)
  | taken (kind : InstrumentKind) (name value : Value) (attributes : List (String × Value))

/-- A meter that keeps what it did. It can be made to refuse instruments of a kind or their
measurements. -/
structure Meter where
  refusedInstruments : List InstrumentKind := []
  refusedMeasurements : List InstrumentKind := []
  trace : List Measurement := []

namespace Meter

def refusing (m : Meter) (named : List String) : Meter :=
  let kinds := [InstrumentKind.upDown, .counter, .histogram]
  { m with
    refusedInstruments := kinds.filter fun k => named.contains k.word
    refusedMeasurements := kinds.filter fun k => named.contains (k.word ++ "." ++ k.operation) }

def create (m : Meter) (kind : InstrumentKind) (name : Value) : Except Fault Meter :=
  if m.refusedInstruments.contains kind then .error (.instrumentRefused kind.word)
  else .ok { m with trace := m.trace ++ [.created kind name] }

def measure (m : Meter) (kind : InstrumentKind) (name value : Value)
    (attributes : List (String × Value)) : Except Fault Meter :=
  if m.refusedMeasurements.contains kind then
    .error (.measurementRefused kind.operation kind.word)
  else .ok { m with trace := m.trace ++ [.taken kind name value attributes] }

end Meter

/-- The meter behind a publisher: one that keeps what it did, one that does nothing, or none at
all. -/
inductive MeterLink where
  | keeping (m : Meter)
  | idle
  | broken

namespace MeterLink

def create (link : MeterLink) (kind : InstrumentKind) (name : Value) : Except Fault MeterLink :=
  match link with
  | keeping m => (m.create kind name).map keeping
  | idle => .ok idle
  | broken => .error .absentMember

def measure (link : MeterLink) (kind : InstrumentKind) (name value : Value)
    (attributes : List (String × Value)) : Except Fault MeterLink :=
  match link with
  | keeping m => (m.measure kind name value attributes).map keeping
  | idle => .ok idle
  | broken => .error .absentMember

end MeterLink

structure MeterPublisher where
  meterName : String := "mediatel.metrics"
  /-- The meter to use; null stands for one that does nothing. -/
  meter : Value := .null
  /-- The instruments created so far, by kind and name: the names with which they were created. -/
  instruments : Table Key Value := {}
  /-- The number last published under each name. -/
  lastNumeric : Table Key Binary64 := {}
  transactions : Stopwatch := {}

namespace MeterPublisher

def ofConfig (config : Properties) : MeterPublisher where
  meterName := ((config.lookup "meter_name").getD (.text "mediatel.metrics")).display
  meter := (config.lookup "meter").getD .null

def instrumentKey (hashOf : HashReader) (kind : InstrumentKind) (name : Value) :
    Except Fault Key :=
  (Value.tuple [.text kind.word, name]).toKey hashOf

abbrev Result := Except Fault Reply × MeterPublisher × MeterLink

/-- Makes sure that an instrument exists. The first component is the name it was created with. -/
def ensure (p : MeterPublisher) (hashOf : HashReader) (link : MeterLink) (kind : InstrumentKind)
    (name : Value) : Except Fault (Value × MeterPublisher × MeterLink) := do
  let key ← instrumentKey hashOf kind name
  match p.instruments.find? key with
  | some created => return (created, p, link)
  | none =>
    let link ← link.create kind name
    return (name, { p with instruments := p.instruments.put key name }, link)

def measure (p : MeterPublisher) (hashOf : HashReader) (link : MeterLink) (kind : InstrumentKind)
    (name : Value) (value : Except Fault Value) (attributes : List (String × Value)) : Result :=
  match p.ensure hashOf link kind name with
  | .error fault => (.ok (.failed fault), p, link)
  | .ok (created, p, link) =>
    match value with
    | .error fault => (.ok (.failed fault), p, link)
    | .ok v =>
      match link.measure kind created v attributes with
      | .error fault => (.ok (.failed fault), p, link)
      | .ok link => (.ok .ok, p, link)

/-- Exports the change against the number last published, which is noted before the export. -/
def publishNumeric (p : MeterPublisher) (hashOf : HashReader) (link : MeterLink)
    (name value : Value) : Result :=
  match name.toKey hashOf, value.toFloat with
  | .error fault, _ => (.ok (.failed fault), p, link)
  | .ok _, .error fault => (.ok (.failed fault), p, link)
  | .ok key, .ok x =>
    let previous := (p.lastNumeric.find? key).getD .zero
    let p := { p with lastNumeric := p.lastNumeric.put key x }
    p.measure hashOf link .upDown name (.ok (.float (x.sub previous))) []

def inMilliseconds (seconds : Value) : Except Fault Value := do
  return .float ((← seconds.numberAsFloat).mul (.ofInt 1000))

def publish (p : MeterPublisher) (link : MeterLink) (moment : Moment) : MetricCall → Result
  | .numeric name value => p.publishNumeric moment.hashOf link name value
  | .string _ _ => (.ok .unsupported, p, link)
  | .incremental name delta =>
    p.measure moment.hashOf link .counter name ((delta.getD (.int 1)).toInteger.map .int) []
  | .start type id =>
    match p.transactions.start type id moment with
    | .ok w => (.ok .ok, { p with transactions := w }, link)
    | .error fault => (.error fault, p, link)
  | .finish type id =>
    let (stopped, w) := p.transactions.stop type id moment
    let p := { p with transactions := w }
    match stopped with
    | .error fault => (.error fault, p, link)
    | .ok none => (.ok .ok, p, link)
    | .ok (some seconds) =>
      p.measure moment.hashOf link .histogram type (inMilliseconds seconds)
        [("transaction", type)]

end MeterPublisher

end SessionTelemetry
