import SessionTelemetry.Metrics.Catalogue
import SessionTelemetry.Settings.Metrics

/-!
# The metric service

Every call goes to all publishers in their order, whatever became of it at the ones before. A call
that a publisher does not support leaves a record for debugging, one that fails an error record. The
record names the publisher, and a name that cannot be read is a fault of the whole operation.
-/

namespace SessionTelemetry

def MetricCall.passedOn : MetricCall → MetricCall
  | incremental name (some .null) => incremental name none
  | call => call

/-- What a call leaves behind at a list of publishers, and the fault that ended it early, if one
did. -/
structure FanOut (ε P : Type) where
  outcomes : List Outcome
  publishers : List P
  shared : ε
  records : List Record
  fault : Option Fault := none

namespace FanOut

def logger : String := "mediatel.metrics"

def outcomeRecord (title : String) (call : MetricCall) : Outcome → List Record
  | .ok => []
  | .unsupported => [⟨logger, Record.debugLevel, do
      let subject ← call.subject.shown
      return s!"{title} publisher doesn't support {call.kind} metric: {subject}", none⟩]
  | .failed fault => [⟨logger, Record.errorLevel, do
      return s!"Error publishing metric \"{← call.subject.shown}\" with publisher: {title}", fault⟩]

/-- What there is to record about an outcome; only then a publisher is asked for its name. -/
def report (title : Except Fault String) (call : MetricCall) : Outcome → Except Fault (List Record)
  | .ok => .ok []
  | outcome => do return outcomeRecord (← title) call outcome

/-- Performs a call on every publisher in turn. Nothing that a publisher does with the call keeps
the others from it, but a publisher whose name cannot be read when there is something to record ends
the operation. -/
def run {ε P : Type} (respond : ε → P → MetricCall → PublisherAnswer ε P)
    (title : P → Except Fault String) (call : MetricCall) (shared : ε) : List P → FanOut ε P
  | [] => ⟨[], [], shared, [], none⟩
  | p :: rest =>
    let answer := respond shared p call
    let outcome := Outcome.ofReply answer.reply
    match report (title answer.publisher) call outcome with
    | .error fault => ⟨[], answer.publisher :: rest, answer.shared, answer.records, some fault⟩
    | .ok records =>
      let later := run respond title call answer.shared rest
      ⟨outcome :: later.outcomes, answer.publisher :: later.publishers, later.shared,
        answer.records ++ records ++ later.records, later.fault⟩

def publish {ε P : Type} (respond : ε → P → MetricCall → PublisherAnswer ε P)
    (title : P → Except Fault String) (shared : ε) (publishers : List P) (call : MetricCall) :
    FanOut ε P :=
  run respond title call.passedOn shared publishers

end FanOut

structure MetricService where
  publishers : List Publisher := []

namespace MetricService

def publish (s : MetricService) (b : MetricBackends) (call : MetricCall) :
    FanOut MetricBackends Publisher :=
  FanOut.publish Publisher.respond Publisher.title b s.publishers call

/-- Makes the publisher of an identifier. Its configuration is looked up by the identifier as it is
listed, so an identifier that cannot be a key is refused. -/
def makePublisher (c : Catalogue PublisherFactory) (hashOf : HashReader) (configs : Properties)
    (id : Value) : Except Fault Publisher := do
  match ← id.toKey hashOf with
  | .text name => c.create id ((configs.lookup name).getD .null)
  | _ => c.create id .null

/-- Makes the publishers of a list of identifiers. One that cannot be made is recorded and left
out. -/
def makePublishers (c : Catalogue PublisherFactory) (hashOf : HashReader) (configs : Properties) :
    List Value → List Publisher × List Record
  | [] => ([], [])
  | id :: rest =>
    let start : Record := ⟨FanOut.logger, Record.infoLevel, do
      return s!"Initialising metric service: {← id.shown}", none⟩
    let (publishers, records) := makePublishers c hashOf configs rest
    match makePublisher c hashOf configs id with
    | .ok p => (p :: publishers, start :: records)
    | .error fault =>
      let failed : Record := ⟨FanOut.logger, Record.errorLevel, do
        return s!"Error initialising metric service {← id.shown}", some fault⟩
      (publishers, start :: failed :: records)

def ofSettings (c : Catalogue PublisherFactory) (hashOf : HashReader) (settings : MetricSettings)
    (configs : Value) : Except Fault (MetricService × List Record) := do
  let configs ← Properties.ofConfig configs
  let ids ← settings.publishers.elements
  let enabled := Record.info FanOut.logger s!"Metric services enabled: {ids.length}"
  let (publishers, records) := makePublishers c hashOf configs ids
  return (⟨publishers⟩, enabled :: records)

end MetricService

end SessionTelemetry
