import SessionTelemetry.Metrics.FanOut
import SessionTelemetry.Notify.Signal
import SessionTelemetry.Session.Census

/-!
# Metrics of signals

Signals about conferences and channels publish how many are live on their bridge, and the length of
a conference is measured from its creation to its expiry. The start of a stream publishes the
address that it goes to. All other signals are no metrics.
-/

namespace SessionTelemetry

namespace MetricName

def conferences : String := "Conferences"
def channels : String := "Channels"
def conferenceLength : String := "Conference length"

def startEnding : String := " start"

def streamStart : String := "mediatel.metrics.service.MetricService" ++ startEnding

end MetricName

/-- The calls that a signal makes, and the fault or the record that ends them early. -/
structure MetricPlan where
  calls : List MetricCall := []
  fault : Option Fault := none
  record : Option Record := none

namespace MetricPlan

def ofFault (fault : Fault) : MetricPlan := { fault := some fault }

def ofExcept : Except Fault MetricPlan → MetricPlan
  | .ok plan => plan
  | .error fault => ofFault fault

def unlessMissing (signal : Signal) (refs : References) (plan : MetricPlan) : MetricPlan :=
  match refs.skip? signal.words with
  | some record => { record := some record }
  | none => plan

def publishCount (name : String) (count : Except Fault Nat) (next : MetricPlan) : MetricPlan :=
  match count with
  | .ok n => { next with calls := .numeric (.text name) (.int n) :: next.calls }
  | .error fault => ofFault fault

def callAbout (id : Except Fault Value) (call : Value → MetricCall) : MetricPlan :=
  match id with
  | .ok id => { calls := [call id] }
  | .error fault => ofFault fault

variable (g : SessionGraph)

def ofConference (signal : Signal) (conference : Value) (call : Value → MetricCall) :
    MetricPlan := ofExcept do
  let bridge ← g.getOrNull conference .videobridge
  return unlessMissing signal [("conference", conference), ("videobridge", bridge)]
    (publishCount MetricName.conferences (g.liveConferences bridge)
      (callAbout (g.get conference .id) call))

def ofChannel (signal : Signal) (channel : Value) : MetricPlan := ofExcept do
  let content ← g.getOrNull channel .content
  let conference ← g.getOrNull content .conference
  let bridge ← g.getOrNull conference .videobridge
  return unlessMissing signal
    [("channel", channel), ("content", content), ("conference", conference),
     ("videobridge", bridge)]
    (publishCount MetricName.channels (g.liveChannels bridge) {})

def ofSignal (signal : Signal) : MetricPlan :=
  match signal with
  | .conferenceCreated conference =>
    ofConference g signal conference (.start (.text MetricName.conferenceLength))
  | .conferenceExpired conference =>
    ofConference g signal conference (.finish (.text MetricName.conferenceLength))
  | .channelCreated channel => ofChannel g signal channel
  | .channelExpired channel => ofChannel g signal channel
  | .channelStartedStreaming channel => ofExcept do
    let address ← g.getOrNull channel .streamTargetAddress
    return unlessMissing signal [("channel", channel), ("stream_target", address)]
      { calls := [.string (.text MetricName.streamStart) address] }
  | _ => {}

end MetricPlan

namespace MetricService

/-- Publishes calls one after the other, up to the first one that a fault ends early. -/
def publishAll (s : MetricService) (b : MetricBackends) :
    List MetricCall → MetricService × MetricBackends × List Record × Option Fault
  | [] => (s, b, [], none)
  | call :: rest =>
    let done := s.publish b call
    match done.fault with
    | some fault => (⟨done.publishers⟩, done.shared, done.records, some fault)
    | none =>
      let (s, b, later, fault) := publishAll ⟨done.publishers⟩ done.shared rest
      (s, b, done.records ++ later, fault)

end MetricService

end SessionTelemetry
