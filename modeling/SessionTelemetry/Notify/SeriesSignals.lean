import SessionTelemetry.Notify.Signal
import SessionTelemetry.Record
import SessionTelemetry.Series.Lifecycle
import SessionTelemetry.Session.Graph

/-!
# Events of signals

The event of a signal is put together from attributes of its object and of the objects that this
one belongs to. If one of these objects is missing there is no event but a record. A transport that
could not be set up is recorded as an error.
-/

namespace SessionTelemetry

inductive SeriesAnswer where
  | nothing
  | dropped (record : Record)
  | event (e : Event)

namespace SeriesAnswer

def logger : String := "mediatel.services.timeseries"

def unlessMissing (signal : Signal) (refs : References)
    (answer : Except Fault SeriesAnswer) : Except Fault SeriesAnswer :=
  match refs.skip? signal.words with
  | some record => .ok (dropped record)
  | none => answer

def brokenTransport (signal : Signal) (fault : Fault) : Record :=
  .error logger s!"Could not log the {signal.words} event because of an error." (some fault)

variable (g : SessionGraph)

def ofConference (signal : Signal) (conference : Value)
    (build : Except Fault Event) : Except Fault SeriesAnswer :=
  unlessMissing signal [("conference", conference)] (build.map event)

def ofEndpoint (signal : Signal) (endpoint : Value)
    (build : Value → Except Fault Event) : Except Fault SeriesAnswer := do
  let conference ← g.getOrNull endpoint .conference
  unlessMissing signal [("endpoint", endpoint), ("conference", conference)]
    ((build conference).map event)

def ofContent (signal : Signal) (content : Value)
    (build : Value → Except Fault Event) : Except Fault SeriesAnswer := do
  let conference ← g.getOrNull content .conference
  unlessMissing signal [("content", content), ("conference", conference)]
    ((build conference).map event)

def ofChannel (signal : Signal) (channel : Value)
    (answer : Value → Value → Except Fault SeriesAnswer) : Except Fault SeriesAnswer := do
  let content ← g.getOrNull channel .content
  let conference ← g.getOrNull content .conference
  unlessMissing signal
    [("channel", channel), ("content", content), ("conference", conference)]
    (answer content conference)

def ofChannelTransport (signal : Signal) (channel : Value)
    (build : Value → Value → Except Fault Event) : Except Fault SeriesAnswer :=
  ofChannel g signal channel fun _ conference =>
    match g.get channel .transportManager with
    | .error fault =>
      if fault.isSystem then .ok (dropped (brokenTransport signal fault)) else .error fault
    | .ok transport =>
      unlessMissing signal [("transport_manager", transport)]
        ((build transport conference).map event)

/-- The last-N value of a channel, minus one for a channel that has none. -/
def lastNOf (channel : Value) : Except Fault Value :=
  match g.get channel .lastN with
  | .ok n => .ok n
  | .error fault => if fault.isAbsent then .ok (.int (-1)) else .error fault

/-- The identifier of the endpoint of a channel, empty for a channel without one. -/
def endpointIdOf (channel : Value) : Except Fault Value := do
  let endpoint ← g.get channel .endpoint
  if endpoint.isNull then return .text "" else g.get endpoint .id

def channelEvent (channel content conference : Value)
    (build : Value → Value → Value → Value → Value → Except Fault Event) :
    Except Fault Event := do
  let endpointId ← endpointIdOf g channel
  let lastN ← lastNOf g channel
  let channelId ← g.get channel .id
  let contentName ← g.get content .title
  let conferenceId ← g.get conference .id
  build channelId contentName conferenceId endpointId lastN

def ofSignal (signal : Signal) : Except Fault SeriesAnswer :=
  match signal with
  | .event e => .ok (event e)
  | .conferenceCreated conference =>
    ofConference signal conference do
      Event.conferenceCreated (← g.get conference .id) (← g.get conference .focus)
  | .conferenceExpired conference =>
    ofConference signal conference do Event.conferenceExpired (← g.get conference .id)
  | .endpointCreated endpoint =>
    ofEndpoint g signal endpoint fun conference => do
      Event.endpointCreated (← g.get conference .id) (← g.get endpoint .id)
  | .endpointDisplayNameChanged endpoint =>
    ofEndpoint g signal endpoint fun conference => do
      Event.endpointDisplayNameChanged (← g.get conference .id) (← g.get endpoint .id)
        (← g.get endpoint .displayName)
  | .contentCreated content =>
    ofContent g signal content fun conference => do
      Event.contentCreated (← g.get content .title) (← g.get conference .id)
  | .contentExpired content =>
    ofContent g signal content fun conference => do
      Event.contentExpired (← g.get content .title) (← g.get conference .id)
  | .transportChannelAdded channel =>
    ofChannelTransport g signal channel fun transport conference => do
      Event.transportChannelAdded (← g.hashCode transport) (← g.get conference .id)
        (← g.get channel .id)
  | .transportChannelRemoved channel =>
    ofChannelTransport g signal channel fun transport conference => do
      Event.transportChannelRemoved (← g.hashCode transport) (← g.get conference .id)
        (← g.get channel .id)
  | .transportStateChanged transport oldState newState => do
    let conference ← g.getOrNull transport .conference
    unlessMissing signal [("transport_manager", transport), ("conference", conference)] do
      let hash ← g.hashCode transport
      let conferenceId ← g.get conference .id
      return event (← Event.transportStateChanged hash conferenceId oldState newState)
  | .transportCreated transport => do
    let conference ← g.getOrNull transport .conference
    let agent ← g.getOrNull transport .agent
    unlessMissing signal
      [("transport_manager", transport), ("conference", conference), ("agent", agent)] do
      let hash ← g.hashCode transport
      return event (← Event.transportCreated hash (← g.get conference .id)
        (← g.get transport .numComponents) (← g.get agent .localUfrag)
        (← g.get transport .isControlling))
  | .transportConnected transport => do
    let conference ← g.getOrNull transport .conference
    let stream ← g.getOrNull transport .iceStream
    unlessMissing signal
      [("transport_manager", transport), ("conference", conference), ("ice_stream", stream)] do
      let hash ← g.hashCode transport
      let conferenceId ← g.get conference .id
      let pairs ← g.selectedPairs stream
      return event (← Event.transportConnected hash conferenceId (.text pairs))
  | .channelCreated channel =>
    ofChannel g signal channel fun content conference =>
      (channelEvent g channel content conference Event.channelCreated).map event
  | .channelExpired channel =>
    ofChannel g signal channel fun content conference =>
      (channelEvent g channel content conference Event.channelExpired).map event
  | .channelStartedStreaming _ => .ok nothing

end SeriesAnswer

end SessionTelemetry
