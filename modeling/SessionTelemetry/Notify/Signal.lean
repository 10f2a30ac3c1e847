import SessionTelemetry.Notify.References
import SessionTelemetry.Series.Event

/-!
# Signals

The session model reports what happens to its objects by signals. The object that a signal is about
may be missing, and anything may stand in its place. A prepared event can be sent as well.
-/

namespace SessionTelemetry

inductive Signal where
  | event (e : Event)
  | conferenceCreated (conference : Value)
  | conferenceExpired (conference : Value)
  | endpointCreated (endpoint : Value)
  | endpointDisplayNameChanged (endpoint : Value)
  | contentCreated (content : Value)
  | contentExpired (content : Value)
  | transportChannelAdded (channel : Value)
  | transportChannelRemoved (channel : Value)
  | transportStateChanged (transport oldState newState : Value)
  | transportCreated (transport : Value)
  | transportConnected (transport : Value)
  | channelCreated (channel : Value)
  | channelExpired (channel : Value)
  | channelStartedStreaming (channel : Value)

namespace Signal

/-- The name of the signal that sends a prepared event. -/
def eventName : String := "log_event"

def name : Signal → String
  | event _ => eventName
  | conferenceCreated _ => "conference_created"
  | conferenceExpired _ => "conference_expired"
  | endpointCreated _ => "endpoint_created"
  | endpointDisplayNameChanged _ => "endpoint_display_name_changed"
  | contentCreated _ => "content_created"
  | contentExpired _ => "content_expired"
  | transportChannelAdded _ => "transport_channel_added"
  | transportChannelRemoved _ => "transport_channel_removed"
  | transportStateChanged _ _ _ => "transport_state_changed"
  | transportCreated _ => "transport_created"
  | transportConnected _ => "transport_connected"
  | channelCreated _ => "channel_created"
  | channelExpired _ => "channel_expired"
  | channelStartedStreaming _ => "channel_started_streaming"

/-- The signal with a name about an object; the two states count for a transport only. -/
def ofName? (name : String) (object oldState newState : Value) : Option Signal :=
  [conferenceCreated object, conferenceExpired object, endpointCreated object,
   endpointDisplayNameChanged object, contentCreated object, contentExpired object,
   transportChannelAdded object, transportChannelRemoved object,
   transportStateChanged object oldState newState, transportCreated object,
   transportConnected object, channelCreated object, channelExpired object,
   channelStartedStreaming object].find? fun s => s.name = name

def isName (s : String) : Bool := s == eventName || (ofName? s .null .null .null).isSome

/-- What a signal carries, unless it is a prepared event. -/
def arguments : Signal → List Value
  | event _ => []
  | conferenceCreated v => [v]
  | conferenceExpired v => [v]
  | endpointCreated v => [v]
  | endpointDisplayNameChanged v => [v]
  | contentCreated v => [v]
  | contentExpired v => [v]
  | transportChannelAdded v => [v]
  | transportChannelRemoved v => [v]
  | transportStateChanged v oldState newState => [v, oldState, newState]
  | transportCreated v => [v]
  | transportConnected v => [v]
  | channelCreated v => [v]
  | channelExpired v => [v]
  | channelStartedStreaming v => [v]

def words (s : Signal) : String := References.words s.name

end Signal

end SessionTelemetry
