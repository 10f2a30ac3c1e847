import SessionTelemetry.Series.Event

/-!
# Lifecycle events

Each signal of the session model has a series of its own with fixed columns. The functions below
build the event of a signal from the values of its columns; an absent value is stored as a word, so
every event is one row as long as its columns.
-/

namespace SessionTelemetry

/-- A series of the backend: its name and its columns. -/
structure Schema where
  name : String
  columns : List String
  deriving DecidableEq, Repr

namespace Schema

def conferenceCreated : Schema := ⟨"conference_created", ["conference_id", "focus"]⟩

def conferenceExpired : Schema := ⟨"conference_expired", ["conference_id"]⟩

def contentCreated : Schema := ⟨"content_created", ["name", "conference_id"]⟩

def contentExpired : Schema := ⟨"content_expired", contentCreated.columns⟩

def channelCreated : Schema :=
  ⟨"channel_created", ["channel_id", "content_name", "conference_id", "endpoint_id", "lastn"]⟩

def channelExpired : Schema := ⟨"channel_expired", channelCreated.columns⟩

def transportCreated : Schema :=
  ⟨"transport_created",
    ["hash_code", "conference_id", "num_components", "ufrag", "is_controlling"]⟩

def transportChannelAdded : Schema :=
  ⟨"transport_channel_added", ["hash_code", "conference_id", "channel_id"]⟩

def transportChannelRemoved : Schema :=
  ⟨"transport_channel_removed", transportChannelAdded.columns⟩

def transportConnected : Schema :=
  ⟨"transport_connected", ["hash_code", "conference_id", "selected_pairs"]⟩

def transportStateChanged : Schema :=
  ⟨"transport_state_changed", ["hash_code", "conference_id", "old_state", "new_state"]⟩

def endpointCreated : Schema := ⟨"endpoint_created", ["conference_id", "endpoint_id"]⟩

def endpointDisplayName : Schema :=
  ⟨"endpoint_display_name", ["conference_id", "endpoint_id", "display_name"]⟩

def focusCreated : Schema := ⟨"focus_created", ["room_jid"]⟩

def conferenceRoom : Schema := ⟨"conference_room", ["conference_id", "room_jid"]⟩

def all : List Schema :=
  [conferenceCreated, conferenceExpired, contentCreated, contentExpired, channelCreated,
   channelExpired, transportCreated, transportChannelAdded, transportChannelRemoved,
   transportConnected, transportStateChanged, endpointCreated, endpointDisplayName, focusCreated,
   conferenceRoom]

def row (s : Schema) (cells : List Value) : Event where
  name := .text s.name
  columns := .tuple (s.columns.map .text)
  values := .tuple cells

def event (s : Schema) (cells : List Value) : Except Fault Event := do
  return s.row (← cells.mapM Value.render)

end Schema

namespace Event

/-- A hash code is stored as text, so that no backend takes it for a quantity. -/
def hashCode (hash : Value) : Except Fault Value := do return .text (← hash.shown)

/-- A state of a transport is stored by its text, whatever its type. -/
def stateName : Value → Except Fault Value
  | .null => .ok .null
  | state => do return .text (← state.shown)

def conferenceCreated (conferenceId focus : Value) : Except Fault Event :=
  Schema.conferenceCreated.event [conferenceId, focus]

def conferenceExpired (conferenceId : Value) : Except Fault Event :=
  Schema.conferenceExpired.event [conferenceId]

def contentCreated (name conferenceId : Value) : Except Fault Event :=
  Schema.contentCreated.event [name, conferenceId]

def contentExpired (name conferenceId : Value) : Except Fault Event :=
  Schema.contentExpired.event [name, conferenceId]

def channelCreated (channelId contentName conferenceId endpointId lastN : Value) :
    Except Fault Event :=
  Schema.channelCreated.event [channelId, contentName, conferenceId, endpointId, lastN]

def channelExpired (channelId contentName conferenceId endpointId lastN : Value) :
    Except Fault Event :=
  Schema.channelExpired.event [channelId, contentName, conferenceId, endpointId, lastN]

def transportCreated (hash conferenceId numComponents ufrag isControlling : Value) :
    Except Fault Event := do
  Schema.transportCreated.event
    [← hashCode hash, conferenceId, numComponents, ufrag, isControlling]

def transportChannelAdded (hash conferenceId channelId : Value) : Except Fault Event := do
  Schema.transportChannelAdded.event [← hashCode hash, conferenceId, channelId]

def transportChannelRemoved (hash conferenceId channelId : Value) : Except Fault Event := do
  Schema.transportChannelRemoved.event [← hashCode hash, conferenceId, channelId]

def transportConnected (hash conferenceId selectedPairs : Value) : Except Fault Event := do
  Schema.transportConnected.event [← hashCode hash, conferenceId, selectedPairs]

def transportStateChanged (hash conferenceId oldState newState : Value) : Except Fault Event := do
  Schema.transportStateChanged.event
    [← hashCode hash, conferenceId, ← stateName oldState, ← stateName newState]

def endpointCreated (conferenceId endpointId : Value) : Except Fault Event :=
  Schema.endpointCreated.event [conferenceId, endpointId]

def endpointDisplayNameChanged (conferenceId endpointId displayName : Value) : Except Fault Event :=
  Schema.endpointDisplayName.event [conferenceId, endpointId, displayName]

def focusCreated (roomJid : Value) : Except Fault Event := Schema.focusCreated.event [roomJid]

def conferenceRoom (conferenceId roomJid : Value) : Except Fault Event :=
  Schema.conferenceRoom.event [conferenceId, roomJid]

def lifecycle? (word : String) (cells : List Value) : Option (Except Fault Event) :=
  match word, cells with
  | "conference_created", [a, b] => some (conferenceCreated a b)
  | "conference_expired", [a] => some (conferenceExpired a)
  | "content_created", [a, b] => some (contentCreated a b)
  | "content_expired", [a, b] => some (contentExpired a b)
  | "channel_created", [a, b, c, d, e] => some (channelCreated a b c d e)
  | "channel_expired", [a, b, c, d, e] => some (channelExpired a b c d e)
  | "transport_created", [a, b, c, d, e] => some (transportCreated a b c d e)
  | "transport_channel_added", [a, b, c] => some (transportChannelAdded a b c)
  | "transport_channel_removed", [a, b, c] => some (transportChannelRemoved a b c)
  | "transport_connected", [a, b, c] => some (transportConnected a b c)
  | "transport_state_changed", [a, b, c, d] => some (transportStateChanged a b c d)
  | "endpoint_created", [a, b] => some (endpointCreated a b)
  | "endpoint_display_name_changed", [a, b, c] => some (endpointDisplayNameChanged a b c)
  | "focus_created", [a] => some (focusCreated a)
  | "conference_room", [a, b] => some (conferenceRoom a b)
  | _, _ => none

def lifecycleWords : List String :=
  ["conference_created", "conference_expired", "content_created", "content_expired",
   "channel_created", "channel_expired", "transport_created", "transport_channel_added",
   "transport_channel_removed", "transport_connected", "transport_state_changed",
   "endpoint_created", "endpoint_display_name_changed", "focus_created", "conference_room"]

/-- The event that a word names; it must name one and come with as many values as there are
columns. -/
def lifecycle (word : String) (cells : List Value) : Except Fault Event :=
  match lifecycle? word cells with
  | some e => e
  | none => .error (if lifecycleWords.contains word then .unsuitable else .absentMember)

end Event

end SessionTelemetry
