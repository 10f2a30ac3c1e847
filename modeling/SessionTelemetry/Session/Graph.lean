import SessionTelemetry.Fault
import SessionTelemetry.Series.Event
import SessionTelemetry.Value.HashCode

/-!
# The session model

Conferences, contents, channels and transports are objects of the session model, which owns them.
Telemetry only reads their attributes. Any reading may fail, and an attribute may hold anything.
-/

namespace SessionTelemetry

inductive Attribute where
  | conferences
  | id
  | focus
  | isExpired
  | videobridge
  | contents
  | endpoints
  | title
  | conference
  | channels
  | displayName
  | localUfrag
  | localAddress
  | remoteAddress
  | selectedPair
  | components
  | agent
  | iceStream
  | numComponents
  | isControlling
  | hash
  | content
  | endpoint
  | streamTargetAddress
  | transportManager
  | lastN
  | other (name : String)
  deriving DecidableEq, Repr

namespace Attribute

def name : Attribute → String
  | conferences => "conferences"
  | id => "id"
  | focus => "focus"
  | isExpired => "is_expired"
  | videobridge => "videobridge"
  | contents => "contents"
  | endpoints => "endpoints"
  | title => "name"
  | conference => "conference"
  | channels => "channels"
  | displayName => "display_name"
  | localUfrag => "local_ufrag"
  | localAddress => "local_address"
  | remoteAddress => "remote_address"
  | selectedPair => "selected_pair"
  | components => "components"
  | agent => "agent"
  | iceStream => "ice_stream"
  | numComponents => "num_components"
  | isControlling => "is_controlling"
  | hash => "hash"
  | content => "content"
  | endpoint => "endpoint"
  | streamTargetAddress => "stream_target_address"
  | transportManager => "transport_manager"
  | lastN => "last_n"
  | other name => name

def known : List Attribute :=
  [conferences, id, focus, isExpired, videobridge, contents, endpoints, title, conference, channels,
   displayName, localUfrag, localAddress, remoteAddress, selectedPair, components, agent, iceStream,
   numComponents, isControlling, hash, content, endpoint, streamTargetAddress, transportManager,
   lastN]

def ofName (s : String) : Attribute := (known.find? fun a => a.name = s).getD (other s)

end Attribute

/-- The session model as it can be read: an object's attribute has a value or fails to be read. -/
structure SessionGraph where
  read : String → Attribute → Except Fault Value

namespace SessionGraph

def get (g : SessionGraph) (v : Value) (a : Attribute) : Except Fault Value :=
  match v with
  | .object name => g.read name a
  | _ => .error .absentMember

/-- Reads an attribute through a reference that may be null, which has only nulls. -/
def getOrNull (g : SessionGraph) (v : Value) (a : Attribute) : Except Fault Value :=
  if v.isNull then .ok .null else g.get v a

def set (g : SessionGraph) (object : String) (a : Attribute) (outcome : Except Fault Value) :
    SessionGraph where
  read name b := if name = object ∧ b = a then outcome else g.read name b

/-- The hash code of an object: the integer that it states, or one if it states nothing. -/
def hashOf (g : SessionGraph) (name : String) : Except Fault Int :=
  match g.read name .hash with
  | .ok (.int n) => .ok (HashCode.ofStated n)
  | .ok (.bool b) => .ok b.toInt
  | .ok _ => .error .unsuitable
  | .error fault => if fault.isAbsent then .ok 1 else .error fault

def hashCode (g : SessionGraph) (transport : Value) : Except Fault Value := do
  return .int (← transport.hashCode g.hashOf)

/-- The candidate pairs in use by the components of a stream, each as two addresses. Components
without a pair are passed over. -/
def selectedPairs (g : SessionGraph) (stream : Value) : Except Fault String := do
  let components ← (← g.get stream .components).elements
  let parts ← components.mapM fun component => do
    let pair ← g.get component .selectedPair
    if pair.isNull then return ""
    let near ← (← g.get pair .localAddress).shown
    let far ← (← g.get pair .remoteAddress).shown
    return near ++ " -> " ++ far ++ "; "
  return String.join parts

end SessionGraph

end SessionTelemetry
