import SessionTelemetry.Session.Graph

/-!
# Objects of a session model

A session model can be given object by object. An object has the attributes of its kind, each with
a value to start from, unless some are given or taken away.
-/

namespace SessionTelemetry

inductive ObjectKind where
  | videobridge
  | conference
  | content
  | endpoint
  | agent
  | pair
  | component
  | stream
  | transport
  | channel
  | videoChannel
  deriving DecidableEq, Repr

namespace ObjectKind

def name : ObjectKind → String
  | videobridge => "videobridge"
  | conference => "conference"
  | content => "content"
  | endpoint => "endpoint"
  | agent => "agent"
  | pair => "pair"
  | component => "component"
  | stream => "stream"
  | transport => "transport"
  | channel => "channel"
  | videoChannel => "video_channel"

def all : List ObjectKind :=
  [videobridge, conference, content, endpoint, agent, pair, component, stream, transport, channel,
   videoChannel]

def ofName? (s : String) : Option ObjectKind := all.find? fun k => k.name = s

def channelAttributes : List (Attribute × Value) :=
  [(.id, .text "ch"), (.content, .null), (.endpoint, .null), (.isExpired, .bool false),
   (.streamTargetAddress, .null), (.transportManager, .null)]

def attributes : ObjectKind → List (Attribute × Value)
  | videobridge => [(.conferences, .list [])]
  | conference =>
    [(.id, .text "conf"), (.focus, .null), (.isExpired, .bool false), (.videobridge, .null),
     (.contents, .list []), (.endpoints, .list [])]
  | content =>
    [(.title, .text "content"), (.conference, .null), (.isExpired, .bool false),
     (.channels, .list [])]
  | endpoint => [(.id, .text "ep"), (.displayName, .null), (.conference, .null)]
  | agent => [(.localUfrag, .text "ufrag1")]
  | pair => [(.localAddress, .text "l"), (.remoteAddress, .text "r")]
  | component => [(.selectedPair, .null)]
  | stream => [(.components, .list [])]
  | transport =>
    [(.conference, .null), (.agent, .null), (.iceStream, .null), (.numComponents, .int 1),
     (.isControlling, .bool true), (.hash, .int 1)]
  | channel => channelAttributes
  | videoChannel => channelAttributes ++ [(.lastN, .int 5)]

end ObjectKind

/-- An object: the outcome of reading each attribute that it has. -/
abbrev SessionObject := List (Attribute × Except Fault Value)

namespace SessionObject

def make (kind : ObjectKind) (given : SessionObject) (without : List Attribute) : SessionObject :=
  let standard : SessionObject := kind.attributes.map fun entry => (entry.1, .ok entry.2)
  (given ++ standard).filter fun entry => !without.contains entry.1

end SessionObject

def SessionGraph.ofObjects (objects : List (String × SessionObject)) : SessionGraph where
  read name a :=
    match (objects.lookup name).bind fun o => o.lookup a with
    | some outcome => outcome
    | none => .error .absentMember

end SessionTelemetry
