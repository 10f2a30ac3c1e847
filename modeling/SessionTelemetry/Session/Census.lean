import SessionTelemetry.Session.Graph

/-!
# Live counts

An entry of the session tree counts as long as it is present and its flag of expiry is not set. A
channel counts when its content and its conference count too. Nothing below an entry that does not
count is read.
-/

namespace SessionTelemetry

namespace SessionGraph

def entries (g : SessionGraph) (v : Value) (a : Attribute) : Except Fault (List Value) := do
  let items ← g.get v a
  if items.truthy then items.elements else return []

def isLive (g : SessionGraph) (entry : Value) : Except Fault Bool := do
  if entry.isNull then return false
  return !(← g.get entry .isExpired).truthy

def sumLive (g : SessionGraph) (count : Value → Except Fault Nat) : List Value → Except Fault Nat
  | [] => .ok 0
  | entry :: rest => do
    let here ← if ← g.isLive entry then count entry else pure 0
    return here + (← sumLive g count rest)

def liveConferences (g : SessionGraph) (bridge : Value) : Except Fault Nat := do
  g.sumLive (fun _ => .ok 1) (← g.entries bridge .conferences)

def liveChannels (g : SessionGraph) (bridge : Value) : Except Fault Nat := do
  let channelsOf := fun content => do
    g.sumLive (fun _ => .ok 1) (← g.entries content .channels)
  let contentsOf := fun conference => do
    g.sumLive channelsOf (← g.entries conference .contents)
  g.sumLive contentsOf (← g.entries bridge .conferences)

end SessionGraph

end SessionTelemetry
