import SessionTelemetry.Settings.Properties

/-!
# Settings of the dispatcher

Bounds of the worker pool and its queue, and what to discard when the queue is full.
-/

namespace SessionTelemetry

namespace SettingName

def maxWorkers : String := "MEDIATEL_DISPATCH_MAX_WORKERS"
def maxQueue : String := "MEDIATEL_DISPATCH_MAX_QUEUE"
def overflow : String := "MEDIATEL_DISPATCH_OVERFLOW"

end SettingName

namespace OverflowPolicy

def dropOldest : String := "drop_oldest"
def dropNewest : String := "drop_newest"

/-- The policy that a text names, in any case; the oldest payload goes when it names none. -/
def ofText? (shown : Option String) : Except Fault String :=
  match shown with
  | none => .ok dropOldest
  | some s =>
    let name := Text.lowerCase (Text.trimmed s)
    if name = dropOldest ∨ name = dropNewest then .ok name
    else .error (.unknownPolicy SettingName.overflow s)

end OverflowPolicy

/-- The settings of a dispatcher. Bounds and times are values as they were given. -/
structure PoolSettings where
  maxWorkers : Value := .int 4
  maxQueueSize : Value := .int 1024
  overflowPolicy : Value := .text OverflowPolicy.dropOldest
  idleTimeout : Value := .float (.ofInt 60)

namespace PoolSettings

def checkBound (setting : String) (bound : Value) : Except Fault Unit := do
  if ← bound.isBelow 1 then throw (.boundBelowOne setting bound.display)

def validate (s : PoolSettings) : Except Fault Unit := do
  checkBound SettingName.maxWorkers s.maxWorkers
  checkBound SettingName.maxQueue s.maxQueueSize

def ofProperties (props : Properties) : Except Fault PoolSettings := do
  let toInteger := fun (v : Value) => v.toInteger.map Value.int
  let maxWorkers ← props.number SettingName.maxWorkers (.int 4) toInteger
  let maxQueueSize ← props.number SettingName.maxQueue (.int 1024) toInteger
  let policy ← OverflowPolicy.ofText? (props.text? SettingName.overflow)
  return { maxWorkers, maxQueueSize, overflowPolicy := .text policy }

end PoolSettings

end SessionTelemetry
