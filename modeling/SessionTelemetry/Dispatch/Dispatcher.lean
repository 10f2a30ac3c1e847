import SessionTelemetry.Dispatch.Settled
import SessionTelemetry.Record
import SessionTelemetry.Settings.Pool
import SessionTelemetry.Value.Numeric

/-!
# Dispatchers

A dispatcher is a pool with a name, set up from settings, that records what is refused, evicted or
lost. Dispatching a payload only puts it into the queue; its delivery is up to the workers, and a
delivery that fails is recorded and not tried again.
-/

namespace SessionTelemetry

structure PoolStats where
  submitted : Nat
  sent : Nat
  failed : Nat
  dropped : Nat
  queued : Nat
  inFlight : Nat
  workers : Nat
  deriving DecidableEq, Repr

def Pool.stats {α : Type} (s : Pool α) : PoolStats where
  submitted := s.submitted
  sent := s.sent
  failed := s.failed
  dropped := s.dropped
  queued := s.queue.length
  inFlight := s.posting.length
  workers := s.workers

namespace PoolSettings

/-- The number of workers or payloads that a bound allows: the least one that is not below it.
Nothing binds where no number of them reaches the bound. -/
def wholeBound (bound : Value) : Option Nat :=
  match bound.extent? with
  | some (.finite q) => some q.ceil.toNat
  | some (.infinite true) => some 0
  | _ => none

def workerBound (bound : Value) : Option Nat :=
  match bound.extent? with
  | some (.nan _) => some 0
  | _ => wholeBound bound

/-- The nanoseconds that a wait must stay below: half a step of the floats there below two to the
power of 63, as the nanoseconds of a wait are rounded to a float and then counted in 64 bits. -/
def waitBound : Int := 9223372036854775296

/-- Whether a worker can wait as long as the idle time says. Without an idle time it waits until it
is notified, and it has no time to wait where the idle time is not above zero. -/
def canWait (s : PoolSettings) : Bool :=
  match s.idleTimeout.extent? with
  | some (.finite seconds) => decide (seconds.num * 1000000000 < waitBound * seconds.den)
  | some (.infinite negative) => negative
  | some (.nan _) => true
  | none => s.idleTimeout.isNull

def limits (s : PoolSettings) : PoolLimits where
  workers := workerBound s.maxWorkers
  waiting := wholeBound s.maxQueueSize
  overflow :=
    if s.overflowPolicy.sameAs (.text OverflowPolicy.dropNewest) then .refuseNewest
    else .evictOldest
  canWait := s.canWait

def reclaims (s : PoolSettings) : Bool :=
  match s.idleTimeout.extent? with
  | some timeout => timeout.compare? (.finite 0) != some .gt
  | none => false

end PoolSettings

structure Dispatcher where
  name : String := "mediatel-dispatch"
  settings : PoolSettings := {}
  pool : Pool String := {}

namespace Dispatcher

def logger : String := "mediatel.dispatch"

def ofSettings (settings : PoolSettings) (name : String := "mediatel-dispatch") :
    Except Fault Dispatcher := do
  if ← settings.maxWorkers.isBelow 1 then throw .noWorkers
  if ← settings.maxQueueSize.isBelow 1 then throw .noQueue
  return { name, settings }

def overflowRecord (d : Dispatcher) (which : String) : Record where
  logger := logger
  level := Record.warningLevel
  text := do
    let bound ← d.settings.maxQueueSize.wholeText
    return s!"Dispatch queue full ({bound}); dropping {which} payload"

/-- The records of what became of a payload; nothing is recorded unless it was lost. -/
def noticeRecords (d : Dispatcher) : Notice String → List Record
  | .refusedClosed _ => [.debug logger s!"Dispatcher {d.name} is closed; payload dropped"]
  | .refusedFull _ => [d.overflowRecord "newest"]
  | .evicted _ => [d.overflowRecord "oldest"]
  | .lost _ fault =>
    if fault.isDelivery then
      let reason := fault.message?.getD ""
      [.info logger s!"Failed to post to time-series backend: {reason}"]
    else [.error logger "Unexpected error while posting series payload" (some fault)]
  | _ => []

def records (d : Dispatcher) (history : List (Notice String)) : List Record :=
  history.flatMap d.noticeRecords

def dispatch (d : Dispatcher) (payload : String) : Bool × Dispatcher × List Record :=
  let (accepted, pool, notices) := d.pool.dispatch d.settings.limits .asleep payload
  (accepted, { d with pool }, d.records notices)

def settle (d : Dispatcher) : Dispatcher × List (Notice String) :=
  let (pool, notices) := d.pool.settle d.settings.limits d.settings.reclaims
  ({ d with pool }, notices)

def flush {σ : Type} (d : Dispatcher) (post : Pool.Transport σ String) (link : σ) :
    σ × Dispatcher × List (Notice String) :=
  let (link, pool, notices) := d.pool.flush d.settings.limits d.settings.reclaims post link
  (link, { d with pool }, notices)

def release? (d : Dispatcher) (outcome : Except Fault Unit) :
    Option (Dispatcher × List (Notice String)) :=
  (d.pool.finish? 0 outcome).map fun (pool, notices) => ({ d with pool }, notices)

def close (d : Dispatcher) : Dispatcher × List Record :=
  ({ d with pool := d.pool.close }, [.info logger s!"Dispatcher {d.name} shut down"])

end Dispatcher

end SessionTelemetry
