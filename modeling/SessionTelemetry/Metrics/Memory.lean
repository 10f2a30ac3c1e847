import SessionTelemetry.Metrics.Outcome
import SessionTelemetry.Metrics.Stopwatch

/-!
# The publisher that remembers

Every write is kept in the order in which it came; counters are added up under the names that they
were first written with.
-/

namespace SessionTelemetry

structure Duration where
  type : Value
  id : Value
  seconds : Value

structure Counter where
  name : Value
  total : Int := 0

structure MemoryPublisher where
  numeric : List (Value × Value) := []
  strings : List (Value × Value) := []
  counters : Table Key Counter := {}
  durations : List Duration := []
  transactions : Stopwatch := {}

namespace MemoryPublisher

/-- Adds to a counter. The name is looked up before the amount is read. -/
def increment (m : MemoryPublisher) (hashOf : HashReader) (name delta : Value) :
    Except Fault MemoryPublisher := do
  let key ← name.toKey hashOf
  let amount ← delta.toInteger
  let before := (m.counters.find? key).getD { name }
  return { m with counters := m.counters.put key { before with total := before.total + amount } }

def publish (m : MemoryPublisher) (moment : Moment) :
    MetricCall → Except Fault Reply × MemoryPublisher
  | .numeric name value => (.ok .ok, { m with numeric := m.numeric ++ [(name, value)] })
  | .string name value => (.ok .ok, { m with strings := m.strings ++ [(name, value)] })
  | .incremental name delta =>
    match m.increment moment.hashOf name (delta.getD (.int 1)) with
    | .ok after => (.ok .ok, after)
    | .error fault => (.error fault, m)
  | .start type id =>
    match m.transactions.start type id moment with
    | .ok w => (.ok .ok, { m with transactions := w })
    | .error fault => (.error fault, m)
  | .finish type id =>
    let (stopped, w) := m.transactions.stop type id moment
    let m := { m with transactions := w }
    match stopped with
    | .error fault => (.error fault, m)
    | .ok none => (.ok .ok, m)
    | .ok (some seconds) => (.ok .ok, { m with durations := m.durations ++ [⟨type, id, seconds⟩] })

def lastNumeric? (m : MemoryPublisher) (name : Value) : Option Value :=
  (m.numeric.reverse.find? fun e => e.1.sameAs name).map Prod.snd

end MemoryPublisher

end SessionTelemetry
