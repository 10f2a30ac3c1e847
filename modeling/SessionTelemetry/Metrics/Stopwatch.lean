import SessionTelemetry.Table
import SessionTelemetry.Value.Numeric

/-!
# Measured transactions

A transaction has a type and an identifier. Starting it notes the reading of the clock, once more
if it runs already; stopping it yields the time since, which is never negative even when the clock
was set back.
-/

namespace SessionTelemetry

/-- What is read from outside at the moment of a call: the clock that times transactions, in
seconds, and the hash codes of objects that serve as keys. -/
structure Moment where
  now : Value := .float .zero
  hashOf : HashReader := fun _ => .error .absentMember

structure Stopwatch where
  running : Table Key Value := {}

namespace Stopwatch

def key (moment : Moment) (type id : Value) : Except Fault Key :=
  (Value.tuple [type, id]).toKey moment.hashOf

def start (w : Stopwatch) (type id : Value) (moment : Moment) : Except Fault Stopwatch := do
  return ⟨w.running.put (← key moment type id) moment.now⟩

/-- Stops a transaction. There is no duration when it was not running. -/
def stop (w : Stopwatch) (type id : Value) (moment : Moment) :
    Except Fault (Option Value) × Stopwatch :=
  if w.running.entries.isEmpty then (.ok none, w)
  else
    match key moment type id with
    | .error fault => (.error fault, w)
    | .ok key =>
      match w.running.find? key with
      | none => (.ok none, w)
      | some started =>
        let rest : Stopwatch := ⟨w.running.erase key⟩
        if started.isNull then (.ok none, rest)
        else ((moment.now.difference started).map fun d => some d.aboveZero, rest)

def openCount (w : Stopwatch) : Nat := w.running.size

end Stopwatch

end SessionTelemetry
