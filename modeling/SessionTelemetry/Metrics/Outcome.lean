import SessionTelemetry.Fault
import SessionTelemetry.Value.Basic

/-!
# Calls to metric publishers and their outcomes

A publisher takes five kinds of calls. It accepts a call, declares the kind unsupported, or fails;
a publisher from outside may also answer with a value of its own, or raise a fault.
-/

namespace SessionTelemetry

inductive MetricCall where
  | numeric (name value : Value)
  | string (name value : Value)
  | incremental (name : Value) (delta : Option Value)
  | start (type id : Value)
  | finish (type id : Value)

inductive Outcome where
  | ok
  | unsupported
  | failed (fault : Option Fault)
  deriving DecidableEq, Repr

/-- What a publisher answers: an outcome, or some other value. -/
inductive Reply where
  | outcome (o : Outcome)
  | other (v : Value)

namespace MetricCall

def subject : MetricCall → Value
  | numeric name _ => name
  | string name _ => name
  | incremental name _ => name
  | start type _ => type
  | finish type _ => type

def kind : MetricCall → String
  | numeric _ _ => "numeric"
  | string _ _ => "string"
  | incremental _ _ => "incremental"
  | start _ _ => "measured transaction"
  | finish _ _ => "measured transaction"

end MetricCall

namespace Reply

def ok : Reply := outcome .ok

def unsupported : Reply := outcome .unsupported

def failed (fault : Fault) : Reply := outcome (.failed (some fault))

end Reply

namespace Outcome

/-- The outcome of a call from what its publisher did. Any value that is no outcome counts as
success, an operation declared unsupported as such, every other fault as failure. -/
def ofReply : Except Fault Reply → Outcome
  | .ok (.outcome o) => o
  | .ok (.other _) => ok
  | .error fault => if fault.isUnsupported then unsupported else failed (some fault)

end Outcome

end SessionTelemetry
