import SessionTelemetry.Metrics.Outcome

/-!
# Publishers supplied from outside

An application may register publishers of its own. All that is known of one is how it answers each
operation; it keeps the calls that reached it. An operation without an answer does not exist.
-/

namespace SessionTelemetry

inductive PublisherOperation where
  | numeric
  | string
  | incremental
  | start
  | finish
  deriving DecidableEq, Repr

namespace MetricCall

def arguments : MetricCall → List Value
  | numeric name value => [name, value]
  | string name value => [name, value]
  | incremental name delta => name :: delta.toList
  | start type id => [type, id]
  | finish type id => [type, id]

def operation : MetricCall → PublisherOperation
  | numeric _ _ => .numeric
  | string _ _ => .string
  | incremental _ _ => .incremental
  | start _ _ => .start
  | finish _ _ => .finish

end MetricCall

/-- What has been done with a publisher from outside: it was created with a configuration, or
called. -/
inductive StandInEntry where
  | created (config : Value)
  | called (call : MetricCall)

structure StandIn where
  /-- The name that the publisher gives itself, or what reading it comes to. -/
  name : Except Fault Value := .error .absentMember
  typeName : String
  answers : List (PublisherOperation × Except Fault Reply) := []
  entries : List StandInEntry := []

namespace StandIn

def publish (s : StandIn) (call : MetricCall) : Except Fault Reply × StandIn :=
  match s.answers.lookup call.operation with
  | some reply => (reply, { s with entries := s.entries ++ [.called call] })
  | none => (.error .absentMember, s)

end StandIn

end SessionTelemetry
