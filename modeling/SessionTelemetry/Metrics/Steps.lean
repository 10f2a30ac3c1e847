import SessionTelemetry.Metrics.Publisher

/-!
# Steps of a publisher

A publisher on its own is called directly, between changes of its clock and of the meters.
-/

namespace SessionTelemetry

inductive PublisherStep where
  | call (c : Except Fault MetricCall)
  | tick (now : Value)
  /-- A meter refuses what is named, and nothing else. -/
  | refuse (meterName : String) (named : List String)
  | last (name : Value)

namespace Publisher

/-- Takes a step. A step that is no call answers with a value, null if there is nothing to say. -/
def take (b : MetricBackends) (p : Publisher) :
    PublisherStep → PublisherAnswer MetricBackends Publisher
  | .call (.ok call) => p.respond b call
  | .call (.error fault) => ⟨.error fault, p, b, []⟩
  | .tick now => ⟨.ok (.other .null), p, b.tick now, []⟩
  | .refuse name named =>
    ⟨.ok (.other .null), p, b.setMeter name ((b.meters name).refusing named), []⟩
  | .last name =>
    match p with
    | memory m => ⟨.ok (.other ((m.lastNumeric? name).getD .null)), p, b, []⟩
    | _ => ⟨.error .absentMember, p, b, []⟩

end Publisher

end SessionTelemetry
