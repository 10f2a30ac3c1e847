import SessionTelemetry.Notify.Scenario
import SessionTelemetry.Session.Objects

/-!
# A first session

The service that the environment asks for is notified of one conference, from its creation to its
expiry. Metrics go to the log, so that there is something to see with nothing configured.
-/

namespace SessionTelemetry

namespace Demo

def objects : List (String × SessionObject) :=
  [("bridge", [(.conferences, .ok (.list [.object "conference"]))]),
   ("conference",
     [(.id, .ok (.text "demo")), (.focus, .ok (.text "focus@auth.example.com")),
      (.isExpired, .ok (.bool false)), (.videobridge, .ok (.object "bridge")),
      (.contents, .ok (.list []))])]

def metricSettings : MetricSettings where
  enabled := .bool true
  publishers := .tuple [.text "logging"]

def steps : List ScenarioStep :=
  [.signal [] (.conferenceCreated (.object "conference")),
   .change "conference" .isExpired (.ok (.bool true)),
   .signal [] (.conferenceExpired (.object "conference"))]

/-- Takes steps one after the other until one of them fails. -/
def follow {σ : Type} (send : Client σ) (s : Scenario σ) :
    List ScenarioStep → Except Fault Unit × List Record
  | [] => (.ok (), [])
  | step :: rest =>
    let r := s.step send step
    match r.answer with
    | .error fault => (.error fault, r.records)
    | .ok _ =>
      let (outcome, later) := follow send r.state rest
      (outcome, r.records ++ later)

def run {σ : Type} (connect : ClientMaker) (send : Client σ) (link : σ) (environment : Properties)
    (wall : Value) : Except Fault Unit × List Record :=
  let graph := SessionGraph.ofObjects objects
  match Bootstrap.create connect PublisherFactory.builtIn graph.hashOf environment none
      (some metricSettings) with
  | .error fault => (.error fault, [])
  | .ok (tree, records) =>
    let s : Scenario σ := { tree, shared := { graph, wall }, link }
    let (outcome, later) := follow send s steps
    (outcome, records ++ later)

end Demo

end SessionTelemetry
