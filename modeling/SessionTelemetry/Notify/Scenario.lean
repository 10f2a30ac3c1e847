import SessionTelemetry.Notify.Bootstrap

/-!
# Scenarios

A scenario takes a service through a session: objects change, signals are delivered, metrics are
published and clocks advance, all one after the other. Posts end before the next step begins.
-/

namespace SessionTelemetry

inductive ScenarioStep where
  | signal (place : ServiceTree.Path) (s : Signal)
  | publish (place : ServiceTree.Path) (call : Except Fault MetricCall)
  | change (object : String) (a : Attribute) (outcome : Except Fault Value)
  | tick (now : Value)
  | epoch (seconds : Value)
  /-- A meter refuses what is named, and nothing else. -/
  | refuse (meter : String) (named : List String)
  | last (place : ServiceTree.Path) (publisher : Nat) (name : Value)
  | close (place : ServiceTree.Path)
  | stats (place : ServiceTree.Path)

inductive ScenarioAnswer where
  | done
  | outcomes (os : List Outcome)
  | value (v : Value)
  | counters (s : PoolStats)

structure Scenario (σ : Type) where
  tree : ServiceTree LoggingService
  shared : Surroundings
  link : σ

structure ScenarioReport (σ : Type) where
  answer : Except Fault ScenarioAnswer
  state : Scenario σ
  emitted : List (ServiceTree.Path × Emission) := []
  records : List Record := []

namespace Scenario

variable {σ : Type}

def actAt (s : Scenario σ) (place : ServiceTree.Path)
    (act : ServiceTree LoggingService →
      (Except Fault ScenarioAnswer × Surroundings × List Record) × ServiceTree LoggingService) :
    ScenarioReport σ :=
  match s.tree.actAt? act place with
  | some ((answer, shared, records), tree) =>
    { answer, state := { s with tree, shared }, records }
  | none => { answer := .error .absentMember, state := s }

def deliver (shared : Surroundings) (signal : Signal) (t : ServiceTree LoggingService) :
    (Except Fault ScenarioAnswer × Surroundings × List Record) × ServiceTree LoggingService :=
  let r := t.deliver LoggingService.behaviour signal shared
  ((r.outcome.map fun _ => .done, r.shared, r.records), r.service)

def publish (shared : Surroundings) (call : Except Fault MetricCall) :
    ServiceTree LoggingService →
      (Except Fault ScenarioAnswer × Surroundings × List Record) × ServiceTree LoggingService
  | .leaf (.metrics service) =>
    match call with
    | .error fault => ((.error fault, shared, []), .leaf (.metrics service))
    | .ok call =>
      let done := service.publish shared.current call
      let answer := match done.fault with
        | some fault => .error fault
        | none => .ok (.outcomes done.outcomes)
      ((answer, { shared with backends := done.shared }, done.records),
        .leaf (.metrics ⟨done.publishers⟩))
  | t => ((.error .absentMember, shared, []), t)

def close (shared : Surroundings) : ServiceTree LoggingService →
    (Except Fault ScenarioAnswer × Surroundings × List Record) × ServiceTree LoggingService
  | .leaf (.series sink) =>
    let (outcome, sink, records) := sink.close
    ((outcome.map fun _ => .done, shared, records), .leaf (.series sink))
  | t => ((.error .absentMember, shared, []), t)

def stats : ServiceTree LoggingService → Except Fault ScenarioAnswer
  | .leaf (.series sink) =>
    match sink.stats? with
    | some counters => .ok (.counters counters)
    | none => .error .absentMember
  | _ => .error .absentMember

def last (publisher : Nat) (name : Value) :
    ServiceTree LoggingService → Except Fault ScenarioAnswer
  | .leaf (.metrics service) =>
    match service.publishers[publisher]? with
    | some (.memory m) => .ok (.value ((m.lastNumeric? name).getD .null))
    | _ => .error .absentMember
  | _ => .error .absentMember

def act (s : Scenario σ) : ScenarioStep → ScenarioReport σ
  | .signal place signal => s.actAt place (deliver s.shared signal)
  | .publish place call => s.actAt place (publish s.shared call)
  | .change object a outcome =>
    let graph := s.shared.graph.set object a outcome
    { answer := .ok .done, state := { s with shared := { s.shared with graph } } }
  | .tick now =>
    let backends := s.shared.backends.tick now
    { answer := .ok .done, state := { s with shared := { s.shared with backends } } }
  | .epoch wall => { answer := .ok .done, state := { s with shared := { s.shared with wall } } }
  | .refuse meter named =>
    let refusing := (s.shared.backends.meters meter).refusing named
    let backends := s.shared.backends.setMeter meter refusing
    { answer := .ok .done, state := { s with shared := { s.shared with backends } } }
  | .last place publisher name =>
    s.actAt place fun t => ((last publisher name t, s.shared, []), t)
  | .close place => s.actAt place (close s.shared)
  | .stats place => s.actAt place fun t => ((stats t, s.shared, []), t)

def flushService (send : Client σ)
    (state : σ × List (ServiceTree.Path × Emission) × List Record) (place : ServiceTree.Path) :
    LoggingService → (σ × List (ServiceTree.Path × Emission) × List Record) × LoggingService
  | .series sink =>
    let (link, emitted, records) := state
    let f := sink.flush send link
    ((f.link, emitted ++ f.emitted.map fun e => (place, e), records ++ f.records),
      .series f.state)
  | service => (state, service)

def flush (send : Client σ) (s : Scenario σ) :
    Scenario σ × List (ServiceTree.Path × Emission) × List Record :=
  let ((link, emitted, records), tree) := s.tree.sweep (flushService send) [] (s.link, [], [])
  ({ s with tree, link }, emitted, records)

def step (send : Client σ) (s : Scenario σ) (step : ScenarioStep) : ScenarioReport σ :=
  let r := s.act step
  let (state, emitted, records) := r.state.flush send
  ⟨r.answer, state, emitted, r.records ++ records⟩

end Scenario

end SessionTelemetry
