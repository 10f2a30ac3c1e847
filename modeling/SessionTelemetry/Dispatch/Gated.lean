import SessionTelemetry.Dispatch.Dispatcher

/-!
# Dispatchers behind a gate

To watch a dispatcher at work, its posts are held back behind a gate until they are released one by
one or the gate is opened. After every step the workers come to rest, so that each step has one
outcome.
-/

namespace SessionTelemetry

inductive GateStep where
  | dispatch (payload : String)
  | release (outcome : Except Fault Unit)
  | openGate
  | drain
  | close
  deriving Repr

inductive GateAnswer where
  | nothing
  | accepted (b : Bool)
  | drained (b : Bool)
  | released (payload : Option String)
  deriving DecidableEq, Repr

structure GatedDispatcher where
  dispatcher : Dispatcher
  isOpen : Bool := false

structure GateReport where
  answer : GateAnswer
  state : GatedDispatcher
  records : List Record
  notices : List (Notice String)

namespace GatedDispatcher

/-- Lets the workers come to rest; `outcome` says how posts end at an open gate. -/
def rest (outcome : String → Except Fault Unit) (g : GatedDispatcher) :
    GatedDispatcher × List (Notice String) :=
  if g.isOpen then
    let ((), d, notices) := g.dispatcher.flush (fun () payload => (outcome payload, ())) ()
    ({ g with dispatcher := d }, notices)
  else
    let (d, notices) := g.dispatcher.settle
    ({ g with dispatcher := d }, notices)

def act (g : GatedDispatcher) : GateStep → GateReport
  | .dispatch payload =>
    let (accepted, d, records) := g.dispatcher.dispatch payload
    ⟨.accepted accepted, { g with dispatcher := d }, records, []⟩
  | .release outcome =>
    match g.dispatcher.release? outcome with
    | some (d, notices) =>
      ⟨.released g.dispatcher.pool.posting.head?, { g with dispatcher := d }, [], notices⟩
    | none => ⟨.released none, g, [], []⟩
  | .openGate => ⟨.nothing, { g with isOpen := true }, [], []⟩
  | .drain => ⟨.drained g.dispatcher.pool.isDrained, g, [], []⟩
  | .close =>
    let (d, records) := g.dispatcher.close
    ⟨.nothing, { g with dispatcher := d }, records, []⟩

def step (outcome : String → Except Fault Unit) (g : GatedDispatcher) (s : GateStep) :
    GateReport :=
  let r := g.act s
  let (state, later) := r.state.rest outcome
  let notices := r.notices ++ later
  ⟨r.answer, state, r.records ++ g.dispatcher.records notices, notices⟩

def run (outcome : String → Except Fault Unit) (g : GatedDispatcher) :
    List GateStep → List GateReport
  | [] => []
  | s :: rest =>
    let r := g.step outcome s
    r :: r.state.run outcome rest

end GatedDispatcher

end SessionTelemetry
