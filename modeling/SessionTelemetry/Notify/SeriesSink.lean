import SessionTelemetry.Delivery.Post
import SessionTelemetry.Dispatch.Dispatcher
import SessionTelemetry.Notify.SeriesSignals
import SessionTelemetry.Series.Payload
import SessionTelemetry.Settings.Series

/-!
# The time-series sink

The sink encodes the event of a signal at once and hands the payload on. Usually a dispatcher takes
it; the payload is then posted later, when the sink is flushed.
-/

namespace SessionTelemetry

inductive PostLine where
  | memory
  /-- They are requests to an address, the reply to each of which may take this long. -/
  | http (url : String) (limit : Value)

inductive Outlet where
  | memory (payloads : List String)
  | refusing (fault : Fault)
  | dispatcher (d : Dispatcher) (line : PostLine)

inductive Emission where
  | payload (text : String)
  | request (r : PostRequest)
  deriving DecidableEq, Repr

structure Flushed (σ α : Type) where
  link : σ
  state : α
  emitted : List Emission := []
  records : List Record := []

structure SeriesSink where
  outlet : Outlet
  /-- The clock of its own that the sink reads, if it has one. -/
  clock : Option CaptureClock := none

namespace Outlet

def take (o : Outlet) (payload : String) : Except Fault Unit × Outlet × List Record :=
  match o with
  | memory payloads => (.ok (), memory (payloads ++ [payload]), [])
  | refusing fault => (.error fault, refusing fault, [])
  | dispatcher d line =>
    let (_, d, records) := d.dispatch payload
    (.ok (), dispatcher d line, records)

def keep : Pool.Transport (List String) String := fun kept payload => (.ok (), kept ++ [payload])

def flush {σ : Type} (send : Client σ) (link : σ) : Outlet → Flushed σ Outlet
  | memory payloads => ⟨link, memory [], payloads.map .payload, []⟩
  | refusing fault => ⟨link, refusing fault, [], []⟩
  | dispatcher d .memory =>
    let (kept, after, notices) := d.flush keep []
    ⟨link, dispatcher after .memory, kept.map .payload, d.records notices⟩
  | dispatcher d (.http url limit) =>
    let ((link, sent), after, notices) := d.flush (send.logged.post url) (link, [])
    ⟨link, dispatcher after (.http url limit), sent.map .request, d.records notices⟩

end Outlet

namespace SeriesSink

/-- The sink of some settings, and the record of setting it up. The connection settings are
checked before the bounds of the dispatcher, and both before the client is made. -/
def ofSettings (connect : Value → Except Fault Value) (s : SeriesSettings) :
    Except Fault (SeriesSink × List Record) := do
  let url ← s.requireUrl
  s.pool.validate
  let limit ← connect s.timeout
  let d ← Dispatcher.ofSettings s.pool
  let ready := Record.info SeriesAnswer.logger
    s!"Initialized time-series logging for {s.urlBase.display}, database {s.database.quote}"
  return ({ outlet := .dispatcher d (.http url limit) }, [ready])

/-- Encodes an event and hands it on. The wall clock is read where the sink has no clock of its
own. -/
def log (sink : SeriesSink) (wall : Value) (e : Event) :
    Except Fault Unit × SeriesSink × List Record :=
  let (payload, clock) := e.encode (sink.clock.getD (.wall wall))
  let sink := { sink with clock := sink.clock.map fun _ => clock }
  match payload with
  | .error fault => (.error fault, sink, [])
  | .ok payload =>
    let (taken, outlet, records) := sink.outlet.take payload
    (taken, { sink with outlet }, records)

def notify (sink : SeriesSink) (g : SessionGraph) (wall : Value) (signal : Signal) :
    Except Fault Unit × SeriesSink × List Record :=
  match SeriesAnswer.ofSignal g signal with
  | .error fault => (.error fault, sink, [])
  | .ok .nothing => (.ok (), sink, [])
  | .ok (.dropped record) => (.ok (), sink, [record])
  | .ok (.event e) => sink.log wall e

def flush {σ : Type} (sink : SeriesSink) (send : Client σ) (link : σ) : Flushed σ SeriesSink :=
  let f := sink.outlet.flush send link
  ⟨f.link, { sink with outlet := f.state }, f.emitted, f.records⟩

def close (sink : SeriesSink) : Except Fault Unit × SeriesSink × List Record :=
  match sink.outlet with
  | .dispatcher d line =>
    let (d, records) := d.close
    (.ok (), { sink with outlet := .dispatcher d line }, records)
  | _ => (.error .absentMember, sink, [])

def stats? (sink : SeriesSink) : Option PoolStats :=
  match sink.outlet with
  | .dispatcher d _ => some d.pool.stats
  | _ => none

end SeriesSink

end SessionTelemetry
