import SessionTelemetry.Benchmark.Options
import SessionTelemetry.Dispatch.Dispatcher
import SessionTelemetry.Series.Lifecycle
import SessionTelemetry.Series.Payload
import SessionTelemetry.Sorting.Natural

/-!
# The benchmark of the dispatcher

Events are encoded and dispatched one after the other, and the time that each dispatch takes is
noted. The report names the options, the counters, the throughput, and the median and the largest
of these times in microseconds.
-/

namespace SessionTelemetry

/-- What a run of the benchmark measures; times are in seconds. -/
structure BenchmarkRun where
  sent : Nat
  dropped : Nat
  elapsed : Value
  submits : List Binary64

namespace BenchmarkOptions

def poolSettings (o : BenchmarkOptions) : PoolSettings where
  maxWorkers := .int o.workers
  maxQueueSize := .int o.maxQueue
  overflowPolicy := .text o.overflow

end BenchmarkOptions

namespace Benchmark

def payload (capture : Int) (position : Nat) : Except Fault String := do
  let e ← Event.conferenceCreated (.text s!"conf{position}") .null
  (e.encode (.readings [.int capture] 0)).1

def submitAll (d : Dispatcher) : List Nat → Except Fault Dispatcher
  | [] => .ok d
  | position :: rest => do
    let (_, d, _) := d.dispatch (← payload 0 position)
    let (_, d, _) := d.flush (fun () _ => (.ok (), ())) ()
    submitAll d rest

/-- The time in the middle, or half way between the two in the middle; zero without any. -/
def median (times : List Binary64) : Binary64 :=
  let inOrder := Sorting.ascending Binary64.less times
  let middle := inOrder.length / 2
  let upper := inOrder.getD middle .zero
  if inOrder.length % 2 = 1 then upper
  else (upper.add (inOrder.getD (middle - 1) .zero)).div (.ofInt 2)

def longest : List Binary64 → Binary64
  | [] => .zero
  | first :: rest => rest.foldl (fun m x => if m.less x then x else m) first

/-- Payloads per second; zero unless a finite time has passed. -/
def throughput (sent : Nat) (elapsed : Value) : Binary64 :=
  match elapsed.extent? with
  | some (.finite seconds) => if 0 < seconds then .ofRat (sent / seconds) else .zero
  | _ => .zero

def inMicroseconds (x : Binary64) : Binary64 := x.mul (.ofInt 1000000)

def fixedText (places : Nat) (x : Binary64) : String := String.ofList (x.fixed places)

abbrev Line := Except Fault String

def report (o : BenchmarkOptions) (r : BenchmarkRun) : List Line :=
  [.ok s!"events={o.events}",
   .ok s!"workers={o.workers}",
   .ok s!"max_queue={o.maxQueue}",
   .ok s!"overflow={o.overflow}",
   .ok s!"post_latency_ms={fixedText 2 o.latency}",
   r.elapsed.numberAsFloat.map fun elapsed => s!"elapsed_s={fixedText 3 elapsed}",
   .ok s!"sent={r.sent}",
   .ok s!"dropped={r.dropped}",
   .ok s!"throughput_eps={fixedText 2 (throughput r.sent r.elapsed)}",
   .ok s!"dispatch_p50_us={fixedText 2 (inMicroseconds (median r.submits))}",
   .ok s!"dispatch_max_us={fixedText 2 (inMicroseconds (longest r.submits))}"]

/-- The text of the lines up to the first one that cannot be written, and the fault of that one. -/
def written : List Line → String × Except Fault Unit
  | [] => ("", .ok ())
  | .error fault :: _ => ("", .error fault)
  | .ok line :: rest =>
    let (text, outcome) := written rest
    (line ++ "\n" ++ text, outcome)

def submitTimes (listed : List Value) (count : Nat) : Except Fault (List Binary64) :=
  (List.range count).mapM fun i => do
    let reading := listed.getD (i % listed.length) (.float .zero)
    (← reading.difference (.float .zero)).numberAsFloat

/-- The report of the benchmark under clocks that are given: two readings of the wall clock, and the
times of submissions in turn. -/
def rehearse (arguments : List String) (started ended : Value) (submits : List Value) :
    Except Fault (List Line) := do
  let o ← BenchmarkOptions.ofArguments arguments
  let d ← Dispatcher.ofSettings o.poolSettings
  let d ← submitAll d (List.range o.events.toNat)
  let times ← submitTimes submits o.events.toNat
  return report o ⟨d.pool.sent, d.pool.dropped, ← ended.difference started, times⟩

def output (arguments : List String) (started ended : Value) (submits : List Value) :
    String × Except Fault Unit :=
  match rehearse arguments started ended submits with
  | .error fault => ("", .error fault)
  | .ok lines => written lines

end Benchmark

end SessionTelemetry
