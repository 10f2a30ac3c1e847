import SessionTelemetry.Benchmark.Report

/-!
# The benchmark program

Runs the benchmark against the clocks of the machine. Posts are tasks that sleep for the latency;
everything else is decided by the dispatcher.
-/

open SessionTelemetry

/-- A dispatcher with a task for each payload that is being posted, in the same order. -/
structure RunningBenchmark where
  dispatcher : Dispatcher
  posts : List (Task (Except IO.Error Unit)) := []

def RunningBenchmark.launch (latency : UInt32) (b : RunningBenchmark) : IO RunningBenchmark := do
  let (d, _) := b.dispatcher.settle
  let mut posts := b.posts
  for _ in [posts.length : d.pool.posting.length] do
    posts := posts ++ [← IO.asTask (IO.sleep latency) Task.Priority.dedicated]
  return ⟨d, posts⟩

/-- Ends the posts that are over, the oldest one in any case if `waits` is set. -/
partial def RunningBenchmark.reap (latency : UInt32) (waits : Bool) (b : RunningBenchmark) :
    IO RunningBenchmark := do
  match b.posts with
  | [] => return b
  | post :: later =>
    if waits || (← IO.hasFinished post) then
      let _ ← IO.wait post
      match b.dispatcher.release? (.ok ()) with
      | some (d, _) => (← RunningBenchmark.launch latency ⟨d, later⟩).reap latency waits
      | none => return b
    else return b

def secondsOf (nanoseconds : Nat) : Binary64 := .ofQuotient false nanoseconds 1000000000

def runBenchmark (o : BenchmarkOptions) (d : Dispatcher) : IO UInt32 := do
  let latency := UInt32.ofNat ((o.latency.truncate?.getD 0).toNat)
  let started ← IO.monoNanosNow
  let mut b : RunningBenchmark := ⟨d, []⟩
  let mut submits : List Binary64 := []
  for position in [0 : o.events.toNat] do
    match Benchmark.payload (← IO.monoMsNow) position with
    | .error _ => return 1
    | .ok payload =>
      let before ← IO.monoNanosNow
      let (_, dispatcher, _) := b.dispatcher.dispatch payload
      b ← RunningBenchmark.launch latency { b with dispatcher }
      submits := secondsOf ((← IO.monoNanosNow) - before) :: submits
      b ← b.reap latency false
  b ← b.reap latency true
  let elapsed := secondsOf ((← IO.monoNanosNow) - started)
  let pool := b.dispatcher.pool
  let lines := Benchmark.report o ⟨pool.sent, pool.dropped, .float elapsed, submits⟩
  let (text, outcome) := Benchmark.written lines
  IO.print text
  match outcome with
  | .ok () => return 0
  | .error _ => return 1

def main (arguments : List String) : IO UInt32 := do
  match BenchmarkOptions.ofArguments arguments with
  | .error _ =>
    IO.eprintln "options: --num-events, --workers, --max-queue, --overflow, --latency-ms"
    return 2
  | .ok o =>
    match Dispatcher.ofSettings o.poolSettings with
    | .error fault =>
      IO.eprintln (fault.message?.getD "")
      return 1
    | .ok d => runBenchmark o d
