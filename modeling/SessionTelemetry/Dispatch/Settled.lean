import SessionTelemetry.Dispatch.Pool

/-!
# Pools at rest

Left to themselves, workers look at the queue until each of them posts or sleeps; then the pool is
settled. Where idle workers are reclaimed at once, those that sleep leave first. `Pool.flush` also
lets every post end, with the outcomes of a transport, until nothing is left to do.

Each action on the way makes `Pool.load` smaller, so it bounds the number of actions.
-/

namespace SessionTelemetry

namespace Pool

variable {α σ : Type}

/-- A bound on what workers can do before a pool has come to rest. -/
def load (s : Pool α) : Nat :=
  4 * s.queue.length + 4 * s.posting.length + 3 * (s.ready + s.woken) + 2 * s.asleep +
    s.lapsed + s.called

def nextAction? (reclaims : Bool) (s : Pool α) : Option (PoolAction α) :=
  if s.ready ≠ 0 then some (.attempt .ready)
  else if s.woken ≠ 0 then some (.attempt .woken)
  else if s.lapsed ≠ 0 then some (.attempt .lapsed)
  else if s.called ≠ 0 then some (.attempt .called)
  else if reclaims ∧ s.asleep ≠ 0 then some .lapse
  else none

def settleWithin (limits : PoolLimits) (reclaims : Bool) :
    Nat → Pool α → Pool α × List (Notice α)
  | 0, s => (s, [])
  | n + 1, s =>
    match (s.nextAction? reclaims).bind (s.act? limits) with
    | none => (s, [])
    | some (t, new) =>
      let (u, later) := settleWithin limits reclaims n t
      (u, new ++ later)

def settle (limits : PoolLimits) (reclaims : Bool) (s : Pool α) : Pool α × List (Notice α) :=
  s.settleWithin limits reclaims s.load

abbrev Transport (σ α : Type) := σ → α → Except Fault Unit × σ

/-- The next thing that happens when every post can end; posts end oldest first, and only when
there is nothing else to do. -/
def flushStep? (limits : PoolLimits) (reclaims : Bool) (post : Transport σ α) (link : σ)
    (s : Pool α) : Option (σ × Pool α × List (Notice α)) :=
  match s.nextAction? reclaims with
  | some action => (s.act? limits action).map fun next => (link, next)
  | none =>
    match s.posting with
    | [] => none
    | payload :: _ =>
      let (outcome, link) := post link payload
      (s.finish? 0 outcome).map fun next => (link, next)

def flushWithin (limits : PoolLimits) (reclaims : Bool) (post : Transport σ α) :
    Nat → σ → Pool α → σ × Pool α × List (Notice α)
  | 0, link, s => (link, s, [])
  | n + 1, link, s =>
    match s.flushStep? limits reclaims post link with
    | none => (link, s, [])
    | some (link, t, new) =>
      let (link, u, later) := flushWithin limits reclaims post n link t
      (link, u, new ++ later)

def flush (limits : PoolLimits) (reclaims : Bool) (post : Transport σ α) (link : σ)
    (s : Pool α) : σ × Pool α × List (Notice α) :=
  s.flushWithin limits reclaims post s.load link

end Pool

end SessionTelemetry
