import SessionTelemetry.Fault

/-!
# The worker pool

Payloads wait in a bounded queue until a worker takes one and posts it. A worker is started when a
payload comes in that no idle worker is there for, as long as there are fewer than the limit. A
worker that finds the queue empty falls asleep, and leaves when nothing comes up in time or the pool
is closed.

Workers are not told apart: a state lists the payloads that are being posted and counts the other
workers by phase. Every action of the pool is a function on its states that also says what became
of payloads, so the history of a pool is the list of its notices.
-/

namespace SessionTelemetry

inductive Overflow where
  /-- The payload that has waited longest makes room. -/
  | evictOldest
  /-- The payload itself is refused. -/
  | refuseNewest
  deriving DecidableEq, Repr

/-- The bounds of a pool. A bound that is absent does not bind. -/
structure PoolLimits where
  workers : Option Nat
  waiting : Option Nat
  overflow : Overflow
  /-- Whether a worker can wait for a notification as long as it is told to. -/
  canWait : Bool := true
  deriving DecidableEq, Repr

namespace PoolLimits

def isFull (limits : PoolLimits) (waiting : Nat) : Bool :=
  match limits.waiting with
  | some bound => decide (bound ≤ waiting)
  | none => false

def mayStart (limits : PoolLimits) (workers : Nat) : Bool :=
  match limits.workers with
  | some bound => decide (workers < bound)
  | none => true

end PoolLimits

/-- The phases of a worker that posts nothing. -/
inductive Phase where
  /-- Started, or done with a post, and about to look at the queue. -/
  | ready
  /-- Waiting for a notification. -/
  | asleep
  /-- Notified in time. -/
  | woken
  /-- Out of time, and not yet off the list of those who wait. -/
  | lapsed
  /-- Out of time, and notified after that. -/
  | called
  deriving DecidableEq, Repr

namespace Phase

def isOverdue : Phase → Bool
  | lapsed => true
  | called => true
  | _ => false

end Phase

inductive Notice (α : Type) where
  | refusedClosed (payload : α)
  | refusedFull (payload : α)
  | evicted (payload : α)
  | admitted (payload : α)
  | taken (payload : α)
  | delivered (payload : α)
  | lost (payload : α) (fault : Fault)
  deriving Repr

structure Pool (α : Type) where
  /-- The payloads that wait, oldest first. -/
  queue : List α := []
  /-- The payloads that are being posted, in the order in which they were taken. -/
  posting : List α := []
  ready : Nat := 0
  asleep : Nat := 0
  woken : Nat := 0
  lapsed : Nat := 0
  called : Nat := 0
  /-- The workers whose wait failed. They take nothing any more and never leave. -/
  stranded : Nat := 0
  closed : Bool := false
  submitted : Nat := 0
  sent : Nat := 0
  failed : Nat := 0
  dropped : Nat := 0
  deriving Repr

namespace Pool

variable {α : Type}

/-- The number of workers that count as waiting for more: those that wait, and the stranded ones. -/
def idle (s : Pool α) : Nat := s.asleep + s.woken + s.lapsed + s.called + s.stranded

def workers (s : Pool α) : Nat := s.ready + s.idle + s.posting.length

def isDrained (s : Pool α) : Bool := s.queue.isEmpty && s.posting.isEmpty

/-- Notifies one of the workers that wait for it, one in phase `first` if there is any. -/
def notify (first : Phase) (s : Pool α) : Pool α :=
  if s.lapsed ≠ 0 ∧ (first = .lapsed ∨ s.asleep = 0) then
    { s with lapsed := s.lapsed - 1, called := s.called + 1 }
  else if s.asleep ≠ 0 then { s with asleep := s.asleep - 1, woken := s.woken + 1 }
  else s

def startWorker (limits : PoolLimits) (s : Pool α) : Pool α :=
  if s.idle < s.queue.length ∧ limits.mayStart s.workers then { s with ready := s.ready + 1 } else s

def enqueue (limits : PoolLimits) (first : Phase) (payload : α) (s : Pool α) : Pool α :=
  notify first (startWorker limits { s with queue := s.queue ++ [payload] })

/-- Takes a payload in. The first component says whether it was accepted; `first` is the phase
that a notification prefers. -/
def dispatch (limits : PoolLimits) (first : Phase) (payload : α) (s : Pool α) :
    Bool × Pool α × List (Notice α) :=
  if s.closed then (false, { s with dropped := s.dropped + 1 }, [.refusedClosed payload])
  else
    let s := { s with submitted := s.submitted + 1 }
    if limits.isFull s.queue.length then
      let s := { s with dropped := s.dropped + 1 }
      match limits.overflow with
      | .refuseNewest => (false, s, [.refusedFull payload])
      | .evictOldest =>
        (true, enqueue limits first payload { s with queue := s.queue.tail },
          s.queue.head?.toList.map .evicted ++ [.admitted payload])
    else (true, enqueue limits first payload s, [.admitted payload])

def without? (phase : Phase) (s : Pool α) : Option (Pool α) :=
  match phase with
  | .ready => if s.ready = 0 then none else some { s with ready := s.ready - 1 }
  | .asleep => if s.asleep = 0 then none else some { s with asleep := s.asleep - 1 }
  | .woken => if s.woken = 0 then none else some { s with woken := s.woken - 1 }
  | .lapsed => if s.lapsed = 0 then none else some { s with lapsed := s.lapsed - 1 }
  | .called => if s.called = 0 then none else some { s with called := s.called - 1 }

/-- A worker in a phase looks at the queue: it takes the oldest payload, or else falls asleep, or
leaves, or is stranded. A worker that is asleep does not look. -/
def attempt? (limits : PoolLimits) (phase : Phase) (s : Pool α) :
    Option (Pool α × List (Notice α)) :=
  if phase = .asleep then none
  else (s.without? phase).map fun rest =>
    match rest.queue with
    | payload :: waiting =>
      ({ rest with queue := waiting, posting := rest.posting ++ [payload] }, [.taken payload])
    | [] =>
      if rest.closed || phase.isOverdue then (rest, [])
      else if limits.canWait then ({ rest with asleep := rest.asleep + 1 }, [])
      else ({ rest with stranded := rest.stranded + 1 }, [])

def lapse? (s : Pool α) : Option (Pool α) :=
  (s.without? .asleep).map fun rest => { rest with lapsed := rest.lapsed + 1 }

def finish? (position : Nat) (outcome : Except Fault Unit) (s : Pool α) :
    Option (Pool α × List (Notice α)) :=
  s.posting[position]?.map fun payload =>
    let s := { s with posting := s.posting.eraseIdx position, ready := s.ready + 1 }
    match outcome with
    | .ok () => ({ s with sent := s.sent + 1 }, [.delivered payload])
    | .error fault => ({ s with failed := s.failed + 1 }, [.lost payload fault])

def close (s : Pool α) : Pool α :=
  { s with
    closed := true
    asleep := 0
    woken := s.woken + s.asleep
    lapsed := 0
    called := s.called + s.lapsed }

end Pool

inductive PoolAction (α : Type) where
  | dispatch (payload : α) (first : Phase)
  | attempt (phase : Phase)
  | lapse
  | finish (position : Nat) (outcome : Except Fault Unit)
  /-- Somebody looks whether the pool is drained. -/
  | drain
  | close

namespace Pool

variable {α : Type}

/-- What an action leaves behind, if it can happen, and what it makes of payloads. -/
def act? (limits : PoolLimits) (s : Pool α) : PoolAction α → Option (Pool α × List (Notice α))
  | .dispatch payload first => some (s.dispatch limits first payload).2
  | .attempt phase => s.attempt? limits phase
  | .lapse => s.lapse?.map fun t => (t, [])
  | .finish position outcome => s.finish? position outcome
  | .drain => some (s, [])
  | .close => some (s.close, [])

def answer? (limits : PoolLimits) (s : Pool α) : PoolAction α → Option Bool
  | .dispatch payload first => some (s.dispatch limits first payload).1
  | .drain => some s.isDrained
  | _ => none

/-- The states that a new pool can get to, each with its history. -/
inductive Reachable (limits : PoolLimits) : Pool α → List (Notice α) → Prop where
  | start : Reachable limits {} []
  | next {s t : Pool α} {history new : List (Notice α)} (action : PoolAction α) :
      Reachable limits s history → s.act? limits action = some (t, new) →
      Reachable limits t (history ++ new)

end Pool

end SessionTelemetry
