import Mathlib.Data.List.InsertIdx
import Mathlib.Data.List.Nodup
import SessionTelemetry.Proofs.Dispatch.Run

/-!
# Calls told apart by their numbers

Two calls may hand in equal payloads. In a numbered run each payload comes with the number of its
call. A pool does not look at payloads, so that a run is its numbered run without the numbers
(`run?_numbered`).
-/

namespace SessionTelemetry

variable {α β : Type}

def Notice.map (f : α → β) : Notice α → Notice β
  | refusedClosed payload => .refusedClosed (f payload)
  | refusedFull payload => .refusedFull (f payload)
  | evicted payload => .evicted (f payload)
  | admitted payload => .admitted (f payload)
  | taken payload => .taken (f payload)
  | delivered payload => .delivered (f payload)
  | lost payload fault => .lost (f payload) fault

namespace PoolAction

def map (f : α → β) : PoolAction α → PoolAction β
  | dispatch payload first => .dispatch (f payload) first
  | attempt phase => .attempt phase
  | lapse => .lapse
  | finish position outcome => .finish position outcome
  | drain => .drain
  | close => .close

@[simp] theorem payload?_map (f : α → β) (action : PoolAction α) :
    (action.map f).payload? = action.payload?.map f := by
  cases action <;> rfl

end PoolAction

namespace Pool

variable {limits : PoolLimits}

def map (f : α → β) (s : Pool α) : Pool β where
  queue := s.queue.map f
  posting := s.posting.map f
  ready := s.ready
  asleep := s.asleep
  woken := s.woken
  lapsed := s.lapsed
  called := s.called
  stranded := s.stranded
  closed := s.closed
  submitted := s.submitted
  sent := s.sent
  failed := s.failed
  dropped := s.dropped

theorem notify_map (f : α → β) (first : Phase) (s : Pool α) :
    notify first (s.map f) = (notify first s).map f := by
  rw [notify, notify, apply_ite (map f), apply_ite (map f)]
  rfl

theorem workers_map (f : α → β) (s : Pool α) : (s.map f).workers = s.workers := by
  simp [workers, idle, map]

theorem startWorker_map (f : α → β) (s : Pool α) :
    startWorker limits (s.map f) = (startWorker limits s).map f := by
  have hidle : (s.map f).idle = s.idle := rfl
  have hqueue : (s.map f).queue.length = s.queue.length := List.length_map f
  rw [startWorker, startWorker, hidle, workers_map, hqueue, apply_ite (map f)]
  rfl

theorem enqueue_map (f : α → β) (first : Phase) (payload : α) (s : Pool α) :
    enqueue limits first (f payload) (s.map f) = (enqueue limits first payload s).map f := by
  rw [enqueue, enqueue, ← notify_map, ← startWorker_map]
  simp [map]

theorem dispatch_map (f : α → β) (first : Phase) (payload : α) (s : Pool α) :
    (s.map f).dispatch limits first (f payload) =
      ((s.dispatch limits first payload).1, (s.dispatch limits first payload).2.1.map f,
        (s.dispatch limits first payload).2.2.map (Notice.map f)) := by
  have hqueue : (s.map f).queue.length = s.queue.length := List.length_map f
  have hclosed : (s.map f).closed = s.closed := rfl
  have hhead : (s.map f).queue.head? = s.queue.head?.map f := List.head?_map
  have htail : (s.map f).queue.tail = s.queue.tail.map f := (List.map_tail).symm
  unfold dispatch
  simp only [hqueue, hclosed, hhead, htail]
  by_cases closed : s.closed = true
  · simp only [if_pos closed]
    rfl
  · by_cases full : limits.isFull s.queue.length = true
    · cases limits.overflow with
      | refuseNewest =>
        simp only [if_neg closed, if_pos full]
        rfl
      | evictOldest =>
        simp only [if_neg closed, if_pos full, ← enqueue_map]
        cases s.queue.head? <;> rfl
    · simp only [if_neg closed, if_neg full, ← enqueue_map]
      rfl

theorem without?_map (f : α → β) (phase : Phase) (s : Pool α) :
    (s.map f).without? phase = (s.without? phase).map (map f) := by
  cases phase <;> simp only [without?, apply_ite (Option.map (map f)), Option.map_none,
    Option.map_some] <;> rfl

theorem attempt?_map (f : α → β) (phase : Phase) (s : Pool α) :
    (s.map f).attempt? limits phase =
      (s.attempt? limits phase).map fun next => (next.1.map f, next.2.map (Notice.map f)) := by
  unfold attempt?
  rw [without?_map]
  by_cases asleep : phase = .asleep
  · rw [if_pos asleep, if_pos asleep]
    rfl
  · rw [if_neg asleep, if_neg asleep]
    cases one : s.without? phase with
    | none => rfl
    | some rest =>
      have hclosed : (rest.map f).closed = rest.closed := rfl
      simp only [Option.map_some, hclosed]
      cases hq : rest.queue with
      | cons payload waiting => simp [map, hq, Notice.map]
      | nil =>
        have hempty : (rest.map f).queue = [] := by simp [map, hq]
        simp only [hempty]
        split_ifs <;> rfl

theorem finish?_map (f : α → β) (position : Nat) (outcome : Except Fault Unit) (s : Pool α) :
    (s.map f).finish? position outcome =
      (s.finish? position outcome).map fun next => (next.1.map f, next.2.map (Notice.map f)) := by
  unfold finish?
  have hposted : (s.map f).posting[position]? = s.posting[position]?.map f := List.getElem?_map
  rw [hposted]
  cases s.posting[position]? with
  | none => rfl
  | some payload => cases outcome <;> simp [map, Notice.map, List.eraseIdx_map]

/-- A pool does the same whatever the payloads are. -/
theorem act?_map (f : α → β) (s : Pool α) (action : PoolAction α) :
    (s.map f).act? limits (action.map f) =
      (s.act? limits action).map fun next => (next.1.map f, next.2.map (Notice.map f)) := by
  cases action with
  | dispatch payload first => simp [act?, PoolAction.map, dispatch_map]
  | attempt phase => exact attempt?_map f phase s
  | lapse =>
    simp only [act?, PoolAction.map, lapse?, without?_map]
    cases s.without? .asleep <;> rfl
  | finish position outcome => exact finish?_map f position outcome s
  | drain => rfl
  | close => rfl

theorem run?_map (f : α → β) (s : Pool α) (actions : List (PoolAction α)) :
    (s.map f).run? limits (actions.map (PoolAction.map f)) =
      (s.run? limits actions).map fun after => (after.1.map f, after.2.map (Notice.map f)) := by
  induction actions generalizing s with
  | nil => rfl
  | cons action rest ih =>
    simp only [List.map_cons, run?, act?_map]
    cases s.act? limits action with
    | none => rfl
    | some next =>
      obtain ⟨t, new⟩ := next
      simp only [Option.map_some, ih]
      cases t.run? limits rest <;> simp

/-- The same actions with each payload beside the number of its call, the first of which is `n`. -/
def numberedFrom (n : Nat) : List (PoolAction α) → List (PoolAction (α × Nat))
  | [] => []
  | action :: rest =>
    action.map (fun payload => (payload, n)) ::
      numberedFrom (n + action.payload?.toList.length) rest

def numbered (actions : List (PoolAction α)) : List (PoolAction (α × Nat)) :=
  numberedFrom 0 actions

theorem map_fst_numberedFrom (n : Nat) (actions : List (PoolAction α)) :
    (numberedFrom n actions).map (PoolAction.map Prod.fst) = actions := by
  induction actions generalizing n with
  | nil => rfl
  | cons action rest ih =>
    rw [numberedFrom, List.map_cons, ih]
    cases action <;> rfl

theorem calls_numberedFrom (n : Nat) (actions : List (PoolAction α)) :
    calls (numberedFrom n actions) = (calls actions).zipIdx n := by
  induction actions generalizing n with
  | nil => rfl
  | cons action rest ih =>
    unfold calls at ih ⊢
    rw [numberedFrom, List.filterMap_cons, List.filterMap_cons, PoolAction.payload?_map]
    cases action.payload? with
    | none => simpa using ih n
    | some payload => simpa using ih (n + 1)

theorem nodup_calls_numbered (actions : List (PoolAction α)) :
    (calls (numbered actions)).Nodup := by
  apply List.Nodup.of_map Prod.snd
  rw [numbered, calls_numberedFrom, List.zipIdx_map_snd]
  exact List.nodup_range'

/-- A run is its numbered run without the numbers. -/
theorem run?_numbered {actions : List (PoolAction α)} {s : Pool α} {history : List (Notice α)}
    (h : run? limits {} actions = some (s, history)) :
    ∃ (t : Pool (α × Nat)) (past : List (Notice (α × Nat))),
      run? limits {} (numbered actions) = some (t, past) ∧ t.map Prod.fst = s ∧
        past.map (Notice.map Prod.fst) = history := by
  have hmap := @run?_map (α × Nat) α limits Prod.fst {} (numbered actions)
  rw [numbered, map_fst_numberedFrom] at hmap
  change run? limits {} actions = _ at hmap
  rw [h] at hmap
  obtain ⟨⟨t, past⟩, hrun, hend⟩ := Option.map_eq_some_iff.1 hmap.symm
  obtain ⟨rfl, rfl⟩ := Prod.mk.inj hend
  exact ⟨t, past, hrun, rfl, rfl⟩

end Pool

end SessionTelemetry
