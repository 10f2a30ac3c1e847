import Mathlib.Data.List.Basic
import Mathlib.Data.List.Induction
import SessionTelemetry.Dispatch.Pool

/-!
# Runs of the worker pool

A run is a list of actions that happen one after the other. `Pool.Move` says what a single action
does, with one rule for each way it can go, and `Pool.run?_induction` derives from that what holds
after every run.

The history of a pool is read by kinds of notices: `reported` lists the payloads that notices of
some kinds are about.
-/

namespace SessionTelemetry

inductive NoticeKind where
  | refusedClosed
  | refusedFull
  | evicted
  | admitted
  | taken
  | delivered
  | lost
  deriving DecidableEq, Repr

namespace Notice

variable {α : Type}

def kind : Notice α → NoticeKind
  | refusedClosed _ => .refusedClosed
  | refusedFull _ => .refusedFull
  | evicted _ => .evicted
  | admitted _ => .admitted
  | taken _ => .taken
  | delivered _ => .delivered
  | lost _ _ => .lost

def payload : Notice α → α
  | refusedClosed payload => payload
  | refusedFull payload => payload
  | evicted payload => payload
  | admitted payload => payload
  | taken payload => payload
  | delivered payload => payload
  | lost payload _ => payload

end Notice

def reported {α : Type} (kinds : List NoticeKind) (history : List (Notice α)) : List α :=
  (history.filter fun notice => notice.kind ∈ kinds).map Notice.payload

section Reported

variable {α : Type} (kinds : List NoticeKind)

@[simp] theorem reported_nil : reported kinds ([] : List (Notice α)) = [] := rfl

@[simp] theorem reported_cons (notice : Notice α) (history : List (Notice α)) :
    reported kinds (notice :: history) =
      (if notice.kind ∈ kinds then [notice.payload] else []) ++ reported kinds history := by
  by_cases h : notice.kind ∈ kinds <;> simp [reported, h]

@[simp] theorem reported_append (history later : List (Notice α)) :
    reported kinds (history ++ later) = reported kinds history ++ reported kinds later := by
  simp [reported]

/-- Kinds that nothing is reported of make no difference. -/
theorem reported_append_kinds {others : List NoticeKind} {history : List (Notice α)}
    (h : reported others history = []) :
    reported (kinds ++ others) history = reported kinds history := by
  induction history with
  | nil => rfl
  | cons notice rest ih =>
    simp only [reported_cons, List.append_eq_nil_iff, ite_eq_right_iff, List.cons_ne_nil,
      imp_false] at h
    simp only [reported_cons, ih h.2, List.mem_append, h.1, or_false]

/-- With more kinds, more is reported, and in the same order. -/
theorem reported_sublist (others : List NoticeKind) (history : List (Notice α)) :
    (reported kinds history).Sublist (reported (kinds ++ others) history) := by
  apply List.Sublist.map
  apply List.monotone_filter_right
  intro notice hmem
  simp only [decide_eq_true_eq] at hmem ⊢
  exact List.mem_append_left _ hmem

end Reported

def PoolAction.payload? {α : Type} : PoolAction α → Option α
  | .dispatch payload _ => some payload
  | _ => none

namespace Pool

variable {α : Type} {limits : PoolLimits}

def calls (actions : List (PoolAction α)) : List α := actions.filterMap PoolAction.payload?

/-- The pool after some actions, with what they make of payloads, if each of them can happen. -/
def run? (limits : PoolLimits) (s : Pool α) :
    List (PoolAction α) → Option (Pool α × List (Notice α))
  | [] => some (s, [])
  | action :: rest =>
    match s.act? limits action with
    | none => none
    | some (t, new) => (t.run? limits rest).map fun (u, later) => (u, new ++ later)

/-- All that a pool holds and counts, without the workers that post nothing. -/
def books (s : Pool α) : Pool α :=
  { s with ready := 0, asleep := 0, woken := 0, lapsed := 0, called := 0, stranded := 0 }

@[simp] theorem books_notify (first : Phase) (s : Pool α) : (notify first s).books = s.books := by
  unfold notify
  split_ifs <;> rfl

@[simp] theorem books_startWorker (s : Pool α) : (startWorker limits s).books = s.books := by
  unfold startWorker
  split_ifs <;> rfl

theorem books_enqueue (first : Phase) (payload : α) (s : Pool α) :
    (enqueue limits first payload s).books = { s.books with queue := s.queue ++ [payload] } := by
  rw [enqueue, books_notify, books_startWorker]
  rfl

@[simp] theorem queue_enqueue (first : Phase) (payload : α) (s : Pool α) :
    (enqueue limits first payload s).queue = s.queue ++ [payload] :=
  (congrArg Pool.queue (books_enqueue first payload s) :)

@[simp] theorem posting_enqueue (first : Phase) (payload : α) (s : Pool α) :
    (enqueue limits first payload s).posting = s.posting :=
  (congrArg Pool.posting (books_enqueue first payload s) :)

theorem books_of_without? {phase : Phase} {s rest : Pool α} (h : s.without? phase = some rest) :
    rest.books = s.books := by
  cases phase <;> simp only [without?, Option.ite_none_left_eq_some, Option.some.injEq] at h <;>
    rw [← h.2] <;> rfl

theorem queue_of_without? {phase : Phase} {s rest : Pool α} (h : s.without? phase = some rest) :
    rest.queue = s.queue :=
  (congrArg Pool.queue (books_of_without? h) :)

theorem posting_of_without? {phase : Phase} {s rest : Pool α} (h : s.without? phase = some rest) :
    rest.posting = s.posting :=
  (congrArg Pool.posting (books_of_without? h) :)

inductive Move (limits : PoolLimits) (s : Pool α) :
    PoolAction α → Pool α → List (Notice α) → Prop where
  | refuseClosed (payload : α) (first : Phase) (closed : s.closed = true) :
      Move limits s (.dispatch payload first) { s with dropped := s.dropped + 1 }
        [.refusedClosed payload]
  | refuseFull (payload : α) (first : Phase) (isOpen : s.closed = false)
      (full : limits.isFull s.queue.length = true) (policy : limits.overflow = .refuseNewest) :
      Move limits s (.dispatch payload first)
        { s with submitted := s.submitted + 1, dropped := s.dropped + 1 } [.refusedFull payload]
  | evict (payload : α) (first : Phase) (isOpen : s.closed = false)
      (full : limits.isFull s.queue.length = true) (policy : limits.overflow = .evictOldest) :
      Move limits s (.dispatch payload first)
        (enqueue limits first payload
          { s with
            queue := s.queue.tail, submitted := s.submitted + 1, dropped := s.dropped + 1 })
        (s.queue.head?.toList.map .evicted ++ [.admitted payload])
  | accept (payload : α) (first : Phase) (isOpen : s.closed = false)
      (hasRoom : limits.isFull s.queue.length = false) :
      Move limits s (.dispatch payload first)
        (enqueue limits first payload { s with submitted := s.submitted + 1 }) [.admitted payload]
  | take (phase : Phase) (rest : Pool α) (payload : α) (waiting : List α)
      (awake : phase ≠ .asleep) (one : s.without? phase = some rest)
      (head : s.queue = payload :: waiting) :
      Move limits s (.attempt phase)
        { rest with queue := waiting, posting := s.posting ++ [payload] } [.taken payload]
  | leave (phase : Phase) (rest : Pool α) (awake : phase ≠ .asleep)
      (one : s.without? phase = some rest) (empty : s.queue = [])
      (ends : s.closed = true ∨ phase.isOverdue = true) : Move limits s (.attempt phase) rest []
  | fallAsleep (phase : Phase) (rest : Pool α) (awake : phase ≠ .asleep)
      (one : s.without? phase = some rest) (empty : s.queue = []) (isOpen : s.closed = false)
      (inTime : phase.isOverdue = false) (waits : limits.canWait = true) :
      Move limits s (.attempt phase) { rest with asleep := rest.asleep + 1 } []
  | strand (phase : Phase) (rest : Pool α) (awake : phase ≠ .asleep)
      (one : s.without? phase = some rest) (empty : s.queue = []) (isOpen : s.closed = false)
      (inTime : phase.isOverdue = false) (fails : limits.canWait = false) :
      Move limits s (.attempt phase) { rest with stranded := rest.stranded + 1 } []
  | lapse (rest : Pool α) (one : s.without? .asleep = some rest) :
      Move limits s .lapse { rest with lapsed := rest.lapsed + 1 } []
  | deliver (position : Nat) (payload : α) (posted : s.posting[position]? = some payload) :
      Move limits s (.finish position (.ok ()))
        { s with
          posting := s.posting.eraseIdx position, ready := s.ready + 1, sent := s.sent + 1 }
        [.delivered payload]
  | lose (position : Nat) (payload : α) (fault : Fault)
      (posted : s.posting[position]? = some payload) :
      Move limits s (.finish position (.error fault))
        { s with
          posting := s.posting.eraseIdx position, ready := s.ready + 1, failed := s.failed + 1 }
        [.lost payload fault]
  | drain : Move limits s .drain s []
  | close : Move limits s .close s.close []

theorem move_of_dispatch (payload : α) (first : Phase) (s : Pool α) :
    Move limits s (.dispatch payload first) (s.dispatch limits first payload).2.1
      (s.dispatch limits first payload).2.2 := by
  simp only [dispatch]
  split_ifs with closed full
  · exact .refuseClosed payload first closed
  · cases policy : limits.overflow with
    | refuseNewest => exact .refuseFull payload first (by simpa using closed) full policy
    | evictOldest => exact .evict payload first (by simpa using closed) full policy
  · exact .accept payload first (by simpa using closed) (by simpa using full)

theorem move_of_attempt? {phase : Phase} {s t : Pool α} {new : List (Notice α)}
    (h : s.attempt? limits phase = some (t, new)) : Move limits s (.attempt phase) t new := by
  unfold attempt? at h
  by_cases awake : phase = .asleep
  · rw [if_pos awake] at h
    cases h
  rw [if_neg awake] at h
  obtain ⟨rest, one, h⟩ := Option.map_eq_some_iff.1 h
  have queue := queue_of_without? one
  have posting := posting_of_without? one
  have closed : rest.closed = s.closed := (congrArg Pool.closed (books_of_without? one) :)
  split at h
  · rename_i payload waiting head
    obtain ⟨rfl, rfl⟩ := Prod.mk.inj h
    rw [posting]
    exact .take phase rest payload waiting awake one (queue ▸ head)
  · rename_i empty
    split_ifs at h with ends waits <;> obtain ⟨rfl, rfl⟩ := Prod.mk.inj h
    · exact .leave phase rest awake one (queue ▸ empty) (by simpa [closed] using ends)
    · simp only [closed, Bool.or_eq_true, not_or, Bool.not_eq_true] at ends
      exact .fallAsleep phase rest awake one (queue ▸ empty) ends.1 ends.2 waits
    · simp only [closed, Bool.or_eq_true, not_or, Bool.not_eq_true] at ends waits
      exact .strand phase rest awake one (queue ▸ empty) ends.1 ends.2 waits

theorem move_of_finish? {position : Nat} {outcome : Except Fault Unit} {s t : Pool α}
    {new : List (Notice α)} (h : s.finish? position outcome = some (t, new)) :
    Move limits s (.finish position outcome) t new := by
  obtain ⟨payload, posted, h⟩ := Option.map_eq_some_iff.1 h
  cases outcome with
  | ok done =>
    obtain ⟨rfl, rfl⟩ := Prod.mk.inj h
    exact .deliver position payload posted
  | error fault =>
    obtain ⟨rfl, rfl⟩ := Prod.mk.inj h
    exact .lose position payload fault posted

/-- Every action that can happen goes by one of the rules. -/
theorem move_of_act? {action : PoolAction α} {s t : Pool α} {new : List (Notice α)}
    (h : s.act? limits action = some (t, new)) : Move limits s action t new := by
  cases action with
  | dispatch payload first =>
    obtain ⟨rfl, rfl⟩ := Prod.mk.inj (Option.some.inj h)
    exact move_of_dispatch payload first s
  | attempt phase => exact move_of_attempt? h
  | lapse =>
    obtain ⟨u, h, hu⟩ := Option.map_eq_some_iff.1 h
    obtain ⟨rest, one, rfl⟩ := Option.map_eq_some_iff.1 h
    obtain ⟨rfl, rfl⟩ := Prod.mk.inj hu
    exact .lapse rest one
  | finish position outcome => exact move_of_finish? h
  | drain =>
    obtain ⟨rfl, rfl⟩ := Prod.mk.inj (Option.some.inj h)
    exact .drain
  | close =>
    obtain ⟨rfl, rfl⟩ := Prod.mk.inj (Option.some.inj h)
    exact .close

theorem run?_concat {actions : List (PoolAction α)} {action : PoolAction α} {s u : Pool α}
    {history : List (Notice α)} :
    s.run? limits (actions ++ [action]) = some (u, history) ↔
      ∃ t earlier new, s.run? limits actions = some (t, earlier) ∧
        t.act? limits action = some (u, new) ∧ history = earlier ++ new := by
  induction actions generalizing s history with
  | nil =>
    constructor
    · intro hrun
      cases hact : s.act? limits action with
      | none => simp only [List.nil_append, run?, hact, reduceCtorEq] at hrun
      | some next =>
        obtain ⟨t, new⟩ := next
        simp only [List.nil_append, run?, hact, Option.map_some, List.append_nil,
          Option.some.injEq] at hrun
        obtain ⟨rfl, rfl⟩ := Prod.mk.inj hrun
        exact ⟨s, [], new, rfl, hact, rfl⟩
    · rintro ⟨t, earlier, new, hrun, hact, rfl⟩
      obtain ⟨rfl, rfl⟩ := Prod.mk.inj (Option.some.inj hrun)
      simp only [List.nil_append, run?, hact, Option.map_some, List.append_nil]
  | cons first rest ih =>
    cases h : s.act? limits first with
    | none => simp [run?, h]
    | some next =>
      obtain ⟨v, newest⟩ := next
      simp only [List.cons_append, run?, h, Option.map_eq_some_iff]
      constructor
      · rintro ⟨⟨_, later⟩, hrun, he⟩
        obtain ⟨rfl, rfl⟩ := Prod.mk.inj he
        obtain ⟨t, earlier, new, hfirst, hact, rfl⟩ := ih.1 hrun
        exact ⟨t, newest ++ earlier, new, ⟨(t, earlier), hfirst, rfl⟩, hact, by simp⟩
      · rintro ⟨t, _, new, ⟨⟨_, earlier⟩, hfirst, he⟩, hact, rfl⟩
        obtain ⟨rfl, rfl⟩ := Prod.mk.inj he
        exact ⟨(u, earlier ++ new), ih.2 ⟨_, earlier, new, hfirst, hact, rfl⟩, by simp⟩

/-- What a pool satisfies at first and every action preserves holds after every run. -/
theorem run?_induction {P : List (PoolAction α) → Pool α → List (Notice α) → Prop} {u : Pool α}
    (start : P [] u [])
    (next : ∀ {actions s history action t new}, run? limits u actions = some (s, history) →
      s.act? limits action = some (t, new) → P actions s history →
        P (actions ++ [action]) t (history ++ new))
    {actions : List (PoolAction α)} {s : Pool α} {history : List (Notice α)}
    (h : run? limits u actions = some (s, history)) : P actions s history := by
  induction actions using List.reverseRecOn generalizing s history with
  | nil =>
    obtain ⟨rfl, rfl⟩ := Prod.mk.inj (Option.some.inj h)
    exact start
  | append_singleton actions action ih =>
    obtain ⟨t, earlier, new, hrun, hact, rfl⟩ := run?_concat.1 h
    exact next hrun hact (ih hrun)

/-- What a new pool satisfies and every move preserves holds in every state that it can get to. -/
theorem Reachable.invariant {P : Pool α → Prop} (start : P {})
    (next : ∀ {s action t new}, P s → Move limits s action t new → P t)
    {s : Pool α} {history : List (Notice α)} (h : Reachable limits s history) : P s := by
  induction h with
  | start => exact start
  | next action _ hact ih => exact next ih (move_of_act? hact)

/-- What a pool can get to from a state that it can get to, it can get to. -/
theorem Reachable.run {s t : Pool α} {history new : List (Notice α)}
    {actions : List (PoolAction α)} (h : Reachable limits s history)
    (hrun : run? limits s actions = some (t, new)) : Reachable limits t (history ++ new) := by
  refine run?_induction (P := fun _ t new => Reachable limits t (history ++ new)) ?_ ?_ hrun
  · rwa [List.append_nil]
  · intro actions t earlier action u new _ hact ih
    rw [← List.append_assoc]
    exact .next action ih hact

theorem reachable_iff_run? {s : Pool α} {history : List (Notice α)} :
    Reachable limits s history ↔ ∃ actions, run? limits {} actions = some (s, history) := by
  constructor
  · intro h
    induction h with
    | start => exact ⟨[], rfl⟩
    | next action _ hact ih =>
      obtain ⟨actions, hrun⟩ := ih
      exact ⟨actions ++ [action], run?_concat.2 ⟨_, _, _, hrun, hact, rfl⟩⟩
  · rintro ⟨actions, h⟩
    exact Reachable.start.run h

end Pool

end SessionTelemetry
