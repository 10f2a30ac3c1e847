import SessionTelemetry.Proofs.Dispatch.Limits
import SessionTelemetry.Proofs.Dispatch.Run

/-!
# A bounded pool that leaves no payload behind

The queue and the workers of a pool stay within their limits. A worker is coming when it has been
started or notified and has yet to look at the queue; it listens when a notification can still reach
it. `Pool.Attended` is the invariant that rules out lost notifications: as long as a worker listens
or another one may be started, no more payloads wait than workers are coming or stranded. So a pool
leaves nothing behind where workers can wait, and elsewhere no more than a payload for each worker
that it has lost (`left_behind` are the cases where it does).
-/

namespace SessionTelemetry

namespace Pool

variable {α : Type} {limits : PoolLimits} {s t rest : Pool α} {phase : Phase}

/-- The number of workers that have been started or notified and have yet to look at the queue. -/
def coming (s : Pool α) : Nat := s.ready + s.woken + s.called

/-- The number of workers that a notification can reach. -/
def listening (s : Pool α) : Nat := s.asleep + s.lapsed

def staff (s : Pool α) : Nat := s.coming + s.listening + s.posting.length

/-- Every worker that is still there posts or waits to be notified. -/
def AtRest (s : Pool α) : Prop := s.staff = s.asleep + s.posting.length

theorem workers_eq (s : Pool α) : s.workers = s.staff + s.stranded := by
  simp only [workers, idle, staff, coming, listening]
  omega

theorem idle_le (s : Pool α) : s.idle ≤ s.coming + s.listening + s.stranded := by
  simp only [idle, coming, listening]
  omega

theorem AtRest.coming_eq_zero (h : s.AtRest) : s.coming = 0 := by
  simp only [AtRest, staff, listening] at h
  omega

section Phases

theorem workers_notify (first : Phase) (s : Pool α) : (notify first s).workers = s.workers := by
  unfold notify
  split_ifs <;> simp only [workers, idle]
  all_goals omega

/-- A notification makes one worker come, if it reaches any. -/
theorem coming_notify (first : Phase) (s : Pool α) :
    (notify first s).coming = if s.listening = 0 then s.coming else s.coming + 1 := by
  unfold notify coming listening
  split_ifs
  all_goals first | omega | (simp only; omega)

theorem listening_notify (first : Phase) (s : Pool α) :
    (notify first s).listening = s.listening - 1 := by
  unfold notify listening
  split_ifs
  all_goals first | omega | (simp only; omega)

@[simp] theorem stranded_notify (first : Phase) (s : Pool α) :
    (notify first s).stranded = s.stranded := by
  unfold notify
  split_ifs <;> rfl

@[simp] theorem stranded_enqueue (first : Phase) (payload : α) (s : Pool α) :
    (enqueue limits first payload s).stranded = s.stranded := by
  rw [enqueue, stranded_notify, startWorker]
  split_ifs <;> rfl

theorem workers_of_without? (h : s.without? phase = some rest) : rest.workers + 1 = s.workers := by
  cases phase <;> simp only [without?, Option.ite_none_left_eq_some, Option.some.injEq] at h <;>
    obtain ⟨hne, rfl⟩ := h <;> simp only [workers, idle] <;> omega

theorem coming_of_without? (h : s.without? phase = some rest) :
    rest.coming ≤ s.coming ∧ s.coming ≤ rest.coming + 1 := by
  cases phase <;> simp only [without?, Option.ite_none_left_eq_some, Option.some.injEq] at h <;>
    obtain ⟨hne, rfl⟩ := h <;> simp only [coming] <;> omega

theorem listening_of_without? (h : s.without? phase = some rest) :
    rest.listening ≤ s.listening := by
  cases phase <;> simp only [without?, Option.ite_none_left_eq_some, Option.some.injEq] at h <;>
    obtain ⟨hne, rfl⟩ := h <;> simp only [listening] <;> omega

theorem stranded_of_without? (h : s.without? phase = some rest) : rest.stranded = s.stranded := by
  cases phase <;> simp only [without?, Option.ite_none_left_eq_some, Option.some.injEq] at h <;>
    rw [← h.2]

theorem staff_of_without? (h : s.without? phase = some rest) : rest.staff + 1 = s.staff := by
  have hworkers := workers_of_without? h
  have hstranded := stranded_of_without? h
  rw [workers_eq, workers_eq] at hworkers
  omega

theorem workers_of_take (one : s.without? phase = some rest) (payload : α) (waiting : List α) :
    ({ rest with queue := waiting, posting := s.posting ++ [payload] } : Pool α).workers =
      s.workers := by
  have hworkers := workers_of_without? one
  have hposting := posting_of_without? one
  simp only [workers, idle, List.length_append, List.length_singleton, hposting] at hworkers ⊢
  omega

theorem workers_of_finish {position : Nat} {payload : α}
    (posted : s.posting[position]? = some payload) (sent failed : Nat) :
    ({ s with
        posting := s.posting.eraseIdx position, ready := s.ready + 1, sent, failed } :
      Pool α).workers = s.workers := by
  obtain ⟨hlt, -⟩ := List.getElem?_eq_some_iff.1 posted
  simp only [workers, idle, List.length_eraseIdx_of_lt hlt]
  omega

theorem workers_enqueue (first : Phase) (payload : α) (s : Pool α) :
    (enqueue limits first payload s).workers = s.workers ∨
      ((enqueue limits first payload s).workers = s.workers + 1 ∧
        limits.mayStart s.workers = true) := by
  rw [enqueue, workers_notify, startWorker]
  split_ifs with hstart
  · refine .inr ⟨?_, hstart.2⟩
    simp only [workers, idle]
    omega
  · exact .inl rfl

end Phases

/-- A worker leaves only where no payload waits, and is started only for a payload that comes in,
where the limit allows it. -/
theorem workers_of_move {action : PoolAction α} {new : List (Notice α)}
    (move : Move limits s action t new) :
    t.workers = s.workers ∨ (t.workers + 1 = s.workers ∧ s.queue = []) ∨
      (t.workers = s.workers + 1 ∧ limits.mayStart s.workers = true ∧
        action.payload?.isSome = true) := by
  cases move with
  | refuseClosed | refuseFull | drain => exact .inl rfl
  | evict payload first isOpen full policy =>
    exact (workers_enqueue first payload _).imp_right fun h => .inr ⟨h.1, h.2, rfl⟩
  | accept payload first isOpen hasRoom =>
    exact (workers_enqueue first payload _).imp_right fun h => .inr ⟨h.1, h.2, rfl⟩
  | take phase rest payload waiting awake one head =>
    exact .inl (workers_of_take one payload waiting)
  | leave phase rest awake one empty ends => exact .inr (.inl ⟨workers_of_without? one, empty⟩)
  | fallAsleep phase rest awake one empty isOpen inTime waits
  | strand phase rest awake one empty isOpen inTime fails =>
    have hworkers := workers_of_without? one
    simp only [workers, idle] at hworkers ⊢
    omega
  | lapse rest one =>
    have hworkers := workers_of_without? one
    simp only [workers, idle] at hworkers ⊢
    omega
  | deliver position payload posted => exact .inl (workers_of_finish posted _ _)
  | lose position payload fault posted => exact .inl (workers_of_finish posted _ _)
  | close =>
    simp only [close, workers, idle]
    omega

/-- Workers are stranded only where they cannot wait, and when nothing waits for them. -/
theorem stranded_of_move {action : PoolAction α} {new : List (Notice α)}
    (move : Move limits s action t new) :
    t.stranded = s.stranded ∨
      (limits.canWait = false ∧ s.queue = [] ∧ t.queue = [] ∧ s.closed = false) := by
  cases move with
  | refuseClosed | refuseFull | deliver | lose | drain | close => exact .inl rfl
  | evict payload first isOpen full policy => exact .inl (stranded_enqueue first payload _)
  | accept payload first isOpen hasRoom => exact .inl (stranded_enqueue first payload _)
  | take phase rest payload waiting awake one head =>
    have hsame := stranded_of_without? one
    exact .inl hsame
  | leave phase rest awake one empty ends => exact .inl (stranded_of_without? one)
  | fallAsleep phase rest awake one empty isOpen inTime waits =>
    have hsame := stranded_of_without? one
    exact .inl hsame
  | strand phase rest awake one empty isOpen inTime fails =>
    exact .inr ⟨fails, empty, queue_of_without? one ▸ empty, isOpen⟩
  | lapse rest one =>
    have hsame := stranded_of_without? one
    exact .inl hsame

/-- Where workers can wait, none is stranded. -/
theorem stranded_eq_zero_of_move (hwaits : limits.canWait = true) (h : s.stranded = 0)
    {action : PoolAction α} {new : List (Notice α)} (move : Move limits s action t new) :
    t.stranded = 0 := by
  rcases stranded_of_move move with hsame | ⟨hfails, -⟩
  · exact hsame.trans h
  · simp [hwaits] at hfails

/-- As long as a worker listens or another one may be started, no more payloads wait than workers
are coming or stranded. -/
def Attended (limits : PoolLimits) (s : Pool α) : Prop :=
  0 < s.listening ∨ limits.mayStart s.workers = true → s.queue.length ≤ s.coming + s.stranded

theorem attended_of_empty (h : s.queue = []) : Attended limits s := by
  intro _
  rw [h]
  exact Nat.zero_le _

/-- One payload more than workers are coming may wait before a notification that reaches one. -/
theorem attended_notify (first : Phase)
    (hreach : 0 < s.listening → s.queue.length ≤ s.coming + s.stranded + 1)
    (hnone : s.listening = 0 → limits.mayStart s.workers = true →
      s.queue.length ≤ s.coming + s.stranded) :
    Attended limits (notify first s) := by
  have hqueue : (notify first s).queue = s.queue := (congrArg Pool.queue (books_notify first s) :)
  intro hfree
  rw [listening_notify, workers_notify] at hfree
  rw [hqueue, coming_notify, stranded_notify]
  by_cases hl : s.listening = 0
  · rw [if_pos hl]
    rcases hfree with hlisten | hmay
    · omega
    · exact hnone hl hmay
  · rw [if_neg hl]
    have hle := hreach (Nat.pos_of_ne_zero hl)
    omega

theorem attended_enqueue (first : Phase) (payload : α) (h : Attended limits s) :
    Attended limits (enqueue limits first payload s) := by
  let u : Pool α := { s with queue := s.queue ++ [payload] }
  have hlength : u.queue.length = s.queue.length + 1 := List.length_append
  have hidle := idle_le u
  change Attended limits (notify first (startWorker limits u))
  by_cases hstart : u.idle < u.queue.length ∧ limits.mayStart u.workers = true
  · have hle : s.queue.length ≤ u.coming + u.stranded := h (.inr hstart.2)
    have hcoming : ({ u with ready := u.ready + 1 } : Pool α).coming = u.coming + 1 := by
      simp only [coming]
      omega
    -- the worker that is started comes for the payload, whoever is notified
    rw [startWorker, if_pos hstart]
    apply attended_notify
    · intro _
      change u.queue.length ≤ _ + u.stranded + 1
      omega
    · intro _ _
      change u.queue.length ≤ _ + u.stranded
      omega
  -- none is started, so a listener is notified, or the idle workers are all on their way
  · rw [startWorker, if_neg hstart]
    apply attended_notify
    · intro hlisten
      have hle : s.queue.length ≤ u.coming + u.stranded := h (.inl hlisten)
      omega
    · intro hnone hmay
      have hfew : ¬ u.idle < u.queue.length := fun hlt => hstart ⟨hlt, hmay⟩
      omega

theorem attended_take (one : s.without? phase = some rest) {payload : α} {waiting : List α}
    (head : s.queue = payload :: waiting) (h : Attended limits s) :
    Attended limits { rest with queue := waiting, posting := s.posting ++ [payload] } := by
  have hlisten := listening_of_without? one
  have hcoming := coming_of_without? one
  have hlength : s.queue.length = waiting.length + 1 := by rw [head, List.length_cons]
  intro hfree
  rw [workers_of_take one] at hfree
  have hle := h (hfree.imp_left fun hl => lt_of_lt_of_le hl hlisten)
  have hstranded := stranded_of_without? one
  change waiting.length ≤ rest.coming + rest.stranded
  omega

theorem attended_lapse (one : s.without? .asleep = some rest) (h : Attended limits s) :
    Attended limits { rest with lapsed := rest.lapsed + 1 } := by
  simp only [without?, Option.ite_none_left_eq_some, Option.some.injEq] at one
  obtain ⟨hasleep, rfl⟩ := one
  have hlisten : s.asleep - 1 + (s.lapsed + 1) = s.asleep + s.lapsed := by omega
  have hworkers : s.ready + (s.asleep - 1 + s.woken + (s.lapsed + 1) + s.called + s.stranded) +
      s.posting.length = s.workers := by
    simp only [workers, idle]
    omega
  intro hfree
  simp only [listening, workers, idle, hlisten, hworkers] at hfree
  exact h hfree

theorem attended_finish {position : Nat} {payload : α}
    (posted : s.posting[position]? = some payload) (sent failed : Nat) (h : Attended limits s) :
    Attended limits
      { s with posting := s.posting.eraseIdx position, ready := s.ready + 1, sent, failed } := by
  intro hfree
  rw [workers_of_finish posted] at hfree
  have hle := h hfree
  simp only [coming] at hle ⊢
  omega

theorem attended_close (h : Attended limits s) : Attended limits s.close := by
  have hworkers : s.close.workers = s.workers := by
    simp only [close, workers, idle]
    omega
  intro hfree
  rw [hworkers] at hfree
  have hle := h (hfree.imp_left fun hl => absurd hl (lt_irrefl 0))
  simp only [coming, close] at hle ⊢
  omega

theorem attended_of_move {action : PoolAction α} {new : List (Notice α)} (h : Attended limits s)
    (move : Move limits s action t new) : Attended limits t := by
  cases move with
  | refuseClosed | refuseFull | drain => exact h
  | evict payload first isOpen full policy =>
    apply attended_enqueue
    intro hfree
    exact (List.tail_sublist s.queue).length_le.trans (h hfree)
  | accept payload first isOpen hasRoom => exact attended_enqueue first payload h
  | take phase rest payload waiting awake one head => exact attended_take one head h
  | leave phase rest awake one empty ends => exact attended_of_empty (queue_of_without? one ▸ empty)
  | fallAsleep phase rest awake one empty isOpen inTime waits
  | strand phase rest awake one empty isOpen inTime fails =>
    exact attended_of_empty (queue_of_without? one ▸ empty)
  | lapse rest one => exact attended_lapse one h
  | deliver position payload posted => exact attended_finish posted _ _ h
  | lose position payload fault posted => exact attended_finish posted _ _ h
  | close => exact attended_close h

theorem workers_le_of_move {bound : Nat} (hbound : limits.workers = some bound)
    (h : s.workers ≤ bound) {action : PoolAction α} {new : List (Notice α)}
    (move : Move limits s action t new) : t.workers ≤ bound := by
  rcases workers_of_move move with hsame | ⟨hless, -⟩ | ⟨hmore, hmay, -⟩
  · omega
  · omega
  · simp only [PoolLimits.mayStart, hbound, decide_eq_true_eq] at hmay
    omega

theorem queue_le_of_move {bound : Nat} (hbound : limits.waiting = some bound)
    (hroom : 0 < bound) (h : s.queue.length ≤ bound) {action : PoolAction α}
    {new : List (Notice α)} (move : Move limits s action t new) : t.queue.length ≤ bound := by
  cases move with
  | refuseClosed | refuseFull | drain | deliver | lose | close => exact h
  | evict payload first isOpen full policy =>
    rw [queue_enqueue, List.length_append, List.length_tail, List.length_singleton]
    omega
  | accept payload first isOpen hasRoom =>
    simp only [PoolLimits.isFull, hbound, decide_eq_false_iff_not] at hasRoom
    rw [queue_enqueue, List.length_append, List.length_singleton]
    change s.queue.length + 1 ≤ bound
    omega
  | take phase rest payload waiting awake one head =>
    rw [head, List.length_cons] at h
    exact Nat.le_of_succ_le h
  | leave phase rest awake one empty ends => exact queue_of_without? one ▸ h
  | fallAsleep phase rest awake one empty isOpen inTime waits => exact queue_of_without? one ▸ h
  | strand phase rest awake one empty isOpen inTime fails => exact queue_of_without? one ▸ h
  | lapse rest one => exact queue_of_without? one ▸ h

/-- Unless one comes in, payloads wait after an action only if some waited before. -/
theorem queue_ne_nil_of_move {action : PoolAction α} {new : List (Notice α)}
    (hquiet : action.payload? = none) (move : Move limits s action t new) (hwaits : t.queue ≠ []) :
    s.queue ≠ [] := by
  cases move with
  | refuseClosed | refuseFull | evict | accept => cases hquiet
  | take phase rest payload waiting awake one head => exact head ▸ List.cons_ne_nil payload waiting
  | leave phase rest awake one empty ends => exact queue_of_without? one ▸ hwaits
  | fallAsleep phase rest awake one empty isOpen inTime waits =>
    exact queue_of_without? one ▸ hwaits
  | strand phase rest awake one empty isOpen inTime fails => exact queue_of_without? one ▸ hwaits
  | lapse rest one => exact queue_of_without? one ▸ hwaits
  | deliver | lose | drain | close => exact hwaits

/-- At rest more payloads wait than workers are stranded only while every worker that is still there
posts, and no other one may be started. -/
theorem posting_of_atRest {bound : Nat} (hbound : limits.workers = some bound)
    (hworkers : s.workers ≤ bound) (h : Attended limits s) (hrest : s.AtRest)
    (hqueue : s.stranded < s.queue.length) :
    s.posting.length = s.staff ∧ s.workers = bound := by
  have hcoming := hrest.coming_eq_zero
  have hnone : ¬ (0 < s.listening ∨ limits.mayStart s.workers = true) := by
    intro hfree
    have hle := h hfree
    omega
  simp only [PoolLimits.mayStart, hbound, decide_eq_true_eq, not_or] at hnone
  simp only [staff]
  omega

theorem attended_of_reachable {history : List (Notice α)} (h : Reachable limits s history) :
    Attended limits s :=
  h.invariant (attended_of_empty rfl) fun hs move => attended_of_move hs move

theorem stranded_eq_zero_of_reachable (hwaits : limits.canWait = true)
    {history : List (Notice α)} (h : Reachable limits s history) : s.stranded = 0 :=
  h.invariant (P := fun s => s.stranded = 0) rfl fun hs move =>
    stranded_eq_zero_of_move hwaits hs move

/-- Only on an empty queue is there a worker less than before. -/
theorem queue_eq_nil_of_staff_lt {action : PoolAction α} {new : List (Notice α)}
    (hact : s.act? limits action = some (t, new)) (hless : t.staff < s.staff) : s.queue = [] := by
  have move := move_of_act? hact
  have hsplit := workers_eq s
  have hsplit' := workers_eq t
  rcases stranded_of_move move with hsame | ⟨-, hempty, -⟩
  · rcases workers_of_move move with heq | ⟨-, hempty⟩ | ⟨hmore, -⟩
    · omega
    · exact hempty
    · omega
  · exact hempty

/-- The workers and the queue of a pool stay within the limits of checked settings. At rest no more
payloads wait than workers are stranded unless all workers that there may be are there and those
that are not stranded post; before that, a worker is coming for every payload that waits but as many
as are stranded, and no worker goes while a payload waits. Where workers can wait as long as they
are told to, none is ever stranded: then at rest no payload waits unless all workers that there may
be post. -/
theorem bounded_and_work_conserving {settings : PoolSettings} {w q : Int}
    (hw : settings.maxWorkers = .int w) (hq : settings.maxQueueSize = .int q)
    (hvalid : settings.validate = .ok ()) {history : List (Notice α)}
    (h : Reachable settings.limits s history) :
    (s.queue.length : Int) ≤ q ∧ (s.workers : Int) ≤ w ∧ s.posting.length ≤ s.staff ∧
      (s.AtRest → s.stranded < s.queue.length →
        s.posting.length = s.staff ∧ (s.workers : Int) = w) ∧
      ((s.workers : Int) < w → s.queue.length ≤ s.coming + s.stranded) ∧
      (∀ action t new, s.act? settings.limits action = some (t, new) →
        t.staff < s.staff → s.queue = []) ∧
      s.workers = s.staff + s.stranded ∧
      (settings.canWait = true → s.stranded = 0 ∧
        (s.AtRest → s.queue ≠ [] → s.posting.length = s.workers ∧ (s.workers : Int) = w)) := by
  have hw1 := PoolSettings.one_le_maxWorkers hw hvalid
  have hq1 := PoolSettings.one_le_maxQueueSize hq hvalid
  have hbound := PoolSettings.limits_workers hw
  have hworkers : s.workers ≤ w.toNat :=
    h.invariant (Nat.zero_le _) fun hs move => workers_le_of_move hbound hs move
  have hqueue : s.queue.length ≤ q.toNat :=
    h.invariant (P := fun s => s.queue.length ≤ q.toNat) (Nat.zero_le _) fun hs move =>
      queue_le_of_move (PoolSettings.limits_waiting hq) (by omega) hs move
  have hattended := attended_of_reachable h
  have hsplit := workers_eq s
  have hrested : s.AtRest → s.stranded < s.queue.length →
      s.posting.length = s.staff ∧ (s.workers : Int) = w := by
    intro hrest hwaits
    have hall := posting_of_atRest hbound hworkers hattended hrest hwaits
    omega
  refine ⟨by omega, by omega, Nat.le_add_left _ _, hrested, ?_, ?_, hsplit, ?_⟩
  · intro hlt
    apply hattended
    simp only [PoolLimits.mayStart, hbound, decide_eq_true_eq]
    omega
  · exact fun action t new hact hless => queue_eq_nil_of_staff_lt hact hless
  · intro hwaits
    have hnone := stranded_eq_zero_of_reachable hwaits h
    refine ⟨hnone, fun hrest hqueue => ?_⟩
    have hlength : 0 < s.queue.length := List.length_pos_iff.2 hqueue
    have hall := hrested hrest (by omega)
    omega

/-- With one worker and one place to wait, a payload waits while the other one is posted. -/
theorem bounded_and_work_conserving_one_place : ∃ (s : Pool Nat) (history : List (Notice Nat)),
    Reachable PoolSettings.onePlace.limits s history ∧ s.queue = [2] ∧
      s.posting.length = s.workers ∧ (s.workers : Int) = 1 := by
  have hreach : Reachable (α := Nat) PoolSettings.onePlace.limits _ _ :=
    .next (.dispatch 2 .asleep) (.next (.attempt .ready)
      (.next (.dispatch 1 .asleep) .start rfl) rfl) rfl
  obtain ⟨-, -, -, -, -, -, -, hwaits⟩ :=
    bounded_and_work_conserving (show PoolSettings.onePlace.maxWorkers = .int 1 from rfl)
      (show PoolSettings.onePlace.maxQueueSize = .int 1 from rfl) rfl hreach
  have hatRest := (hwaits PoolSettings.canWait_onePlace).2 rfl (List.cons_ne_nil _ _)
  exact ⟨_, _, hreach, rfl, hatRest⟩

/-- The worker of a pool that cannot wait is gone after its first post, and takes no second payload.
-/
theorem reachable_stranded : ∃ history, Reachable (α := Nat) PoolSettings.endless.limits
    { queue := [2], stranded := 1, submitted := 2, sent := 1 } history :=
  ⟨_, .next (.dispatch 2 .asleep) (.next (.attempt .ready) (.next (.finish 0 (.ok ()))
    (.next (.attempt .ready) (.next (.dispatch 1 .asleep) .start rfl) rfl) rfl) rfl) rfl⟩

/-- A pool that may have no worker starts none. -/
theorem reachable_unmanned : ∃ history, Reachable (α := Nat) PoolSettings.unnumbered.limits
    { queue := [1], submitted := 1 } history :=
  ⟨_, .next (.dispatch 1 .asleep) .start rfl⟩

/-- Settings that pass their checks can leave a payload behind, with nobody to take it. The worker
of a pool whose idle time is infinite is gone once it has posted one payload, and is still counted;
and where the bound on the workers is no number, no worker is ever started. -/
theorem left_behind :
    (∃ (s : Pool Nat) (history : List (Notice Nat)),
      PoolSettings.endless.validate = .ok () ∧
        Reachable PoolSettings.endless.limits s history ∧ s.AtRest ∧ s.queue = [2] ∧
        s.posting = [] ∧ s.staff = 0 ∧ s.workers = 1) ∧
    ∃ (s : Pool Nat) (history : List (Notice Nat)),
      PoolSettings.unnumbered.validate = .ok () ∧
        Reachable PoolSettings.unnumbered.limits s history ∧ s.AtRest ∧ s.queue = [1] ∧
        s.posting = [] ∧ s.workers = 0 := by
  obtain ⟨history, hstranded⟩ := reachable_stranded
  obtain ⟨history', hempty⟩ := reachable_unmanned
  exact ⟨⟨_, history, rfl, hstranded, rfl, rfl, rfl, rfl, rfl⟩,
    ⟨_, history', rfl, hempty, rfl, rfl, rfl, rfl⟩⟩

end Pool

end SessionTelemetry
