import SessionTelemetry.Proofs.Dispatch.Limits
import SessionTelemetry.Proofs.Dispatch.Reclamation

/-!
# Bursts

Payloads are handed to a new pool one after the other, its workers come to rest after each, and no
post ends meanwhile. What the pool then holds and counts is determined by its limits and by the
payloads (`Pool.filled`): the first payloads are being posted, as many as there may be workers, and
of the others as many wait as there is room for, which ones depending on what makes room
(`burst_fills_capacity`).
-/

namespace SessionTelemetry

namespace Pool

variable {α : Type} {W Q : Nat} {overflow : Overflow} {waits : Bool} {payloads : List α}
  {s : Pool α}

/-- The payloads of a burst that wait: the first for which there is room, or the last. -/
def leftWaiting (overflow : Overflow) (W Q : Nat) (payloads : List α) : List α :=
  match overflow with
  | .refuseNewest => (payloads.drop W).take Q
  | .evictOldest => payloads.drop (max W (payloads.length - Q))

def filled (overflow : Overflow) (W Q : Nat) (payloads : List α) : Pool α where
  posting := payloads.take W
  queue := leftWaiting overflow W Q payloads
  submitted := payloads.length
  dropped := payloads.length - W - Q

def accepts (overflow : Overflow) (W Q : Nat) (before : Nat) : Bool :=
  match overflow with
  | .refuseNewest => decide (before < W + Q)
  | .evictOldest => true

theorem length_leftWaiting (overflow : Overflow) (W Q : Nat) (payloads : List α) :
    (leftWaiting overflow W Q payloads).length = min (payloads.length - W) Q := by
  cases overflow <;> simp only [leftWaiting, List.length_take, List.length_drop] <;> omega

/-- As long as there is room for all payloads, none is lost. -/
theorem leftWaiting_of_le (h : payloads.length ≤ W + Q) :
    leftWaiting overflow W Q payloads = payloads.drop W := by
  cases overflow with
  | refuseNewest =>
    rw [leftWaiting, List.take_of_length_le]
    rw [List.length_drop]
    omega
  | evictOldest => rw [leftWaiting, max_eq_left (by omega)]

theorem leftWaiting_concat_refuseNewest (h : W + Q ≤ payloads.length) (payload : α) :
    leftWaiting .refuseNewest W Q (payloads ++ [payload]) =
      leftWaiting .refuseNewest W Q payloads := by
  rw [leftWaiting, leftWaiting, List.drop_append_of_le_length (by omega),
    List.take_append_of_le_length]
  rw [List.length_drop]
  omega

/-- A further payload takes the place of the one that has waited longest. -/
theorem leftWaiting_concat_evictOldest (hQ : 1 ≤ Q) (h : W + Q ≤ payloads.length) (payload : α) :
    leftWaiting .evictOldest W Q (payloads ++ [payload]) =
      (leftWaiting .evictOldest W Q payloads).tail ++ [payload] := by
  have hnext : (payloads ++ [payload]).length - Q = payloads.length - Q + 1 := by
    rw [List.length_append, List.length_singleton]
    omega
  rw [leftWaiting, leftWaiting, hnext, max_eq_right (by omega), max_eq_right (by omega),
    List.drop_append_of_le_length (by omega), List.tail_drop]

theorem isFull_filled (waits : Bool) (hQ : 1 ≤ Q) (h : s.books = filled overflow W Q payloads) :
    PoolLimits.isFull ⟨some W, some Q, overflow, waits⟩ s.queue.length =
      decide (W + Q ≤ payloads.length) := by
  have hqueue : s.queue = leftWaiting overflow W Q payloads := (congrArg Pool.queue h :)
  rw [hqueue, length_leftWaiting, PoolLimits.isFull, decide_eq_decide]
  omega

/-- While as many payloads are being posted as may be, the pool is at rest. -/
theorem rested_of_length_posting (h : s.posting.length = W) :
    rested ⟨some W, some Q, overflow, waits⟩ none s = s.books := by
  simp only [rested, places, Option.getD_some, List.take_left' h, List.drop_left' h]
  rfl

theorem refuse_filled (h : s.books = filled .refuseNewest W Q payloads)
    (hlost : W + Q ≤ payloads.length) (payload : α) :
    rested ⟨some W, some Q, .refuseNewest, waits⟩ none
        { s with submitted := s.submitted + 1, dropped := s.dropped + 1 } =
      filled .refuseNewest W Q (payloads ++ [payload]) := by
  have hposting : s.posting = payloads.take W := (congrArg Pool.posting h :)
  have hlength : s.posting.length = W := by
    rw [hposting, List.length_take]
    omega
  have hdropped : payloads.length + 1 - W - Q = payloads.length - W - Q + 1 := by omega
  refine (rested_of_length_posting (s := { s with
    submitted := s.submitted + 1, dropped := s.dropped + 1 }) hlength).trans ?_
  change { s.books with submitted := s.books.submitted + 1, dropped := s.books.dropped + 1 } = _
  rw [h, filled, filled, leftWaiting_concat_refuseNewest hlost,
    List.take_append_of_le_length (by omega), List.length_append, List.length_singleton, hdropped]

theorem evict_filled (hQ : 1 ≤ Q) (h : s.books = filled .evictOldest W Q payloads)
    (hlost : W + Q ≤ payloads.length) (first : Phase) (payload : α) :
    rested ⟨some W, some Q, .evictOldest, waits⟩ none
        (enqueue ⟨some W, some Q, .evictOldest, waits⟩ first payload
          { s with
            queue := s.queue.tail, submitted := s.submitted + 1, dropped := s.dropped + 1 }) =
      filled .evictOldest W Q (payloads ++ [payload]) := by
  have hposting : s.posting = payloads.take W := (congrArg Pool.posting h :)
  have hlength : s.posting.length = W := by
    rw [hposting, List.length_take]
    omega
  have hdropped : payloads.length + 1 - W - Q = payloads.length - W - Q + 1 := by omega
  rw [rested_of_length_posting (by rwa [posting_enqueue]), books_enqueue]
  change { s.books with
    queue := s.books.queue.tail ++ [payload], submitted := s.books.submitted + 1
    dropped := s.books.dropped + 1 } = _
  rw [h, filled, filled, leftWaiting_concat_evictOldest hQ hlost,
    List.take_append_of_le_length (by omega), List.length_append, List.length_singleton, hdropped]

theorem enqueue_filled (h : s.books = filled overflow W Q payloads)
    (hroom : payloads.length < W + Q) (first : Phase) (payload : α) :
    rested ⟨some W, some Q, overflow, waits⟩ none
        (enqueue ⟨some W, some Q, overflow, waits⟩ first payload
          { s with submitted := s.submitted + 1 }) =
      filled overflow W Q (payloads ++ [payload]) := by
  have hposting : s.posting = payloads.take W := (congrArg Pool.posting h :)
  have hqueue : s.queue = payloads.drop W := by
    rw [← leftWaiting_of_le hroom.le]
    exact (congrArg Pool.queue h :)
  have hline : s.posting ++ (s.queue ++ [payload]) = payloads ++ [payload] := by
    rw [hposting, hqueue, ← List.append_assoc, List.take_append_drop]
  have hnext : (payloads ++ [payload]).length = payloads.length + 1 := by simp
  have hwaiting : leftWaiting overflow W Q (payloads ++ [payload]) =
      (payloads ++ [payload]).drop W := leftWaiting_of_le (by omega)
  have hdropped : payloads.length + 1 - W - Q = payloads.length - W - Q := by omega
  simp only [rested, posting_enqueue, queue_enqueue, books_enqueue, hline, places,
    Option.getD_some]
  change { s.books with
    posting := (payloads ++ [payload]).take W, queue := (payloads ++ [payload]).drop W
    submitted := s.books.submitted + 1 } = _
  rw [h, filled, filled, hwaiting, hnext, hdropped]

/-- One more payload of a burst. -/
theorem rested_dispatch_of_filled (waits : Bool) (hQ : 1 ≤ Q)
    (h : s.books = filled overflow W Q payloads)
    (first : Phase) (payload : α) :
    (s.dispatch ⟨some W, some Q, overflow, waits⟩ first payload).1 =
        accepts overflow W Q payloads.length ∧
      rested ⟨some W, some Q, overflow, waits⟩ none
          (s.dispatch ⟨some W, some Q, overflow, waits⟩ first payload).2.1 =
        filled overflow W Q (payloads ++ [payload]) := by
  have isOpen : s.closed = false := (congrArg Pool.closed h :)
  have hfull := isFull_filled waits hQ h
  by_cases hlost : W + Q ≤ payloads.length
  · rw [decide_eq_true hlost] at hfull
    cases overflow with
    | refuseNewest =>
      rw [dispatch_of_refuseNewest first payload isOpen hfull rfl]
      exact ⟨(decide_eq_false (by omega)).symm, refuse_filled h hlost payload⟩
    | evictOldest =>
      rw [dispatch_of_evictOldest first payload isOpen hfull rfl]
      exact ⟨rfl, evict_filled hQ h hlost first payload⟩
  · rw [decide_eq_false hlost] at hfull
    rw [dispatch_of_hasRoom first payload isOpen hfull]
    refine ⟨?_, enqueue_filled h (by omega) first payload⟩
    cases overflow with
    | refuseNewest => exact (decide_eq_true (by omega)).symm
    | evictOldest => rfl

/-- Without a call, no worker is started. -/
theorem Stirs.workers_le {limits : PoolLimits} {reclaims : Bool}
    {ends? : Option (α → Except Fault Unit)} {t : Pool α} {new : List (Notice α)}
    (h : Stirs limits reclaims ends? s t new) : t.workers ≤ s.workers := by
  induction h with
  | refl s => exact le_refl _
  | step self hact rest ih =>
    rcases workers_of_move (move_of_act? hact) with hsame | ⟨hless, -⟩ | ⟨-, -, hcall⟩
    · omega
    · omega
    · rw [self.payload?_eq_none] at hcall
      cases hcall

/-- A payload that comes in starts one worker at most. -/
theorem workers_dispatch_le (limits : PoolLimits) (first : Phase) (payload : α) (s : Pool α) :
    (s.dispatch limits first payload).2.1.workers ≤ s.workers + 1 := by
  have move : Move limits s _ _ _ := move_of_dispatch payload first s
  rcases workers_of_move move with hsame | ⟨hless, -⟩ | ⟨hmore, -⟩ <;> omega

/-- Where all posts succeed, what was being posted and what waited have been sent. -/
theorem sent_rested_of_filled (h : s.books = filled overflow W Q payloads) :
    (rested ⟨some W, some Q, overflow, waits⟩ (some fun _ => .ok ()) s).sent =
      min payloads.length (W + Q) := by
  have hposting : s.posting = payloads.take W := (congrArg Pool.posting h :)
  have hqueue : s.queue = leftWaiting overflow W Q payloads := (congrArg Pool.queue h :)
  have hsent : s.sent = 0 := (congrArg Pool.sent h :)
  simp only [rested, hsent, hposting, hqueue, Except.isOk, Except.toBool, List.countP_true,
    List.length_append, List.length_take, length_leftWaiting]
  omega

end Pool

namespace GatedDispatcher

open Pool

variable {W Q : Nat} {overflow : Overflow} {waits : Bool} {outcome : String → Except Fault Unit}
  {g : GatedDispatcher} {handed payloads : List String} {r : GateReport}
  {reports : List GateReport}

def after (g : GatedDispatcher) (reports : List GateReport) : GatedDispatcher :=
  (reports.getLast?.map GateReport.state).getD g

theorem after_cons (g : GatedDispatcher) (r : GateReport) (reports : List GateReport) :
    g.after (r :: reports) = r.state.after reports := by
  cases reports with
  | nil => rfl
  | cons next rest => rw [after, after, List.getLast?_cons_cons]; rfl

/-- These payloads have been handed in behind a closed gate, and every worker posts one of them. -/
structure Laden (overflow : Overflow) (W Q : Nat) (waits : Bool) (g : GatedDispatcher)
    (handed : List String) : Prop where
  limits : g.dispatcher.settings.limits = ⟨some W, some Q, overflow, waits⟩
  isClosed : g.isOpen = false
  books : g.dispatcher.pool.books = filled overflow W Q handed
  staffed : Staffed g.dispatcher.settings.limits g.dispatcher.pool
  busy : g.dispatcher.pool.workers ≤ handed.length

namespace Laden

/-- No worker of a burst has been without a payload. -/
theorem stranded_eq_zero (h : Laden overflow W Q waits g handed) :
    g.dispatcher.pool.stranded = 0 := by
  have hposting : g.dispatcher.pool.posting = handed.take W := (congrArg Pool.posting h.books :)
  have hlength := congrArg List.length hposting
  have hbound := h.staffed.bounded W (by rw [h.limits])
  have hbusy := h.busy
  have hworkers := workers_eq g.dispatcher.pool
  rw [List.length_take] at hlength
  simp only [staff] at hworkers
  omega

/-- One step of a burst. -/
theorem dispatch (h : Laden overflow W Q waits g handed) (hW : 1 ≤ W) (hQ : 1 ≤ Q)
    {payload : String}
    (goes : Goes outcome g (.dispatch payload) r) :
    r.answer = .accepted (accepts overflow W Q handed.length) ∧
      Laden overflow W Q waits r.state (handed ++ [payload]) := by
  obtain ⟨hanswer, hrested⟩ := rested_dispatch_of_filled waits hQ h.books .asleep payload
  have hstaffed := h.staffed.act? (.dispatch payload .asleep) (.inl h.stranded_eq_zero) rfl
  have hmay : PoolLimits.mayStart ⟨some W, some Q, overflow, waits⟩ 0 = true := decide_eq_true hW
  cases goes with
  | @rest t later settles =>
    simp only [GatedDispatcher.act, Dispatcher.dispatch, GatedDispatcher.ends?, h.isClosed,
      Bool.false_eq_true, if_false, h.limits] at settles hstaffed hanswer ⊢
    have hbooks := (settles.books_eq hstaffed hmay).trans hrested
    have hkept := settles.stirs.staffed hstaffed
    have hbusy : t.workers ≤ (handed ++ [payload]).length := by
      rw [List.length_append, List.length_singleton]
      exact (settles.stirs.workers_le.trans (workers_dispatch_le _ _ _ _)).trans
        (Nat.add_le_add_right h.busy 1)
    exact ⟨congrArg GateAnswer.accepted hanswer, h.limits, rfl, hbooks, h.limits ▸ hkept, hbusy⟩

/-- A burst after what has been handed in. -/
theorem runs (h : Laden overflow W Q waits g handed) (hW : 1 ≤ W) (hQ : 1 ≤ Q)
    (hruns : Runs outcome g (payloads.map .dispatch) reports) :
    reports.map GateReport.answer =
        (List.range' handed.length payloads.length).map
          (GateAnswer.accepted ∘ accepts overflow W Q) ∧
      Laden overflow W Q waits (g.after reports) (handed ++ payloads) := by
  induction payloads generalizing g handed reports with
  | nil =>
    cases hruns
    exact ⟨rfl, (List.append_nil handed).symm ▸ h⟩
  | cons payload rest ih =>
    cases hruns with
    | @cons _ _ r _ reports goes hrest =>
      obtain ⟨hanswer, hnext⟩ := h.dispatch hW hQ goes
      obtain ⟨hanswers, hend⟩ := ih hnext hrest
      rw [List.append_assoc, List.singleton_append] at hend
      rw [List.length_append, List.length_singleton] at hanswers
      rw [after_cons, List.map_cons, hanswer, hanswers, List.length_cons, List.range'_succ,
        List.map_cons]
      exact ⟨rfl, hend⟩

/-- All posts succeed once the gate is open. -/
theorem open_sent (h : Laden overflow W Q waits g handed) (hW : 1 ≤ W)
    (goes : Goes (fun _ => .ok ()) g .openGate r) :
    r.state.dispatcher.pool.sent = min handed.length (W + Q) := by
  have hmay : PoolLimits.mayStart ⟨some W, some Q, overflow, waits⟩ 0 = true := decide_eq_true hW
  have hstaffed := h.staffed
  cases goes with
  | @rest t later settles =>
    simp only [GatedDispatcher.act, GatedDispatcher.ends?, if_true, h.limits] at settles hstaffed ⊢
    have hbooks := settles.books_eq hstaffed hmay
    have hsent : t.sent = _ := (congrArg Pool.sent hbooks :)
    rw [hsent, sent_rested_of_filled h.books]

end Laden

/-- Where the newest payload is refused, the last calls of a burst are those that are. -/
theorem accepted_refuseNewest (W Q n : Nat) :
    (List.range' 0 n).map (GateAnswer.accepted ∘ accepts .refuseNewest W Q) =
      List.replicate (n - (n - W - Q)) (.accepted true) ++
        List.replicate (n - W - Q) (.accepted false) := by
  apply List.ext_getElem
  · simp only [List.length_map, List.length_range', List.length_append, List.length_replicate]
    omega
  · intro i hi _
    rw [List.length_map, List.length_range'] at hi
    simp only [List.getElem_map, List.getElem_range', Function.comp_apply, accepts,
      List.getElem_append, List.length_replicate, List.getElem_replicate]
    split_ifs with hfirst
    · rw [decide_eq_true (by omega)]
    · rw [decide_eq_false (by omega)]

theorem accepted_evictOldest (W Q n : Nat) :
    (List.range' 0 n).map (GateAnswer.accepted ∘ accepts .evictOldest W Q) =
      List.replicate n (.accepted true) := by
  have hall : GateAnswer.accepted ∘ accepts .evictOldest W Q = fun _ => .accepted true := rfl
  rw [hall, List.map_const', List.length_range']

theorem laden_new {settings : PoolSettings} (hworkers : settings.maxWorkers = .int W)
    (hqueue : settings.maxQueueSize = .int Q) (name : String) :
    Laden settings.limits.overflow W Q settings.canWait ⟨{ name, settings }, false⟩ [] where
  limits := by
    have hw := PoolSettings.limits_workers hworkers
    have hq := PoolSettings.limits_waiting hqueue
    rw [Int.toNat_natCast] at hw hq
    rw [← hw, ← hq]
    rfl
  isClosed := rfl
  books := by
    rw [filled, leftWaiting_of_le (Nat.zero_le _)]
    simp [books]
  staffed := staffed_empty _
  busy := Nat.zero_le _

theorem ofSettings_of_bounds {settings : PoolSettings} (hW : 1 ≤ W) (hQ : 1 ≤ Q)
    (hworkers : settings.maxWorkers = .int W) (hqueue : settings.maxQueueSize = .int Q)
    (name : String) : Dispatcher.ofSettings settings name = .ok { name, settings } := by
  have hw : settings.maxWorkers.isBelow 1 = .ok false := by
    rw [hworkers, Value.isBelow_int, decide_eq_false (by omega)]
  have hq : settings.maxQueueSize.isBelow 1 = .ok false := by
    rw [hqueue, Value.isBelow_int, decide_eq_false (by omega)]
  rw [Dispatcher.ofSettings, hw, hq]
  rfl

/-- Payloads are handed to a new dispatcher one after the other, and its workers come to rest after
each, in whatever order they move, while no post ends. Then the first payloads are being posted, as
many as there may be workers, those are lost for which there is neither a worker nor room, and the
others wait: the next ones, whose calls are the only ones that are answered with true beside the
first ones, if the newest payload is refused, and the last ones, all calls being answered with true,
if the oldest one makes room. If all posts then succeed, all that was not lost has been sent. -/
theorem burst_fills_capacity {settings : PoolSettings} (hW : 1 ≤ W) (hQ : 1 ≤ Q)
    (hworkers : settings.maxWorkers = .int W) (hqueue : settings.maxQueueSize = .int Q)
    (name : String) (outcome : String → Except Fault Unit) (payloads : List String) :
    ∃ d, Dispatcher.ofSettings settings name = .ok d ∧
      (∃ reports, Runs outcome ⟨d, false⟩ (payloads.map .dispatch) reports) ∧
      ∀ reports, Runs outcome ⟨d, false⟩ (payloads.map .dispatch) reports →
        let g := after ⟨d, false⟩ reports
        let s := g.dispatcher.pool
        let lost := payloads.length - W - Q
        s.posting = payloads.take W ∧ s.posting.length = min payloads.length W ∧
          s.dropped = lost ∧
          (settings.overflowPolicy = .text OverflowPolicy.dropNewest →
            s.queue = (payloads.drop W).take Q ∧
              reports.map GateReport.answer =
                List.replicate (payloads.length - lost) (.accepted true) ++
                  List.replicate lost (.accepted false)) ∧
          (settings.overflowPolicy = .text OverflowPolicy.dropOldest →
            s.queue = payloads.drop (max W (payloads.length - Q)) ∧
              reports.map GateReport.answer =
                List.replicate payloads.length (.accepted true)) ∧
          (∃ r, Goes (fun _ => .ok ()) g .openGate r) ∧
          ∀ r, Goes (fun _ => .ok ()) g .openGate r →
            r.state.dispatcher.pool.sent = min payloads.length (W + Q) := by
  refine ⟨_, ofSettings_of_bounds hW hQ hworkers hqueue name, ⟨_, runs_run _ _ _⟩, ?_⟩
  intro reports hruns g s lost
  obtain ⟨hanswers, hladen⟩ := (laden_new hworkers hqueue name).runs hW hQ hruns
  rw [List.nil_append] at hladen
  have hposting : s.posting = payloads.take W := (congrArg Pool.posting hladen.books :)
  have hwaiting : s.queue = leftWaiting settings.limits.overflow W Q payloads :=
    (congrArg Pool.queue hladen.books :)
  refine ⟨hposting, ?_, (congrArg Pool.dropped hladen.books :), ?_, ?_, ⟨_, goes_step _ _ _⟩, ?_⟩
  · rw [hposting, List.length_take, min_comm]
  · intro hpolicy
    rw [PoolSettings.limits_overflow_newest hpolicy] at hwaiting hanswers
    exact ⟨hwaiting, hanswers.trans (accepted_refuseNewest W Q _)⟩
  · intro hpolicy
    rw [PoolSettings.limits_overflow_oldest hpolicy] at hwaiting hanswers
    exact ⟨hwaiting, hanswers.trans (accepted_evictOldest W Q _)⟩
  · exact fun r goes => hladen.open_sent hW goes

/-- One worker and room for two: the last two of five payloads are refused. -/
theorem burst_fills_capacity_five_payloads :
    let settings : PoolSettings :=
      { maxWorkers := .int 1, maxQueueSize := .int 2
        overflowPolicy := .text OverflowPolicy.dropNewest }
    ∃ d reports, Dispatcher.ofSettings settings = .ok d ∧
      Runs (fun _ => .ok ()) ⟨d, false⟩ (["a", "b", "c", "d", "e"].map .dispatch) reports ∧
      (after ⟨d, false⟩ reports).dispatcher.pool.posting = ["a"] ∧
      (after ⟨d, false⟩ reports).dispatcher.pool.queue = ["b", "c"] ∧
      (after ⟨d, false⟩ reports).dispatcher.pool.dropped = 2 ∧
      reports.map GateReport.answer =
        [.accepted true, .accepted true, .accepted true, .accepted false, .accepted false] := by
  intro settings
  obtain ⟨d, hd, ⟨reports, hruns⟩, hlaw⟩ := @burst_fills_capacity 1 2 settings
    (le_refl 1) one_le_two rfl rfl "mediatel-dispatch" (fun _ => .ok ()) ["a", "b", "c", "d", "e"]
  obtain ⟨hposting, -, hdropped, hnewest, -⟩ := hlaw reports hruns
  obtain ⟨hqueue, hanswers⟩ := hnewest rfl
  exact ⟨d, reports, hd, hruns, hposting, hqueue, hdropped, hanswers⟩

end GatedDispatcher

end SessionTelemetry
