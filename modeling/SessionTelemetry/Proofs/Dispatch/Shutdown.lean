import SessionTelemetry.Proofs.Dispatch.Conservation
import SessionTelemetry.Proofs.Dispatch.WorkConservation

/-!
# Closing a pool

In a closed pool no worker waits to be notified, so that a worker takes a payload, ends a post or
leaves. Each of these steps is one of those that `Pool.remaining` counts, in whatever order they
come, and as long as any are left a worker can take one (`exists_work`), unless payloads wait and no
worker is there any more. So every run of a closed pool that goes on as long as it can ends with an
empty queue and without workers but the stranded ones, if there was a worker left to empty it.
-/

namespace SessionTelemetry

def PoolAction.isWork {α : Type} : PoolAction α → Bool
  | .attempt _ => true
  | .lapse => true
  | .finish _ _ => true
  | _ => false

namespace Pool

variable {α : Type} {limits : PoolLimits} {s t u : Pool α} {action : PoolAction α}
  {later : List (PoolAction α)} {history new : List (Notice α)}

def workSteps (actions : List (PoolAction α)) : Nat := actions.countP PoolAction.isWork

/-- The steps that are left to the workers of a closed pool: two for each payload that waits, one
for each that is being posted, and one for each worker to leave. -/
def remaining (s : Pool α) : Nat := 2 * s.queue.length + s.posting.length + s.staff

theorem remaining_eq_zero_iff :
    s.remaining = 0 ↔ s.queue = [] ∧ s.posting = [] ∧ s.staff = 0 := by
  simp only [remaining, ← List.length_eq_zero_iff]
  omega

/-- What holds between two states of a closed pool, the second of which it got to by the actions
`later`, where `new` was made of payloads. -/
structure Flushed (s t : Pool α) (later : List (PoolAction α)) (new : List (Notice α)) : Prop where
  closed : t.closed = true
  nobodyListens : t.listening = 0
  /-- What waited was taken, in its order, or waits. -/
  taken : reported [.taken] new ++ t.queue = s.queue
  submitted : t.submitted = s.submitted
  /-- Calls were dropped, and nothing else was. -/
  dropped : t.dropped = s.dropped + (calls later).length
  steps : workSteps later + t.remaining = s.remaining
  stranded : t.stranded = s.stranded
  staff_le : t.staff ≤ s.staff
  /-- Nobody has left while payloads wait. -/
  manned : t.queue ≠ [] → t.staff = s.staff
  /-- Without workers nothing is taken. -/
  unmanned : s.staff = 0 → reported [.taken] new = []

theorem Flushed.trans {further : List (PoolAction α)} {newest : List (Notice α)}
    (h : Flushed s t later new) (hlater : Flushed t u further newest) :
    Flushed s u (later ++ further) (new ++ newest) where
  closed := hlater.closed
  nobodyListens := hlater.nobodyListens
  taken := by rw [reported_append, List.append_assoc, hlater.taken, h.taken]
  submitted := hlater.submitted.trans h.submitted
  dropped := by
    rw [hlater.dropped, h.dropped, calls, calls, calls, List.filterMap_append, List.length_append,
      Nat.add_assoc]
  steps := by rw [workSteps, List.countP_append, Nat.add_assoc, ← h.steps, ← hlater.steps]; rfl
  stranded := hlater.stranded.trans h.stranded
  staff_le := hlater.staff_le.trans h.staff_le
  manned := by
    intro hwaits
    have hwaited : t.queue ≠ [] := by
      rw [← hlater.taken]
      exact List.append_ne_nil_of_right_ne_nil _ hwaits
    exact (hlater.manned hwaits).trans (h.manned hwaited)
  unmanned := by
    intro hnone
    have hnone' : t.staff = 0 := Nat.eq_zero_of_le_zero (hnone ▸ h.staff_le)
    rw [reported_append, h.unmanned hnone, hlater.unmanned hnone', List.append_nil]

/-- A step that takes nothing and leaves the workers that are there. -/
theorem flushed_of_staff (hclosed : t.closed = true) (hnobody : t.listening = 0)
    (htaken : reported [.taken] new = []) (hqueue : t.queue = s.queue)
    (hsubmitted : t.submitted = s.submitted)
    (hdropped : t.dropped = s.dropped + (calls later).length) (hstranded : t.stranded = s.stranded)
    (hstaff : t.staff = s.staff) (hsteps : workSteps later + t.posting.length = s.posting.length) :
    Flushed s t later new where
  closed := hclosed
  nobodyListens := hnobody
  taken := by rw [htaken, hqueue, List.nil_append]
  submitted := hsubmitted
  dropped := hdropped
  steps := by rw [remaining, remaining, hqueue, hstaff]; omega
  stranded := hstranded
  staff_le := hstaff.le
  manned _ := hstaff
  unmanned _ := htaken

theorem staff_close (s : Pool α) : s.close.staff = s.staff := by
  simp only [staff, coming, listening, close]
  omega

theorem staff_of_finish {position : Nat} {payload : α}
    (posted : s.posting[position]? = some payload) (sent failed : Nat) :
    ({ s with posting := s.posting.eraseIdx position, ready := s.ready + 1, sent, failed } :
      Pool α).staff = s.staff := by
  have hworkers := workers_of_finish posted sent failed
  rw [workers_eq, workers_eq s] at hworkers
  exact Nat.add_right_cancel hworkers

theorem flushed_of_take {phase : Phase} {rest : Pool α} {payload : α} {waiting : List α}
    (hclosed : s.closed = true) (hnobody : s.listening = 0) (one : s.without? phase = some rest)
    (head : s.queue = payload :: waiting) :
    Flushed s { rest with queue := waiting, posting := s.posting ++ [payload] } [.attempt phase]
      [.taken payload] := by
  have hbooks := books_of_without? one
  have hlisten := listening_of_without? one
  have hstranded := stranded_of_without? one
  have hpos := staff_of_without? one
  have hstaff : ({ rest with queue := waiting, posting := s.posting ++ [payload] } :
      Pool α).staff = s.staff := by
    have hworkers := workers_of_take one payload waiting
    rw [workers_eq, workers_eq s] at hworkers
    change _ + rest.stranded = _ at hworkers
    omega
  refine ⟨?_, ?_, ?_, ?_, ?_, ?_, hstranded, hstaff.le, fun _ => hstaff, fun hnone => ?_⟩
  · exact (congrArg Pool.closed hbooks :).trans hclosed
  · exact Nat.eq_zero_of_le_zero (hnobody ▸ hlisten)
  · simp [Notice.kind, Notice.payload, head]
  · exact (congrArg Pool.submitted hbooks :)
  · exact (congrArg Pool.dropped hbooks :)
  -- of the two steps for a payload one is taken, and the end of its post is the other
  · rw [remaining, remaining, hstaff, head]
    simp [workSteps, PoolAction.isWork]
    omega
  · omega

/-- Only a pool without waiting payloads loses a worker. -/
theorem flushed_of_leave {phase : Phase} {rest : Pool α} (hclosed : s.closed = true)
    (hnobody : s.listening = 0) (one : s.without? phase = some rest) (empty : s.queue = []) :
    Flushed s rest [.attempt phase] [] := by
  have hbooks := books_of_without? one
  have hlisten := listening_of_without? one
  have hstaff := staff_of_without? one
  have hqueue := queue_of_without? one
  refine ⟨?_, ?_, hqueue, ?_, ?_, ?_, stranded_of_without? one, by omega, ?_, fun _ => rfl⟩
  · exact (congrArg Pool.closed hbooks :).trans hclosed
  · exact Nat.eq_zero_of_le_zero (hnobody ▸ hlisten)
  · exact (congrArg Pool.submitted hbooks :)
  · exact (congrArg Pool.dropped hbooks :)
  · rw [remaining, remaining, hqueue, posting_of_without? one, ← hstaff]
    simp [workSteps, PoolAction.isWork]
    omega
  · intro hwaits
    exact absurd (hqueue.trans empty) hwaits

theorem flushed_of_finish {position : Nat} {payload : α} {sent failed : Nat}
    (hclosed : s.closed = true) (hnobody : s.listening = 0)
    (posted : s.posting[position]? = some payload) (hwork : action.isWork = true)
    (hcall : calls [action] = []) (htaken : reported [.taken] new = []) :
    Flushed s { s with posting := s.posting.eraseIdx position, ready := s.ready + 1, sent, failed }
      [action] new := by
  have hlength := (perm_cons_eraseIdx posted).length_eq
  have hstaff := staff_of_finish posted sent failed
  refine flushed_of_staff hclosed hnobody htaken rfl rfl (by rw [hcall]; rfl) rfl hstaff ?_
  simp only [workSteps, hwork, List.countP_singleton, if_true, hlength, List.length_cons]
  omega

/-- Whatever a closed pool does is a step towards its end, unless it is a call. -/
theorem flushed_of_move (hclosed : s.closed = true) (hnobody : s.listening = 0)
    (move : Move limits s action t new) : Flushed s t [action] new := by
  cases move with
  | refuseFull payload first isOpen full policy => simp [isOpen] at hclosed
  | evict payload first isOpen full policy => simp [isOpen] at hclosed
  | accept payload first isOpen hasRoom => simp [isOpen] at hclosed
  | fallAsleep phase rest awake one empty isOpen inTime waits => simp [isOpen] at hclosed
  | strand phase rest awake one empty isOpen inTime fails => simp [isOpen] at hclosed
  | lapse rest one =>
    have hasleep : s.asleep = 0 := (Nat.add_eq_zero_iff.1 hnobody).1
    simp [without?, hasleep] at one
  | refuseClosed payload first closed =>
    exact flushed_of_staff closed hnobody rfl rfl rfl rfl rfl rfl
      (by simp [workSteps, PoolAction.isWork])
  | take phase rest payload waiting awake one head =>
    exact flushed_of_take hclosed hnobody one head
  | leave phase rest awake one empty ends => exact flushed_of_leave hclosed hnobody one empty
  | deliver position payload posted => exact flushed_of_finish hclosed hnobody posted rfl rfl rfl
  | lose position payload fault posted =>
    exact flushed_of_finish hclosed hnobody posted rfl rfl rfl
  | drain =>
    exact flushed_of_staff hclosed hnobody rfl rfl rfl rfl rfl rfl
      (by simp [workSteps, PoolAction.isWork])
  | close =>
    refine flushed_of_staff rfl rfl rfl rfl rfl rfl rfl (staff_close s) ?_
    simp [workSteps, PoolAction.isWork, close]

/-- Closing leaves nobody waiting, and to the workers all that was left to them. -/
theorem flushed_close (s : Pool α) : Flushed s s.close [] [] :=
  flushed_of_staff rfl rfl rfl rfl rfl rfl rfl (staff_close s) (by simp [workSteps, close])

theorem flushed_of_run? (h : run? limits s.close later = some (t, new)) :
    Flushed s t later new := by
  refine run?_induction (P := fun later t new => Flushed s t later new) ?_ ?_ h
  · exact flushed_close s
  · intro actions t earlier action u new _ hact ih
    exact ih.trans (flushed_of_move ih.closed ih.nobodyListens (move_of_act? hact))

/-- A pool that is closed when no worker is there stays as it is. -/
theorem kept_of_run? (hnobody : s.staff = 0) (h : run? limits s.close later = some (t, new)) :
    t.queue = s.queue ∧ t.workers = s.stranded := by
  have hflushed := flushed_of_run? h
  have htaken := hflushed.taken
  have hworkers := workers_eq t
  have hless := hflushed.staff_le
  rw [hflushed.unmanned hnobody, List.nil_append] at htaken
  rw [hflushed.stranded] at hworkers
  exact ⟨htaken, by omega⟩

theorem close_eq_self (hclosed : s.closed = true) (hnobody : s.listening = 0) : s.close = s := by
  obtain ⟨hasleep, hlapsed⟩ := Nat.add_eq_zero_iff.1 hnobody
  cases s
  simp only at hclosed hasleep hlapsed
  simp [close, hclosed, hasleep, hlapsed]

theorem dispatch_of_closed (hclosed : s.closed = true) (first : Phase) (payload : α) :
    s.dispatch limits first payload =
      (false, { s with dropped := s.dropped + 1 }, [.refusedClosed payload]) := by
  rw [dispatch, if_pos hclosed]

theorem workers_pos_of_attended (h : Attended limits s) (hmay : limits.mayStart 0 = true)
    (hqueue : s.queue ≠ []) : 0 < s.workers := by
  by_contra hnone
  have hzero : s.workers = 0 := Nat.eq_zero_of_not_pos hnone
  have hle := h (.inr (hzero ▸ hmay))
  have hwaits : 0 < s.queue.length := List.length_pos_iff.2 hqueue
  have hsplit := workers_eq s
  simp only [staff] at hsplit
  omega

/-- A worker that does not wait to be notified can look at the queue. -/
theorem exists_attempt (limits : PoolLimits) (hcoming : s.coming ≠ 0) :
    ∃ phase next, s.attempt? limits phase = some next := by
  by_cases hready : s.ready = 0
  · by_cases hwoken : s.woken = 0
    · have hcalled : s.called ≠ 0 := by
        intro hcalled
        exact hcoming (by rw [coming, hready, hwoken, hcalled])
      exact ⟨.called, _, by rw [attempt?, if_neg (by decide), without?, if_neg hcalled]; rfl⟩
    · exact ⟨.woken, _, by rw [attempt?, if_neg (by decide), without?, if_neg hwoken]; rfl⟩
  · exact ⟨.ready, _, by rw [attempt?, if_neg (by decide), without?, if_neg hready]; rfl⟩

/-- As long as steps are left to the workers of a closed pool, one of them can look at the queue, or
the first post can end, in whatever way, unless payloads wait and no worker is there. -/
theorem exists_work (limits : PoolLimits) (hmanned : s.queue ≠ [] → s.staff ≠ 0)
    (hnobody : s.listening = 0) (hleft : s.remaining ≠ 0) :
    (∃ phase next, s.attempt? limits phase = some next) ∨
      ∀ outcome, ∃ next, s.finish? 0 outcome = some next := by
  cases hposting : s.posting with
  | cons payload others =>
    right
    intro outcome
    cases outcome <;> exact ⟨_, by rw [finish?, hposting]; rfl⟩
  | nil =>
    left
    apply exists_attempt
    -- without posts, and with nobody to be notified, every worker that is there is coming
    intro hcoming
    have hstaff : s.staff = 0 := by
      rw [staff, hcoming, hnobody, hposting]
      rfl
    have hqueue : s.queue = [] := by
      by_contra hwaits
      exact hmanned hwaits hstaff
    exact hleft (remaining_eq_zero_iff.2 ⟨hqueue, hposting, hstaff⟩)

/-- Where workers can wait and the bound on them is a number, none is ever stranded, and a worker is
there as long as payloads wait. -/
theorem manned_of_reachable {settings : PoolSettings} (hvalid : settings.validate = .ok ())
    (hwaits : settings.canWait = true)
    (hnumber : ∀ label, settings.maxWorkers.extent? ≠ some (.nan label))
    (h : Reachable settings.limits s history) :
    s.stranded = 0 ∧ (s.queue ≠ [] → s.staff ≠ 0) := by
  have hnone := stranded_eq_zero_of_reachable hwaits h
  refine ⟨hnone, fun hqueue hstaff => ?_⟩
  have hmay := PoolSettings.mayStart_zero_of_validate hnumber hvalid
  have hpos := workers_pos_of_attended (attended_of_reachable h) hmay hqueue
  rw [workers_eq] at hpos
  omega

/-- No worker of a dispatcher goes while a payload waits. Once it is closed, every call is dropped
and changes nothing else, and closing it again changes nothing. In whatever order its workers move
and posts end, they take as many steps as there were workers and posts at closing and two for each
payload that waited, and as long as this number is not reached there is a step to take: a worker can
look at the queue, or a post can end, in whatever way. At the end nothing waits, nothing is being
posted and no worker is left but those that were stranded before. By then each payload that waited
was taken once, in its order, each of them and of those that were being posted has been posted once,
and is counted as sent or as failed; only calls were dropped. It is otherwise only if payloads
waited at closing and no worker was there any more, which cannot be where workers can wait as long
as they are told to and the bound on them is a number. -/
theorem close_flushes {settings : PoolSettings} {name : String} {d : Dispatcher}
    (hd : Dispatcher.ofSettings settings name = .ok d)
    (h : Reachable d.settings.limits s history) :
    (∀ action t new, s.act? d.settings.limits action = some (t, new) →
      t.staff < s.staff → s.queue = []) ∧
    (settings.canWait = true → (∀ label, settings.maxWorkers.extent? ≠ some (.nan label)) →
      s.stranded = 0 ∧ (s.queue ≠ [] → s.staff ≠ 0)) ∧
    ∀ later t new, run? d.settings.limits s.close later = some (t, new) →
      (∀ payload first, t.dispatch d.settings.limits first payload =
        (false, { t with dropped := t.dropped + 1 }, [.refusedClosed payload])) ∧
      t.close = t ∧
      workSteps later + (2 * t.queue.length + t.posting.length + t.staff) =
        2 * s.queue.length + s.posting.length + s.staff ∧
      ((t.queue = [] ∧ t.posting = [] ∧ t.workers = s.stranded) ∨
        (∃ phase next, t.attempt? d.settings.limits phase = some next) ∨
        (∀ outcome, ∃ next, t.finish? 0 outcome = some next) ∨
        (s.queue ≠ [] ∧ s.staff = 0 ∧ t.queue = s.queue ∧ t.workers = s.stranded)) ∧
      t.submitted = s.submitted ∧ t.dropped = s.dropped + (calls later).length ∧
      (t.queue = [] → t.posting = [] →
        reported [.taken] new = s.queue ∧
        (s.posting ++ s.queue).Perm (reported [.delivered] new ++ reported [.lost] new) ∧
        t.sent = s.sent + (reported [.delivered] new).length ∧
        t.failed = s.failed + (reported [.lost] new).length) := by
  obtain ⟨hvalid, hsettings⟩ := PoolSettings.validate_of_ofSettings hd
  refine ⟨fun action t new hact hless => queue_eq_nil_of_staff_lt hact hless, ?_, ?_⟩
  · intro hwaits hnumber
    exact manned_of_reachable hvalid hwaits hnumber (hsettings ▸ h)
  · intro later t new hrun
    have hflushed := flushed_of_run? hrun
    have hposts := posts_of_run? hrun
    have hworkers := workers_eq t
    rw [hflushed.stranded] at hworkers
    refine ⟨fun payload first => dispatch_of_closed hflushed.closed first payload,
      close_eq_self hflushed.closed hflushed.nobodyListens, hflushed.steps, ?_,
      hflushed.submitted, hflushed.dropped, ?_⟩
    · by_cases hleft : t.remaining = 0
      · obtain ⟨hqueue, hposting, hstaff⟩ := remaining_eq_zero_iff.1 hleft
        exact .inl ⟨hqueue, hposting, by omega⟩
      · by_cases hmanned : t.queue ≠ [] → t.staff ≠ 0
        · rcases exists_work d.settings.limits hmanned hflushed.nobodyListens hleft with
            hlook | hend
          · exact .inr (.inl hlook)
          · exact .inr (.inr (.inl hend))
        · simp only [Classical.not_imp, not_not] at hmanned
          obtain ⟨hwaits, hstaff⟩ := hmanned
          have hnobody : s.staff = 0 := (hflushed.manned hwaits).symm.trans hstaff
          obtain ⟨hqueue, hcounted⟩ := kept_of_run? hnobody hrun
          exact .inr (.inr (.inr ⟨hqueue ▸ hwaits, hnobody, hqueue, hcounted⟩))
    · intro hqueue hposting
      have htaken := hflushed.taken
      rw [hqueue, List.append_nil] at htaken
      refine ⟨htaken, ?_, hposts.sent, hposts.failed⟩
      have hposted := hposts.posted
      rwa [htaken, hposting, List.nil_append] at hposted

/-- A dispatcher that is closed while one payload is being posted and one waits loses the first,
delivers the second and drops a third that comes too late. -/
theorem close_flushes_two_payloads :
    ∃ (d : Dispatcher) (s : Pool Nat) (history : List (Notice Nat)),
      Dispatcher.ofSettings PoolSettings.onePlace = .ok d ∧
      Reachable d.settings.limits s history ∧ s.queue = [2] ∧ s.posting = [1] ∧ s.stranded = 0 ∧
      ∃ (t : Pool Nat) (new : List (Notice Nat)),
        run? d.settings.limits s.close [.dispatch 3 .asleep, .finish 0 (.error .unsuitable),
          .attempt .ready, .finish 0 (.ok ()), .attempt .ready] = some (t, new) ∧
        t.workers = 0 ∧ t.dropped = s.dropped + 1 ∧
        (s.posting ++ s.queue).Perm (reported [.delivered] new ++ reported [.lost] new) := by
  have hreach : Reachable (α := Nat) PoolSettings.onePlace.limits _ _ :=
    .next (.dispatch 2 .asleep) (.next (.attempt .ready)
      (.next (.dispatch 1 .asleep) .start rfl) rfl) rfl
  have hnumber : ∀ label, PoolSettings.onePlace.maxWorkers.extent? ≠ some (.nan label) := by
    intro label h
    cases h
  have hmade : Dispatcher.ofSettings PoolSettings.onePlace =
      .ok { settings := PoolSettings.onePlace } := rfl
  obtain ⟨-, hmanned, hclose⟩ := close_flushes hmade hreach
  obtain ⟨-, -, -, -, -, hdropped, hend⟩ := hclose [.dispatch 3 .asleep,
    .finish 0 (.error .unsuitable), .attempt .ready, .finish 0 (.ok ()), .attempt .ready] _ _ rfl
  exact ⟨_, _, _, hmade, hreach, rfl, rfl, (hmanned PoolSettings.canWait_onePlace hnumber).1,
    _, _, rfl, rfl, hdropped, (hend rfl rfl).2.1⟩

/-- Dispatchers of settings that pass their checks can keep a payload for good once they are closed,
whatever happens then: one whose only worker could not wait for an infinite time and is gone, though
it is still counted, and one that starts no worker as the bound on them is no number. -/
theorem close_leaves_behind :
    (∃ (d : Dispatcher) (s : Pool Nat) (history : List (Notice Nat)),
      Dispatcher.ofSettings PoolSettings.endless = .ok d ∧ Reachable d.settings.limits s history ∧
        ∀ later t new, run? d.settings.limits s.close later = some (t, new) →
          t.queue = [2] ∧ t.workers = 1) ∧
    ∃ (d : Dispatcher) (s : Pool Nat) (history : List (Notice Nat)),
      Dispatcher.ofSettings PoolSettings.unnumbered = .ok d ∧
        Reachable d.settings.limits s history ∧
        ∀ later t new, run? d.settings.limits s.close later = some (t, new) →
          t.queue = [1] ∧ t.workers = 0 := by
  obtain ⟨history, hstranded⟩ := reachable_stranded
  obtain ⟨history', hempty⟩ := reachable_unmanned
  constructor
  · exact ⟨_, _, history, rfl, hstranded, fun later t new hrun => kept_of_run? rfl hrun⟩
  · exact ⟨_, _, history', rfl, hempty, fun later t new hrun => kept_of_run? rfl hrun⟩

end Pool

end SessionTelemetry
