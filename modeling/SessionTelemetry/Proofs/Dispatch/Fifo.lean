import SessionTelemetry.Proofs.Dispatch.Conservation
import SessionTelemetry.Proofs.Dispatch.WorkConservation

/-!
# The order of the queue

Payloads leave the queue in the order in which their calls were answered with true: those that were
taken or evicted, followed by those that wait, are all that were accepted (`accepted_eq`). A payload
is displaced only where the queue is full, and one at a time.
-/

namespace SessionTelemetry

namespace Pool

variable {α : Type} {limits : PoolLimits} {s t : Pool α} {action : PoolAction α}
  {actions : List (PoolAction α)} {history new : List (Notice α)}

/-- The payload that an action hands in, if its call is answered with true. -/
def acceptedBy (limits : PoolLimits) (s : Pool α) (action : PoolAction α) : List α :=
  if s.answer? limits action = some true then action.payload?.toList else []

def accepted (limits : PoolLimits) (s : Pool α) : List (PoolAction α) → List α
  | [] => []
  | action :: rest =>
    match s.act? limits action with
    | none => []
    | some (t, _) => s.acceptedBy limits action ++ t.accepted limits rest

theorem accepted_concat (hrun : s.run? limits actions = some (t, history))
    {u : Pool α} (hact : t.act? limits action = some (u, new)) :
    s.accepted limits (actions ++ [action]) =
      s.accepted limits actions ++ t.acceptedBy limits action := by
  induction actions generalizing s history with
  | nil =>
    obtain ⟨rfl, rfl⟩ := Prod.mk.inj (Option.some.inj hrun)
    simp [accepted, hact]
  | cons first rest ih =>
    cases hfirst : s.act? limits first with
    | none => simp [run?, hfirst] at hrun
    | some next =>
      obtain ⟨v, newest⟩ := next
      simp only [run?, hfirst, Option.map_eq_some_iff] at hrun
      obtain ⟨⟨_, later⟩, hrest, he⟩ := hrun
      obtain ⟨rfl, rfl⟩ := Prod.mk.inj he
      simp only [List.cons_append, accepted, hfirst, ih hrest, List.append_assoc]

theorem reported_admitted_dispatch (first : Phase) (payload : α) (s : Pool α) :
    reported [.admitted] (s.dispatch limits first payload).2.2 =
      if (s.dispatch limits first payload).1 = true then [payload] else [] := by
  by_cases closed : s.closed = true
  · simp [dispatch, closed, Notice.kind]
  · by_cases full : limits.isFull s.queue.length = true
    · cases policy : limits.overflow with
      | refuseNewest => simp [dispatch, closed, full, policy, Notice.kind]
      | evictOldest =>
        cases oldest : s.queue.head? <;>
          simp [dispatch, closed, full, policy, oldest, Notice.kind, Notice.payload]
    · simp [dispatch, closed, full, Notice.kind, Notice.payload]

/-- A payload is reported as admitted exactly when its call is answered with true. -/
theorem reported_admitted_of_act? (hact : s.act? limits action = some (t, new)) :
    reported [.admitted] new = s.acceptedBy limits action := by
  cases action with
  | dispatch payload first =>
    obtain ⟨-, rfl⟩ := Prod.mk.inj (Option.some.inj hact)
    simp [acceptedBy, answer?, PoolAction.payload?, reported_admitted_dispatch]
  | attempt phase => cases move_of_act? hact <;> rfl
  | lapse => cases move_of_act? hact; rfl
  | finish position outcome => cases move_of_act? hact <;> rfl
  | drain => cases move_of_act? hact; simp [acceptedBy, PoolAction.payload?]
  | close => cases move_of_act? hact; rfl

/-- What leaves the queue leaves at its head, and what is admitted joins at its end. -/
theorem queue_of_move (move : Move limits s action t new) :
    reported [.taken, .evicted] new ++ t.queue = s.queue ++ reported [.admitted] new := by
  cases move with
  | refuseClosed payload first closed => simp [Notice.kind]
  | refuseFull payload first isOpen full policy => simp [Notice.kind]
  | evict payload first isOpen full policy =>
    cases hq : s.queue <;> simp [Notice.kind, Notice.payload]
  | accept payload first isOpen hasRoom => simp [Notice.kind, Notice.payload]
  | take phase rest payload waiting awake one head => simp [Notice.kind, Notice.payload, head]
  | leave phase rest awake one empty ends => simp [queue_of_without? one]
  | fallAsleep phase rest awake one empty isOpen inTime waits => simp [queue_of_without? one]
  | strand phase rest awake one empty isOpen inTime fails => simp [queue_of_without? one]
  | lapse rest one => simp [queue_of_without? one]
  | deliver position payload posted => simp [Notice.kind]
  | lose position payload fault posted => simp [Notice.kind]
  | drain => simp
  | close => simp [close]

/-- What was accepted is what left the queue, in this order, and what waits. -/
theorem accepted_eq (h : run? limits {} actions = some (s, history)) :
    accepted limits {} actions = reported [.taken, .evicted] history ++ s.queue := by
  refine run?_induction (P := fun actions s history =>
    accepted limits {} actions = reported [.taken, .evicted] history ++ s.queue) ?_ ?_ h
  · rfl
  · intro actions s history action t new hrun hact ih
    calc accepted limits {} (actions ++ [action])
        = accepted limits {} actions ++ reported [.admitted] new := by
          rw [accepted_concat hrun hact, reported_admitted_of_act? hact]
      _ = reported [.taken, .evicted] history ++ (s.queue ++ reported [.admitted] new) := by
          rw [ih, List.append_assoc]
      _ = reported [.taken, .evicted] (history ++ new) ++ t.queue := by
          rw [← queue_of_move (move_of_act? hact), reported_append, List.append_assoc]

/-- A payload is displaced exactly where a call of an open pool finds the queue full. -/
theorem length_displaced_of_move {bound : Nat} (hbound : limits.waiting = some bound)
    (hpos : 0 < bound) (hle : s.queue.length ≤ bound) (move : Move limits s action t new) :
    (reported [.refusedFull, .evicted] new).length =
      if action.payload?.isSome = true ∧ s.closed = false ∧ s.queue.length = bound then 1
      else 0 := by
  have hfull : limits.isFull s.queue.length = decide (bound ≤ s.queue.length) := by
    simp only [PoolLimits.isFull, hbound]
  cases move with
  | refuseClosed payload first closed => simp [Notice.kind, closed]
  | refuseFull payload first isOpen full policy =>
    rw [hfull, decide_eq_true_eq] at full
    have heq : s.queue.length = bound := by omega
    simp [Notice.kind, PoolAction.payload?, isOpen, heq]
  | evict payload first isOpen full policy =>
    rw [hfull, decide_eq_true_eq] at full
    have heq : s.queue.length = bound := by omega
    cases hq : s.queue with
    | nil => simp [hq] at heq; omega
    | cons oldest rest =>
      rw [hq] at heq
      simp [Notice.kind, PoolAction.payload?, isOpen, heq]
  | accept payload first isOpen hasRoom =>
    rw [hfull, decide_eq_false_iff_not] at hasRoom
    have hne : ¬ s.queue.length = bound := by omega
    simp [Notice.kind, hne]
  | take | leave | fallAsleep | strand | lapse | deliver | lose | drain | close =>
    simp [Notice.kind, PoolAction.payload?]

theorem evicted_eq_nil_of_move (policy : limits.overflow = .refuseNewest)
    (move : Move limits s action t new) : reported [.evicted] new = [] := by
  cases move with
  | evict payload first isOpen full other =>
    rw [policy] at other
    cases other
  | refuseClosed | refuseFull | accept | take | leave | fallAsleep | strand | lapse | deliver
  | lose | drain | close => rfl

theorem evicted_eq_nil_of_run? (policy : limits.overflow = .refuseNewest)
    (h : run? limits {} actions = some (s, history)) : reported [.evicted] history = [] := by
  refine run?_induction (P := fun _ _ history => reported [.evicted] history = []) ?_ ?_ h
  · rfl
  · intro actions s history action t new _ hact ih
    rw [reported_append, ih, evicted_eq_nil_of_move policy (move_of_act? hact), List.nil_append]

/-- Where nothing is evicted, what was accepted waits, is being posted or was posted. -/
theorem accepted_perm (policy : limits.overflow = .refuseNewest)
    (h : run? limits {} actions = some (s, history)) :
    (accepted limits {} actions).Perm
      (s.queue ++ (s.posting ++ reported [.delivered] history ++ reported [.lost] history)) := by
  have htaken : reported [.taken, .evicted] history = reported [.taken] history :=
    reported_append_kinds [.taken] (evicted_eq_nil_of_run? policy h)
  rw [accepted_eq h, htaken]
  exact List.perm_append_comm.trans ((taken_perm h).append_left _)

theorem refused_eq_of_dispatch {first : Phase} {payload : α}
    (hact : s.act? limits (.dispatch payload first) = some (t, new)) :
    ∀ refused ∈ reported [.refusedFull] new, refused = payload := by
  intro refused hmem
  cases move_of_act? hact with
  | refuseClosed closed => simp [Notice.kind] at hmem
  | refuseFull isOpen full policy => simpa [Notice.kind, Notice.payload] using hmem
  | evict isOpen full policy => cases hq : s.queue <;> simp [hq, Notice.kind] at hmem
  | accept isOpen hasRoom => simp [Notice.kind] at hmem

/-- Where the oldest payload makes room, an open pool accepts whatever is handed in. -/
theorem answer_of_evictOldest (policy : limits.overflow = .evictOldest) (isOpen : s.closed = false)
    (payload : α) (first : Phase) :
    s.answer? limits (.dispatch payload first) = some true := by
  by_cases full : limits.isFull s.queue.length = true <;>
    simp [answer?, dispatch, isOpen, full, policy]

/-- An evicted payload was accepted before all that are left in the queue. -/
theorem accepted_of_evicted {first : Phase} {payload oldest : α}
    (h : run? limits {} actions = some (s, history))
    (hact : s.act? limits (.dispatch payload first) = some (t, new))
    (hmem : oldest ∈ reported [.evicted] new) :
    accepted limits {} (actions ++ [.dispatch payload first]) =
      reported [.taken, .evicted] history ++ oldest :: t.queue := by
  have hone : reported [.taken, .evicted] new = [oldest] := by
    cases move_of_act? hact with
    | refuseClosed closed => simp [Notice.kind] at hmem
    | refuseFull isOpen full policy => simp [Notice.kind] at hmem
    | accept isOpen hasRoom => simp [Notice.kind] at hmem
    | evict isOpen full policy =>
      cases hq : s.queue with
      | nil => simp [hq, Notice.kind] at hmem
      | cons head rest =>
        have heq : oldest = head := by simpa [hq, Notice.kind, Notice.payload] using hmem
        simp [heq, Notice.kind, Notice.payload]
  have hrun := run?_concat.2 ⟨s, history, new, h, hact, rfl⟩
  rw [accepted_eq hrun, reported_append, hone, List.append_assoc]
  rfl

/-- Every run of a pool with checked settings keeps the order of the queue: what was accepted is
what left the queue, in this order, and what waits. One payload is displaced at each call of an open
pool that finds as many payloads waiting as there may be, and none otherwise. Where the newest
payload is refused, it is the one handed in, and what was accepted waits, is being posted or was
posted; where the oldest one is evicted, every call of an open pool is answered with true, and the
evicted payload was accepted before all that are left in the queue. -/
theorem overflow_keeps_order {settings : PoolSettings} {q : Int}
    (hq : settings.maxQueueSize = .int q) (hvalid : settings.validate = .ok ())
    (h : run? settings.limits {} actions = some (s, history)) :
    (accepted settings.limits {} actions = reported [.taken, .evicted] history ++ s.queue ∧
      (reported [.taken] history).Sublist (accepted settings.limits {} actions) ∧
      s.queue <:+ accepted settings.limits {} actions) ∧
    (∀ action t new, s.act? settings.limits action = some (t, new) →
      (reported [.refusedFull, .evicted] new).length =
        if action.payload?.isSome = true ∧ s.closed = false ∧ (s.queue.length : Int) = q then 1
        else 0) ∧
    (settings.overflowPolicy = .text OverflowPolicy.dropNewest →
      reported [.evicted] history = [] ∧
      (accepted settings.limits {} actions).Perm
        (s.queue ++ (s.posting ++ reported [.delivered] history ++ reported [.lost] history)) ∧
      ∀ payload first t new, s.act? settings.limits (.dispatch payload first) = some (t, new) →
        ∀ refused ∈ reported [.refusedFull] new, refused = payload) ∧
    (settings.overflowPolicy = .text OverflowPolicy.dropOldest →
      ∀ payload first, s.closed = false →
        s.answer? settings.limits (.dispatch payload first) = some true ∧
        ∀ t new, s.act? settings.limits (.dispatch payload first) = some (t, new) →
          ∀ oldest ∈ reported [.evicted] new,
            accepted settings.limits {} (actions ++ [.dispatch payload first]) =
              reported [.taken, .evicted] history ++ oldest :: t.queue) := by
  have hq1 := PoolSettings.one_le_maxQueueSize hq hvalid
  have hbound := PoolSettings.limits_waiting hq
  have hle : s.queue.length ≤ q.toNat :=
    (reachable_iff_run?.2 ⟨actions, h⟩).invariant (P := fun s => s.queue.length ≤ q.toNat)
      (Nat.zero_le _) fun hs move => queue_le_of_move hbound (by omega) hs move
  have horder := accepted_eq h
  refine ⟨⟨horder, ?_, ?_⟩, ?_, ?_, ?_⟩
  · rw [horder]
    exact (reported_sublist [.taken] [.evicted] history).trans (List.sublist_append_left _ _)
  · rw [horder]
    exact List.suffix_append _ _
  · intro action t new hact
    rw [length_displaced_of_move hbound (by omega) hle (move_of_act? hact)]
    have hiff : s.queue.length = q.toNat ↔ (s.queue.length : Int) = q := by omega
    simp only [hiff]
  · intro hpolicy
    have policy := PoolSettings.limits_overflow_newest hpolicy
    refine ⟨evicted_eq_nil_of_run? policy h, accepted_perm policy h, ?_⟩
    intro payload first t new hact
    exact refused_eq_of_dispatch hact
  · intro hpolicy payload first isOpen
    have policy := PoolSettings.limits_overflow_oldest hpolicy
    refine ⟨answer_of_evictOldest policy isOpen payload first, ?_⟩
    intro t new hact oldest hmem
    exact accepted_of_evicted h hact hmem

/-- With one place to wait, the payload that waits is the one that came last. -/
theorem overflow_keeps_order_one_place : ∃ (s : Pool Nat) (history : List (Notice Nat)),
    run? PoolSettings.onePlace.limits {} [.dispatch 1 .asleep, .attempt .ready,
      .dispatch 2 .asleep, .dispatch 3 .asleep] = some (s, history) ∧
    reported [.taken, .evicted] history ++ s.queue = [1, 2, 3] ∧ s.queue = [3] ∧
    s.answer? PoolSettings.onePlace.limits (.dispatch 4 .asleep) = some true := by
  have hrun : run? PoolSettings.onePlace.limits {} [.dispatch (1 : Nat) .asleep, .attempt .ready,
      .dispatch 2 .asleep, .dispatch 3 .asleep] = some (_, _) := rfl
  obtain ⟨⟨horder, -, -⟩, -, -, hoverflow⟩ :=
    overflow_keeps_order (show PoolSettings.onePlace.maxQueueSize = .int 1 from rfl) rfl hrun
  have hanswer := (hoverflow rfl 4 .asleep rfl).1
  exact ⟨_, _, hrun, horder.symm, rfl, hanswer⟩

end Pool

end SessionTelemetry
