import SessionTelemetry.Dispatch.Settled
import SessionTelemetry.Proofs.Dispatch.Shutdown

/-!
# Pools that come to rest

Between two calls the workers of a pool move by themselves, in any order, until none of them can
(`Pool.Settles`). What the pool then holds and counts does not depend on that order, nor on whether
idle workers are reclaimed: `Pool.rested` computes it from what the pool held and counted before,
no move changes it (`rested_of_turn`), and at rest it is what the pool holds (`rested_of_still`).
-/

namespace SessionTelemetry

namespace Pool

variable {α σ : Type} {limits : PoolLimits} {reclaims : Bool}
  {ends? : Option (α → Except Fault Unit)} {ends : α → Except Fault Unit} {s t u : Pool α}
  {action : PoolAction α} {new later : List (Notice α)}

/-- What can happen without a call: a worker looks at the queue, or runs out of time where idle
workers are reclaimed, or a post ends as `ends?` says, if posts end at all. -/
inductive Unprompted (reclaims : Bool) (ends? : Option (α → Except Fault Unit)) (s : Pool α) :
    PoolAction α → Prop where
  | attempt (phase : Phase) : Unprompted reclaims ends? s (.attempt phase)
  | lapse (hreclaims : reclaims = true) : Unprompted reclaims ends? s .lapse
  | finish {ends : α → Except Fault Unit} {position : Nat} {payload : α}
      (hends : ends? = some ends) (posted : s.posting[position]? = some payload) :
      Unprompted reclaims ends? s (.finish position (ends payload))

inductive Stirs (limits : PoolLimits) (reclaims : Bool) (ends? : Option (α → Except Fault Unit)) :
    Pool α → Pool α → List (Notice α) → Prop where
  | refl (s : Pool α) : Stirs limits reclaims ends? s s []
  | step {s t u : Pool α} {action : PoolAction α} {new later : List (Notice α)}
      (self : Unprompted reclaims ends? s action) (hact : s.act? limits action = some (t, new))
      (rest : Stirs limits reclaims ends? t u later) :
      Stirs limits reclaims ends? s u (new ++ later)

/-- Nothing happens any more without a call. -/
def Still (limits : PoolLimits) (reclaims : Bool) (ends? : Option (α → Except Fault Unit))
    (s : Pool α) : Prop :=
  ∀ action, Unprompted reclaims ends? s action → s.act? limits action = none

structure Settles (limits : PoolLimits) (reclaims : Bool)
    (ends? : Option (α → Except Fault Unit)) (s t : Pool α) (new : List (Notice α)) : Prop where
  stirs : Stirs limits reclaims ends? s t new
  still : Still limits reclaims ends? t

section Moving

/-- Workers take payloads, and end posts as they are told to; nothing else happens to payloads
without a call. -/
inductive Turn (ends? : Option (α → Except Fault Unit)) (s t : Pool α) :
    List (Notice α) → Prop where
  | idle (same : t.books = s.books) : Turn ends? s t []
  | take (payload : α) (waiting : List α) (head : s.queue = payload :: waiting)
      (same : t.books =
        { s.books with queue := waiting, posting := s.posting ++ [payload] }) :
      Turn ends? s t [.taken payload]
  | deliver {ends : α → Except Fault Unit} (hends : ends? = some ends) (position : Nat)
      (payload : α) (posted : s.posting[position]? = some payload) (ended : ends payload = .ok ())
      (same : t.books =
        { s.books with posting := s.posting.eraseIdx position, sent := s.sent + 1 }) :
      Turn ends? s t [.delivered payload]
  | lose {ends : α → Except Fault Unit} (hends : ends? = some ends) (position : Nat)
      (payload : α) (fault : Fault) (posted : s.posting[position]? = some payload)
      (ended : ends payload = .error fault)
      (same : t.books =
        { s.books with posting := s.posting.eraseIdx position, failed := s.failed + 1 }) :
      Turn ends? s t [.lost payload fault]

theorem turn_of_act? (self : Unprompted reclaims ends? s action)
    (hact : s.act? limits action = some (t, new)) : Turn ends? s t new := by
  have move := move_of_act? hact
  cases self with
  | attempt phase =>
    cases move with
    | take phase rest payload waiting awake one head =>
      refine .take payload waiting head ?_
      rw [← books_of_without? one]
      rfl
    | leave phase rest awake one empty leaves => exact .idle (books_of_without? one)
    | fallAsleep phase rest awake one empty isOpen inTime waits =>
      have same := books_of_without? one
      exact .idle same
    | strand phase rest awake one empty isOpen inTime fails =>
      have same := books_of_without? one
      exact .idle same
  | lapse hreclaims =>
    cases move with
    | lapse rest one =>
      have same := books_of_without? one
      exact .idle same
  -- how the post ends is what its payload says, so the outcome of the move is not free
  | @finish ends position payload hends posted =>
    generalize hended : ends payload = outcome at move
    cases move with
    | deliver position other posted' =>
      obtain rfl := Option.some.inj (posted.symm.trans posted')
      exact .deliver hends position payload posted hended rfl
    | lose position other fault posted' =>
      obtain rfl := Option.some.inj (posted.symm.trans posted')
      exact .lose hends position payload fault posted hended rfl

theorem load_of_without? {phase : Phase} {rest : Pool α} (awake : phase ≠ .asleep)
    (one : s.without? phase = some rest) :
    rest.load + (if phase.isOverdue then 1 else 3) = s.load := by
  cases phase with
  | asleep => exact absurd rfl awake
  | ready | woken | lapsed | called =>
    simp only [without?, Option.ite_none_left_eq_some, Option.some.injEq] at one
    obtain ⟨hne, rfl⟩ := one
    simp only [load, Phase.isOverdue, if_true, Bool.false_eq_true, if_false]
    omega

/-- A worker that moves has less before it. -/
theorem load_of_act? (self : Unprompted reclaims ends? s action)
    (hact : s.act? limits action = some (t, new)) : t.load < s.load := by
  have move := move_of_act? hact
  cases self with
  | attempt phase =>
    cases move with
    | take phase rest payload waiting awake one head =>
      have hload := load_of_without? awake one
      have hposting := posting_of_without? one
      have hqueue := queue_of_without? one
      simp only [load, hposting, hqueue, head, List.length_cons, List.length_append,
        List.length_nil] at hload ⊢
      split at hload <;> omega
    | leave phase rest awake one empty leaves =>
      have hload := load_of_without? awake one
      split at hload <;> omega
    | fallAsleep phase rest awake one empty isOpen inTime waits
    | strand phase rest awake one empty isOpen inTime fails =>
      have hload := load_of_without? awake one
      rw [inTime] at hload
      simp only [load, Bool.false_eq_true, if_false] at hload ⊢
      omega
  | lapse hreclaims =>
    cases move with
    | lapse rest one =>
      simp only [without?, Option.ite_none_left_eq_some, Option.some.injEq] at one
      obtain ⟨hne, rfl⟩ := one
      simp only [load]
      omega
  | @finish ends position payload hends posted =>
    have hlength := (perm_cons_eraseIdx posted).length_eq
    rw [List.length_cons] at hlength
    generalize ends payload = outcome at move
    cases move <;> simp only [load] <;> omega

end Moving

section Staffing

/-- There are no more workers than there may be, and they attend to all that waits: none is stranded
while a payload waits. -/
structure Staffed (limits : PoolLimits) (s : Pool α) : Prop where
  attended : Attended limits s
  bounded : ∀ bound, limits.workers = some bound → s.workers ≤ bound
  present : s.queue ≠ [] → s.stranded = 0

theorem staffed_empty (limits : PoolLimits) : Staffed limits ({} : Pool α) where
  attended := attended_of_empty rfl
  bounded _ _ := Nat.zero_le _
  present _ := rfl

/-- A payload may only come in while no worker is stranded. -/
theorem Staffed.act? (h : Staffed limits s) (action : PoolAction α)
    (hpresent : s.stranded = 0 ∨ action.payload? = none)
    (hact : s.act? limits action = some (t, new)) : Staffed limits t where
  attended := attended_of_move h.attended (move_of_act? hact)
  bounded bound hbound := workers_le_of_move hbound (h.bounded bound hbound) (move_of_act? hact)
  present := by
    intro hwaits
    rcases stranded_of_move (move_of_act? hact) with hsame | ⟨-, -, hempty, -⟩
    · rw [hsame]
      rcases hpresent with hnone | hquiet
      · exact hnone
      · exact h.present (queue_ne_nil_of_move hquiet (move_of_act? hact) hwaits)
    · exact absurd hempty hwaits

theorem Unprompted.payload?_eq_none (self : Unprompted reclaims ends? s action) :
    action.payload? = none := by
  cases self <;> rfl

theorem Stirs.staffed (h : Stirs limits reclaims ends? s t new) (hs : Staffed limits s) :
    Staffed limits t := by
  induction h with
  | refl s => exact hs
  | step self hact rest ih => exact ih (hs.act? _ (.inr self.payload?_eq_none) hact)

structure Complete (limits : PoolLimits) (s : Pool α) : Prop extends Staffed limits s where
  nobodyStranded : s.stranded = 0

theorem complete_empty (limits : PoolLimits) : Complete limits ({} : Pool α) where
  toStaffed := staffed_empty limits
  nobodyStranded := rfl

/-- Where workers can wait, none is ever lost. -/
theorem Complete.act? (h : Complete limits s) (hwaits : limits.canWait = true)
    (action : PoolAction α) (hact : s.act? limits action = some (t, new)) : Complete limits t where
  toStaffed := h.toStaffed.act? action (.inl h.nobodyStranded) hact
  nobodyStranded := stranded_eq_zero_of_move hwaits h.nobodyStranded (move_of_act? hact)

theorem Stirs.complete (h : Stirs limits reclaims ends? s t new) (hwaits : limits.canWait = true)
    (hs : Complete limits s) : Complete limits t := by
  induction h with
  | refl s => exact hs
  | step self hact rest ih => exact ih (hs.act? hwaits _ hact)

/-- At rest no worker is left but those that sleep and those that post. -/
theorem atRest_of_still (h : Still limits reclaims ends? s) : s.AtRest := by
  have hnone : ∀ phase, phase ≠ .asleep → s.without? phase = none := by
    intro phase awake
    have hact : s.attempt? limits phase = none := h _ (.attempt phase)
    rw [attempt?, if_neg awake, Option.map_eq_none_iff] at hact
    exact hact
  have hready := hnone .ready (by decide)
  have hwoken := hnone .woken (by decide)
  have hlapsed := hnone .lapsed (by decide)
  have hcalled := hnone .called (by decide)
  simp only [without?, ite_eq_left_iff, reduceCtorEq, imp_false, not_not]
    at hready hwoken hlapsed hcalled
  simp only [AtRest, staff, coming, listening]
  omega

/-- At rest nothing is being posted where posts end. -/
theorem posting_of_still (h : Still limits reclaims (some ends) s) : s.posting = [] := by
  cases hposting : s.posting with
  | nil => rfl
  | cons payload others =>
    have posted : s.posting[0]? = some payload := by rw [hposting]; rfl
    have hact : s.finish? 0 (ends payload) = none := h _ (.finish rfl posted)
    rw [finish?, posted] at hact
    exact absurd hact (by simp)

def places (limits : PoolLimits) (line : List α) : Nat := limits.workers.getD line.length

/-- At rest payloads wait only while as many are being posted as there may be. -/
theorem posting_of_still_of_staffed (h : Staffed limits s)
    (hstill : Still limits reclaims ends? s) :
    s.posting = (s.posting ++ s.queue).take (places limits (s.posting ++ s.queue)) ∧
      s.queue = (s.posting ++ s.queue).drop (places limits (s.posting ++ s.queue)) := by
  have hrest := atRest_of_still hstill
  have hsplit := workers_eq s
  cases hbound : limits.workers with
  | none =>
    -- a further worker may always be started, so that a worker is coming for all that waits
    have hmay : limits.mayStart s.workers = true := by rw [PoolLimits.mayStart, hbound]
    have hle := h.attended (.inr hmay)
    have hnone : s.queue = [] := by
      by_contra hwaits
      have hlength : 0 < s.queue.length := List.length_pos_iff.2 hwaits
      rw [hrest.coming_eq_zero, h.present hwaits] at hle
      omega
    simp [places, hbound, hnone]
  | some bound =>
    have hworkers := h.bounded bound hbound
    have hposting : s.posting.length ≤ bound := by
      simp only [staff] at hsplit
      omega
    simp only [places, hbound, Option.getD_some]
    by_cases hqueue : s.queue = []
    · rw [hqueue, List.append_nil, List.take_of_length_le hposting,
        List.drop_of_length_le hposting]
      exact ⟨rfl, rfl⟩
    · have hpresent := h.present hqueue
      have hwaits : s.stranded < s.queue.length := hpresent ▸ List.length_pos_iff.2 hqueue
      obtain ⟨hall, hfull⟩ := posting_of_atRest hbound hworkers h.attended hrest hwaits
      have hlength : s.posting.length = bound := by omega
      exact ⟨(List.take_left' hlength).symm, (List.drop_left' hlength).symm⟩

end Staffing

section Resting

/-- What a pool holds and counts once it has come to rest: as many payloads as there may be workers
are being posted and the others wait, or, where posts end, all have been posted. -/
def rested (limits : PoolLimits) (ends? : Option (α → Except Fault Unit)) (s : Pool α) : Pool α :=
  let line := s.posting ++ s.queue
  match ends? with
  | none =>
    { s.books with
      posting := line.take (places limits line), queue := line.drop (places limits line) }
  | some ends =>
    { s.books with
      posting := [], queue := []
      sent := s.sent + line.countP fun payload => (ends payload).isOk
      failed := s.failed + line.countP fun payload => !(ends payload).isOk }

theorem rested_congr (h : s.books = t.books) :
    rested limits ends? s = rested limits ends? t := by
  have hposting : s.posting = t.posting := (congrArg Pool.posting h :)
  have hqueue : s.queue = t.queue := (congrArg Pool.queue h :)
  have hsent : s.sent = t.sent := (congrArg Pool.sent h :)
  have hfailed : s.failed = t.failed := (congrArg Pool.failed h :)
  cases ends? <;> simp only [rested, h, hposting, hqueue, hsent, hfailed]

theorem rested_of_turn (h : Turn ends? s t new) :
    rested limits ends? t = rested limits ends? s := by
  cases h with
  | idle same => exact rested_congr same
  | take payload waiting head same =>
    rw [rested_congr (t := { s with queue := waiting, posting := s.posting ++ [payload] }) same]
    cases ends? <;> simp [rested, head, books]
  | deliver hends position payload posted ended same =>
    subst hends
    rw [rested_congr (t := { s with
      posting := s.posting.eraseIdx position, sent := s.sent + 1 }) same]
    have hperm := perm_cons_eraseIdx posted
    simp [rested, books, hperm.countP_eq, ended, Except.isOk, Except.toBool]
    omega
  | lose hends position payload fault posted ended same =>
    subst hends
    rw [rested_congr (t := { s with
      posting := s.posting.eraseIdx position, failed := s.failed + 1 }) same]
    have hperm := perm_cons_eraseIdx posted
    simp [rested, books, hperm.countP_eq, ended, Except.isOk, Except.toBool]
    omega

/-- At rest nothing waits where posts end. -/
theorem queue_of_still (h : Staffed limits s) (hmay : limits.mayStart 0 = true)
    (hstill : Still limits reclaims (some ends) s) : s.queue = [] := by
  by_contra hwaits
  have hposting := posting_of_still hstill
  have hcoming := (atRest_of_still hstill).coming_eq_zero
  have hpresent := h.present hwaits
  have hsplit := workers_eq s
  have hpos := workers_pos_of_attended h.attended hmay hwaits
  have hlength : 0 < s.queue.length := List.length_pos_iff.2 hwaits
  have hlisten : 0 < s.listening := by
    simp only [staff, hposting, List.length_nil] at hsplit
    omega
  have hle := h.attended (.inl hlisten)
  omega

/-- At rest a pool holds and counts what it was going to. -/
theorem rested_of_still (h : Staffed limits s) (hmay : limits.mayStart 0 = true)
    (hstill : Still limits reclaims ends? s) : rested limits ends? s = s.books := by
  cases ends? with
  | none =>
    obtain ⟨hposting, hqueue⟩ := posting_of_still_of_staffed h hstill
    simp only [rested, ← hposting, ← hqueue]
    rfl
  | some ends =>
    have hposting := posting_of_still hstill
    have hqueue := queue_of_still h hmay hstill
    simp [rested, hposting, hqueue, books]

theorem Stirs.rested_eq (h : Stirs limits reclaims ends? s t new) :
    rested limits ends? t = rested limits ends? s := by
  induction h with
  | refl s => rfl
  | step self hact rest ih => rw [ih, rested_of_turn (turn_of_act? self hact)]

/-- Where a pool comes to rest does not depend on the order in which its workers move. -/
theorem Settles.books_eq (h : Settles limits reclaims ends? s t new) (hs : Staffed limits s)
    (hmay : limits.mayStart 0 = true) : t.books = rested limits ends? s := by
  rw [← rested_of_still (h.stirs.staffed hs) hmay h.still, h.stirs.rested_eq]

end Resting

section Telling

def ended (ends : α → Except Fault Unit) (payload : α) : Notice α :=
  match ends payload with
  | .ok () => .delivered payload
  | .error fault => .lost payload fault

def untold (ends : α → Except Fault Unit) (s : Pool α) : List (Notice α) :=
  s.queue.map .taken ++ (s.posting ++ s.queue).map (ended ends)

theorem untold_of_posted (ends : α → Except Fault Unit) {position : Nat} {payload : α}
    (posted : s.posting[position]? = some payload)
    (hposting : t.posting = s.posting.eraseIdx position) (hqueue : t.queue = s.queue) :
    (ended ends payload :: untold ends t).Perm (untold ends s) := by
  have hline := ((perm_cons_eraseIdx posted).append_right s.queue).map (ended ends)
  rw [untold, untold, hposting, hqueue]
  exact List.perm_middle.symm.trans (hline.symm.append_left _)

theorem untold_of_turn (h : Turn (some ends) s t new) :
    (new ++ untold ends t).Perm (untold ends s) := by
  cases h with
  | idle same =>
    have hposting : t.posting = s.posting := (congrArg Pool.posting same :)
    have hqueue : t.queue = s.queue := (congrArg Pool.queue same :)
    rw [untold, untold, hposting, hqueue]
    rfl
  | take payload waiting head same =>
    have hposting : t.posting = s.posting ++ [payload] := (congrArg Pool.posting same :)
    have hqueue : t.queue = waiting := (congrArg Pool.queue same :)
    rw [untold, untold, hposting, hqueue, head, List.append_assoc]
    rfl
  | deliver hends position payload posted hended same =>
    obtain rfl := Option.some.inj hends
    have htold := untold_of_posted ends posted (congrArg Pool.posting same :)
      (congrArg Pool.queue same :)
    rwa [ended, hended] at htold
  | lose hends position payload fault posted hended same =>
    obtain rfl := Option.some.inj hends
    have htold := untold_of_posted ends posted (congrArg Pool.posting same :)
      (congrArg Pool.queue same :)
    rwa [ended, hended] at htold

theorem Stirs.untold_perm (h : Stirs limits reclaims (some ends) s t new) :
    (new ++ untold ends t).Perm (untold ends s) := by
  induction h with
  | refl s => exact List.Perm.refl _
  | step self hact rest ih =>
    rw [List.append_assoc]
    exact (ih.append_left _).trans (untold_of_turn (turn_of_act? self hact))

/-- While no post ends, nothing is told but which payloads are taken, and these join those that
are being posted. -/
theorem Stirs.posting_eq (h : Stirs limits reclaims none s t new) :
    new = (reported [.taken] new).map .taken ∧ t.posting = s.posting ++ reported [.taken] new := by
  induction h with
  | refl s => simp
  | @step s t u action new later self hact rest ih =>
    obtain ⟨hlater, hposting⟩ := ih
    cases turn_of_act? self hact with
    | idle same =>
      have hsame : t.posting = s.posting := (congrArg Pool.posting same :)
      rw [List.nil_append, ← hsame]
      exact ⟨hlater, hposting⟩
    | take payload waiting head same =>
      have hsame : t.posting = s.posting ++ [payload] := (congrArg Pool.posting same :)
      have htaken : reported [.taken] ([Notice.taken payload] ++ later) =
          payload :: reported [.taken] later := by
        simp [Notice.kind, Notice.payload]
      rw [htaken, hposting, hsame, List.map_cons, ← hlater, List.append_assoc]
      exact ⟨rfl, rfl⟩
    | deliver hends => cases hends
    | lose hends => cases hends

/-- Payloads are taken in the order in which they wait. -/
theorem Stirs.taken_append (h : Stirs limits reclaims ends? s t new) :
    reported [.taken] new ++ t.queue = s.queue := by
  induction h with
  | refl s => rfl
  | @step s t u action new later self hact rest ih =>
    rw [reported_append, List.append_assoc, ih]
    cases turn_of_act? self hact with
    | idle same => exact (congrArg Pool.queue same :)
    | take payload waiting head same =>
      rw [head, show t.queue = waiting from (congrArg Pool.queue same :)]
      rfl
    | deliver hends position payload posted hended same => exact (congrArg Pool.queue same :)
    | lose hends position payload fault posted hended same => exact (congrArg Pool.queue same :)

/-- Without workers nothing happens. -/
theorem still_of_workers (hnone : s.workers = 0) : Still limits reclaims ends? s := by
  have hposting : s.posting.length = 0 := by
    simp only [workers] at hnone
    omega
  have hwithout : ∀ phase, s.without? phase = none := by
    intro phase
    cases hone : s.without? phase with
    | none => rfl
    | some rest =>
      have hworkers := workers_of_without? hone
      omega
  intro action self
  cases self with
  | attempt phase =>
    change s.attempt? limits phase = none
    rw [attempt?, hwithout, Option.map_none, ite_self]
  | lapse hreclaims =>
    change s.lapse?.map _ = none
    rw [lapse?, hwithout, Option.map_none, Option.map_none]
  | finish hends posted =>
    rw [List.eq_nil_of_length_eq_zero hposting] at posted
    cases posted

theorem Stirs.eq_of_still (h : Stirs limits reclaims ends? s t new)
    (hstill : Still limits reclaims ends? s) : t = s ∧ new = [] := by
  cases h with
  | refl s => exact ⟨rfl, rfl⟩
  | step self hact rest =>
    rw [hstill _ self] at hact
    cases hact

/-- Where no worker may be started, there is none. -/
theorem Staffed.workers_eq_zero (h : Staffed limits s) (hmay : limits.mayStart 0 = false) :
    s.workers = 0 := by
  cases hbound : limits.workers with
  | none => simp [PoolLimits.mayStart, hbound] at hmay
  | some bound =>
    have hworkers := h.bounded bound hbound
    simp only [PoolLimits.mayStart, hbound, decide_eq_false_iff_not] at hmay
    omega

variable {reclaims' : Bool} {s' t' : Pool α} {new' : List (Notice α)}

/-- Two pools that hold and count the same, the workers that post nothing apart, come to rest alike:
they hold and count the same again, the same payloads were taken in the same order, and the same was
told of payloads. -/
theorem Settles.alike (h : Settles limits reclaims ends? s t new)
    (h' : Settles limits reclaims' ends? s' t' new') (hs : Staffed limits s)
    (hs' : Staffed limits s') (same : s.books = s'.books) :
    t.books = t'.books ∧ new.Perm new' ∧ reported [.taken] new = reported [.taken] new' := by
  by_cases hmay : limits.mayStart 0 = true
  · have hbooks : t.books = t'.books := by
      rw [h.books_eq hs hmay, h'.books_eq hs' hmay, rested_congr same]
    have hqueue : s.queue = s'.queue := (congrArg Pool.queue same :)
    have hposting : s.posting = s'.posting := (congrArg Pool.posting same :)
    have htaken : reported [.taken] new = reported [.taken] new' := by
      have hline := h.stirs.taken_append
      have htaken : t.queue = t'.queue := (congrArg Pool.queue hbooks :)
      rw [hqueue, ← h'.stirs.taken_append, htaken]
        at hline
      exact List.append_cancel_right hline
    refine ⟨hbooks, ?_, htaken⟩
    cases ends? with
    | none => rw [h.stirs.posting_eq.1, h'.stirs.posting_eq.1, htaken]
    | some ends =>
      have htold := h.stirs.untold_perm
      have htold' := h'.stirs.untold_perm
      have hend : untold ends t = [] := by
        simp [untold, posting_of_still h.still, queue_of_still (h.stirs.staffed hs) hmay h.still]
      have hend' : untold ends t' = [] := by
        simp [untold, posting_of_still h'.still,
          queue_of_still (h'.stirs.staffed hs') hmay h'.still]
      have hstart : untold ends s = untold ends s' := by rw [untold, untold, hqueue, hposting]
      rw [hend, List.append_nil] at htold
      rw [hend', List.append_nil] at htold'
      exact htold.trans (hstart ▸ htold'.symm)
  · have hnone : limits.mayStart 0 = false := by simpa using hmay
    obtain ⟨rfl, rfl⟩ := h.stirs.eq_of_still (still_of_workers (hs.workers_eq_zero hnone))
    obtain ⟨rfl, rfl⟩ := h'.stirs.eq_of_still (still_of_workers (hs'.workers_eq_zero hnone))
    exact ⟨same, List.Perm.refl _, rfl⟩

end Telling

end Pool

end SessionTelemetry
