import SessionTelemetry.Dispatch.Gated
import SessionTelemetry.Proofs.Dispatch.Rest

/-!
# Idle workers do not show

After each step of a gated dispatcher its workers come to rest in one of the orders there are
(`GatedDispatcher.Runs`); `GatedDispatcher.run` takes one of them. Two dispatchers that differ only
in how long they keep idle workers hold the same books after every step, so that their steps tell
the same, the number of workers apart (`reclamation_invisible`).
-/

namespace SessionTelemetry

namespace Pool

variable {α σ : Type} {limits : PoolLimits} {reclaims : Bool}
  {ends? : Option (α → Except Fault Unit)} {ends : α → Except Fault Unit} {s s' : Pool α}
  {action : PoolAction α}

theorem nextAction?_eq_none_iff : s.nextAction? reclaims = none ↔
    s.ready = 0 ∧ s.woken = 0 ∧ s.lapsed = 0 ∧ s.called = 0 ∧ (reclaims = true → s.asleep = 0) := by
  unfold nextAction?
  split_ifs <;> simp_all

theorem still_of_nextAction? (hnext : s.nextAction? reclaims = none)
    (hposting : ends?.isSome → s.posting = []) : Still limits reclaims ends? s := by
  obtain ⟨hready, hwoken, hlapsed, hcalled, hasleep⟩ := nextAction?_eq_none_iff.1 hnext
  intro action self
  cases self with
  | attempt phase =>
    change s.attempt? limits phase = none
    cases phase <;> simp [attempt?, without?, hready, hwoken, hlapsed, hcalled]
  | lapse hreclaims =>
    change s.lapse?.map _ = none
    simp [lapse?, without?, hasleep hreclaims]
  | finish hends posted =>
    rw [hposting (by rw [hends]; rfl)] at posted
    cases posted

/-- What workers do next they can do. -/
theorem exists_of_nextAction? (limits : PoolLimits) (ends? : Option (α → Except Fault Unit))
    (hnext : s.nextAction? reclaims = some action) :
    Unprompted reclaims ends? s action ∧ ∃ t new, s.act? limits action = some (t, new) := by
  unfold nextAction? at hnext
  split_ifs at hnext with hready hwoken hlapsed hcalled hasleep <;> cases hnext
  · exact ⟨.attempt _, _, _, by simp only [act?, attempt?, without?, if_neg hready]; rfl⟩
  · exact ⟨.attempt _, _, _, by simp only [act?, attempt?, without?, if_neg hwoken]; rfl⟩
  · exact ⟨.attempt _, _, _, by simp only [act?, attempt?, without?, if_neg hlapsed]; rfl⟩
  · exact ⟨.attempt _, _, _, by simp only [act?, attempt?, without?, if_neg hcalled]; rfl⟩
  · exact ⟨.lapse hasleep.1, _, _, by simp only [act?, lapse?, without?, if_neg hasleep.2]; rfl⟩

theorem nextAction?_of_load (reclaims : Bool) (h : s.load = 0) :
    s.nextAction? reclaims = none := by
  simp only [load] at h
  rw [nextAction?_eq_none_iff]
  omega

/-- Letting the first worker that can move do so is one of the orders. -/
theorem settles_settleWithin (limits : PoolLimits) (reclaims : Bool) {n : Nat} (hn : s.load ≤ n) :
    Settles limits reclaims none s (s.settleWithin limits reclaims n).1
      (s.settleWithin limits reclaims n).2 := by
  induction n generalizing s with
  | zero =>
    have hnext := nextAction?_of_load reclaims (Nat.eq_zero_of_le_zero hn)
    exact ⟨.refl s, still_of_nextAction? hnext fun hends => nomatch hends⟩
  | succ n ih =>
    cases hnext : s.nextAction? reclaims with
    | none =>
      simp only [settleWithin, hnext, Option.bind_none]
      exact ⟨.refl s, still_of_nextAction? hnext fun hends => nomatch hends⟩
    | some action =>
      obtain ⟨self, t, new, hact⟩ := exists_of_nextAction? limits none hnext
      have hless := load_of_act? self hact
      have hrest := ih (s := t) (by omega)
      simp only [settleWithin, hnext, Option.bind_some, hact]
      exact ⟨.step self hact hrest.stirs, hrest.still⟩

/-- Ending the first post when no worker can move is one of the orders in which posts end. -/
theorem settles_flushWithin (limits : PoolLimits) (reclaims : Bool) {post : Transport σ α}
    (hpost : ∀ link payload, (post link payload).1 = ends payload) {n : Nat} (hn : s.load ≤ n)
    (link : σ) :
    Settles limits reclaims (some ends) s (s.flushWithin limits reclaims post n link).2.1
      (s.flushWithin limits reclaims post n link).2.2 := by
  induction n generalizing s link with
  | zero =>
    have hnext := nextAction?_of_load reclaims (Nat.eq_zero_of_le_zero hn)
    refine ⟨.refl s, still_of_nextAction? hnext fun _ => List.eq_nil_of_length_eq_zero ?_⟩
    simp only [load] at hn
    change s.posting.length = 0
    omega
  | succ n ih =>
    cases hnext : s.nextAction? reclaims with
    | some action =>
      obtain ⟨self, t, new, hact⟩ := exists_of_nextAction? limits (some ends) hnext
      have hless := load_of_act? self hact
      have hrest := ih (s := t) (by omega) link
      simp only [flushWithin, flushStep?, hnext, hact, Option.map_some]
      exact ⟨.step self hact hrest.stirs, hrest.still⟩
    | none =>
      cases hposting : s.posting with
      | nil =>
        simp only [flushWithin, flushStep?, hnext, hposting]
        exact ⟨.refl s, still_of_nextAction? hnext fun _ => hposting⟩
      | cons payload others =>
        have posted : s.posting[0]? = some payload := by rw [hposting]; rfl
        have self : Unprompted reclaims (some ends) s (.finish 0 (ends payload)) :=
          .finish rfl posted
        obtain ⟨t, new, hact⟩ :
            ∃ t new, s.act? limits (.finish 0 (ends payload)) = some (t, new) := by
          rw [act?, finish?, posted, Option.map_some]
          exact ⟨_, _, rfl⟩
        have hless := load_of_act? self hact
        have hrest := ih (s := t) (by omega) (post link payload).2
        simp only [flushWithin, flushStep?, hnext, hposting, hpost, Option.map_some,
          show s.finish? 0 (ends payload) = some (t, new) from hact]
        exact ⟨.step self hact hrest.stirs, hrest.still⟩

theorem dispatch_of_refuseNewest (first : Phase) (payload : α) (isOpen : s.closed = false)
    (full : limits.isFull s.queue.length = true) (policy : limits.overflow = .refuseNewest) :
    s.dispatch limits first payload =
      (false, { s with submitted := s.submitted + 1, dropped := s.dropped + 1 },
        [.refusedFull payload]) := by
  simp [dispatch, isOpen, full, policy]

theorem dispatch_of_evictOldest (first : Phase) (payload : α) (isOpen : s.closed = false)
    (full : limits.isFull s.queue.length = true) (policy : limits.overflow = .evictOldest) :
    s.dispatch limits first payload =
      (true,
        enqueue limits first payload
          { s with
            queue := s.queue.tail, submitted := s.submitted + 1, dropped := s.dropped + 1 },
        s.queue.head?.toList.map .evicted ++ [.admitted payload]) := by
  simp [dispatch, isOpen, full, policy]

theorem dispatch_of_hasRoom (first : Phase) (payload : α) (isOpen : s.closed = false)
    (hasRoom : limits.isFull s.queue.length = false) :
    s.dispatch limits first payload =
      (true, enqueue limits first payload { s with submitted := s.submitted + 1 },
        [.admitted payload]) := by
  simp [dispatch, isOpen, hasRoom]

/-- How a payload is taken in depends on what a pool holds and counts. -/
theorem dispatch_congr (same : s.books = s'.books) (limits : PoolLimits) (first : Phase)
    (payload : α) :
    (s.dispatch limits first payload).1 = (s'.dispatch limits first payload).1 ∧
      (s.dispatch limits first payload).2.1.books = (s'.dispatch limits first payload).2.1.books ∧
      (s.dispatch limits first payload).2.2 = (s'.dispatch limits first payload).2.2 := by
  have hclosed : s.closed = s'.closed := (congrArg Pool.closed same :)
  have hqueue : s.queue = s'.queue := (congrArg Pool.queue same :)
  cases closed : s'.closed with
  | true =>
    rw [dispatch_of_closed (hclosed.trans closed), dispatch_of_closed closed]
    exact ⟨rfl, congrArg (fun b : Pool α => { b with dropped := b.dropped + 1 }) same, rfl⟩
  | false =>
    have isOpen := hclosed.trans closed
    cases full : limits.isFull s'.queue.length with
    | false =>
      have hasRoom : limits.isFull s.queue.length = false := hqueue ▸ full
      rw [dispatch_of_hasRoom first payload isOpen hasRoom,
        dispatch_of_hasRoom first payload closed full]
      refine ⟨rfl, ?_, rfl⟩
      rw [books_enqueue, books_enqueue]
      exact congrArg (fun b : Pool α =>
        { b with queue := b.queue ++ [payload], submitted := b.submitted + 1 }) same
    | true =>
      have full' : limits.isFull s.queue.length = true := hqueue ▸ full
      cases policy : limits.overflow with
      | refuseNewest =>
        rw [dispatch_of_refuseNewest first payload isOpen full' policy,
          dispatch_of_refuseNewest first payload closed full policy]
        exact ⟨rfl, congrArg (fun b : Pool α =>
          { b with submitted := b.submitted + 1, dropped := b.dropped + 1 }) same, rfl⟩
      | evictOldest =>
        rw [dispatch_of_evictOldest first payload isOpen full' policy,
          dispatch_of_evictOldest first payload closed full policy]
        refine ⟨rfl, ?_, by rw [hqueue]⟩
        rw [books_enqueue, books_enqueue]
        exact congrArg (fun b : Pool α =>
          { b with
            queue := b.queue.tail ++ [payload], submitted := b.submitted + 1
            dropped := b.dropped + 1 }) same

/-- How a post ends depends on what a pool holds and counts. -/
theorem finish?_congr (same : s.books = s'.books) (position : Nat) (outcome : Except Fault Unit) :
    (s.finish? position outcome = none ∧ s'.finish? position outcome = none) ∨
      ∃ t t' new, s.finish? position outcome = some (t, new) ∧
        s'.finish? position outcome = some (t', new) ∧ t.books = t'.books := by
  have hposting : s.posting = s'.posting := (congrArg Pool.posting same :)
  cases posted : s'.posting[position]? with
  | none =>
    left
    rw [finish?, finish?, hposting, posted]
    exact ⟨rfl, rfl⟩
  | some payload =>
    right
    have posted' : s.posting[position]? = some payload := hposting ▸ posted
    rw [finish?, finish?, posted, posted', Option.map_some, Option.map_some]
    cases outcome with
    | ok done =>
      refine ⟨_, _, _, rfl, rfl, ?_⟩
      exact congrArg (fun b : Pool α =>
        { b with posting := b.posting.eraseIdx position, sent := b.sent + 1 }) same
    | error fault =>
      refine ⟨_, _, _, rfl, rfl, ?_⟩
      exact congrArg (fun b : Pool α =>
        { b with posting := b.posting.eraseIdx position, failed := b.failed + 1 }) same

end Pool

/-- Two reports tell the same, the number of workers apart: the answer, which payloads were taken to
be posted, in their order, and what became of payloads, the records, and what the dispatcher is left
with. -/
structure GateReport.Alike (r r' : GateReport) : Prop where
  answer : r.answer = r'.answer
  taken : reported [.taken] r.notices = reported [.taken] r'.notices
  notices : r.notices.Perm r'.notices
  records : r.records.Perm r'.records
  posting : r.state.dispatcher.pool.posting = r'.state.dispatcher.pool.posting
  queue : r.state.dispatcher.pool.queue = r'.state.dispatcher.pool.queue
  stats : { r.state.dispatcher.pool.stats with workers := 0 } =
    { r'.state.dispatcher.pool.stats with workers := 0 }

theorem Dispatcher.records_congr {d d' : Dispatcher} {timeout : Value} (hname : d.name = d'.name)
    (hsettings : d.settings = { d'.settings with idleTimeout := timeout })
    (history : List (Notice String)) : d.records history = d'.records history := by
  have hnotice : d.noticeRecords = d'.noticeRecords := by
    funext notice
    cases notice <;> simp only [noticeRecords, overflowRecord, hname, hsettings]
  rw [records, records, hnotice]

namespace GatedDispatcher

variable {outcome : String → Except Fault Unit} {g g' : GatedDispatcher} {step : GateStep}
  {steps : List GateStep} {r r' : GateReport} {reports reports' : List GateReport}

def ends? (outcome : String → Except Fault Unit) (g : GatedDispatcher) :
    Option (String → Except Fault Unit) :=
  if g.isOpen then some outcome else none

/-- A step, after which the workers have come to rest in some order. -/
inductive Goes (outcome : String → Except Fault Unit) (g : GatedDispatcher) (step : GateStep) :
    GateReport → Prop where
  | rest {t : Pool String} {later : List (Notice String)}
      (settles : Pool.Settles (g.act step).state.dispatcher.settings.limits
        (g.act step).state.dispatcher.settings.reclaims ((g.act step).state.ends? outcome)
        (g.act step).state.dispatcher.pool t later) :
      Goes outcome g step
        { answer := (g.act step).answer
          state := { (g.act step).state with
            dispatcher := { (g.act step).state.dispatcher with pool := t } }
          records := (g.act step).records ++ g.dispatcher.records ((g.act step).notices ++ later)
          notices := (g.act step).notices ++ later }

inductive Runs (outcome : String → Except Fault Unit) :
    GatedDispatcher → List GateStep → List GateReport → Prop where
  | nil (g : GatedDispatcher) : Runs outcome g [] []
  | cons {g : GatedDispatcher} {step : GateStep} {r : GateReport} {steps : List GateStep}
      {reports : List GateReport} (goes : Goes outcome g step r)
      (rest : Runs outcome r.state steps reports) :
      Runs outcome g (step :: steps) (r :: reports)

theorem exists_settles_rest (outcome : String → Except Fault Unit) (g : GatedDispatcher) :
    ∃ t later,
      g.rest outcome = ({ g with dispatcher := { g.dispatcher with pool := t } }, later) ∧
        Pool.Settles g.dispatcher.settings.limits g.dispatcher.settings.reclaims
          (g.ends? outcome) g.dispatcher.pool t later := by
  by_cases hopen : g.isOpen = true
  · rw [GatedDispatcher.rest, ends?, if_pos hopen, if_pos hopen]
    let post : Pool.Transport Unit String := fun () payload => (outcome payload, ())
    have hpost : ∀ link payload, (post link payload).1 = outcome payload := fun _ _ => rfl
    exact ⟨_, _, rfl, Pool.settles_flushWithin _ _ hpost (le_refl g.dispatcher.pool.load) ()⟩
  · rw [GatedDispatcher.rest, ends?, if_neg hopen, if_neg hopen]
    exact ⟨_, _, rfl, Pool.settles_settleWithin _ _ (le_refl g.dispatcher.pool.load)⟩

theorem goes_step (outcome : String → Except Fault Unit) (g : GatedDispatcher) (step : GateStep) :
    Goes outcome g step (g.step outcome step) := by
  obtain ⟨t, later, hrest, settles⟩ := exists_settles_rest outcome (g.act step).state
  simp only [GatedDispatcher.step, hrest]
  exact .rest settles

theorem runs_run (outcome : String → Except Fault Unit) (g : GatedDispatcher)
    (steps : List GateStep) : Runs outcome g steps (g.run outcome steps) := by
  induction steps generalizing g with
  | nil => exact .nil g
  | cons step rest ih => exact .cons (goes_step outcome g step) (ih _)

/-- Two gated dispatchers that differ in their idle times and in their workers only. -/
structure Twins (g g' : GatedDispatcher) : Prop where
  name : g.dispatcher.name = g'.dispatcher.name
  settings : ∃ timeout,
    g.dispatcher.settings = { g'.dispatcher.settings with idleTimeout := timeout }
  canWait : g.dispatcher.settings.canWait = true
  canWait' : g'.dispatcher.settings.canWait = true
  isOpen : g.isOpen = g'.isOpen
  books : g.dispatcher.pool.books = g'.dispatcher.pool.books
  complete : Pool.Complete g.dispatcher.settings.limits g.dispatcher.pool
  complete' : Pool.Complete g'.dispatcher.settings.limits g'.dispatcher.pool

namespace Twins

variable (h : Twins g g')

include h

theorem limits : g.dispatcher.settings.limits = g'.dispatcher.settings.limits := by
  obtain ⟨timeout, hsettings⟩ := h.settings
  have hwait := h.canWait.trans h.canWait'.symm
  rw [hsettings] at hwait ⊢
  unfold PoolSettings.limits
  rw [hwait]

theorem records (history : List (Notice String)) :
    g.dispatcher.records history = g'.dispatcher.records history := by
  obtain ⟨timeout, hsettings⟩ := h.settings
  exact Dispatcher.records_congr h.name hsettings history

/-- The same with other pools that hold and count the same. -/
theorem withPools {s s' : Pool String} (hbooks : s.books = s'.books)
    (hs : Pool.Complete g.dispatcher.settings.limits s)
    (hs' : Pool.Complete g'.dispatcher.settings.limits s') :
    Twins { g with dispatcher := { g.dispatcher with pool := s } }
      { g' with dispatcher := { g'.dispatcher with pool := s' } } :=
  ⟨h.name, h.settings, h.canWait, h.canWait', h.isOpen, hbooks, hs, hs'⟩

theorem act (step : GateStep) :
    (g.act step).answer = (g'.act step).answer ∧ (g.act step).records = (g'.act step).records ∧
      (g.act step).notices = (g'.act step).notices ∧
      Twins (g.act step).state (g'.act step).state := by
  cases step with
  | dispatch payload =>
    obtain ⟨haccepted, hbooks, hnotices⟩ :=
      Pool.dispatch_congr h.books g'.dispatcher.settings.limits .asleep payload
    have hs := h.complete.act? h.canWait (.dispatch payload .asleep) rfl
    have hs' := h.complete'.act? h.canWait' (.dispatch payload .asleep) rfl
    simp only [GatedDispatcher.act, Dispatcher.dispatch, h.limits, haccepted, hnotices]
    refine ⟨trivial, h.records _, trivial, h.withPools hbooks ?_ hs'⟩
    rw [← h.limits]
    exact hs
  | release outcome =>
    have hposting : g.dispatcher.pool.posting = g'.dispatcher.pool.posting :=
      (congrArg Pool.posting h.books :)
    rcases Pool.finish?_congr h.books 0 outcome with ⟨hnone, hnone'⟩ | ⟨t, t', new, ht, ht', hbooks⟩
    · simp only [GatedDispatcher.act, Dispatcher.release?, hnone, hnone', Option.map_none]
      exact ⟨trivial, trivial, trivial, h⟩
    · have hs := h.complete.act? h.canWait (.finish 0 outcome) ht
      have hs' := h.complete'.act? h.canWait' (.finish 0 outcome) ht'
      simp only [GatedDispatcher.act, Dispatcher.release?, ht, ht', Option.map_some, hposting]
      exact ⟨trivial, trivial, trivial, h.withPools hbooks hs hs'⟩
  | openGate =>
    exact ⟨rfl, rfl, rfl, h.name, h.settings, h.canWait, h.canWait', rfl, h.books, h.complete,
      h.complete'⟩
  | drain =>
    have hdrained : g.dispatcher.pool.isDrained = g'.dispatcher.pool.isDrained :=
      (congrArg Pool.isDrained h.books :)
    exact ⟨congrArg GateAnswer.drained hdrained, rfl, rfl, h⟩
  | close =>
    have hbooks : g.dispatcher.pool.close.books = g'.dispatcher.pool.close.books :=
      congrArg (fun b : Pool String => { b with closed := true }) h.books
    have hs := h.complete.act? h.canWait .close rfl
    have hs' := h.complete'.act? h.canWait' .close rfl
    refine ⟨rfl, ?_, rfl, h.withPools hbooks hs hs'⟩
    simp only [GatedDispatcher.act, Dispatcher.close, h.name]

/-- A step tells the same of both, in whatever orders their workers come to rest. -/
theorem goes (hr : Goes outcome g step r) (hr' : Goes outcome g' step r') :
    r.Alike r' ∧ Twins r.state r'.state := by
  obtain ⟨hanswer, hrecords, hnotices, hact⟩ := h.act step
  cases hr with
  | @rest t later settles =>
    cases hr' with
    | @rest t' later' settles' =>
      have hends : (g.act step).state.ends? outcome = (g'.act step).state.ends? outcome := by
        rw [ends?, ends?, hact.isOpen]
      rw [hends, hact.limits] at settles
      have hs := hact.limits ▸ hact.complete
      obtain ⟨hbooks, hlater, htaken⟩ :=
        settles.alike settles' hs.toStaffed hact.complete'.toStaffed hact.books
      have htold : ((g.act step).notices ++ later).Perm ((g'.act step).notices ++ later') :=
        hnotices ▸ hlater.append_left _
      refine ⟨⟨hanswer, ?_, htold, ?_, ?_, ?_, ?_⟩, ?_⟩
      · simp only [reported_append, hnotices, htaken]
      · simp only [hrecords, h.records]
        exact (htold.flatMap_right _).append_left _
      · exact (congrArg Pool.posting hbooks :)
      · exact (congrArg Pool.queue hbooks :)
      · exact (congrArg (fun b : Pool String => { b.stats with workers := 0 }) hbooks :)
      · refine hact.withPools hbooks ?_ (settles'.stirs.complete hact.canWait' hact.complete')
        rw [hact.limits]
        exact settles.stirs.complete hact.canWait' hs

end Twins

theorem Runs.alike (hr : Runs outcome g steps reports) (hr' : Runs outcome g' steps reports')
    (h : Twins g g') : List.Forall₂ GateReport.Alike reports reports' := by
  induction hr generalizing g' reports' with
  | nil g =>
    cases hr'
    exact .nil
  | cons goes rest ih =>
    cases hr' with
    | cons goes' rest' =>
      obtain ⟨halike, hnext⟩ := h.goes goes goes'
      exact .cons halike (ih rest' hnext)

section

variable {settings : PoolSettings} {name : String} {timeout timeout' : Value} {d d' : Dispatcher}
  (hd : Dispatcher.ofSettings { settings with idleTimeout := timeout } name = .ok d)
  (hd' : Dispatcher.ofSettings { settings with idleTimeout := timeout' } name = .ok d')
  (hwaits : PoolSettings.canWait { settings with idleTimeout := timeout } = true)
  (hwaits' : PoolSettings.canWait { settings with idleTimeout := timeout' } = true)

include hd hd' hwaits hwaits'

theorem twins_new : Twins ⟨d, false⟩ ⟨d', false⟩ := by
  obtain rfl := PoolSettings.eq_of_ofSettings hd
  obtain rfl := PoolSettings.eq_of_ofSettings hd'
  exact ⟨rfl, ⟨timeout, rfl⟩, hwaits, hwaits', rfl, rfl, Pool.complete_empty _,
    Pool.complete_empty _⟩

/-- Two dispatchers whose settings differ in the idle time only, as where one reclaims idle workers
at once and the other one keeps them, tell the same of any steps behind a gate, as long as workers
can wait for these times: every step has the same answer, the same payloads are taken in the same
order and end in the same ways, and the same ones are being posted, in the same order, and wait
after it, with the same counts, that of the workers apart. This holds for `run`, and for whatever
other orders in which the workers of each come to rest after each step. -/
theorem reclamation_invisible (outcome : String → Except Fault Unit) (steps : List GateStep) :
    List.Forall₂ GateReport.Alike (run outcome ⟨d, false⟩ steps) (run outcome ⟨d', false⟩ steps) ∧
      ∀ reports reports', Runs outcome ⟨d, false⟩ steps reports →
        Runs outcome ⟨d', false⟩ steps reports' →
          List.Forall₂ GateReport.Alike reports reports' := by
  have htwins := twins_new hd hd' hwaits hwaits'
  refine ⟨?_, fun reports reports' hr hr' => hr.alike hr' htwins⟩
  exact (runs_run outcome _ steps).alike (runs_run outcome _ steps) htwins

end

/-- A payload is posted, and another one after it: where idle workers are reclaimed, the second one
has a worker of its own. -/
theorem reclamation_invisible_two_payloads :
    ∃ d d' : Dispatcher,
      Dispatcher.ofSettings { PoolSettings.onePlace with idleTimeout := .int 0 } = .ok d ∧
      Dispatcher.ofSettings { PoolSettings.onePlace with idleTimeout := .int 60 } = .ok d' ∧
      d.settings.reclaims = true ∧ d'.settings.reclaims = false ∧
      let steps : List GateStep := [.dispatch "first", .release (.ok ()), .dispatch "second"]
      let reports := run (fun _ => .ok ()) ⟨d, false⟩ steps
      let reports' := run (fun _ => .ok ()) ⟨d', false⟩ steps
      List.Forall₂ GateReport.Alike reports reports' ∧
        reports.map (fun r => r.state.dispatcher.pool.workers) = [1, 0, 1] ∧
        reports'.map (fun r => r.state.dispatcher.pool.workers) = [1, 1, 1] := by
  have hd : Dispatcher.ofSettings { PoolSettings.onePlace with idleTimeout := .int 0 } =
      .ok { settings := { PoolSettings.onePlace with idleTimeout := .int 0 } } := rfl
  have hd' : Dispatcher.ofSettings { PoolSettings.onePlace with idleTimeout := .int 60 } =
      .ok { settings := { PoolSettings.onePlace with idleTimeout := .int 60 } } := rfl
  have hwaits : PoolSettings.canWait { PoolSettings.onePlace with idleTimeout := .int 0 } = true :=
    PoolSettings.canWait_of_le rfl (by norm_num)
  have hwaits' :
      PoolSettings.canWait { PoolSettings.onePlace with idleTimeout := .int 60 } = true :=
    PoolSettings.canWait_of_le rfl (by norm_num)
  refine ⟨_, _, hd, hd', by decide, by decide, ?_, by decide, by decide⟩
  exact (@reclamation_invisible PoolSettings.onePlace _ _ _ _ _ hd hd' hwaits hwaits' _ _).1

end GatedDispatcher

end SessionTelemetry
