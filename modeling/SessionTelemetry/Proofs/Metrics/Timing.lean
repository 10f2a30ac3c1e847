import Mathlib.Data.Set.Card
import SessionTelemetry.Proofs.Metrics.Transactions

/-!
# Stopwatches over whole histories

A stopwatch is used for many transactions at once while its clock goes on or back. What it answers
can be read off its history alone: a transaction runs if its latest step was a start (`Runs`), and
then its duration is the time since the reading of that start, cut off at zero. The steps of other
transactions do not matter (`Timekeeper.transactions_paired`).
-/

namespace SessionTelemetry

namespace Value

variable {v started now : Value}

/-- The time between two readings is not rounded: both are integers, or both readings and the time
between them have the format of floats. -/
def Unrounded (started now : Value) : Prop :=
  (∃ m n, started = .int m ∧ now = .int n) ∨
    ∃ p q, started.extent? = some (.finite p) ∧ now.extent? = some (.finite q) ∧
      Binary64.Representable p ∧ Binary64.Representable q ∧ Binary64.Representable (q - p)

theorem exists_difference_of_unrounded (h : Unrounded started now) :
    ∃ p q d, started.extent? = some (.finite p) ∧ now.extent? = some (.finite q) ∧
      now.difference started = .ok d ∧ d.extent? = some (.finite (q - p)) := by
  rcases h with ⟨m, n, rfl, rfl⟩ | ⟨p, q, hp, hq, hpr, hqr, hdiff⟩
  · exact ⟨m, n, _, rfl, rfl, rfl, by simp [extent?]⟩
  · obtain ⟨d, hd, hextent⟩ := extent_difference hq hp hqr hpr hdiff
    exact ⟨p, q, d, hp, hq, hd, hextent⟩

theorem isBelow_zero_aboveZero (v : Value) : v.aboveZero.isBelow 0 = .ok false := by
  have hzero : (float .zero).isBelow 0 = .ok false := by
    simp [isBelow, extent?, Binary64.extent_of_shows Binary64.shows_zero, Extent.compare?]
  unfold aboveZero
  split
  · next p hp =>
    split_ifs with habove
    · -- what is above zero is not below it
      rw [isBelow, hp]
      simp only [Int.cast_zero, habove]
      rfl
    · exact hzero
  · exact hzero

end Value

inductive TimingStep where
  | clock (moment : Moment)
  | start (type id : String)
  | stop (type id : String)

namespace TimingStep

def transaction? : TimingStep → Option (String × String)
  | clock _ => none
  | start type id => some (type, id)
  | stop type id => some (type, id)

def moment? : TimingStep → Option Moment
  | clock moment => some moment
  | _ => none

def shown (first : Moment) (steps : List TimingStep) : Moment :=
  (steps.filterMap moment?).getLast?.getD first

/-- The latest step of a transaction was a start, when the clock showed this reading. -/
def Runs (first : Moment) (steps : List TimingStep) (k : String × String) (reading : Value) :
    Prop :=
  ∃ before after, steps = before ++ start k.1 k.2 :: after ∧
    (∀ step ∈ after, step.transaction? ≠ some k) ∧ reading = (shown first before).now

variable {first : Moment} {steps before rest : List TimingStep} {step : TimingStep}
  {k : String × String} {reading : Value}

theorem shown_concat (first : Moment) (steps : List TimingStep) (step : TimingStep) :
    shown first (steps ++ [step]) = step.moment?.getD (shown first steps) := by
  unfold shown
  rw [List.filterMap_append, List.filterMap_cons, List.filterMap_nil]
  cases step.moment? <;> simp

theorem runs_nil : ¬ Runs first [] k reading := by
  rintro ⟨before, after, h, -⟩
  simp at h

/-- The latest step decides, unless it is about something else. -/
theorem runs_concat :
    Runs first (steps ++ [step]) k reading ↔
      (step = start k.1 k.2 ∧ reading = (shown first steps).now) ∨
        (step.transaction? ≠ some k ∧ Runs first steps k reading) := by
  constructor
  · rintro ⟨before, after, heq, hafter, hreading⟩
    rcases List.eq_nil_or_concat after with rfl | ⟨after, last, rfl⟩
    · obtain ⟨rfl, hstep⟩ := List.append_inj' heq rfl
      exact .inl ⟨List.singleton_inj.1 hstep, hreading⟩
    · rw [List.concat_eq_append, ← List.cons_append, ← List.append_assoc] at heq
      obtain ⟨rfl, hstep⟩ := List.append_inj' heq rfl
      obtain rfl := List.singleton_inj.1 hstep
      rw [List.concat_eq_append, List.forall_mem_append, List.forall_mem_singleton] at hafter
      exact .inr ⟨hafter.2, before, after, rfl, hafter.1, hreading⟩
  · rintro (⟨rfl, hreading⟩ | ⟨hother, before, after, rfl, hafter, hreading⟩)
    · exact ⟨steps, [], rfl, List.forall_mem_nil _, hreading⟩
    · refine ⟨before, after ++ [step], by simp, ?_, hreading⟩
      rw [List.forall_mem_append, List.forall_mem_singleton]
      exact ⟨hafter, hother⟩

theorem runs_concat_of_other (hother : step.transaction? ≠ some k) :
    Runs first (steps ++ [step]) k reading ↔ Runs first steps k reading := by
  rw [runs_concat]
  constructor
  · rintro (⟨rfl, -⟩ | ⟨-, h⟩)
    · exact absurd rfl hother
    · exact h
  · exact fun h => .inr ⟨hother, h⟩

theorem runs_concat_start {type id : String} :
    Runs first (steps ++ [start type id]) (type, id) reading ↔
      reading = (shown first steps).now := by
  simp [runs_concat, transaction?]

theorem not_runs_concat_stop {type id : String} :
    ¬ Runs first (steps ++ [stop type id]) (type, id) reading := by
  simp [runs_concat, transaction?]

theorem shown_without (h : step.moment? = none) (first : Moment) (before rest : List TimingStep) :
    shown first (before ++ step :: rest) = shown first (before ++ rest) := by
  unfold shown
  rw [List.filterMap_append, List.filterMap_cons_none h, List.filterMap_append]

/-- A step of another transaction does not matter, however long ago it was. -/
theorem runs_without (hmoment : step.moment? = none) (hother : step.transaction? ≠ some k) :
    Runs first (before ++ step :: rest) k reading ↔ Runs first (before ++ rest) k reading := by
  induction rest using List.reverseRecOn with
  | nil => rw [List.append_nil, runs_concat_of_other hother]
  | append_singleton rest last ih =>
    rw [← List.cons_append, ← List.append_assoc, ← List.append_assoc, runs_concat, runs_concat, ih,
      shown_without hmoment]

/-- Every reading that counts was shown by the clock. -/
theorem shown_cases (first : Moment) (steps : List TimingStep) :
    shown first steps = first ∨ .clock (shown first steps) ∈ steps := by
  unfold shown
  cases h : (steps.filterMap moment?).getLast? with
  | none => exact .inl rfl
  | some moment =>
    obtain ⟨step, hstep, hmoment⟩ := List.mem_filterMap.1 (List.mem_of_getLast? h)
    cases step with
    | clock m =>
      cases hmoment
      exact .inr hstep
    | _ => cases hmoment

end TimingStep

structure Timekeeper where
  moment : Moment
  watch : Stopwatch := {}

namespace Timekeeper

def next (t : Timekeeper) : TimingStep → Timekeeper
  | .clock moment => { t with moment }
  | .start type id =>
    { t with watch := ((t.watch.start (.text type) (.text id) t.moment).toOption).getD t.watch }
  | .stop type id => { t with watch := (t.watch.stop (.text type) (.text id) t.moment).2 }

def after (first : Moment) (steps : List TimingStep) : Timekeeper := steps.foldl next ⟨first, {}⟩

def answer (first : Moment) (steps : List TimingStep) (k : String × String) :
    Except Fault (Option Value) :=
  ((after first steps).watch.stop (.text k.1) (.text k.2) (after first steps).moment).1

/-- A stopwatch holds the transactions that run, each with the reading of its start. -/
structure Holds (t : Timekeeper) (first : Moment) (steps : List TimingStep) : Prop where
  moment : t.moment = TimingStep.shown first steps
  distinct : t.watch.running.Distinct
  keys : ∀ entry ∈ t.watch.running.entries, ∃ type id, entry.1 = Stopwatch.textKey type id
  running : ∀ k reading, t.watch.running.find? (Stopwatch.textKey k.1 k.2) = some reading ↔
    TimingStep.Runs first steps k reading

variable {first : Moment} {steps : List TimingStep} {step : TimingStep} {t : Timekeeper}
  {k : String × String} {reading : Value}

theorem textKey_ne {type id : String} (h : k ≠ (type, id)) :
    Stopwatch.textKey k.1 k.2 ≠ Stopwatch.textKey type id := by
  rw [Ne, Stopwatch.textKey_inj]
  exact fun heq => h (Prod.ext heq.1 heq.2)

theorem holds_nil (first : Moment) : Holds ⟨first, {}⟩ first [] where
  moment := rfl
  distinct := List.nodup_nil
  keys _ h := nomatch h
  running _ _ := iff_of_false nofun TimingStep.runs_nil

theorem Holds.clock (h : t.Holds first steps) (moment : Moment) :
    (t.next (.clock moment)).Holds first (steps ++ [.clock moment]) where
  moment := by
    rw [TimingStep.shown_concat]
    rfl
  distinct := h.distinct
  keys := h.keys
  running k reading := by
    have hother : (TimingStep.clock moment).transaction? ≠ some k := (Option.some_ne_none k).symm
    rw [TimingStep.runs_concat_of_other hother]
    exact h.running k reading

theorem Holds.start (h : t.Holds first steps) (type id : String) :
    (t.next (.start type id)).Holds first (steps ++ [.start type id]) := by
  have hwatch : (t.next (.start type id)).watch =
      ⟨t.watch.running.put (Stopwatch.textKey type id) t.moment.now⟩ := rfl
  refine ⟨?_, ?_, ?_, fun k reading => ?_⟩
  · rw [TimingStep.shown_concat]
    exact h.moment
  · rw [hwatch]
    exact Table.distinct_put h.distinct
  · rw [hwatch]
    intro entry hentry
    rcases Table.mem_entries_put hentry with rfl | hold
    · exact ⟨type, id, rfl⟩
    · exact h.keys entry hold
  · rw [hwatch, Table.find?_put]
    by_cases hk : k = (type, id)
    · subst hk
      rw [if_pos rfl, TimingStep.runs_concat_start, ← h.moment, Option.some.injEq, eq_comm]
    · rw [if_neg (textKey_ne hk), h.running, TimingStep.runs_concat_of_other]
      exact fun hsame => hk (Option.some.inj hsame).symm

theorem Holds.stop (h : t.Holds first steps) (type id : String) :
    (t.next (.stop type id)).Holds first (steps ++ [.stop type id]) := by
  have hwatch : (t.next (.stop type id)).watch =
      ⟨t.watch.running.erase (Stopwatch.textKey type id)⟩ :=
    congrArg Prod.snd Stopwatch.stop_text
  refine ⟨?_, ?_, ?_, fun k reading => ?_⟩
  · rw [TimingStep.shown_concat]
    exact h.moment
  · rw [hwatch]
    exact Table.distinct_erase h.distinct
  · rw [hwatch]
    exact fun entry hentry => h.keys entry (Table.mem_entries_erase hentry)
  · rw [hwatch, Table.find?_erase h.distinct]
    by_cases hk : k = (type, id)
    · subst hk
      rw [if_pos rfl]
      exact iff_of_false nofun TimingStep.not_runs_concat_stop
    · rw [if_neg (textKey_ne hk), h.running, TimingStep.runs_concat_of_other]
      exact fun hsame => hk (Option.some.inj hsame).symm

theorem Holds.next (h : t.Holds first steps) (step : TimingStep) :
    (t.next step).Holds first (steps ++ [step]) := by
  cases step with
  | clock moment => exact h.clock moment
  | start type id => exact h.start type id
  | stop type id => exact h.stop type id

theorem holds_after (first : Moment) (steps : List TimingStep) :
    (after first steps).Holds first steps := by
  induction steps using List.reverseRecOn with
  | nil => exact holds_nil first
  | append_singleton steps step ih =>
    rw [after, List.foldl_concat]
    exact ih.next step

/-- As many transactions run as the stopwatch holds. -/
theorem Holds.openCount_eq (h : t.Holds first steps) :
    (t.watch.openCount : ℕ∞) = {k | ∃ reading, TimingStep.Runs first steps k reading}.encard := by
  have hinjective : Function.Injective fun k : String × String => Stopwatch.textKey k.1 k.2 :=
    fun _ _ heq => Prod.ext_iff.2 (Stopwatch.textKey_inj.1 heq)
  have hkeys : (fun k : String × String => Stopwatch.textKey k.1 k.2) ''
      {k | ∃ reading, TimingStep.Runs first steps k reading} =
      ((t.watch.running.entries.map Prod.fst).toFinset : Set Key) := by
    ext key
    simp only [Set.mem_image, Set.mem_ofPred_eq, List.coe_toFinset]
    constructor
    · rintro ⟨k, ⟨reading, hruns⟩, rfl⟩
      exact List.mem_map_of_mem (Table.mem_entries_of_find? ((h.running k reading).2 hruns))
    · intro hkey
      obtain ⟨entry, hentry, rfl⟩ := List.mem_map.1 hkey
      obtain ⟨type, id, heq⟩ := h.keys entry hentry
      have hfound : t.watch.running.find? (Stopwatch.textKey type id) = some entry.2 :=
        (Table.find?_eq_some_iff h.distinct).2 (heq ▸ hentry)
      exact ⟨(type, id), ⟨_, (h.running (type, id) _).1 hfound⟩, heq.symm⟩
  rw [← hinjective.encard_image, hkeys, Set.encard_coe_eq_coe_finsetCard,
    List.toFinset_card_of_nodup h.distinct, List.length_map]
  rfl

section Answers

variable (hfirst : first.now.isNull = false)
  (hclock : ∀ moment, .clock moment ∈ steps → moment.now.isNull = false)

include hfirst hclock

/-- Only a start at a reading that is null would be taken for none. -/
theorem answer_of_runs (hruns : TimingStep.Runs first steps k reading) :
    answer first steps k = ((TimingStep.shown first steps).now.difference reading).map
      fun d => some d.aboveZero := by
  have hholds := holds_after first steps
  have hnumber : reading.isNull = false := by
    obtain ⟨before, after, rfl, -, rfl⟩ := hruns
    rcases TimingStep.shown_cases first before with hshown | hshown
    · rw [hshown]
      exact hfirst
    · exact hclock _ (List.mem_append_left _ hshown)
  rw [answer, Stopwatch.stop_text, (hholds.running k reading).2 hruns, hholds.moment]
  simp only [hnumber, Bool.false_eq_true, if_false]

omit hfirst hclock in
theorem answer_of_not_runs (hruns : ∀ reading, ¬ TimingStep.Runs first steps k reading) :
    answer first steps k = .ok none := by
  have habsent : (after first steps).watch.running.find? (Stopwatch.textKey k.1 k.2) = none :=
    Option.eq_none_iff_forall_ne_some.2 fun reading hfound =>
      hruns reading (((holds_after first steps).running k reading).1 hfound)
  rw [answer, Stopwatch.stop_text, habsent]

theorem answer_eq_none_iff :
    answer first steps k = .ok none ↔ ∀ reading, ¬ TimingStep.Runs first steps k reading := by
  refine ⟨fun hnone reading hruns => ?_, answer_of_not_runs⟩
  rw [answer_of_runs hfirst hclock hruns] at hnone
  cases hdifference : (TimingStep.shown first steps).now.difference reading <;>
    simp [hdifference, Except.map] at hnone

theorem answer_of_unrounded (hruns : TimingStep.Runs first steps k reading)
    (hexact : reading.Unrounded (TimingStep.shown first steps).now) :
    ∃ p q seconds, reading.extent? = some (.finite p) ∧
      (TimingStep.shown first steps).now.extent? = some (.finite q) ∧
      answer first steps k = .ok (some seconds) ∧
      seconds.extent? = some (.finite (max 0 (q - p))) := by
  obtain ⟨p, q, d, hp, hq, hd, hextent⟩ := Value.exists_difference_of_unrounded hexact
  refine ⟨p, q, d.aboveZero, hp, hq, ?_, Value.extent_aboveZero hextent⟩
  rw [answer_of_runs hfirst hclock hruns, hd]
  rfl

theorem not_isBelow_of_answer {seconds : Value}
    (hanswer : answer first steps k = .ok (some seconds)) : seconds.isBelow 0 = .ok false := by
  by_cases hruns : ∃ reading, TimingStep.Runs first steps k reading
  · obtain ⟨reading, hruns⟩ := hruns
    rw [answer_of_runs hfirst hclock hruns] at hanswer
    cases hdifference : (TimingStep.shown first steps).now.difference reading with
    | error fault => simp [hdifference, Except.map] at hanswer
    | ok d =>
      obtain rfl : d.aboveZero = seconds := by simpa [hdifference, Except.map] using hanswer
      exact d.isBelow_zero_aboveZero
  · rw [answer_of_not_runs (not_exists.1 hruns)] at hanswer
    cases hanswer

end Answers

/-- What stopping a transaction yields does not depend on the steps of others. -/
theorem answer_without {before rest : List TimingStep} (hmoment : step.moment? = none)
    (hother : step.transaction? ≠ some k) :
    answer first (before ++ step :: rest) k = answer first (before ++ rest) k := by
  have hwith := holds_after first (before ++ step :: rest)
  have hwithout := holds_after first (before ++ rest)
  -- both stopwatches hold the transaction with one reading, or neither holds it
  have hfind : (after first (before ++ step :: rest)).watch.running.find?
      (Stopwatch.textKey k.1 k.2) =
      (after first (before ++ rest)).watch.running.find? (Stopwatch.textKey k.1 k.2) := by
    refine Option.ext fun reading => ?_
    rw [hwith.running, hwithout.running, TimingStep.runs_without hmoment hother]
  rw [answer, answer, Stopwatch.stop_text, Stopwatch.stop_text, hfind, hwith.moment,
    hwithout.moment, TimingStep.shown_without hmoment]

/-- A new stopwatch, started and stopped for any transactions while its clock goes on or back.
Stopping a transaction yields nothing if and only if it was not started since it was last stopped;
otherwise it yields the time since its latest start, but never less than none, and exactly that time
where it is not rounded. As many transactions are open as had a start for their latest step. What
stopping a transaction yields does not depend on the steps of others. -/
theorem transactions_paired (first : Moment) (steps : List TimingStep)
    (hfirst : first.now.isNull = false)
    (hclock : ∀ moment, .clock moment ∈ steps → moment.now.isNull = false) :
    (∀ k, answer first steps k = .ok none ↔
      ∀ reading, ¬ TimingStep.Runs first steps k reading) ∧
    (∀ k reading, TimingStep.Runs first steps k reading →
      answer first steps k = ((TimingStep.shown first steps).now.difference reading).map
        (fun d => some d.aboveZero) ∧
      (reading.Unrounded (TimingStep.shown first steps).now →
        ∃ p q seconds, reading.extent? = some (.finite p) ∧
          (TimingStep.shown first steps).now.extent? = some (.finite q) ∧
          answer first steps k = .ok (some seconds) ∧
          seconds.extent? = some (.finite (max 0 (q - p))))) ∧
    (∀ k seconds, answer first steps k = .ok (some seconds) → seconds.isBelow 0 = .ok false) ∧
    ((after first steps).watch.openCount : ℕ∞) =
      {k | ∃ reading, TimingStep.Runs first steps k reading}.encard ∧
    ∀ before step rest k, steps = before ++ step :: rest → step.moment? = none →
      step.transaction? ≠ some k → answer first steps k = answer first (before ++ rest) k := by
  refine ⟨fun k => answer_eq_none_iff hfirst hclock, fun k reading hruns => ?_,
    fun k seconds => not_isBelow_of_answer hfirst hclock, (holds_after first steps).openCount_eq,
    ?_⟩
  · exact ⟨answer_of_runs hfirst hclock hruns, answer_of_unrounded hfirst hclock hruns⟩
  · rintro before step rest k rfl hmoment hother
    exact answer_without hmoment hother

def setBack : List TimingStep :=
  [.clock { now := .int 10 }, .start "call" "a", .start "call" "b", .clock { now := .int 14 },
    .start "call" "a", .clock { now := .int 12 }, .stop "call" "c"]

theorem transactions_paired_setBack :
    (∀ moment, .clock moment ∈ setBack → moment.now.isNull = false) ∧
    (∃ seconds, answer {} setBack ("call", "a") = .ok (some seconds) ∧
      seconds.extent? = some (.finite 0)) ∧
    (∃ seconds, answer {} setBack ("call", "b") = .ok (some seconds) ∧
      seconds.extent? = some (.finite 2)) ∧
    answer {} setBack ("call", "c") = .ok none := by
  have hclock : ∀ moment, .clock moment ∈ setBack → moment.now.isNull = false := by
    intro moment hmem
    simp only [setBack, List.mem_cons, TimingStep.clock.injEq, List.not_mem_nil, reduceCtorEq,
      or_false, false_or] at hmem
    rcases hmem with rfl | rfl | rfl <;> rfl
  obtain ⟨hnone, hsome, -⟩ := transactions_paired {} setBack rfl hclock
  have ha : TimingStep.Runs {} setBack ("call", "a") (.int 14) :=
    ⟨setBack.take 4, setBack.drop 5, rfl, by decide, rfl⟩
  have hb : TimingStep.Runs {} setBack ("call", "b") (.int 10) :=
    ⟨setBack.take 2, setBack.drop 3, rfl, by decide, rfl⟩
  refine ⟨hclock, ?_, ?_, ?_⟩
  · obtain ⟨p, q, seconds, hp, hq, hanswer, hseconds⟩ :=
      (hsome _ _ ha).2 (.inl ⟨14, 12, rfl, rfl⟩)
    cases hp
    cases hq
    norm_num at hseconds
    exact ⟨seconds, hanswer, hseconds⟩
  · obtain ⟨p, q, seconds, hp, hq, hanswer, hseconds⟩ :=
      (hsome _ _ hb).2 (.inl ⟨10, 12, rfl, rfl⟩)
    cases hp
    cases hq
    norm_num at hseconds
    exact ⟨seconds, hanswer, hseconds⟩
  · rw [hnone]
    rintro reading ⟨before, after, heq, -⟩
    have hmem : TimingStep.start "call" "c" ∈ setBack :=
      heq ▸ List.mem_append_right _ List.mem_cons_self
    simp [setBack] at hmem

end Timekeeper

end SessionTelemetry
