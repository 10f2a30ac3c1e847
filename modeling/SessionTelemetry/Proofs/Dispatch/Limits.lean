import Mathlib.Data.Rat.Floor
import SessionTelemetry.Dispatch.Dispatcher
import SessionTelemetry.Proofs.Number.Exact

/-!
# The limits of checked settings

Settings that pass their checks leave room for a payload in an empty queue. Bounds that are integers
are the limits themselves.
-/

namespace SessionTelemetry

namespace PoolSettings

variable {settings : PoolSettings}

theorem not_isBelow_of_checkBound {setting : String} {bound : Value}
    (h : checkBound setting bound = .ok ()) : bound.isBelow 1 = .ok false := by
  unfold checkBound at h
  cases hb : bound.isBelow 1 with
  | error fault => rw [hb] at h; cases h
  | ok below =>
    cases below with
    | true => rw [hb] at h; cases h
    | false => rfl

theorem checkBounds_of_validate (h : settings.validate = .ok ()) :
    checkBound SettingName.maxWorkers settings.maxWorkers = .ok () ∧
      checkBound SettingName.maxQueue settings.maxQueueSize = .ok () := by
  unfold validate at h
  cases hw : checkBound SettingName.maxWorkers settings.maxWorkers with
  | error fault => rw [hw] at h; cases h
  | ok done => rw [hw] at h; exact ⟨rfl, h⟩

theorem one_le_of_checkBound {setting : String} {n : Int}
    (h : checkBound setting (.int n) = .ok ()) : 1 ≤ n := by
  have hb := not_isBelow_of_checkBound h
  rw [Value.isBelow_int] at hb
  simpa using hb

theorem one_le_maxWorkers {w : Int} (hw : settings.maxWorkers = .int w)
    (h : settings.validate = .ok ()) : 1 ≤ w :=
  one_le_of_checkBound (hw ▸ (checkBounds_of_validate h).1)

theorem one_le_maxQueueSize {q : Int} (hq : settings.maxQueueSize = .int q)
    (h : settings.validate = .ok ()) : 1 ≤ q :=
  one_le_of_checkBound (hq ▸ (checkBounds_of_validate h).2)

theorem wholeBound_int (n : Int) : wholeBound (.int n) = some n.toNat := by
  simp [wholeBound, Value.extent?]

theorem limits_workers {w : Int} (h : settings.maxWorkers = .int w) :
    settings.limits.workers = some w.toNat := by
  simp only [limits, workerBound, h]
  exact wholeBound_int w

theorem limits_waiting {q : Int} (h : settings.maxQueueSize = .int q) :
    settings.limits.waiting = some q.toNat := by
  simp only [limits, h, wholeBound_int]

theorem limits_overflow_newest (h : settings.overflowPolicy = .text OverflowPolicy.dropNewest) :
    settings.limits.overflow = .refuseNewest := by
  simp [limits, h, Value.sameAs, Value.agrees]

theorem limits_overflow_oldest (h : settings.overflowPolicy = .text OverflowPolicy.dropOldest) :
    settings.limits.overflow = .evictOldest := by
  simp only [limits, h]
  decide

/-- A bound that passes its check leaves room for one. -/
theorem wholeBound_pos {bound : Value} (h : bound.isBelow 1 = .ok false) {n : Nat}
    (hn : wholeBound bound = some n) : 0 < n := by
  unfold Value.isBelow at h
  unfold wholeBound at hn
  cases he : bound.extent? with
  | none => simp [he] at h
  | some extent =>
    cases extent with
    | finite q =>
      simp only [he, Extent.compare?, Int.cast_one] at h
      simp only [he, Option.some.injEq] at hn
      have hq : ¬ q < 1 := by
        intro hlt
        simp [hlt] at h
      have hceil : ¬ q.ceil ≤ 0 := by
        rw [Rat.ceil_le_iff, Int.cast_zero]
        exact fun hle => hq (lt_of_le_of_lt hle one_pos)
      omega
    | infinite negative =>
      cases negative with
      | true => simp [he, Extent.compare?] at h
      | false => simp [he] at hn
    | nan label => simp [he] at hn

/-- A bound on the queue that passes its check is not reached by an empty queue. -/
theorem isFull_zero_of_validate (h : settings.validate = .ok ()) :
    settings.limits.isFull 0 = false := by
  have hbelow := not_isBelow_of_checkBound (checkBounds_of_validate h).2
  cases hbound : wholeBound settings.maxQueueSize with
  | none => simp [limits, PoolLimits.isFull, hbound]
  | some n =>
    have hpos := wholeBound_pos hbelow hbound
    simp only [limits, PoolLimits.isFull, hbound, decide_eq_false_iff_not]
    omega

/-- A bound on the workers that passes its check allows a first one, unless it is no number. -/
theorem mayStart_zero_of_validate
    (hnumber : ∀ label, settings.maxWorkers.extent? ≠ some (.nan label))
    (h : settings.validate = .ok ()) : settings.limits.mayStart 0 = true := by
  have hbelow := not_isBelow_of_checkBound (checkBounds_of_validate h).1
  have hsame : workerBound settings.maxWorkers = wholeBound settings.maxWorkers := by
    unfold workerBound
    split
    · exact absurd ‹_› (hnumber _)
    · rfl
  cases hbound : wholeBound settings.maxWorkers with
  | none => simp [limits, PoolLimits.mayStart, hsame, hbound]
  | some n => simp [limits, PoolLimits.mayStart, hsame, hbound, wholeBound_pos hbelow hbound]

/-- A dispatcher is only made of settings that pass their checks. -/
theorem validate_of_ofSettings {name : String} {d : Dispatcher}
    (h : Dispatcher.ofSettings settings name = .ok d) :
    settings.validate = .ok () ∧ d.settings = settings := by
  unfold Dispatcher.ofSettings at h
  cases hw : settings.maxWorkers.isBelow 1 with
  | error fault => rw [hw] at h; cases h
  | ok fewWorkers =>
    cases hq : settings.maxQueueSize.isBelow 1 with
    | error fault => rw [hw, hq] at h; cases fewWorkers <;> cases h
    | ok smallQueue =>
      rw [hw, hq] at h
      cases fewWorkers <;> cases smallQueue <;> cases h
      refine ⟨?_, rfl⟩
      rw [validate, checkBound, checkBound, hw, hq]
      rfl

/-- A new dispatcher has an empty pool. -/
theorem eq_of_ofSettings {name : String} {d : Dispatcher}
    (h : Dispatcher.ofSettings settings name = .ok d) : d = { name, settings } := by
  unfold Dispatcher.ofSettings at h
  cases hw : settings.maxWorkers.isBelow 1 with
  | error fault => rw [hw] at h; cases h
  | ok fewWorkers =>
    cases hq : settings.maxQueueSize.isBelow 1 with
    | error fault => rw [hw, hq] at h; cases fewWorkers <;> cases h
    | ok smallQueue =>
      rw [hw, hq] at h
      cases fewWorkers <;> cases smallQueue <;> cases h
      rfl

/-- A worker can wait for an idle time of up to 9223372036 seconds. -/
theorem canWait_of_le {seconds : Rat} (h : settings.idleTimeout.extent? = some (.finite seconds))
    (hle : seconds ≤ 9223372036) : settings.canWait = true := by
  have hnum : seconds.num ≤ 9223372036 * seconds.den := by
    have hcross := (Rat.le_iff seconds 9223372036).1 hle
    simpa using hcross
  have hden := seconds.den_pos
  rw [canWait, h]
  apply decide_eq_true
  rw [waitBound]
  omega

def onePlace : PoolSettings where
  maxWorkers := .int 1
  maxQueueSize := .int 1

def endless : PoolSettings := { onePlace with idleTimeout := .float (.infinite false) }

def unnumbered : PoolSettings := { onePlace with maxWorkers := .float (.nan 0) }

theorem canWait_onePlace : onePlace.canWait = true := by
  have hminute : onePlace.idleTimeout.extent? = some (.finite (60 : Int)) :=
    congrArg some (Binary64.extent_of_shows (Binary64.shows_ofInt (by decide)))
  exact canWait_of_le hminute (by norm_num)

end PoolSettings

end SessionTelemetry
