import SessionTelemetry.Metrics.Stopwatch
import SessionTelemetry.Proofs.Number.Exact
import SessionTelemetry.Proofs.Table

/-!
# How long transactions last

Where the readings of a clock are numbers, a transaction that runs can be stopped, and lasted for
the time since it was started (`Lasted`), rounded unless the two readings and their difference have
the format of floats.
-/

namespace SessionTelemetry

namespace Value

variable {v w started now seconds : Value} {p q : Rat}

/-- What a clock may show: a float, or an integer that is far from leaving their range. -/
inductive IsReading : Value → Prop where
  | float (x : Binary64) : IsReading (.float x)
  | int (n : Int) (h : n.natAbs < twoTo 1022) : IsReading (.int n)

def HasFloat (v : Value) : Prop := ∃ x, v.numberAsFloat = .ok x

def lapse (started now : Value) : Binary64 :=
  match now.difference started with
  | .ok d => (d.aboveZero.numberAsFloat.toOption).getD .zero
  | .error _ => .zero

/-- The time between two readings, both of which, and their difference, have the format of
floats. -/
def Lapses (started now : Value) (q : Rat) : Prop :=
  ∃ a b, started.extent? = some (.finite a) ∧ now.extent? = some (.finite b) ∧
    Binary64.Representable a ∧ Binary64.Representable b ∧ Binary64.Representable (b - a) ∧
    q = max 0 (b - a)

/-- A transaction lasted for the time between two readings, but not for less than none. Nothing is
rounded if both readings and the time between them have the format of floats. -/
structure Lasted (started now seconds : Value) : Prop where
  measured : ∃ d, now.difference started = .ok d ∧ seconds = d.aboveZero
  exactly : ∀ p q, started.extent? = some (.finite p) → now.extent? = some (.finite q) →
    Binary64.Representable p → Binary64.Representable q → Binary64.Representable (q - p) →
    seconds.extent? = some (.finite (max 0 (q - p)))

theorem hasFloat_int {n : Int} (h : n.natAbs < twoTo 1023) : HasFloat (.int n) :=
  ⟨_, floatOfInt_eq h⟩

theorem IsReading.hasFloat (h : v.IsReading) : v.HasFloat := by
  cases h with
  | float x => exact ⟨x, rfl⟩
  | int n h => exact hasFloat_int (lt_twoTo_succ h)

theorem IsReading.ne_null (h : v.IsReading) : v.isNull = false := by
  cases h <;> rfl

theorem hasFloat_difference (hv : v.IsReading) (hw : w.IsReading) :
    ∃ d, v.difference w = .ok d ∧ d.HasFloat := by
  cases hv with
  | float x =>
    obtain ⟨y, hy⟩ := hw.hasFloat
    exact ⟨.float (x.sub y), by simp [difference, hy, bind, Except.bind, pure, Except.pure], _, rfl⟩
  | int m hm =>
    cases hw with
    | float y =>
      obtain ⟨x, hx⟩ := (IsReading.int m hm).hasFloat
      exact ⟨.float (x.sub y), by simp [difference, hx, bind, Except.bind, pure, Except.pure], _,
        rfl⟩
    | int n hn =>
      refine ⟨_, rfl, hasFloat_int ?_⟩
      exact (Int.natAbs_sub_le m n).trans_lt (add_lt_twoTo_succ hm hn)

theorem HasFloat.aboveZero (h : v.HasFloat) : v.aboveZero.HasFloat := by
  unfold Value.aboveZero
  split
  · split_ifs
    · exact h
    · exact ⟨_, rfl⟩
  · exact ⟨_, rfl⟩

theorem extent_aboveZero (h : v.extent? = some (.finite q)) :
    v.aboveZero.extent? = some (.finite (max 0 q)) := by
  unfold aboveZero
  rw [h]
  simp only [Extent.compare?]
  rcases lt_trichotomy q 0 with hlt | rfl | hgt
  · simp [hlt, max_eq_left hlt.le, extent?, Binary64.extent_of_shows Binary64.shows_zero]
  · simp [extent?, Binary64.extent_of_shows Binary64.shows_zero]
  · simp [hgt, not_lt.2 hgt.le, max_eq_right hgt.le, h]

theorem numberAsFloat_shows (h : v.extent? = some (.finite q)) (hq : Binary64.Representable q) :
    ∃ x, v.numberAsFloat = .ok x ∧ x.Shows q := by
  cases v with
  | bool b =>
    cases b with
    | false =>
      obtain rfl : 0 = q := by simpa [extent?] using h
      exact ⟨_, rfl, Binary64.shows_zero⟩
    | true =>
      obtain rfl : 1 = q := by simpa [extent?] using h
      exact ⟨_, rfl, by exact_mod_cast Binary64.shows_ofInt (n := 1) (by decide)⟩
  | int n =>
    obtain rfl : (n : Rat) = q := by simpa [extent?] using h
    have hshows : (Binary64.ofInt n).Shows n := Binary64.shows_ofRat hq _
    obtain ⟨negative, m, e, heq, -⟩ := id hshows
    exact ⟨_, by rw [numberAsFloat, floatOfInt, Binary64.ofInt?, heq], heq ▸ hshows⟩
  | float x =>
    refine ⟨x, rfl, ?_⟩
    cases x with
    | finite negative m e => exact ⟨negative, m, e, rfl, by simpa [extent?, Extent.ofFloat] using h⟩
    | _ => simp [extent?, Extent.ofFloat] at h
  | _ => cases h

/-- A difference is exact where both numbers and the difference have the format of floats. -/
theorem extent_difference (hp : v.extent? = some (.finite p)) (hq : w.extent? = some (.finite q))
    (hpr : Binary64.Representable p) (hqr : Binary64.Representable q)
    (hdiff : Binary64.Representable (p - q)) :
    ∃ d, v.difference w = .ok d ∧ d.extent? = some (.finite (p - q)) := by
  obtain ⟨x, hx, hxp⟩ := numberAsFloat_shows hp hpr
  obtain ⟨y, hy, hyq⟩ := numberAsFloat_shows hq hqr
  have hfloat : (float (x.sub y)).extent? = some (.finite (p - q)) :=
    congrArg some (Binary64.extent_of_shows (Binary64.shows_sub hxp hyq hdiff))
  -- a difference of floats is rounded to itself, one of integers is not rounded at all
  cases v with
  | float x' =>
    cases hx
    exact ⟨_, by simp [difference, hy, bind, Except.bind, pure, Except.pure], hfloat⟩
  | bool a =>
    cases w with
    | float y' =>
      cases hy
      exact ⟨_, by simp [difference, hx, bind, Except.bind, pure, Except.pure], hfloat⟩
    | bool b => cases a <;> cases b <;> cases hp <;> cases hq <;> exact ⟨_, rfl, by simp [extent?]⟩
    | int n => cases a <;> cases hp <;> cases hq <;> exact ⟨_, rfl, by simp [extent?]⟩
    | _ => cases hq
  | int m =>
    cases w with
    | float y' =>
      cases hy
      exact ⟨_, by simp [difference, hx, bind, Except.bind, pure, Except.pure], hfloat⟩
    | bool b => cases b <;> cases hp <;> cases hq <;> exact ⟨_, rfl, by simp [extent?]⟩
    | int n =>
      cases hp
      cases hq
      exact ⟨_, rfl, by simp [extent?]⟩
    | _ => cases hq
  | _ => cases hp

theorem lasted_aboveZero {d : Value} (h : now.difference started = .ok d) :
    Lasted started now d.aboveZero where
  measured := ⟨d, h, rfl⟩
  exactly p q hp hq hpr hqr hdiff := by
    obtain ⟨d', hd', hextent⟩ := extent_difference hq hp hqr hpr hdiff
    cases h.symm.trans hd'
    exact extent_aboveZero hextent

theorem Lasted.numberAsFloat_eq {x : Binary64} (h : Lasted started now seconds)
    (hx : seconds.numberAsFloat = .ok x) : x = lapse started now := by
  obtain ⟨d, hd, rfl⟩ := h.measured
  simp only [lapse, hd, hx, Except.toOption, Option.getD_some]

theorem shows_lapse (hstarted : started.IsReading) (hnow : now.IsReading)
    (h : Lapses started now q) : (lapse started now).Shows q := by
  obtain ⟨a, b, ha, hb, har, hbr, hdiff, rfl⟩ := h
  obtain ⟨d, hd, -⟩ := hasFloat_difference hnow hstarted
  have hlasted := lasted_aboveZero hd
  have hformat : Binary64.Representable (max 0 (b - a)) := by
    rcases max_choice 0 (b - a) with hzero | hpositive
    · rw [hzero]
      exact_mod_cast Binary64.representable_intCast (n := 0) (Nat.zero_le _)
    · rw [hpositive]
      exact hdiff
  obtain ⟨x, hx, hshows⟩ :=
    numberAsFloat_shows (hlasted.exactly a b ha hb har hbr hdiff) hformat
  exact hlasted.numberAsFloat_eq hx ▸ hshows

end Value

namespace Stopwatch

variable {w : Stopwatch} {moment : Moment} {type id : String} {started : Value}

def textKey (type id : String) : Key := .item (.text type) (.item (.text id) .noItems)

/-- A stopwatch that was started at readings only, once for each transaction that runs. -/
structure Sound (w : Stopwatch) : Prop where
  distinct : w.running.Distinct
  readings : ∀ entry ∈ w.running.entries, entry.2.IsReading

theorem textKey_inj {type' id' : String} :
    textKey type id = textKey type' id' ↔ type = type' ∧ id = id' := by
  simp [textKey]

theorem key_text : key moment (.text type) (.text id) = .ok (textKey type id) := rfl

theorem start_text : w.start (.text type) (.text id) moment =
    .ok ⟨w.running.put (textKey type id) moment.now⟩ := rfl

theorem stop_of_absent (h : w.running.find? (textKey type id) = none) :
    w.stop (.text type) (.text id) moment = (.ok none, w) := by
  unfold stop
  split_ifs
  · rfl
  · simp only [key_text, h]

/-- A transaction that runs has a duration and does not run any longer. -/
theorem stop_of_running (hnow : moment.now.IsReading) (hstarted : started.IsReading)
    (h : w.running.find? (textKey type id) = some started) :
    ∃ seconds, w.stop (.text type) (.text id) moment =
        (.ok (some seconds), ⟨w.running.erase (textKey type id)⟩) ∧
      Value.Lasted started moment.now seconds ∧ seconds.HasFloat := by
  obtain ⟨d, hd, hfloat⟩ := Value.hasFloat_difference hnow hstarted
  refine ⟨d.aboveZero, ?_, Value.lasted_aboveZero hd, hfloat.aboveZero⟩
  have hentries : w.running.entries.isEmpty = false :=
    List.isEmpty_eq_false_iff.2 (List.ne_nil_of_mem (Table.mem_entries_of_find? h))
  simp only [stop, hentries, key_text, h, hstarted.ne_null, hd, Except.map]
  rfl

/-- Whatever the answer is, the transaction does not run any longer. -/
theorem stop_text : w.stop (.text type) (.text id) moment =
    (match w.running.find? (textKey type id) with
      | none => .ok none
      | some started =>
        if started.isNull then .ok none
        else (moment.now.difference started).map fun d => some d.aboveZero,
      ⟨w.running.erase (textKey type id)⟩) := by
  cases hfound : w.running.find? (textKey type id) with
  | none =>
    rw [stop_of_absent hfound, Table.erase_eq_self hfound]
  | some started =>
    have hentries : w.running.entries.isEmpty = false :=
      List.isEmpty_eq_false_iff.2 (List.ne_nil_of_mem (Table.mem_entries_of_find? hfound))
    simp only [stop, hentries, key_text, hfound]
    cases started.isNull <;> rfl

theorem Sound.reading (hw : w.Sound) (h : w.running.find? (textKey type id) = some started) :
    started.IsReading :=
  hw.readings _ (Table.mem_entries_of_find? h)

theorem sound_empty : Sound {} := ⟨List.nodup_nil, fun _ h => nomatch h⟩

theorem Sound.put (hw : w.Sound) {now : Value} (hnow : now.IsReading) (key : Key) :
    Sound ⟨w.running.put key now⟩ := by
  refine ⟨Table.distinct_put hw.distinct, fun entry hentry => ?_⟩
  rcases Table.mem_entries_put hentry with rfl | hold
  · exact hnow
  · exact hw.readings entry hold

theorem Sound.erase (hw : w.Sound) (key : Key) : Sound ⟨w.running.erase key⟩ :=
  ⟨Table.distinct_erase hw.distinct, fun entry hentry =>
    hw.readings entry (Table.mem_entries_erase hentry)⟩

end Stopwatch

end SessionTelemetry
