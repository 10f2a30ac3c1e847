import SessionTelemetry.Proofs.Metrics.Agreement

/-!
# Numbers at a meter that refuses

A publisher that drives a meter notes a number before it exports the change. Where the meter refuses
the instrument or its measurement, the call fails, and the next change is measured against a number
whose own change was never exported. So what an up-down counter has taken falls short of the number
published last by the changes that were refused (`withheld`), and a number that is accepted is the
total if and only if these changes cancel out.
-/

namespace SessionTelemetry

inductive PublisherStep.Numeric : PublisherStep → Prop where
  | publish (name : String) (n : Int) (h : n.natAbs ≤ twoTo 52) :
      Numeric (.call (.ok (.numeric (.text name) (.int n))))
  | refuse (meterName : String) (named : List String) : Numeric (.refuse meterName named)

structure Attempt where
  name : String
  number : Int
  accepted : Bool

inductive Logged : List PublisherStep → List (Except Fault Reply) → List Attempt → Prop where
  | nil : Logged [] [] []
  | accepted {steps answers log} (name : String) (n : Int) (h : Logged steps answers log) :
      Logged (.call (.ok (.numeric (.text name) (.int n))) :: steps) (.ok .ok :: answers)
        (⟨name, n, true⟩ :: log)
  | failed {steps answers log} (name : String) (n : Int) (fault : Fault)
      (h : Logged steps answers log) :
      Logged (.call (.ok (.numeric (.text name) (.int n))) :: steps)
        (.ok (.failed fault) :: answers) (⟨name, n, false⟩ :: log)
  | refuse {steps answers log} (meterName : String) (named : List String)
      (h : Logged steps answers log) :
      Logged (.refuse meterName named :: steps) (.ok (.other .null) :: answers) log

def lastNumber (name : String) (previous : Int) : List Attempt → Int
  | [] => previous
  | a :: log => lastNumber name (if a.name = name then a.number else previous) log

/-- The sum of the changes that failed under a name. Each change is against the number before it,
whether that was accepted or not. -/
def withheld (name : String) (previous : Int) : List Attempt → Int
  | [] => 0
  | a :: log =>
    if a.name = name then
      (if a.accepted then 0 else a.number - previous) + withheld name a.number log
    else withheld name previous log

theorem totals_unique {amounts : List Value} {p q : Rat} (hp : Totals amounts p)
    (hq : Totals amounts q) : p = q := by
  obtain ⟨parts, hparts, rfl⟩ := hp
  obtain ⟨others, hothers, rfl⟩ := hq
  have hinjective : Function.Injective fun part : Rat => some (Extent.finite part) :=
    fun _ _ h => Extent.finite.inj (Option.some.inj h)
  rw [hinjective.list_map (hparts.symm.trans hothers)]

section History

variable {name : String} {previous : Int} {log : List Attempt} {a : Attempt}

theorem lastNumber_concat :
    lastNumber name previous (log ++ [a]) =
      if a.name = name then a.number else lastNumber name previous log := by
  induction log generalizing previous with
  | nil => rfl
  | cons first log ih => exact ih

theorem withheld_concat_accepted (h : a.accepted) :
    withheld name previous (log ++ [a]) = withheld name previous log := by
  induction log generalizing previous with
  | nil => simp [withheld, h]
  | cons first log ih => simp only [List.cons_append, withheld, ih]

theorem withheld_of_accepted (h : ∀ e ∈ log, e.name = name → e.accepted) :
    withheld name previous log = 0 := by
  induction log generalizing previous with
  | nil => rfl
  | cons first log ih =>
    obtain ⟨hfirst, hrest⟩ := List.forall_mem_cons.1 h
    rw [withheld, ih hrest, ih hrest]
    split_ifs with hname haccepted
    · rfl
    · exact absurd (hfirst hname) haccepted
    · rfl

end History

namespace MeterLink

/-- A new instrument has taken nothing. -/
theorem create_keeping (m : Meter) (kind : InstrumentKind) (created : Value) :
    (∃ fault, create (.keeping m) kind created = .error fault) ∨
      ∃ after, create (.keeping m) kind created = .ok (.keeping after) ∧
        ∀ kind' name', after.amounts kind' name' = m.amounts kind' name' := by
  simp only [create, Meter.create]
  split_ifs
  · exact .inl ⟨_, rfl⟩
  · exact .inr ⟨_, rfl, fun _ _ => by simp [Meter.amounts]⟩

theorem measure_keeping (m : Meter) (kind : InstrumentKind) (name : String) (v : Value)
    (attributes : List (String × Value)) :
    (∃ fault, measure (.keeping m) kind (.text name) v attributes = .error fault) ∨
      ∃ after, measure (.keeping m) kind (.text name) v attributes = .ok (.keeping after) ∧
        ∀ kind' name', after.amounts kind' name' =
          m.amounts kind' name' ++ if kind = kind' ∧ name = name' then [v] else [] := by
  simp only [measure, Meter.measure]
  split_ifs
  · exact .inl ⟨_, rfl⟩
  · refine .inr ⟨_, rfl, fun kind' name' => ?_⟩
    by_cases hsame : kind = kind' ∧ name = name' <;> simp [Meter.amounts, hsame]

end MeterLink

namespace MeterPublisher

/-- The ways in which a measurement ends: the meter takes the amount, or no instrument has taken
anything. -/
inductive Measures (p : MeterPublisher) (meter : Meter) (kind : InstrumentKind) (name : String)
    (v : Value) : Result → Prop where
  | taken {q : MeterPublisher} {after : Meter} (names : q.KeepsNames)
      (lastNumeric : q.lastNumeric = p.lastNumeric)
      (amounts : ∀ kind' name', after.amounts kind' name' =
        meter.amounts kind' name' ++ if kind = kind' ∧ name = name' then [v] else []) :
      Measures p meter kind name v (.ok .ok, q, .keeping after)
  | refused {q : MeterPublisher} {after : Meter} (fault : Fault) (names : q.KeepsNames)
      (lastNumeric : q.lastNumeric = p.lastNumeric)
      (amounts : ∀ kind' name', after.amounts kind' name' = meter.amounts kind' name') :
      Measures p meter kind name v (.ok (.failed fault), q, .keeping after)

theorem measures_measure {p : MeterPublisher} (hp : p.KeepsNames) (meter : Meter)
    (hashOf : HashReader) (kind : InstrumentKind) (name : String) (v : Value)
    (attributes : List (String × Value)) :
    p.Measures meter kind name v
      (p.measure hashOf (.keeping meter) kind (.text name) (.ok v) attributes) := by
  have hkey : instrumentKey hashOf kind (.text name) = .ok (textInstrument kind name) := rfl
  unfold measure ensure
  simp only [hkey, bind, Except.bind, pure, Except.pure]
  cases hfound : p.instruments.find? (textInstrument kind name) with
  | some created =>
    obtain rfl := hp kind name created hfound
    obtain ⟨fault, hrefused⟩ | ⟨after, htaken, hamounts⟩ :=
      MeterLink.measure_keeping meter kind name v attributes
    · simp only [hrefused]
      exact .refused fault hp rfl fun _ _ => rfl
    · simp only [htaken]
      exact .taken hp rfl hamounts
  | none =>
    obtain ⟨fault, hrefused⟩ | ⟨ready, hcreated, hready⟩ :=
      MeterLink.create_keeping meter kind (.text name)
    · simp only [hrefused]
      exact .refused fault hp rfl fun _ _ => rfl
    obtain ⟨fault, hrefused⟩ | ⟨after, htaken, hamounts⟩ :=
      MeterLink.measure_keeping ready kind name v attributes
    · simp only [hcreated, hrefused]
      exact .refused fault (keepsNames_put hp) rfl hready
    · simp only [hcreated, htaken]
      exact .taken (keepsNames_put hp) rfl fun kind' name' => by rw [hamounts, hready]

end MeterPublisher

/-- What a publisher has noted and what its meter has taken, by name: the number published last,
and the total of the changes that were accepted. -/
structure Balances (previous total : String → Int) (p : MeterPublisher) (meter : Meter) : Prop where
  names : p.KeepsNames
  bounded : ∀ name, (previous name).natAbs ≤ twoTo 52
  noted : ∀ name, ((p.lastNumeric.find? (.text name)).getD .zero).Shows (previous name)
  totals : ∀ name, Totals (meter.amounts .upDown name) (total name)

inductive Published (previous total : String → Int) (name : String) (n : Int) :
    MeterPublisher.Result → Prop where
  | accepted {p meter}
      (h : Balances (Function.update previous name n)
        (Function.update total name (total name + (n - previous name))) p meter) :
      Published previous total name n (.ok .ok, p, .keeping meter)
  | failed {p meter} (fault : Fault)
      (h : Balances (Function.update previous name n) total p meter) :
      Published previous total name n (.ok (.failed fault), p, .keeping meter)

namespace Balances

variable {previous total : String → Int} {p : MeterPublisher} {meter : Meter}

theorem empty (title : String) (reference : Value) (h : meter.trace = []) :
    Balances (fun _ => 0) (fun _ => 0) { meterName := title, meter := reference } meter where
  names _ _ _ h := nomatch h
  bounded _ := Nat.zero_le _
  noted _ := Binary64.shows_zero
  totals name := by
    rw [Meter.amounts, h]
    exact totals_nil

/-- The change against the number noted last is exact. -/
theorem change (h : Balances previous total p meter) (name : String) {n : Int}
    (hn : n.natAbs ≤ twoTo 52) :
    ((Binary64.ofInt n).sub ((p.lastNumeric.find? (.text name)).getD .zero)).Shows
      (n - previous name : Int) := by
  have hdouble : twoTo 53 = twoTo 52 + twoTo 52 := twoTo_succ 52
  have hprevious := h.bounded name
  have hfits : (n - previous name).natAbs ≤ twoTo 53 := by
    have := Int.natAbs_sub_le n (previous name)
    omega
  have hshows : (Binary64.ofInt n).Shows n := Binary64.shows_ofInt (by omega)
  have hrepresentable := Binary64.representable_intCast hfits
  rw [Int.cast_sub] at hrepresentable ⊢
  exact Binary64.shows_sub hshows (h.noted name) hrepresentable

/-- The number is noted whatever comes of its change. -/
theorem noted_put (h : Balances previous total p meter) (name : String) {n : Int}
    (hn : n.natAbs ≤ twoTo 52) (name' : String) :
    (((p.lastNumeric.put (.text name) (.ofInt n)).find? (.text name')).getD .zero).Shows
      (Function.update previous name n name' : Int) := by
  rw [Table.find?_put, Function.update_apply]
  by_cases hname : name' = name
  · rw [if_pos (congrArg Key.text hname), if_pos hname]
    exact Binary64.shows_ofInt (hn.trans (twoTo_lt_twoTo (by decide)).le)
  · rw [if_neg fun heq => hname (Key.text.inj heq), if_neg hname]
    exact h.noted name'

theorem bounded_update (h : Balances previous total p meter) (name : String) {n : Int}
    (hn : n.natAbs ≤ twoTo 52) (name' : String) :
    (Function.update previous name n name').natAbs ≤ twoTo 52 := by
  rw [Function.update_apply]
  split_ifs
  exacts [hn, h.bounded name']

theorem published_of_measures (h : Balances previous total p meter) {name : String} {n : Int}
    (hn : n.natAbs ≤ twoTo 52) {result : MeterPublisher.Result}
    (hmeasured : MeterPublisher.Measures
      { p with lastNumeric := p.lastNumeric.put (.text name) (.ofInt n) } meter .upDown name
      (.float ((Binary64.ofInt n).sub ((p.lastNumeric.find? (.text name)).getD .zero))) result) :
    Published previous total name n result := by
  cases hmeasured with
  | taken names lastNumeric amounts =>
    refine .accepted ⟨names, h.bounded_update name hn, lastNumeric ▸ h.noted_put name hn,
      fun name' => ?_⟩
    rw [amounts, Function.update_apply]
    by_cases hname : name' = name
    · subst hname
      rw [if_pos rfl, if_pos ⟨rfl, rfl⟩, Int.cast_add]
      exact (h.totals name').append
        (congrArg some (Binary64.extent_of_shows (h.change name' hn)))
    · rw [if_neg hname, if_neg fun heq => hname heq.2.symm, List.append_nil]
      exact h.totals name'
  | refused fault names lastNumeric amounts =>
    refine .failed fault ⟨names, h.bounded_update name hn, lastNumeric ▸ h.noted_put name hn,
      fun name' => ?_⟩
    rw [amounts]
    exact h.totals name'

theorem publish (h : Balances previous total p meter) (name : String) {n : Int}
    (hn : n.natAbs ≤ twoTo 52) (moment : Moment) :
    Published previous total name n
      (p.publish (.keeping meter) moment (.numeric (.text name) (.int n))) := by
  have hfloat : (Value.int n).toFloat = .ok (.ofInt n) :=
    Value.floatOfInt_eq (hn.trans_lt (twoTo_lt_twoTo (by decide)))
  let noted : MeterPublisher := { p with lastNumeric := p.lastNumeric.put (.text name) (.ofInt n) }
  have hnames : noted.KeepsNames := h.names
  simp only [MeterPublisher.publish, MeterPublisher.publishNumeric, Value.toKey, hfloat]
  exact h.published_of_measures hn
    (MeterPublisher.measures_measure hnames meter moment.hashOf .upDown name _ [])

/-- Nothing that was taken is lost when a meter refuses or relents. -/
theorem refusing (h : Balances previous total p meter) (named : List String) :
    Balances previous total p (meter.refusing named) :=
  ⟨h.names, h.bounded, h.noted, h.totals⟩

end Balances

namespace Publisher

/-- What a run leaves behind: for each name, the changes against the number published last that
were not withheld have been added to the total. -/
structure Leaves (previous total : String → Int) (log : List Attempt) (meterName : String)
    (b : MetricBackends) (p : MeterPublisher) : Prop where
  reference : p.meter = .meter meterName
  balances : Balances (fun name => lastNumber name (previous name) log)
    (fun name => total name + (lastNumber name (previous name) log - previous name) -
      withheld name (previous name) log) p (b.meters meterName)

variable {meterName title : String} {b : MetricBackends} {p : MeterPublisher}
  {previous total : String → Int} {steps : List PublisherStep}

theorem leaves_nil (hreference : p.meter = .meter meterName)
    (h : Balances previous total p (b.meters meterName)) :
    Leaves previous total [] meterName b p := by
  refine ⟨hreference, ?_⟩
  simpa [lastNumber, withheld] using h

/-- A run starts with an attempt, whose change is added to the total if it is accepted. -/
theorem Leaves.cons {a : Attempt} {log : List Attempt} {after : String → Int}
    (hafter : ∀ name, after name =
      total name + if a.name = name ∧ a.accepted then a.number - previous name else 0)
    (h : Leaves (Function.update previous a.name a.number) after log meterName b p) :
    Leaves previous total (a :: log) meterName b p := by
  refine ⟨h.reference, ?_⟩
  convert h.balances using 2 with name name
  · simp only [lastNumber, Function.update_apply, eq_comm]
  · by_cases hname : a.name = name
    · subst hname
      rw [lastNumber, withheld, hafter, Function.update_self, if_pos rfl, if_pos rfl]
      by_cases haccepted : a.accepted
      · rw [if_pos haccepted, if_pos ⟨rfl, haccepted⟩]
        omega
      · rw [if_neg haccepted, if_neg fun h => haccepted h.2]
        omega
    · rw [lastNumber, withheld, hafter, Function.update_of_ne (Ne.symm hname), if_neg hname,
        if_neg hname, if_neg fun h => hname h.1, add_zero]

theorem take_publish (hreference : p.meter = .meter meterName)
    (h : Balances previous total p (b.meters meterName)) (name : String) {n : Int}
    (hn : n.natAbs ≤ twoTo 52) :
    ∃ reply c q, take b (meter p) (.call (.ok (.numeric (.text name) (.int n)))) =
        ⟨.ok reply, meter q, c, []⟩ ∧ q.meter = .meter meterName ∧
      (reply = .ok ∧ Balances (Function.update previous name n)
          (Function.update total name (total name + (n - previous name))) q (c.meters meterName) ∨
        ∃ fault, reply = .failed fault ∧
          Balances (Function.update previous name n) total q (c.meters meterName)) := by
  have hpublished := h.publish name hn b.moment
  have hkept : (p.publish (.keeping (b.meters meterName)) b.moment
      (.numeric (.text name) (.int n))).2.1.meter = .meter meterName :=
    (MeterPublisher.meter_publish _ _).trans hreference
  simp only [take, respond, hreference, MetricBackends.meterLink]
  generalize p.publish (.keeping (b.meters meterName)) b.moment (.numeric (.text name) (.int n)) =
    result at hpublished hkept
  cases hpublished with
  | @accepted q after hbalances =>
    refine ⟨.ok, b.setMeter meterName after, q, ?_, hkept, .inl ⟨rfl, ?_⟩⟩
    · rw [hkept]
      rfl
    · simpa only [MetricBackends.setMeter, if_true] using hbalances
  | @failed q after fault hbalances =>
    refine ⟨.failed fault, b.setMeter meterName after, q, ?_, hkept, .inr ⟨fault, rfl, ?_⟩⟩
    · rw [hkept]
      rfl
    · simpa only [MetricBackends.setMeter, if_true] using hbalances

theorem balances_refuse (h : Balances previous total p (b.meters meterName)) (other : String)
    (named : List String) :
    Balances previous total p
      ((b.setMeter other ((b.meters other).refusing named)).meters meterName) := by
  simp only [MetricBackends.setMeter]
  split_ifs with hname
  · exact hname ▸ h.refusing named
  · exact h

/-- Every call is accepted or fails, and the run leaves behind what its attempts say. -/
theorem leaves_takeAll (hreference : p.meter = .meter meterName)
    (h : Balances previous total p (b.meters meterName)) (hsteps : ∀ step ∈ steps, step.Numeric) :
    ∃ answers log c q, takeAll b (meter p) steps = (answers, c, meter q) ∧
      Logged steps answers log ∧ Leaves previous total log meterName c q := by
  induction steps generalizing b p previous total with
  | nil => exact ⟨[], [], b, p, rfl, .nil, leaves_nil hreference h⟩
  | cons step rest ih =>
    obtain ⟨hstep, hrest⟩ := List.forall_mem_cons.1 hsteps
    cases hstep with
    | refuse other named =>
      obtain ⟨answers, log, c, q, hrun, hlogged, hleaves⟩ :=
        ih hreference (balances_refuse h other named) hrest
      refine ⟨_, log, c, q, ?_, .refuse other named hlogged, hleaves⟩
      simp only [takeAll, take, hrun]
    | publish name n hn =>
      obtain ⟨_, _, _, htake, hkept, ⟨rfl, hbalances⟩ | ⟨fault, rfl, hbalances⟩⟩ :=
        take_publish hreference h name hn
      · obtain ⟨answers, log, c, q, hrun, hlogged, hleaves⟩ := ih hkept hbalances hrest
        refine ⟨_, _, c, q, ?_, .accepted name n hlogged, hleaves.cons fun name' => ?_⟩
        · simp only [takeAll, htake, hrun]
        · by_cases hname : name' = name
          · subst hname
            simp
          · simp [hname, Ne.symm hname]
      · obtain ⟨answers, log, c, q, hrun, hlogged, hleaves⟩ := ih hkept hbalances hrest
        refine ⟨_, _, c, q, ?_, .failed name n fault hlogged, hleaves.cons fun name' => ?_⟩
        · simp only [takeAll, htake, hrun]
        · simp

/-- Integers are published in any order with arbitrary names, while meters refuse and relent. Every
call is accepted or fails, and after it the up-down counter of a name has taken the number published
last under that name less the changes that were withheld. So an accepted number is the total if and
only if what was withheld before it cancels out, and it is if all earlier calls of its name were
accepted. -/
theorem total_of_published (hmeter : (b.meters meterName).trace = [])
    (hsteps : ∀ step ∈ steps, step.Numeric) :
    ∃ answers log c q,
      takeAll b (meter { meterName := title, meter := .meter meterName }) steps =
        (answers, c, meter q) ∧
      Logged steps answers log ∧
      (∀ name, Totals ((c.meters meterName).amounts .upDown name)
        (lastNumber name 0 log - withheld name 0 log)) ∧
      ∀ earlier a, log = earlier ++ [a] → a.accepted →
        (Totals ((c.meters meterName).amounts .upDown a.name) a.number ↔
          withheld a.name 0 earlier = 0) ∧
        ((∀ e ∈ earlier, e.name = a.name → e.accepted) →
          Totals ((c.meters meterName).amounts .upDown a.name) a.number) := by
  obtain ⟨answers, log, c, q, hrun, hlogged, -, hbalances⟩ :=
    leaves_takeAll (p := { meterName := title, meter := .meter meterName }) rfl
      (Balances.empty title _ hmeter) hsteps
  have htotals : ∀ name, Totals ((c.meters meterName).amounts .upDown name)
      (lastNumber name 0 log - withheld name 0 log) := by
    intro name
    have := hbalances.totals name
    simpa using this
  refine ⟨answers, log, c, q, hrun, hlogged, htotals, ?_⟩
  rintro earlier a rfl haccepted
  have htotal := htotals a.name
  rw [lastNumber_concat, if_pos rfl, withheld_concat_accepted haccepted] at htotal
  have hiff : Totals ((c.meters meterName).amounts .upDown a.name) a.number ↔
      withheld a.name 0 earlier = 0 := by
    constructor
    · intro h
      have := totals_unique htotal h
      simpa using this
    · intro h
      simpa [h] using htotal
  exact ⟨hiff, fun h => hiff.2 (withheld_of_accepted h)⟩

def refusedOnce : List PublisherStep :=
  [.refuse "main" ["updown.add"], .call (.ok (.numeric (.text "load") (.int 5))),
    .refuse "main" [], .call (.ok (.numeric (.text "load") (.int 7)))]

theorem total_of_published_refusedOnce :
    (({} : MetricBackends).meters "main").trace = [] ∧ (∀ step ∈ refusedOnce, step.Numeric) ∧
      ∃ answers log c q,
        takeAll {} (meter { meterName := "metrics", meter := .meter "main" }) refusedOnce =
          (answers, c, meter q) ∧
        Logged refusedOnce answers log ∧
        ∀ name, Totals ((c.meters "main").amounts .upDown name)
          (lastNumber name 0 log - withheld name 0 log) := by
  have hsteps : ∀ step ∈ refusedOnce, step.Numeric := by
    unfold refusedOnce
    simp only [List.forall_mem_cons]
    exact ⟨.refuse _ _, .publish "load" 5 (by decide), .refuse _ _, .publish "load" 7 (by decide),
      nofun⟩
  obtain ⟨answers, log, c, q, hrun, hlogged, htotals, -⟩ :=
    total_of_published (b := {}) rfl hsteps
  exact ⟨rfl, hsteps, answers, log, c, q, hrun, hlogged, htotals⟩

/-- The second number is accepted, but the change that was taken is 2. -/
theorem accepted_of_refusedOnce :
    let (answers, c, _) :=
      takeAll {} (meter { meterName := "metrics", meter := .meter "main" }) refusedOnce
    answers.getLast? = some (.ok .ok) ∧
      Totals ((c.meters "main").amounts .upDown "load") 2 ∧
      ¬ Totals ((c.meters "main").amounts .upDown "load") 7 := by
  have htotal : Totals (((takeAll {} (meter { meterName := "metrics", meter := .meter "main" })
      refusedOnce).2.1.meters "main").amounts .upDown "load") 2 := by
    refine ⟨[2], ?_, by simp⟩
    decide +kernel
  exact ⟨rfl, htotal, fun h => absurd (totals_unique htotal h) (by decide)⟩

end Publisher

end SessionTelemetry
