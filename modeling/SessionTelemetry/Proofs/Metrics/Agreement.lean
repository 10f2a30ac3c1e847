import Mathlib.Data.List.Forall2
import SessionTelemetry.Metrics.Steps
import SessionTelemetry.Proofs.Metrics.Division
import SessionTelemetry.Proofs.Metrics.Transactions

/-!
# What is remembered is what is measured

A publisher that remembers and one that drives a meter take the same calls. The last number under a
name is the total of the changes that the meter was told of, counters have the same totals, and the
durations are those that the histograms recorded. `Agree` is kept by every call; it holds that the
number that was noted for the next change is the one published last.
-/

namespace SessionTelemetry

def Totals (amounts : List Value) (q : Rat) : Prop :=
  ∃ parts : List Rat, amounts.map Value.extent? = parts.map (fun part => some (.finite part)) ∧
    parts.sum = q

inductive Accounts : List Value → Option Value → Prop where
  | none : Accounts [] none
  | some {amounts : List Value} {total : Value} (q : Rat) (hne : amounts ≠ [])
      (htotal : total.extent? = some (.finite q)) (hsum : Totals amounts q) :
      Accounts amounts (some total)

structure Recorded where
  name : Value
  value : Value
  attributes : List (String × Value)

/-- A histogram was given a duration: in milliseconds, and exactly so where floats can hold it. -/
structure Exported (d : Duration) (r : Recorded) : Prop where
  name : r.name = d.type
  attributes : r.attributes = [("transaction", d.type)]
  value : ∃ x, d.seconds.numberAsFloat = .ok x ∧ r.value = .float (x.mul (.ofInt 1000))
  exactly : ∀ q, d.seconds.extent? = some (.finite q) → Binary64.Representable q →
    Binary64.Representable (q * 1000) → r.value.extent? = some (.finite (q * 1000))

namespace Meter

def amounts (m : Meter) (kind : InstrumentKind) (name : String) : List Value :=
  m.trace.filterMap fun
    | .taken k (.text t) v _ => if k = kind ∧ t = name then some v else none
    | _ => none

def recorded (m : Meter) : List Recorded :=
  m.trace.filterMap fun
    | .taken .histogram name v attributes => some ⟨name, v, attributes⟩
    | _ => none

structure Willing (m : Meter) : Prop where
  instruments : m.refusedInstruments = []
  measurements : m.refusedMeasurements = []

end Meter

/-- A call about texts, as the services make them: numbers are integers of a bounded size. -/
inductive MetricCall.Plain : MetricCall → Prop where
  | numeric (name : String) (n : Int) (h : n.natAbs ≤ twoTo 52) :
      Plain (.numeric (.text name) (.int n))
  | incremental (name : String) (delta : Option Int) :
      Plain (.incremental (.text name) (delta.map .int))
  | start (type id : String) : Plain (.start (.text type) (.text id))
  | finish (type id : String) : Plain (.finish (.text type) (.text id))

inductive PublisherStep.Plain : PublisherStep → Prop where
  | call {c : MetricCall} (h : c.Plain) : Plain (.call (.ok c))
  | tick {now : Value} (h : now.IsReading) : Plain (.tick now)

def PublisherStep.accepted : PublisherStep → Reply
  | .call _ => .ok
  | _ => .other .null

theorem totals_nil : Totals [] 0 := ⟨[], rfl, rfl⟩

theorem Totals.append {amounts : List Value} {v : Value} {p q : Rat} (h : Totals amounts p)
    (hv : v.extent? = some (.finite q)) : Totals (amounts ++ [v]) (p + q) := by
  obtain ⟨parts, hparts, rfl⟩ := h
  exact ⟨parts ++ [q], by simp [hparts, hv], by simp⟩

/-- A total grows by the next amount; the first amount is a total. -/
theorem accounts_append {amounts : List Value} {c : Option Counter} {name : Value}
    (h : Accounts amounts (c.map fun c => .int c.total)) (amount : Int) :
    Accounts (amounts ++ [.int amount])
      (some (.int ((c.getD { name }).total + amount))) := by
  cases c with
  | none =>
    cases h
    exact .some (0 + amount : Int) (by simp) rfl
      (by simpa using totals_nil.append (v := .int amount) rfl)
  | some c =>
    obtain _ | ⟨q, -, htotal, hsum⟩ := h
    obtain rfl : (c.total : Rat) = q := by simpa [Value.extent?] using htotal
    exact .some (c.total + amount : Int) (by simp) rfl
      (by simpa using hsum.append (v := .int amount) rfl)

theorem exported {d : Duration} {x : Binary64} (hx : d.seconds.numberAsFloat = .ok x) :
    Exported d ⟨d.type, .float (x.mul (.ofInt 1000)), [("transaction", d.type)]⟩ where
  name := rfl
  attributes := rfl
  value := ⟨x, hx, rfl⟩
  exactly q hq hformat hproduct := by
    obtain ⟨y, hy, hshows⟩ := Value.numberAsFloat_shows hq hformat
    cases hx.symm.trans hy
    have hthousand : (Binary64.ofInt 1000).Shows 1000 := by
      exact_mod_cast Binary64.shows_ofInt (n := 1000) (by decide)
    exact congrArg some (Binary64.extent_of_shows (Binary64.shows_mul hshows hthousand hproduct))

namespace MeterPublisher

variable {p q : MeterPublisher} {meter after : Meter} {hashOf : HashReader}
  {kind : InstrumentKind} {name : String} {v : Value} {attributes : List (String × Value)}

def textInstrument (kind : InstrumentKind) (name : String) : Key :=
  .item (.text kind.word) (.item (.text name) .noItems)

def KeepsNames (p : MeterPublisher) : Prop :=
  ∀ kind name created, p.instruments.find? (textInstrument kind name) = some created →
    created = .text name

/-- An instrument, created if there was none, has taken one more measurement, and nothing else has
happened. -/
structure Took (p : MeterPublisher) (meter : Meter) (kind : InstrumentKind) (name : String)
    (v : Value) (attributes : List (String × Value)) (q : MeterPublisher) (after : Meter) :
    Prop where
  names : q.KeepsNames
  lastNumeric : q.lastNumeric = p.lastNumeric
  transactions : q.transactions = p.transactions
  willing : after.Willing
  trace : ∃ made, (made = [] ∨ made = [.created kind (.text name)]) ∧
    after.trace = meter.trace ++ (made ++ [.taken kind (.text name) v attributes])

theorem keepsNames_put (h : p.KeepsNames) :
    KeepsNames { p with instruments := p.instruments.put (textInstrument kind name) (.text name) }
    := by
  intro kind' name' created hfound
  rw [Table.find?_put] at hfound
  split_ifs at hfound with hkey
  · simp only [textInstrument, Key.item.injEq, Key.text.injEq] at hkey
    rw [hkey.2.1, ← Option.some.inj hfound]
  · exact h kind' name' created hfound

theorem measure_text (hmeter : meter.Willing) (hp : p.KeepsNames) (hashOf : HashReader)
    (kind : InstrumentKind) (name : String) (v : Value) (attributes : List (String × Value)) :
    ∃ q after, p.measure hashOf (.keeping meter) kind (.text name) (.ok v) attributes =
        (.ok .ok, q, .keeping after) ∧ p.Took meter kind name v attributes q after := by
  have hkey : instrumentKey hashOf kind (.text name) = .ok (textInstrument kind name) := rfl
  have hcreate : ∀ k n, meter.create k n =
      .ok { meter with trace := meter.trace ++ [.created k n] } := fun k n => by
    simp [Meter.create, hmeter.instruments]
  have hmeasure : ∀ m : Meter, m.refusedMeasurements = [] → ∀ n,
      m.measure kind n v attributes =
        .ok { m with trace := m.trace ++ [.taken kind n v attributes] } := fun m hm n => by
    simp [Meter.measure, hm]
  unfold measure ensure
  simp only [hkey, bind, Except.bind]
  cases hfound : p.instruments.find? (textInstrument kind name) with
  | some created =>
    obtain rfl := hp kind name created hfound
    refine ⟨p, { meter with trace := meter.trace ++ [.taken kind (.text name) v attributes] }, ?_,
      hp, rfl, rfl, ⟨hmeter.instruments, hmeter.measurements⟩, [], .inl rfl, rfl⟩
    simp [pure, Except.pure, MeterLink.measure, hmeasure meter hmeter.measurements, Except.map]
  | none =>
    refine ⟨{ p with instruments := p.instruments.put (textInstrument kind name) (.text name) },
      { meter with trace := meter.trace ++ [.created kind (.text name),
        .taken kind (.text name) v attributes] }, ?_, keepsNames_put hp, rfl, rfl,
      ⟨hmeter.instruments, hmeter.measurements⟩, [.created kind (.text name)], .inr rfl, rfl⟩
    simp [pure, Except.pure, MeterLink.create, hcreate, Except.map, MeterLink.measure,
      hmeasure { meter with trace := meter.trace ++ [.created kind (.text name)] }
        hmeter.measurements]

namespace Took

variable (h : p.Took meter kind name v attributes q after)

include h

theorem filterMap_trace {β : Type} (f : Measurement → Option β)
    (hcreated : ∀ k n, f (.created k n) = none) :
    after.trace.filterMap f =
      meter.trace.filterMap f ++ (f (.taken kind (.text name) v attributes)).toList := by
  obtain ⟨made, hmade, htrace⟩ := h.trace
  have hmadeNone : made.filterMap f = [] := by
    rcases hmade with rfl | rfl <;> simp [hcreated]
  rw [htrace, List.filterMap_append, List.filterMap_append, hmadeNone, List.nil_append]
  cases hf : f (.taken kind (.text name) v attributes) <;> simp [hf]

theorem amounts_self : after.amounts kind name = meter.amounts kind name ++ [v] := by
  rw [Meter.amounts, h.filterMap_trace _ fun _ _ => rfl]
  simp [Meter.amounts]

theorem amounts_of_ne {kind' : InstrumentKind} {name' : String}
    (hne : ¬ (kind = kind' ∧ name = name')) :
    after.amounts kind' name' = meter.amounts kind' name' := by
  rw [Meter.amounts, h.filterMap_trace _ fun _ _ => rfl]
  simp [Meter.amounts, hne]

theorem recorded_of_ne (hne : kind ≠ .histogram) : after.recorded = meter.recorded := by
  rw [Meter.recorded, h.filterMap_trace _ fun _ _ => rfl]
  cases kind <;> simp [Meter.recorded] at hne ⊢

theorem recorded_histogram (hkind : kind = .histogram) :
    after.recorded = meter.recorded ++ [⟨.text name, v, attributes⟩] := by
  subst hkind
  rw [Meter.recorded, h.filterMap_trace _ fun _ _ => rfl]
  simp [Meter.recorded]

end Took

end MeterPublisher

/-- The amounts of a name, the number published last and the number noted for the next change: all
three come with the first number, and from then on the numbers are the total. -/
inductive Level : List Value → Option Value → Option Binary64 → Prop where
  | unset : Level [] none none
  | set {amounts : List Value} {x : Binary64} (n : Int) (hsize : n.natAbs ≤ twoTo 52)
      (hx : x.Shows n) (hne : amounts ≠ []) (hsum : Totals amounts n) :
      Level amounts (some (.int n)) (some x)

namespace Level

variable {amounts : List Value} {last : Option Value} {noted : Option Binary64}

theorem accounts (h : Level amounts last noted) : Accounts amounts last := by
  cases h with
  | unset => exact .none
  | set n hsize hx hne hsum => exact .some n hne rfl hsum

/-- What is subtracted from the next number is the total of the amounts so far. -/
theorem previous (h : Level amounts last noted) :
    ∃ n : Int, n.natAbs ≤ twoTo 52 ∧ (noted.getD .zero).Shows n ∧ Totals amounts n := by
  cases h with
  | unset => exact ⟨0, Nat.zero_le _, Binary64.shows_zero, totals_nil⟩
  | set n hsize hx hne hsum => exact ⟨n, hsize, hx, hsum⟩

/-- The change is exact, so that the next number is the total once more. -/
theorem next (h : Level amounts last noted) {n : Int} (hsize : n.natAbs ≤ twoTo 52) :
    Level (amounts ++ [.float ((Binary64.ofInt n).sub (noted.getD .zero))]) (some (.int n))
      (some (Binary64.ofInt n)) := by
  obtain ⟨k, hk, hshows, hsum⟩ := h.previous
  have hdouble : twoTo 53 = twoTo 52 + twoTo 52 := twoTo_succ 52
  have hfits : (n - k).natAbs ≤ twoTo 53 := by
    have := Int.natAbs_sub_le n k
    omega
  have hn : (Binary64.ofInt n).Shows n := Binary64.shows_ofInt (by omega)
  have hchange := Binary64.shows_sub hn hshows
    (by exact_mod_cast Binary64.representable_intCast hfits)
  have htotal := hsum.append (v := .float _) (congrArg some (Binary64.extent_of_shows hchange))
  rw [add_sub_cancel] at htotal
  exact .set n hsize hn (by simp) htotal

end Level

structure Agree (m : MemoryPublisher) (p : MeterPublisher) (meter : Meter) : Prop where
  willing : meter.Willing
  names : p.KeepsNames
  clocks : p.transactions = m.transactions
  sound : m.transactions.Sound
  levels : ∀ name, Level (meter.amounts .upDown name) (m.lastNumeric? (.text name))
    (p.lastNumeric.find? (.text name))
  counters : ∀ name, Accounts (meter.amounts .counter name)
    ((m.counters.find? (.text name)).map fun c => .int c.total)
  durations : List.Forall₂ Exported m.durations meter.recorded

def BothAccept (m : MemoryPublisher) (p : MeterPublisher) (meter : Meter) (moment : Moment)
    (call : MetricCall) : Prop :=
  ∃ m' p' after, m.publish moment call = (.ok .ok, m') ∧
    p.publish (.keeping meter) moment call = (.ok .ok, p', .keeping after) ∧ Agree m' p' after

theorem MemoryPublisher.lastNumeric?_append {m : MemoryPublisher} (name name' : String)
    (v : Value) :
    lastNumeric? { m with numeric := m.numeric ++ [(.text name, v)] } (.text name') =
      if name = name' then some v else m.lastNumeric? (.text name') := by
  have hsame : (Value.text name).sameAs (.text name') = (name == name') := by
    simp [Value.sameAs, Value.agrees]
  unfold lastNumeric?
  rw [List.reverse_append, List.reverse_singleton, List.singleton_append, List.find?_cons, hsame]
  by_cases h : name = name'
  · simp [h]
  · rw [beq_false_of_ne h, if_neg h]

namespace Agree

variable {m : MemoryPublisher} {p p' noted : MeterPublisher} {meter after : Meter} {moment : Moment}
  {kind : InstrumentKind} {v : Value} {attributes : List (String × Value)}

theorem levels_of_took (h : Agree m p meter) {name : String}
    (htook : noted.Took meter kind name v attributes p' after)
    (hnoted : noted.lastNumeric = p.lastNumeric) (hkind : kind ≠ .upDown) (name' : String) :
    Level (after.amounts .upDown name') (m.lastNumeric? (.text name'))
      (p'.lastNumeric.find? (.text name')) := by
  rw [htook.amounts_of_ne fun heq => hkind heq.1, htook.lastNumeric, hnoted]
  exact h.levels name'

theorem counters_of_took (h : Agree m p meter) {name : String}
    (htook : noted.Took meter kind name v attributes p' after) (hkind : kind ≠ .counter)
    (name' : String) :
    Accounts (after.amounts .counter name')
      ((m.counters.find? (.text name')).map fun c => .int c.total) := by
  rw [htook.amounts_of_ne fun heq => hkind heq.1]
  exact h.counters name'

theorem numeric (h : Agree m p meter) (name : String) {n : Int} (hn : n.natAbs ≤ twoTo 52) :
    BothAccept m p meter moment (.numeric (.text name) (.int n)) := by
  have hfloat : (Value.int n).toFloat = .ok (.ofInt n) :=
    Value.floatOfInt_eq (hn.trans_lt (twoTo_lt_twoTo (by decide)))
  -- the number is noted before the change against the previous one is measured
  let m' : MemoryPublisher := { m with numeric := m.numeric ++ [(.text name, .int n)] }
  let noted : MeterPublisher := { p with lastNumeric := p.lastNumeric.put (.text name) (.ofInt n) }
  let change := (Binary64.ofInt n).sub ((p.lastNumeric.find? (.text name)).getD .zero)
  obtain ⟨p', after, hmeasured, htook⟩ := MeterPublisher.measure_text (p := noted) h.willing h.names
    moment.hashOf .upDown name (.float change) []
  have hpublished : p.publish (.keeping meter) moment (.numeric (.text name) (.int n)) =
      (.ok .ok, p', .keeping after) := by
    simp only [MeterPublisher.publish, MeterPublisher.publishNumeric, Value.toKey, hfloat]
    exact hmeasured
  have hlevels : ∀ name', Level (after.amounts .upDown name') (m'.lastNumeric? (.text name'))
      (p'.lastNumeric.find? (.text name')) := by
    intro name'
    rw [MemoryPublisher.lastNumeric?_append, htook.lastNumeric, Table.find?_put]
    by_cases hname : name = name'
    · subst hname
      rw [htook.amounts_self, if_pos rfl, if_pos rfl]
      exact (h.levels name).next hn
    · rw [htook.amounts_of_ne fun heq => hname heq.2, if_neg hname,
        if_neg fun heq => hname (Key.text.inj heq).symm]
      exact h.levels name'
  have hdurations : List.Forall₂ Exported m'.durations after.recorded := by
    rw [htook.recorded_of_ne (by decide)]
    exact h.durations
  exact ⟨m', p', after, rfl, hpublished, htook.willing, htook.names,
    htook.transactions.trans h.clocks, h.sound, hlevels, h.counters_of_took htook (by decide),
    hdurations⟩

theorem incremental (h : Agree m p meter) (name : String) (delta : Option Int) :
    BothAccept m p meter moment (.incremental (.text name) (delta.map .int)) := by
  have hamount : (delta.map Value.int).getD (.int 1) = .int (delta.getD 1) := by
    cases delta <;> rfl
  let before := (m.counters.find? (.text name)).getD { name := .text name }
  let counter : Counter := { before with total := before.total + delta.getD 1 }
  let m' : MemoryPublisher := { m with counters := m.counters.put (.text name) counter }
  obtain ⟨p', after, hmeasured, htook⟩ := MeterPublisher.measure_text h.willing h.names
    moment.hashOf .counter name (.int (delta.getD 1)) []
  have hremembered : m.publish moment (.incremental (.text name) (delta.map .int)) =
      (.ok .ok, m') := by
    simp only [MemoryPublisher.publish, MemoryPublisher.increment, hamount]
    rfl
  have hpublished : p.publish (.keeping meter) moment (.incremental (.text name) (delta.map .int)) =
      (.ok .ok, p', .keeping after) := by
    simp only [MeterPublisher.publish, hamount]
    exact hmeasured
  have hcounters : ∀ name', Accounts (after.amounts .counter name')
      ((m'.counters.find? (.text name')).map fun c => .int c.total) := by
    intro name'
    rw [Table.find?_put]
    by_cases hname : name = name'
    · subst hname
      rw [htook.amounts_self, if_pos rfl]
      exact accounts_append (h.counters name) (delta.getD 1)
    · rw [htook.amounts_of_ne fun heq => hname heq.2,
        if_neg fun heq => hname (Key.text.inj heq).symm]
      exact h.counters name'
  have hdurations : List.Forall₂ Exported m'.durations after.recorded := by
    rw [htook.recorded_of_ne (by decide)]
    exact h.durations
  exact ⟨m', p', after, hremembered, hpublished, htook.willing, htook.names,
    htook.transactions.trans h.clocks, h.sound, h.levels_of_took htook rfl (by decide), hcounters,
    hdurations⟩

theorem start (h : Agree m p meter) (hnow : moment.now.IsReading) (type id : String) :
    BothAccept m p meter moment (.start (.text type) (.text id)) := by
  let w : Stopwatch := ⟨m.transactions.running.put (Stopwatch.textKey type id) moment.now⟩
  refine ⟨{ m with transactions := w }, { p with transactions := w }, meter, rfl, ?_,
    { h with clocks := rfl, sound := h.sound.put hnow _ }⟩
  simp only [MeterPublisher.publish, h.clocks, Stopwatch.start_text]
  rfl

theorem finish (h : Agree m p meter) (hnow : moment.now.IsReading) (type id : String) :
    BothAccept m p meter moment (.finish (.text type) (.text id)) := by
  simp only [BothAccept, MemoryPublisher.publish, MeterPublisher.publish, h.clocks]
  cases hfound : m.transactions.running.find? (Stopwatch.textKey type id) with
  | none =>
    -- no duration is remembered, and nothing is measured
    rw [Stopwatch.stop_of_absent hfound]
    exact ⟨m, { p with transactions := m.transactions }, meter, rfl, rfl, { h with clocks := rfl }⟩
  | some started =>
    obtain ⟨seconds, hstop, -, x, hx⟩ :=
      Stopwatch.stop_of_running hnow (h.sound.reading hfound) hfound
    rw [hstop]
    let w : Stopwatch := ⟨m.transactions.running.erase (Stopwatch.textKey type id)⟩
    let d : Duration := ⟨.text type, .text id, seconds⟩
    obtain ⟨p', after, hmeasured, htook⟩ := MeterPublisher.measure_text
      (p := { p with transactions := w }) h.willing h.names moment.hashOf .histogram type
      (.float (x.mul (.ofInt 1000))) [("transaction", .text type)]
    have hdurations : List.Forall₂ Exported (m.durations ++ [d]) after.recorded := by
      rw [htook.recorded_histogram rfl]
      exact List.rel_append h.durations (.cons (exported (d := d) hx) .nil)
    refine ⟨{ m with transactions := w, durations := m.durations ++ [d] }, p', after, rfl, ?_,
      htook.willing, htook.names, htook.transactions, h.sound.erase _,
      h.levels_of_took htook rfl (by decide), h.counters_of_took htook (by decide), hdurations⟩
    simp only [MeterPublisher.inMilliseconds, hx]
    exact hmeasured

theorem publish (h : Agree m p meter) (hnow : moment.now.IsReading) {call : MetricCall}
    (hcall : call.Plain) : BothAccept m p meter moment call := by
  cases hcall with
  | numeric name n hn => exact h.numeric name hn
  | incremental name delta => exact h.incremental name delta
  | start type id => exact h.start hnow type id
  | finish type id => exact h.finish hnow type id

theorem empty (title : String) (reference : Value) :
    Agree {} { meterName := title, meter := reference } {} where
  willing := ⟨rfl, rfl⟩
  names _ _ _ h := nomatch h
  clocks := rfl
  sound := Stopwatch.sound_empty
  levels _ := .unset
  counters _ := .none
  durations := .nil

end Agree

namespace Publisher

def takeAll (b : MetricBackends) (p : Publisher) :
    List PublisherStep → List (Except Fault Reply) × MetricBackends × Publisher
  | [] => ([], b, p)
  | step :: rest =>
    let answer := take b p step
    let (replies, left) := takeAll answer.shared answer.publisher rest
    (answer.reply :: replies, left)

/-- Two publishers that agree, each beside a shared state of its own, under the same clock. -/
structure Abreast (meterName : String) (b : MetricBackends) (m : MemoryPublisher)
    (c : MetricBackends) (p : MeterPublisher) : Prop where
  agree : Agree m p (c.meters meterName)
  reference : p.meter = .meter meterName
  moment : c.moment = b.moment
  now : b.moment.now.IsReading

variable {meterName title : String} {b c : MetricBackends} {m : MemoryPublisher}
  {p : MeterPublisher} {steps : List PublisherStep}

theorem Abreast.take (h : Abreast meterName b m c p) {step : PublisherStep} (hstep : step.Plain) :
    ∃ b' m' c' p', take b (memory m) step = ⟨.ok step.accepted, memory m', b', []⟩ ∧
      take c (meter p) step = ⟨.ok step.accepted, meter p', c', []⟩ ∧
      Abreast meterName b' m' c' p' := by
  cases hstep with
  | @tick now hnow =>
    exact ⟨b.tick now, m, c.tick now, p, rfl, rfl, h.agree, h.reference,
      congrArg (fun moment : Moment => { moment with now }) h.moment, hnow⟩
  | @call call hcall =>
    obtain ⟨m', p', after, hm, hp, hagree⟩ := h.agree.publish h.now hcall
    have hreference : p'.meter = .meter meterName := by
      have hkept : (p.publish (.keeping (c.meters meterName)) b.moment call).2.1.meter = p.meter :=
        MeterPublisher.meter_publish _ _
      rw [hp] at hkept
      exact hkept.trans h.reference
    refine ⟨b, m', c.setMeter meterName after, p', ?_, ?_, ?_, hreference, h.moment, h.now⟩
    · simp only [Publisher.take, respond, hm]
      rfl
    · simp only [Publisher.take, respond, h.reference, MetricBackends.meterLink, h.moment, hp,
        hreference]
      rfl
    · simpa only [MetricBackends.setMeter, if_true] using hagree

theorem Abreast.takeAll (h : Abreast meterName b m c p) (hsteps : ∀ step ∈ steps, step.Plain) :
    ∃ b' m' c' p',
      takeAll b (memory m) steps = (steps.map fun step => .ok step.accepted, b', memory m') ∧
      takeAll c (meter p) steps = (steps.map fun step => .ok step.accepted, c', meter p') ∧
      Abreast meterName b' m' c' p' := by
  induction steps generalizing b m c p with
  | nil => exact ⟨b, m, c, p, rfl, rfl, h⟩
  | cons step rest ih =>
    obtain ⟨b', m', c', p', hm, hp, hnext⟩ := h.take (hsteps step List.mem_cons_self)
    obtain ⟨b'', m'', c'', p'', hms, hps, hlast⟩ :=
      ih hnext fun s hs => hsteps s (List.mem_cons_of_mem _ hs)
    refine ⟨b'', m'', c'', p'', ?_, ?_, hlast⟩
    · simp only [Publisher.takeAll, hm, hms, List.map_cons]
    · simp only [Publisher.takeAll, hp, hps, List.map_cons]

/-- A publisher that remembers and one that drives a meter of its own, under the same clock, accept
every call of any steps. After them, and so after any of their prefixes, the number last remembered
under a name is the total of the changes that the up-down counter of that name has taken, and there
is one if and only if there are changes; the counters have the same totals; and the durations are,
one for one, what the histograms have recorded in milliseconds. -/
theorem memory_agrees_with_meter (hmeter : b.meters meterName = {})
    (hnow : b.moment.now.IsReading) (hsteps : ∀ step ∈ steps, step.Plain) :
    ∃ b' m c p,
      takeAll b (memory {}) steps = (steps.map fun step => .ok step.accepted, b', memory m) ∧
      takeAll b (meter { meterName := title, meter := .meter meterName }) steps =
        (steps.map fun step => .ok step.accepted, c, meter p) ∧
      (∀ name, Accounts ((c.meters meterName).amounts .upDown name)
        (m.lastNumeric? (.text name))) ∧
      (∀ name, Accounts ((c.meters meterName).amounts .counter name)
        ((m.counters.find? (.text name)).map fun counter => .int counter.total)) ∧
      List.Forall₂ Exported m.durations (c.meters meterName).recorded := by
  have hstart : Abreast meterName b {} b { meterName := title, meter := .meter meterName } :=
    ⟨hmeter ▸ Agree.empty title _, rfl, rfl, hnow⟩
  obtain ⟨b', m, c, p, hm, hp, hend⟩ := hstart.takeAll hsteps
  exact ⟨b', m, c, p, hm, hp, fun name => (hend.agree.levels name).accounts, hend.agree.counters,
    hend.agree.durations⟩

def upAndDown : List PublisherStep :=
  [.call (.ok (.numeric (.text "load") (.int 5))),
    .call (.ok (.start (.text "call") (.text "first"))), .tick (.int 2),
    .call (.ok (.start (.text "call") (.text "first"))), .tick (.float (.ofInt 5)),
    .call (.ok (.finish (.text "call") (.text "first"))),
    .call (.ok (.finish (.text "call") (.text "first"))),
    .call (.ok (.incremental (.text "load") none)),
    .call (.ok (.numeric (.text "load") (.int 3)))]

theorem memory_agrees_with_meter_upAndDown :
    (∀ step ∈ upAndDown, step.Plain) ∧ ∃ b' m c p,
      takeAll {} (memory {}) upAndDown =
        (upAndDown.map fun step => .ok step.accepted, b', memory m) ∧
      takeAll {} (meter { meterName := "metrics", meter := .meter "main" }) upAndDown =
        (upAndDown.map fun step => .ok step.accepted, c, meter p) ∧
      Accounts ((c.meters "main").amounts .upDown "load") (m.lastNumeric? (.text "load")) ∧
      List.Forall₂ Exported m.durations (c.meters "main").recorded := by
  have hplain : ∀ step ∈ upAndDown, step.Plain := by
    unfold upAndDown
    simp only [List.forall_mem_cons]
    exact ⟨.call (.numeric "load" 5 (by decide)), .call (.start "call" "first"),
      .tick (.int 2 (twoTo_lt_twoTo (j := 1) (by decide))),
      .call (.start "call" "first"), .tick (.float _), .call (.finish "call" "first"),
      .call (.finish "call" "first"), .call (.incremental "load" none),
      .call (.numeric "load" 3 (by decide)), nofun⟩
  obtain ⟨b', m, c, p, hm, hp, hlevels, -, hdurations⟩ :=
    memory_agrees_with_meter (b := {}) rfl (.float .zero) hplain
  exact ⟨hplain, b', m, c, p, hm, hp, hlevels "load", hdurations⟩

end Publisher

end SessionTelemetry
