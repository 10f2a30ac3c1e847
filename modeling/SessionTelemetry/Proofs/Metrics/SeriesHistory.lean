import SessionTelemetry.Proofs.Metrics.Exposition
import SessionTelemetry.Proofs.Metrics.Transactions

/-!
# What series have collected

Calls and their answers make up a history, from which the writes that were accepted can be read off
(`accepted`). In every state of a run each registered series has collected what was accepted for it,
one write after the other, and nothing else (`Tracks`). A call ends in one of four ways (`Ends`).
-/

namespace SessionTelemetry

inductive SeriesCall where
  | set (name : String) (n : Int)
  | add (name : String) (amount : Option Int)
  | start (type id : String)
  | finish (type id : String)

/-- A call, what was read from outside at its moment, and its answer. -/
structure Exchange where
  moment : Moment
  call : SeriesCall
  answer : Except Fault Reply

/-- A write to a series: a number, an amount, or the readings between which a transaction ran. -/
inductive SeriesWrite where
  | set (name : String) (n : Int)
  | add (name : String) (amount : Int)
  | measured (type : String) (started ended : Value)

namespace SeriesCall

def call : SeriesCall → MetricCall
  | set name n => .numeric (.text name) (.int n)
  | add name amount => .incremental (.text name) (amount.map .int)
  | start type id => .start (.text type) (.text id)
  | finish type id => .finish (.text type) (.text id)

def Bounded : SeriesCall → Prop
  | set _ n => n.natAbs < twoTo 53
  | add _ amount => (amount.getD 1).natAbs < twoTo 53
  | _ => True

def series? : SeriesCall → Option Series
  | set name _ => some ⟨.gauge, name⟩
  | add name _ => some ⟨.counter, name⟩
  | start _ _ => none
  | finish type _ => some ⟨.histogram, type ++ " seconds"⟩

end SeriesCall

namespace SeriesWrite

def series : SeriesWrite → Series
  | set name _ => ⟨.gauge, name⟩
  | add name _ => ⟨.counter, name⟩
  | measured type _ _ => ⟨.histogram, type ++ " seconds"⟩

def apply : SeriesWrite → Collected → Collected
  | set _ n, .gauge _ => .gauge (.ofInt n)
  | add _ amount, .counter total => .counter (total.add (.ofInt amount))
  | measured _ started ended, .histogram counts sum =>
    let seconds := Value.lapse started ended
    .histogram (Collected.countIn seconds Collected.bounds counts) (sum.add seconds)
  | _, c => c

inductive Sound : SeriesWrite → Prop where
  | set {name : String} {n : Int} (h : n.natAbs < twoTo 53) : Sound (set name n)
  | add {name : String} {amount : Int} (h : 0 ≤ amount) : Sound (add name amount)
  | measured {type : String} {started ended : Value} (hstarted : started.IsReading)
      (hended : ended.IsReading) : Sound (measured type started ended)

end SeriesWrite

def Series.collected (s : Series) (writes : List SeriesWrite) : Collected :=
  (writes.filter fun w => w.series = s).foldl (fun c w => w.apply c) (.empty s.kind)

namespace Exchange

/-- The reading at which a transaction was started, unless it was finished since. -/
def since? (earlier : List Exchange) (type id : String) : Option Value :=
  earlier.foldl (fun since x =>
    match x.call with
    | .start t i => if t = type ∧ i = id then some x.moment.now else since
    | .finish t i => if t = type ∧ i = id then none else since
    | _ => since) none

def write? (earlier : List Exchange) (moment : Moment) : SeriesCall → Option SeriesWrite
  | .set name n => some (.set name n)
  | .add name amount => some (.add name (amount.getD 1))
  | .start _ _ => none
  | .finish type id =>
    (since? earlier type id).map fun started => .measured type started moment.now

def accepted? (earlier : List Exchange) (x : Exchange) : Option SeriesWrite :=
  match x.answer with
  | .ok (.outcome .ok) => write? earlier x.moment x.call
  | _ => none

def accepted (earlier : List Exchange) : List Exchange → List SeriesWrite
  | [] => []
  | x :: rest => (accepted? earlier x).toList ++ accepted (earlier ++ [x]) rest

variable (earlier : List Exchange) (x : Exchange) {w : SeriesWrite}

theorem series_of_write? {earlier : List Exchange} {moment : Moment} {call : SeriesCall}
    (h : write? earlier moment call = some w) : call.series? = some w.series := by
  cases call with
  | set | add =>
    cases h
    rfl
  | start => cases h
  | finish =>
    obtain ⟨started, -, rfl⟩ := Option.map_eq_some_iff.1 h
    rfl

theorem series_of_accepted? {earlier : List Exchange} {x : Exchange}
    (h : accepted? earlier x = some w) : x.call.series? = some w.series := by
  unfold accepted? at h
  split at h
  · exact series_of_write? h
  · cases h

theorem accepted_concat (rest : List Exchange) :
    accepted earlier (rest ++ [x]) =
      accepted earlier rest ++ (accepted? (earlier ++ rest) x).toList := by
  induction rest generalizing earlier with
  | nil => simp [accepted]
  | cons first rest ih => simp [accepted, ih]

theorem since?_concat (type id : String) :
    since? (earlier ++ [x]) type id =
      match x.call with
      | .start t i => if t = type ∧ i = id then some x.moment.now else since? earlier type id
      | .finish t i => if t = type ∧ i = id then none else since? earlier type id
      | _ => since? earlier type id := by
  rw [since?, List.foldl_append]
  rfl

end Exchange

structure ExpositionRun where
  history : List Exchange
  publisher : ExpositionPublisher
  registry : CollectorRegistry

namespace ExpositionRun

def next [Collectors] (run : ExpositionRun) (moment : Moment) (call : SeriesCall) : ExpositionRun :=
  let (answer, publisher, registry) := run.publisher.publish run.registry moment call.call
  ⟨run.history ++ [⟨moment, call, answer⟩], publisher, registry⟩

def accepted (run : ExpositionRun) : List SeriesWrite := Exchange.accepted [] run.history

theorem accepted_next [Collectors] {run : ExpositionRun} {moment : Moment} {call : SeriesCall}
    {x : Exchange}
    (h : (run.next moment call).history = run.history ++ [x]) :
    (run.next moment call).accepted =
      run.accepted ++ (Exchange.accepted? run.history x).toList := by
  rw [accepted, h, Exchange.accepted_concat, List.nil_append, accepted]

end ExpositionRun

def ExpositionPublisher.run [Collectors] (stem : String) (reference : Value)
    (base : CollectorRegistry)
    (calls : List (Moment × SeriesCall)) : ExpositionRun :=
  calls.foldl (fun run call => run.next call.1 call.2)
    ⟨[], { stem, registry := reference }, base⟩

/-- The names of a series are free beside those of other ones and those that were given away
before. -/
def Series.Fits (base : CollectorRegistry) (stem : String) (own : List Series) (s : Series) :
    Prop :=
  s ∈ own ∨ base.Free s.kind (s.family stem) ∧ ∀ t ∈ own, ¬ s.Clashes stem t

/-- How a call ends that would write something, and which series are registered then: it writes
nothing, its write is taken, its write is refused, or its series can not be registered. -/
inductive Ends (base : CollectorRegistry) (stem : String) (own : List Series) :
    Option SeriesWrite → Except Fault Reply → List Series → Prop where
  | idle : Ends base stem own none (.ok .ok) own
  | taken {w : SeriesWrite} (hfits : w.series.Fits base stem own) :
      Ends base stem own (some w) (.ok .ok) (Series.listed own w.series)
  | refused {name : String} {amount : Int} (hneg : amount < 0)
      (hfits : (⟨.counter, name⟩ : Series).Fits base stem own) :
      Ends base stem own (some (.add name amount)) (.ok (.failed .negativeIncrement))
        (Series.listed own ⟨.counter, name⟩)
  | clashing {w : SeriesWrite} {names : List String} (hclash : ¬ w.series.Fits base stem own)
      (hnames : ∀ n, n ∈ names ↔ n ∈ w.series.claims stem ∧
        (n ∈ base.claimed ∨ ∃ t ∈ own, n ∈ t.claims stem)) :
      Ends base stem own (some w) (.ok (.failed (.duplicateSeries names))) own

/-- Series are registered one after the other, and stay. -/
theorem Ends.own_prefix {base : CollectorRegistry} {stem : String} {own own' : List Series}
    {w? : Option SeriesWrite} {answer : Except Fault Reply}
    (h : Ends base stem own w? answer own') : own <+: own' := by
  cases h with
  | idle | clashing => exact List.prefix_refl _
  | taken | refused => exact Series.prefix_listed _ _

namespace SeriesWrite

variable {w : SeriesWrite} {c : Collected} {n : Int} {name : String}

theorem kind_apply (w : SeriesWrite) (c : Collected) : (w.apply c).kind = c.kind := by
  cases w <;> cases c <;> rfl

theorem floatOfInt_of_lt (h : n.natAbs < twoTo 53) : Value.floatOfInt n = .ok (.ofInt n) :=
  Value.floatOfInt_eq (h.trans (twoTo_lt_twoTo (by decide)))

theorem setTo_eq (h : n.natAbs < twoTo 53) (hc : c.kind = .gauge) :
    ExpositionPublisher.setTo (.int n) c = .ok ((set name n).apply c) := by
  cases c with
  | gauge value =>
    have hfloat : (Value.int n).toFloat = .ok (.ofInt n) := floatOfInt_of_lt h
    simp only [ExpositionPublisher.setTo, hfloat]
    rfl
  | counter | histogram => cases hc

theorem increaseBy_eq (name : String) (h : n.natAbs < twoTo 53) (hc : c.kind = .counter) :
    ExpositionPublisher.increaseBy (.int n) c =
      if n < 0 then .error .negativeIncrement else .ok ((add name n).apply c) := by
  cases c with
  | counter total =>
    have hfloat : (Value.int n).numberAsFloat = .ok (.ofInt n) := floatOfInt_of_lt h
    simp only [ExpositionPublisher.increaseBy, Value.isBelow_int, hfloat]
    by_cases hneg : n < 0
    · rw [if_pos hneg, decide_eq_true hneg]
      rfl
    · rw [if_neg hneg, decide_eq_false hneg]
      rfl
  | gauge | histogram => cases hc

theorem observe_eq {type : String} {started ended seconds : Value} {x : Binary64}
    (hlasted : started.Lasted ended seconds) (hx : seconds.numberAsFloat = .ok x)
    (hc : c.kind = .histogram) :
    ExpositionPublisher.observe seconds c = .ok ((measured type started ended).apply c) := by
  cases c with
  | histogram counts sum =>
    rw [hlasted.numberAsFloat_eq hx] at hx
    simp only [ExpositionPublisher.observe, hx]
    rfl
  | gauge | counter => cases hc

end SeriesWrite

namespace Series

variable {s : Series} {log : List SeriesWrite} {w : SeriesWrite}

theorem collected_concat :
    s.collected (log ++ [w]) =
      if w.series = s then w.apply (s.collected log) else s.collected log := by
  unfold collected
  rw [List.filter_append, List.foldl_append]
  by_cases h : w.series = s <;> simp [h]

theorem collected_concat_eq_update (log : List SeriesWrite) (w : SeriesWrite) :
    (fun s => collected s (log ++ [w])) =
      Function.update (fun s => collected s log) w.series (w.apply (collected w.series log)) := by
  funext s
  rw [collected_concat]
  by_cases h : w.series = s
  · rw [if_pos h, ← h, Function.update_self]
  · rw [if_neg h, Function.update_of_ne fun heq => h heq.symm]

end Series

namespace Exposes

variable {base r : CollectorRegistry} {own : List Series} {state : Series → Collected}
  {p : ExpositionPublisher} {s : Series} {log : List SeriesWrite} {w : SeriesWrite}
  {hashOf : HashReader} {f : Collected → Except Fault Collected}

theorem fits_iff (h : Exposes base own state p r) (s : Series) :
    s.Fits base p.stem own ↔ s ∈ own ∨ r.Free s.kind (s.family p.stem) := by
  rw [h.free_iff, Series.Fits]

/-- A write to a series that cannot be registered names what the others claim. -/
theorem mem_clashes_iff (h : Exposes base own state p r) (n : String) :
    n ∈ r.clashes s.kind (s.family p.stem) ↔ n ∈ s.claims p.stem ∧
      (n ∈ base.claimed ∨ ∃ t ∈ own, n ∈ t.claims p.stem) := by
  rw [CollectorRegistry.mem_clashes, h.claimed_eq, List.mem_append, List.mem_flatMap, Series.claims]

theorem write_of_fits [Collectors] [LawfulCollectors]
    (h : Exposes base own (fun s => s.collected log) p r)
    (hashOf : HashReader) (hfits : w.series.Fits base p.stem own)
    (hf : f (w.series.collected log) = .ok (w.apply (w.series.collected log))) :
    ∃ cache r', p.write hashOf r w.series.kind (.text w.series.name) f =
        (.ok .ok, { p with families := cache }, r') ∧
      Exposes base (Series.listed own w.series) (fun s => s.collected (log ++ [w]))
        { p with families := cache } r' := by
  have hkind : (w.apply (w.series.collected log)).kind = w.series.kind := by
    rw [SeriesWrite.kind_apply, h.kinds]
  rw [Series.collected_concat_eq_update]
  exact h.write_taken hashOf ((h.fits_iff _).1 hfits) hf hkind

theorem write_of_not_fits [Collectors] [LawfulCollectors] (h : Exposes base own state p r)
    (hfits : ¬ s.Fits base p.stem own) :
    p.write hashOf r s.kind (.text s.name) f =
      (.ok (.failed (.duplicateSeries (r.clashes s.kind (s.family p.stem)))), p, r) := by
  obtain ⟨hs, hclash⟩ := not_or.1 (mt (h.fits_iff s).2 hfits)
  exact h.write_clashing hs hclash

/-- What a publisher exposes does not depend on the transactions that run. -/
theorem withTransactions (h : Exposes base own state p r) (w : Stopwatch) :
    Exposes base own state { p with transactions := w } r :=
  ⟨h.cached, h.families, h.kinds, h.unset, h.free, h.apart⟩

end Exposes

structure Stopwatch.Follows (w : Stopwatch) (history : List Exchange) : Prop where
  sound : w.Sound
  running : ∀ type id, w.running.find? (textKey type id) = Exchange.since? history type id

/-- The state of a run: what is exposed is what was accepted, and transactions run since they were
last started. -/
structure Tracks (base : CollectorRegistry) (stem : String) (run : ExpositionRun)
    (own : List Series) : Prop where
  stem_eq : run.publisher.stem = stem
  exposes : Exposes base own (fun s => s.collected run.accepted) run.publisher run.registry
  listed : ∀ w ∈ run.accepted, w.series ∈ own ∧ w.Sound
  timed : run.publisher.transactions.Follows run.history

def ExpositionRun.Goes [Collectors] (base : CollectorRegistry) (stem : String) (own : List Series)
    (run : ExpositionRun) (moment : Moment) (call : SeriesCall) : Prop :=
  ∃ answer own', (run.next moment call).history = run.history ++ [⟨moment, call, answer⟩] ∧
    Ends base stem own (Exchange.write? run.history moment call) answer own' ∧
    Tracks base stem (run.next moment call) own'

namespace Tracks

variable {base r : CollectorRegistry} {stem type id name : String} {run : ExpositionRun}
  {own own' : List Series} {moment : Moment} {call : SeriesCall} {p : ExpositionPublisher}
  {w : SeriesWrite} {f : Collected → Except Fault Collected} {answer : Except Fault Reply}
  {added : List SeriesWrite} {timers : Stopwatch}

theorem start (base : CollectorRegistry) (stem : String) (reference : Value) :
    Tracks base stem ⟨[], { stem, registry := reference }, base⟩ [] where
  stem_eq := rfl
  exposes := .empty base stem reference
  listed _ h := nomatch h
  timed := ⟨Stopwatch.sound_empty, fun _ _ => rfl⟩

/-- A run goes on where the publisher, its registry and its transactions follow the answer. -/
theorem goes [Collectors] (h : Tracks base stem run own)
    (hpublish : run.publisher.publish run.registry moment call.call = (answer, p, r))
    (hadded : (Exchange.accepted? run.history ⟨moment, call, answer⟩).toList = added)
    (hends : Ends base stem own (Exchange.write? run.history moment call) answer own')
    (hstem : p.stem = stem)
    (hexposes : Exposes base own' (fun s => s.collected (run.accepted ++ added)) p r)
    (hown : ∀ s ∈ own, s ∈ own') (hlisted : ∀ w ∈ added, w.series ∈ own' ∧ w.Sound)
    (htimed : p.transactions.Follows (run.history ++ [⟨moment, call, answer⟩])) :
    run.Goes base stem own moment call := by
  have hnext : run.next moment call = ⟨run.history ++ [⟨moment, call, answer⟩], p, r⟩ := by
    rw [ExpositionRun.next, hpublish]
  have haccepted : (run.next moment call).accepted = run.accepted ++ added := by
    rw [ExpositionRun.accepted_next (congrArg ExpositionRun.history hnext), hadded]
  refine ⟨answer, own', by rw [hnext], hends, by rw [hnext]; exact hstem, ?_, ?_, ?_⟩
  · rw [haccepted, hnext]
    exact hexposes
  · rw [haccepted, List.forall_mem_append]
    exact ⟨fun v hv => ⟨hown _ (h.listed v hv).1, (h.listed v hv).2⟩, hlisted⟩
  · rw [hnext]
    exact htimed

/-- A call that writes nothing. -/
theorem goes_of_idle [Collectors] (h : Tracks base stem run own)
    (hpublish : run.publisher.publish run.registry moment call.call =
      (.ok .ok, { run.publisher with transactions := timers }, run.registry))
    (hwrite : Exchange.write? run.history moment call = none)
    (htimed : timers.Follows (run.history ++ [⟨moment, call, .ok .ok⟩])) :
    run.Goes base stem own moment call := by
  have hadded : (Exchange.accepted? run.history ⟨moment, call, .ok .ok⟩).toList = [] := by
    simp only [Exchange.accepted?, Reply.ok, hwrite, Option.toList_none]
  refine h.goes hpublish hadded (by rw [hwrite]; exact .idle) h.stem_eq ?_ (fun _ hs => hs)
    (fun _ hw => nomatch hw) htimed
  rw [List.append_nil]
  exact h.exposes.withTransactions timers

/-- A call that writes to a series whose names are given away. -/
theorem goes_of_clash [Collectors] [LawfulCollectors] (h : Tracks base stem run own)
    (hwrite : Exchange.write? run.history moment call = some w)
    (hpublish : run.publisher.publish run.registry moment call.call =
      ExpositionPublisher.write { run.publisher with transactions := timers } moment.hashOf
        run.registry w.series.kind (.text w.series.name) f)
    (hfits : ¬ w.series.Fits base stem own)
    (htimed : ∀ answer, timers.Follows (run.history ++ [⟨moment, call, answer⟩])) :
    run.Goes base stem own moment call := by
  obtain rfl := h.stem_eq
  have hexposes := h.exposes.withTransactions timers
  rw [hexposes.write_of_not_fits hfits] at hpublish
  refine h.goes hpublish (show _ = [] from rfl) ?_ rfl ?_ (fun _ hs => hs)
    (fun _ hw => nomatch hw) (htimed _)
  · rw [hwrite]
    exact .clashing hfits hexposes.mem_clashes_iff
  · rw [List.append_nil]
    exact hexposes

/-- A call that writes to a series which takes the write if it can be registered. -/
theorem goes_of_write [Collectors] [LawfulCollectors] (h : Tracks base stem run own)
    (hwrite : Exchange.write? run.history moment call = some w) (hw : w.Sound)
    (hpublish : run.publisher.publish run.registry moment call.call =
      ExpositionPublisher.write { run.publisher with transactions := timers } moment.hashOf
        run.registry w.series.kind (.text w.series.name) f)
    (hf : f (w.series.collected run.accepted) = .ok (w.apply (w.series.collected run.accepted)))
    (htimed : ∀ answer, timers.Follows (run.history ++ [⟨moment, call, answer⟩])) :
    run.Goes base stem own moment call := by
  by_cases hfits : w.series.Fits base stem own
  · obtain rfl := h.stem_eq
    obtain ⟨cache, r', hdone, hnext⟩ :=
      (h.exposes.withTransactions timers).write_of_fits moment.hashOf hfits hf
    have hadded : (Exchange.accepted? run.history ⟨moment, call, .ok .ok⟩).toList = [w] := by
      simp only [Exchange.accepted?, Reply.ok, hwrite, Option.toList_some]
    refine h.goes (hpublish.trans hdone) hadded (by rw [hwrite]; exact .taken hfits) rfl hnext
      (fun _ hs => Series.mem_listed.2 (.inl hs)) ?_ (htimed _)
    rw [List.forall_mem_singleton]
    exact ⟨Series.mem_listed.2 (.inr rfl), hw⟩
  · exact h.goes_of_clash hwrite hpublish hfits htimed

/-- A counter is not lowered, but registered. -/
theorem goes_of_negative [Collectors] [LawfulCollectors] {amount : Int}
    (h : Tracks base stem run own)
    (hwrite : Exchange.write? run.history moment call = some (.add name amount))
    (hpublish : run.publisher.publish run.registry moment call.call =
      run.publisher.write moment.hashOf run.registry .counter (.text name)
        (ExpositionPublisher.increaseBy (.int amount)))
    (hbound : amount.natAbs < twoTo 53) (hneg : amount < 0)
    (htimed : ∀ answer,
      run.publisher.transactions.Follows (run.history ++ [⟨moment, call, answer⟩])) :
    run.Goes base stem own moment call := by
  by_cases hfits : (⟨.counter, name⟩ : Series).Fits base stem own
  · obtain rfl := h.stem_eq
    have hf : ExpositionPublisher.increaseBy (.int amount)
        (Series.collected ⟨.counter, name⟩ run.accepted) = .error .negativeIncrement := by
      rw [SeriesWrite.increaseBy_eq name hbound (h.exposes.kinds _), if_pos hneg]
    obtain ⟨cache, r', hdone, hnext⟩ :=
      h.exposes.write_refused moment.hashOf ((h.exposes.fits_iff _).1 hfits) hf
    refine h.goes (hpublish.trans hdone) (show _ = [] from rfl)
      (by rw [hwrite]; exact .refused hneg hfits) rfl ?_
      (fun _ hs => Series.mem_listed.2 (.inl hs)) (fun _ hw => nomatch hw) (htimed _)
    rw [List.append_nil]
    exact hnext
  · exact h.goes_of_clash hwrite hpublish hfits htimed

end Tracks

namespace Stopwatch.Follows

variable {w : Stopwatch} {history : List Exchange} {moment : Moment} {type id : String}
  {answer : Except Fault Reply} {call : SeriesCall}

theorem put (h : w.Follows history) (hnow : moment.now.IsReading) :
    Follows ⟨w.running.put (textKey type id) moment.now⟩
      (history ++ [⟨moment, .start type id, answer⟩]) where
  sound := h.sound.put hnow _
  running t i := by
    simp only [Table.find?_put, textKey_inj, Exchange.since?_concat, h.running, @eq_comm _ t,
      @eq_comm _ i]

theorem erase (h : w.Follows history) :
    Follows ⟨w.running.erase (textKey type id)⟩
      (history ++ [⟨moment, .finish type id, answer⟩]) where
  sound := h.sound.erase _
  running t i := by
    simp only [Table.find?_erase h.sound.distinct, textKey_inj, Exchange.since?_concat, h.running,
      @eq_comm _ t, @eq_comm _ i]

theorem keep (h : w.Follows history) (hcall : ∀ t i, Exchange.since? history t i =
      Exchange.since? (history ++ [⟨moment, call, answer⟩]) t i) :
    w.Follows (history ++ [⟨moment, call, answer⟩]) :=
  ⟨h.sound, fun t i => (h.running t i).trans (hcall t i)⟩

end Stopwatch.Follows

namespace Tracks

variable {base : CollectorRegistry} {stem type id name : String} {run : ExpositionRun}
  {own : List Series} {moment : Moment} {call : SeriesCall}

theorem goes_set [Collectors] [LawfulCollectors] {n : Int} (h : Tracks base stem run own)
    (hbound : n.natAbs < twoTo 53) :
    run.Goes base stem own moment (.set name n) :=
  h.goes_of_write rfl (.set hbound) rfl (SeriesWrite.setTo_eq hbound (h.exposes.kinds _))
    fun _ => h.timed.keep fun _ _ => by rw [Exchange.since?_concat]

theorem goes_add [Collectors] [LawfulCollectors] {amount : Option Int}
    (h : Tracks base stem run own)
    (hbound : (amount.getD 1).natAbs < twoTo 53) :
    run.Goes base stem own moment (.add name amount) := by
  have hpublish : run.publisher.publish run.registry moment (SeriesCall.add name amount).call =
      run.publisher.write moment.hashOf run.registry .counter (.text name)
        (ExpositionPublisher.increaseBy (.int (amount.getD 1))) := by
    cases amount <;> rfl
  have htimed : ∀ answer, run.publisher.transactions.Follows
      (run.history ++ [⟨moment, .add name amount, answer⟩]) :=
    fun _ => h.timed.keep fun _ _ => by rw [Exchange.since?_concat]
  by_cases hneg : amount.getD 1 < 0
  · exact h.goes_of_negative rfl hpublish hbound hneg htimed
  · refine h.goes_of_write rfl (.add (not_lt.1 hneg)) hpublish ?_ htimed
    rw [SeriesWrite.increaseBy_eq _ hbound (h.exposes.kinds _), if_neg hneg]

theorem goes_start [Collectors] (h : Tracks base stem run own) (hnow : moment.now.IsReading) :
    run.Goes base stem own moment (.start type id) := by
  refine h.goes_of_idle ?_ rfl (h.timed.put hnow)
  show ExpositionPublisher.publish _ _ _ (.start (.text type) (.text id)) = _
  simp only [ExpositionPublisher.publish, Stopwatch.start_text]

theorem goes_finish [Collectors] [LawfulCollectors] (h : Tracks base stem run own)
    (hnow : moment.now.IsReading) :
    run.Goes base stem own moment (.finish type id) := by
  cases hrunning : run.publisher.transactions.running.find? (Stopwatch.textKey type id) with
  | none =>
    have hwrite : Exchange.since? run.history type id = none := h.timed.running _ _ ▸ hrunning
    refine h.goes_of_idle ?_ (by rw [Exchange.write?, hwrite, Option.map_none])
      (h.timed.keep fun t i => ?_)
    · show ExpositionPublisher.publish _ _ _ (.finish (.text type) (.text id)) = _
      simp only [ExpositionPublisher.publish, Stopwatch.stop_of_absent hrunning]
    · simp only [Exchange.since?_concat]
      split_ifs with heq
      · rw [← heq.1, ← heq.2, hwrite]
      · rfl
  | some started =>
    have hwrite : Exchange.since? run.history type id = some started :=
      h.timed.running _ _ ▸ hrunning
    have hstarted : started.IsReading := h.timed.sound.reading hrunning
    obtain ⟨seconds, hstop, hlasted, x, hx⟩ :=
      Stopwatch.stop_of_running hnow hstarted hrunning
    refine h.goes_of_write (w := .measured type started moment.now)
      (by rw [Exchange.write?, hwrite, Option.map_some]) (.measured hstarted hnow) ?_
      (SeriesWrite.observe_eq hlasted hx (h.exposes.kinds _)) fun _ => h.timed.erase
    show ExpositionPublisher.publish _ _ _ (.finish (.text type) (.text id)) = _
    simp only [ExpositionPublisher.publish, hstop]
    rfl

/-- What one call does: it ends in one of the ways there are, and what is exposed is still what was
accepted. -/
theorem next [Collectors] [LawfulCollectors] (h : Tracks base stem run own)
    (hnow : moment.now.IsReading) (hcall : call.Bounded) :
    run.Goes base stem own moment call := by
  cases call with
  | set name n => exact h.goes_set hcall
  | add name amount => exact h.goes_add hcall
  | start type id => exact h.goes_start hnow
  | finish type id => exact h.goes_finish hnow

end Tracks

/-- Whatever the calls, the registry follows them. -/
theorem ExpositionPublisher.exists_tracks [Collectors] [LawfulCollectors] (stem : String)
    (reference : Value)
    (base : CollectorRegistry) {calls : List (Moment × SeriesCall)}
    (hcalls : ∀ call ∈ calls, call.1.now.IsReading ∧ call.2.Bounded) :
    ∃ own, Tracks base stem (ExpositionPublisher.run stem reference base calls) own := by
  induction calls using List.reverseRecOn with
  | nil => exact ⟨[], .start base stem reference⟩
  | append_singleton calls call ih =>
    rw [List.forall_mem_append, List.forall_mem_singleton] at hcalls
    obtain ⟨own, h⟩ := ih hcalls.1
    obtain ⟨-, own', -, -, hnext⟩ := h.next hcalls.2.1 hcalls.2.2
    rw [ExpositionPublisher.run, List.foldl_concat]
    exact ⟨own', hnext⟩

end SessionTelemetry
