import SessionTelemetry.Proofs.Metrics.SeriesHistory

/-!
# What is exposed of what was accepted

After any calls a gauge shows the last number that was accepted for it, a counter the sum of the
amounts, and the histogram of a transaction type how many transactions were measured and how long
they took together.
-/

namespace SessionTelemetry

namespace SeriesWrite

variable {w : SeriesWrite} {name type : String} {n : Int} {p : Value × Value}

def set? (name : String) : SeriesWrite → Option Int
  | set other n => if other = name then some n else none
  | _ => none

def added? (name : String) : SeriesWrite → Option Int
  | add other amount => if other = name then some amount else none
  | _ => none

def readings? (type : String) : SeriesWrite → Option (Value × Value)
  | measured other started ended => if other = type then some (started, ended) else none
  | _ => none

theorem set?_eq_some : w.set? name = some n ↔ w = set name n := by
  cases w <;> simp [set?]

theorem added?_eq_some : w.added? name = some n ↔ w = add name n := by
  cases w <;> simp [added?]

theorem readings?_eq_some : w.readings? type = some p ↔ w = measured type p.1 p.2 := by
  cases w <;> simp [readings?, Prod.ext_iff]

theorem mem_filterMap {α : Type} {project : SeriesWrite → Option α} (make : α → SeriesWrite)
    (h : ∀ w a, project w = some a ↔ w = make a) {log : List SeriesWrite} {a : α} :
    a ∈ log.filterMap project ↔ make a ∈ log := by
  simp [List.mem_filterMap, h]

theorem series_eq_gauge : w.series = ⟨.gauge, name⟩ ↔ ∃ n, w = set name n := by
  cases w <;> simp [series]

theorem series_eq_counter : w.series = ⟨.counter, name⟩ ↔ ∃ n, w = add name n := by
  cases w <;> simp [series]

theorem series_eq_histogram :
    w.series = ⟨.histogram, type ++ " seconds"⟩ ↔
      ∃ p : Value × Value, w = measured type p.1 p.2 := by
  cases w <;> simp [series]

end SeriesWrite

namespace Collected

variable {name ending : String} {counts : List Nat} {sum : Binary64} {bounds : List Binary64}

theorem countIn_counts (x : Binary64) (h : bounds.length < counts.length) :
    (countIn x bounds counts).length = counts.length ∧
      (countIn x bounds counts).sum = counts.sum + 1 := by
  induction bounds generalizing counts with
  | nil =>
    obtain _ | ⟨n, rest⟩ := counts
    · cases h
    · exact ⟨rfl, by simp only [countIn, List.sum_cons]; omega⟩
  | cons bound bounds ih =>
    obtain _ | ⟨n, rest⟩ := counts
    · cases h
    · obtain ⟨hlength, hsum⟩ := ih (Nat.lt_of_succ_lt_succ h)
      rw [countIn]
      split_ifs
      · simp only [List.length_cons, List.sum_cons, hlength, hsum, true_and]
        omega
      · simp only [List.length_cons, List.sum_cons, true_and]
        omega

theorem getLast?_runningTotals (before n : Nat) (rest : List Nat) :
    (runningTotals before (n :: rest)).getLast? = some (before + (n :: rest).sum) := by
  induction rest generalizing before n with
  | nil => rfl
  | cons m rest ih =>
    rw [runningTotals, List.getLast?_cons, ih]
    simp only [List.sum_cons, Option.getD_some, Nat.add_assoc]

theorem find?_samples_gauge (name : String) (value : Binary64) :
    ((samples name (.gauge value)).find? fun s => s.name = name ∧ s.bound = none).map
      Sample.value = some value := by
  simp [samples]

theorem find?_samples_counter (name : String) (total : Binary64) :
    ((samples name (.counter total)).find? fun s =>
      s.name = name ++ "_total" ∧ s.bound = none).map Sample.value = some total := by
  simp [samples]

/-- The samples of a histogram under a name that is not that of its buckets come after them. -/
theorem find?_samples_histogram (name ending : String) (counts : List Nat) (sum : Binary64) :
    (samples name (.histogram counts sum)).find? (fun s =>
        s.name = name ++ ending ∧ s.bound = none) =
      [Sample.mk (name ++ "_count") none
          (((runningTotals 0 counts).map fun (n : Nat) => Binary64.ofInt n).getLastD .zero),
        Sample.mk (name ++ "_sum") none sum].find? fun s =>
          s.name = name ++ ending ∧ s.bound = none := by
  simp only [samples]
  rw [List.find?_append, List.find?_eq_none.2 ?_, Option.none_or]
  simp only [List.mem_map, Prod.exists]
  rintro s ⟨bound, n, -, rfl⟩
  simp

theorem find?_samples_count (h : counts ≠ []) :
    ((samples name (.histogram counts sum)).find? fun s =>
      s.name = name ++ "_count" ∧ s.bound = none).map Sample.value =
        some (Binary64.ofInt counts.sum) := by
  obtain ⟨n, rest, rfl⟩ := List.exists_cons_of_ne_nil h
  rw [find?_samples_histogram, List.find?_cons_of_pos (by simp), Option.map_some,
    List.getLastD_eq_getLast?, List.getLast?_map, getLast?_runningTotals, Nat.zero_add]
  rfl

theorem find?_samples_sum :
    ((samples name (.histogram counts sum)).find? fun s =>
      s.name = name ++ "_sum" ∧ s.bound = none).map Sample.value = some sum := by
  have hne : name ++ "_count" ≠ name ++ "_sum" := fun h =>
    absurd ((String.append_right_inj name).1 h) (by decide)
  rw [find?_samples_histogram, List.find?_cons_of_neg (by simp [hne]),
    List.find?_cons_of_pos (by simp), Option.map_some]

end Collected

namespace Series

variable {s : Series} {α : Type} {project : SeriesWrite → Option α}

/-- A series has collected the writes of its own kind, one after the other. -/
theorem collected_eq_foldl (make : α → SeriesWrite)
    (hproject : ∀ w a, project w = some a ↔ w = make a)
    (hseries : ∀ w, w.series = s ↔ ∃ a, w = make a) (log : List SeriesWrite) :
    s.collected log =
      (log.filterMap project).foldl (fun c a => (make a).apply c) (.empty s.kind) := by
  unfold collected
  generalize Collected.empty s.kind = c
  induction log generalizing c with
  | nil => rfl
  | cons w log ih =>
    by_cases hw : w.series = s
    · obtain ⟨a, ha⟩ := (hseries w).1 hw
      rw [List.filter_cons_of_pos (by simpa using hw),
        List.filterMap_cons_some ((hproject w a).2 ha), List.foldl_cons, List.foldl_cons, ih, ha]
    · have hnone : project w = none := Option.eq_none_iff_forall_ne_some.2 fun a ha =>
        hw ((hseries w).2 ⟨a, (hproject w a).1 ha⟩)
      rw [List.filter_cons_of_neg (by simpa using hw), List.filterMap_cons_none hnone, ih]

theorem collected_gauge (name : String) (log : List SeriesWrite) :
    collected ⟨.gauge, name⟩ log =
      .gauge ((((log.filterMap (SeriesWrite.set? name)).getLast?).map Binary64.ofInt).getD
        .zero) := by
  rw [collected_eq_foldl (.set name) (fun _ _ => SeriesWrite.set?_eq_some) fun _ =>
    SeriesWrite.series_eq_gauge]
  induction log.filterMap (SeriesWrite.set? name) using List.reverseRecOn with
  | nil => rfl
  | append_singleton ns n ih =>
    rw [List.foldl_concat, ih, List.getLast?_concat]
    rfl

theorem collected_counter (name : String) (log : List SeriesWrite) :
    collected ⟨.counter, name⟩ log =
      .counter ((log.filterMap (SeriesWrite.added? name)).foldl
        (fun total amount => total.add (.ofInt amount)) .zero) := by
  rw [collected_eq_foldl (.add name) (fun _ _ => SeriesWrite.added?_eq_some) fun _ =>
    SeriesWrite.series_eq_counter]
  induction log.filterMap (SeriesWrite.added? name) using List.reverseRecOn with
  | nil => rfl
  | append_singleton ns n ih =>
    rw [List.foldl_concat, ih, List.foldl_concat]
    rfl

theorem collected_histogram (type : String) (log : List SeriesWrite) :
    ∃ counts : List Nat, counts.length = 15 ∧
      counts.sum = (log.filterMap (SeriesWrite.readings? type)).length ∧
      collected ⟨.histogram, type ++ " seconds"⟩ log =
        .histogram counts ((log.filterMap (SeriesWrite.readings? type)).foldl
          (fun sum p => sum.add (Value.lapse p.1 p.2)) .zero) := by
  rw [collected_eq_foldl (fun p : Value × Value => .measured type p.1 p.2)
    (fun _ _ => SeriesWrite.readings?_eq_some) fun _ => SeriesWrite.series_eq_histogram]
  induction log.filterMap (SeriesWrite.readings? type) using List.reverseRecOn with
  | nil => exact ⟨_, rfl, rfl, rfl⟩
  | append_singleton ps p ih =>
    obtain ⟨counts, hlength, hsum, heq⟩ := ih
    have hbounds : Collected.bounds.length < counts.length := by
      rw [hlength]
      decide
    obtain ⟨hlength', hsum'⟩ := Collected.countIn_counts (Value.lapse p.1 p.2) hbounds
    refine ⟨_, hlength'.trans hlength, ?_, ?_⟩
    · rw [hsum', hsum, List.length_append, List.length_singleton]
    · rw [List.foldl_concat, heq, List.foldl_concat]
      rfl

end Series

namespace Exposes

variable {base r : CollectorRegistry} {own : List Series} {state : Series → Collected}
  {p : ExpositionPublisher} {s : Series} {n name type : String} {x : Binary64}
  {log : List SeriesWrite}

/-- A sample of a registered series is exposed under its name. -/
theorem exposed?_of_mem (h : Exposes base own state p r) (hs : s ∈ own)
    (hn : n ∈ s.claims p.stem)
    (hx : (((state s).samples (s.family p.stem)).find? fun sample =>
      sample.name = n ∧ sample.bound = none).map Sample.value = some x) :
    r.exposed? n = some x := by
  obtain ⟨before, after, hbefore, -, hsplit, -⟩ := h.exists_split hs
  obtain ⟨sample, hfound, -⟩ := Option.map_eq_some_iff.1 hx
  have hsample : ∃ x ∈ (s.exposing p.stem (state s)).samples, x.name = n ∧ x.bound = none :=
    ⟨sample, List.mem_of_find?_eq_some hfound, by simpa using List.find?_some hfound⟩
  have hexposed : CollectorRegistry.exposed? ⟨before ++ _ :: after⟩ n = _ :=
    CollectorRegistry.exposed?_append_cons (hbefore n hn) hsample
  rw [← hsplit] at hexposed
  exact hexposed.trans hx

theorem exposed_gauge (h : Exposes base own (fun s => s.collected log) p r)
    (hs : ⟨.gauge, name⟩ ∈ own) :
    r.exposed? (Series.family p.stem ⟨.gauge, name⟩) =
      some ((((log.filterMap (SeriesWrite.set? name)).getLast?).map Binary64.ofInt).getD
        .zero) := by
  refine h.exposed?_of_mem hs (Series.family_mem_claims _ _) ?_
  rw [Series.collected_gauge]
  exact Collected.find?_samples_gauge _ _

theorem exposed_total (h : Exposes base own (fun s => s.collected log) p r)
    (hs : ⟨.counter, name⟩ ∈ own) :
    r.exposed? (Series.family p.stem ⟨.counter, name⟩ ++ "_total") =
      some ((log.filterMap (SeriesWrite.added? name)).foldl
        (fun total amount => total.add (.ofInt amount)) .zero) := by
  refine h.exposed?_of_mem hs (SeriesKind.ending_mem_claims .counter (by decide) _) ?_
  rw [Series.collected_counter]
  exact Collected.find?_samples_counter _ _

theorem exposed_count (h : Exposes base own (fun s => s.collected log) p r)
    (hs : ⟨.histogram, type ++ " seconds"⟩ ∈ own) :
    r.exposed? (Series.family p.stem ⟨.histogram, type ++ " seconds"⟩ ++ "_count") =
      some (.ofInt (log.filterMap (SeriesWrite.readings? type)).length) := by
  refine h.exposed?_of_mem hs (SeriesKind.ending_mem_claims .histogram (by decide) _) ?_
  obtain ⟨counts, hcounts, hsum, hcollected⟩ := Series.collected_histogram type log
  rw [hcollected, Collected.find?_samples_count, hsum]
  rintro rfl
  cases hcounts

theorem exposed_sum (h : Exposes base own (fun s => s.collected log) p r)
    (hs : ⟨.histogram, type ++ " seconds"⟩ ∈ own) :
    r.exposed? (Series.family p.stem ⟨.histogram, type ++ " seconds"⟩ ++ "_sum") =
      some ((log.filterMap (SeriesWrite.readings? type)).foldl
        (fun sum p => sum.add (Value.lapse p.1 p.2)) .zero) := by
  refine h.exposed?_of_mem hs (SeriesKind.ending_mem_claims .histogram (by decide) _) ?_
  obtain ⟨counts, -, -, hcollected⟩ := Series.collected_histogram type log
  rw [hcollected]
  exact Collected.find?_samples_sum

end Exposes

namespace ExpositionRun

/-- A registry exposes what was accepted in a run: the last number of each gauge, the sum of the
amounts of each counter, and the count and the sum of the durations of each transaction type. -/
structure ShowsAccepted (stem : String) (run : ExpositionRun) : Prop where
  gauge : ∀ name n, (run.accepted.filterMap (SeriesWrite.set? name)).getLast? = some n →
    ∃ x, run.registry.exposed? (Series.family stem ⟨.gauge, name⟩) = some x ∧ x.Shows n
  counter : ∀ name amounts, run.accepted.filterMap (SeriesWrite.added? name) = amounts →
    amounts ≠ [] → amounts.sum ≤ twoTo 53 →
    ∃ x, run.registry.exposed? (Series.family stem ⟨.counter, name⟩ ++ "_total") = some x ∧
      x.Shows amounts.sum
  count : ∀ type spans, run.accepted.filterMap (SeriesWrite.readings? type) = spans →
    spans ≠ [] → spans.length ≤ twoTo 53 →
    ∃ x, run.registry.exposed?
        (Series.family stem ⟨.histogram, type ++ " seconds"⟩ ++ "_count") = some x ∧
      x.Shows spans.length
  /-- The sum is exact where the durations, and all sums on the way to it, need no rounding. -/
  sum : ∀ type spans (seconds : Value × Value → Rat),
    run.accepted.filterMap (SeriesWrite.readings? type) = spans → spans ≠ [] →
    (∀ p ∈ spans, Value.Lapses p.1 p.2 (seconds p)) →
    (∀ ps, ps <+: spans → Binary64.Representable (ps.map seconds).sum) →
    ∃ x, run.registry.exposed?
        (Series.family stem ⟨.histogram, type ++ " seconds"⟩ ++ "_sum") = some x ∧
      x.Shows (spans.map seconds).sum

/-- A publisher has registered these series, each of them once, after what was there before. They
expose what was accepted for them, and nothing was accepted for others. -/
structure Registers (base : CollectorRegistry) (stem : String) (run : ExpositionRun)
    (own : List Series) : Prop where
  nodup : own.Nodup
  families : run.registry.families =
    base.families ++ own.map fun s => s.exposing stem (s.collected run.accepted)
  listed : ∀ w ∈ run.accepted, w.series ∈ own

end ExpositionRun

namespace Tracks

variable {base : CollectorRegistry} {stem name type : String} {run : ExpositionRun}
  {own : List Series} {n : Int} {amounts : List Int} {spans : List (Value × Value)}

theorem shows_gauge (h : Tracks base stem run own)
    (hn : (run.accepted.filterMap (SeriesWrite.set? name)).getLast? = some n) :
    ∃ x, run.registry.exposed? (Series.family stem ⟨.gauge, name⟩) = some x ∧ x.Shows n := by
  obtain rfl := h.stem_eq
  have hmem := (SeriesWrite.mem_filterMap (.set name) fun _ _ => SeriesWrite.set?_eq_some).1
    (List.mem_of_getLast? hn)
  obtain ⟨hown, hsound⟩ := h.listed _ hmem
  cases hsound with
  | set hbound =>
    refine ⟨.ofInt n, ?_, Binary64.shows_ofInt hbound.le⟩
    rw [h.exposes.exposed_gauge hown, hn]
    rfl

theorem shows_counter (h : Tracks base stem run own)
    (hlog : run.accepted.filterMap (SeriesWrite.added? name) = amounts) (hne : amounts ≠ [])
    (hsum : amounts.sum ≤ twoTo 53) :
    ∃ x, run.registry.exposed? (Series.family stem ⟨.counter, name⟩ ++ "_total") = some x ∧
      x.Shows amounts.sum := by
  obtain rfl := h.stem_eq
  have hmem : ∀ a ∈ amounts, .add name a ∈ run.accepted := fun a ha =>
    (SeriesWrite.mem_filterMap (.add name) fun _ _ => SeriesWrite.added?_eq_some).1 (hlog ▸ ha)
  have hnonneg : ∀ a ∈ amounts, 0 ≤ a := by
    intro a ha
    cases (h.listed _ (hmem a ha)).2 with
    | add hle => exact hle
  obtain ⟨a, ha⟩ := List.exists_mem_of_ne_nil _ hne
  have hexposed := h.exposes.exposed_total (h.listed _ (hmem a ha)).1
  rw [hlog] at hexposed
  exact ⟨_, hexposed, Binary64.shows_sum_ofInt hnonneg hsum⟩

/-- A measured transaction has been accepted by the histogram of its type. -/
theorem listed_of_readings (h : Tracks base stem run own)
    (hlog : run.accepted.filterMap (SeriesWrite.readings? type) = spans) {p : Value × Value}
    (hp : p ∈ spans) :
    ⟨.histogram, type ++ " seconds"⟩ ∈ own ∧ p.1.IsReading ∧ p.2.IsReading := by
  have hmem : .measured type p.1 p.2 ∈ run.accepted :=
    (SeriesWrite.mem_filterMap (fun p : Value × Value => .measured type p.1 p.2)
      fun _ _ => SeriesWrite.readings?_eq_some).1 (hlog ▸ hp)
  obtain ⟨hown, hsound⟩ := h.listed _ hmem
  cases hsound with
  | measured hstarted hended => exact ⟨hown, hstarted, hended⟩

theorem shows_count (h : Tracks base stem run own)
    (hlog : run.accepted.filterMap (SeriesWrite.readings? type) = spans) (hne : spans ≠ [])
    (hlength : spans.length ≤ twoTo 53) :
    ∃ x, run.registry.exposed?
        (Series.family stem ⟨.histogram, type ++ " seconds"⟩ ++ "_count") = some x ∧
      x.Shows spans.length := by
  obtain rfl := h.stem_eq
  obtain ⟨p, hp⟩ := List.exists_mem_of_ne_nil _ hne
  have hexposed := h.exposes.exposed_count (h.listed_of_readings hlog hp).1
  rw [hlog] at hexposed
  exact ⟨_, hexposed, by exact_mod_cast Binary64.shows_ofInt (n := spans.length) hlength⟩

theorem shows_sum (h : Tracks base stem run own) (seconds : Value × Value → Rat)
    (hlog : run.accepted.filterMap (SeriesWrite.readings? type) = spans) (hne : spans ≠ [])
    (hlapses : ∀ p ∈ spans, Value.Lapses p.1 p.2 (seconds p))
    (hsums : ∀ ps, ps <+: spans → Binary64.Representable (ps.map seconds).sum) :
    ∃ x, run.registry.exposed?
        (Series.family stem ⟨.histogram, type ++ " seconds"⟩ ++ "_sum") = some x ∧
      x.Shows (spans.map seconds).sum := by
  obtain rfl := h.stem_eq
  obtain ⟨p, hp⟩ := List.exists_mem_of_ne_nil _ hne
  have hexposed := h.exposes.exposed_sum (h.listed_of_readings hlog hp).1
  rw [hlog] at hexposed
  refine ⟨_, hexposed, Binary64.shows_foldl_add (fun p hp => ?_) hsums⟩
  obtain ⟨-, hstarted, hended⟩ := h.listed_of_readings hlog hp
  exact Value.shows_lapse hstarted hended (hlapses p hp)

theorem showsAccepted (h : Tracks base stem run own) : run.ShowsAccepted stem where
  gauge _ _ hn := h.shows_gauge hn
  counter _ _ hlog hne hsum := h.shows_counter hlog hne hsum
  count _ _ hlog hne hlength := h.shows_count hlog hne hlength
  sum _ _ seconds hlog hne hlapses hsums := h.shows_sum seconds hlog hne hlapses hsums

theorem registers (h : Tracks base stem run own) : run.Registers base stem own := by
  obtain rfl := h.stem_eq
  refine ⟨h.exposes.apart.imp fun hclash heq => ?_, h.exposes.families,
    fun w hw => (h.listed w hw).1⟩
  exact hclash (heq ▸ Series.clashes_self _ _)

/-- A call registers its series at most, and leaves alone what the others have collected. -/
theorem exists_next [Collectors] [LawfulCollectors] (h : Tracks base stem run own) {moment : Moment}
    {call : SeriesCall}
    (hnow : moment.now.IsReading) (hcall : call.Bounded) :
    ∃ own', own <+: own' ∧ Tracks base stem (run.next moment call) own' ∧
      ∀ s, call.series? ≠ some s →
        s.collected (run.next moment call).accepted = s.collected run.accepted := by
  obtain ⟨answer, own', hhistory, hends, hnext⟩ := h.next hnow hcall
  refine ⟨own', hends.own_prefix, hnext, fun s hs => ?_⟩
  rw [ExpositionRun.accepted_next hhistory]
  cases hadded : Exchange.accepted? run.history ⟨moment, call, answer⟩ with
  | none => rw [Option.toList_none, List.append_nil]
  | some w =>
    have hne : w.series ≠ s := fun heq => hs (heq ▸ Exchange.series_of_accepted? hadded)
    rw [Option.toList_some, Series.collected_concat, if_neg hne]

end Tracks

/-- In every state that calls lead to, a registry exposes what was accepted of them. The publisher
has registered each series once at most, after what its registry held before; and a further call
leaves everything as it was but the family of its own series. -/
theorem ExpositionPublisher.exposes_accepted [Collectors] [LawfulCollectors] (stem : String)
    (reference : Value)
    (base : CollectorRegistry) (calls : List (Moment × SeriesCall))
    (hcalls : ∀ call ∈ calls, call.1.now.IsReading ∧ call.2.Bounded) :
    let run := ExpositionPublisher.run stem reference base calls
    run.ShowsAccepted stem ∧ ∃ own, run.Registers base stem own ∧
      ∀ (moment : Moment) (call : SeriesCall), moment.now.IsReading → call.Bounded →
        ∃ own', own <+: own' ∧ (run.next moment call).Registers base stem own' ∧
          ∀ s, call.series? ≠ some s →
            s.collected (run.next moment call).accepted = s.collected run.accepted := by
  obtain ⟨own, h⟩ := ExpositionPublisher.exists_tracks stem reference base hcalls
  refine ⟨h.showsAccepted, own, h.registers, fun moment call hnow hcall => ?_⟩
  obtain ⟨own', hprefix, hnext, hothers⟩ := h.exists_next hnow hcall
  exact ⟨own', hprefix, hnext.registers, hothers⟩

theorem ExpositionPublisher.exposes_accepted_of_four_calls :
    let run := ExpositionPublisher.run "mediatel" .null ⟨[⟨"up", "", .gauge .zero⟩]⟩
      [({ now := .int 1 }, .start "join" "a"), ({ now := .int 2 }, .set "load" 3),
        ({ now := .int 3 }, .add "calls" none), ({ now := .int 4 }, .finish "join" "a")]
    (∃ x, run.registry.exposed? "mediatel_load" = some x ∧ x.Shows 3) ∧
      (∃ x, run.registry.exposed? "mediatel_calls_total" = some x ∧ x.Shows 1) ∧
      ∃ x, run.registry.exposed? "mediatel_join_seconds_count" = some x ∧ x.Shows 1 := by
  intro run
  have hcalls : ∀ call ∈ [(({ now := .int 1 } : Moment), SeriesCall.start "join" "a"),
      ({ now := .int 2 }, .set "load" 3), ({ now := .int 3 }, .add "calls" none),
      ({ now := .int 4 }, .finish "join" "a")], call.1.now.IsReading ∧ call.2.Bounded := by
    have hsmall {n : Int} (h : n.natAbs < twoTo 3) : (Value.int n).IsReading :=
      .int n (h.trans (twoTo_lt_twoTo (by decide)))
    simp only [List.forall_mem_cons, SeriesCall.Bounded]
    refine ⟨⟨hsmall ?_, trivial⟩, ⟨hsmall ?_, ?_⟩, ⟨hsmall ?_, ?_⟩, ⟨hsmall ?_, trivial⟩,
      fun _ h => nomatch h⟩ <;> decide
  obtain ⟨hgauge, hcounter, hcount, -⟩ :=
    (exposes_accepted "mediatel" .null ⟨[⟨"up", "", .gauge .zero⟩]⟩ _ hcalls).1
  have hlength : (run.accepted.filterMap (SeriesWrite.readings? "join")).length = 1 := by
    decide +kernel
  refine ⟨hgauge "load" 3 (by decide +kernel), hcounter "calls" [1] (by decide +kernel) (by decide)
    (by decide), ?_⟩
  have hshown := hcount "join" _ rfl (List.ne_nil_of_length_pos (hlength ▸ Nat.one_pos))
    (hlength ▸ Nat.one_le_two_pow)
  rw [show _ = 1 from hlength] at hshown
  exact hshown

end SessionTelemetry
