import SessionTelemetry.Proofs.Metrics.SeriesHistory

/-!
# Series that get in each other's way

Different metrics may ask for the same names: `a b` and `a-b` are exposed alike, and a gauge takes
the name of a counter. In a registry that a publisher has for itself this is all that can go wrong
(`answers_of_calls`): the write that comes second is refused, by the names that are taken, and
nothing else changes.
-/

namespace SessionTelemetry

def SeriesCall.Rising : SeriesCall → Prop
  | add _ amount => 0 ≤ amount.getD 1
  | _ => True

theorem SeriesCall.Rising.nonneg {earlier : List Exchange} {moment : Moment} {call : SeriesCall}
    {name : String} {amount : Int} (h : call.Rising)
    (hwrite : Exchange.write? earlier moment call = some (.add name amount)) : 0 ≤ amount := by
  cases call with
  | add =>
    cases hwrite
    exact h
  | set | start => cases hwrite
  | finish =>
    obtain ⟨started, -, heq⟩ := Option.map_eq_some_iff.1 hwrite
    cases heq

/-- No write that was accepted for another series claims a name of this one. -/
def ExpositionRun.Apart (stem : String) (run : ExpositionRun) (s : Series) : Prop :=
  ∀ w ∈ run.accepted, w.series ≠ s → ¬ s.Clashes stem w.series

/-- A call is accepted if what it writes, if anything, is apart from what was accepted before. If
not, it fails for the names that are claimed already, and changes nothing that is exposed. -/
structure ExpositionRun.Answers [Collectors] (stem : String) (run : ExpositionRun) (moment : Moment)
    (call : SeriesCall) (answer : Except Fault Reply) : Prop where
  accepts : (∀ w, Exchange.write? run.history moment call = some w → run.Apart stem w.series) →
    answer = .ok .ok
  refuses : ∀ w, Exchange.write? run.history moment call = some w → ¬ run.Apart stem w.series →
    ∃ names, answer = .ok (.failed (.duplicateSeries names)) ∧
      (∀ n, n ∈ names ↔ n ∈ w.series.claims stem ∧
        ∃ v ∈ run.accepted, n ∈ v.series.claims stem) ∧
      (run.next moment call).registry = run.registry

/-- A run in a registry that held nothing before, in which only series with accepted writes are
registered. -/
structure Records (stem : String) (run : ExpositionRun) (own : List Series) : Prop
    extends Tracks {} stem run own where
  written : ∀ s ∈ own, ∃ w ∈ run.accepted, w.series = s

namespace Records

variable {stem : String} {run : ExpositionRun} {own own' : List Series} {moment : Moment}
  {call : SeriesCall} {answer : Except Fault Reply} {s : Series}

theorem fits_iff (h : Records stem run own) : s.Fits {} stem own ↔ run.Apart stem s := by
  obtain rfl := h.stem_eq
  constructor
  · rintro hfits w hw hne
    have hown := (h.listed w hw).1
    rcases hfits with hs | ⟨-, hothers⟩
    · exact h.exposes.not_clashes hs hown hne.symm
    · exact hothers _ hown
  · intro hapart
    refine or_iff_not_imp_left.2 fun hs => ⟨fun _ _ => List.not_mem_nil, fun t ht => ?_⟩
    obtain ⟨w, hw, rfl⟩ := h.written t ht
    exact hapart w hw fun heq => hs (heq ▸ ht)

theorem of_accepted_eq (h : Records stem run own) {next : ExpositionRun}
    (hnext : Tracks {} stem next own) (haccepted : next.accepted = run.accepted) :
    Records stem next own :=
  ⟨hnext, haccepted ▸ h.written⟩

/-- A call that lowers no counter ends in one of three ways. -/
theorem next [Collectors] [LawfulCollectors] (h : Records stem run own)
    (hnow : moment.now.IsReading) (hcall : call.Bounded)
    (hrising : call.Rising) :
    ∃ answer own', (run.next moment call).history = run.history ++ [⟨moment, call, answer⟩] ∧
      Ends {} stem own (Exchange.write? run.history moment call) answer own' ∧
      Records stem (run.next moment call) own' := by
  obtain ⟨answer, own', hhistory, hends, hnext⟩ := h.toTracks.next hnow hcall
  refine ⟨answer, own', hhistory, hends, ?_⟩
  have haccepted := ExpositionRun.accepted_next hhistory
  unfold Exchange.accepted? at haccepted
  generalize hwrite : Exchange.write? run.history moment call = w? at hends
  cases hends with
  | idle =>
    simp only [Reply.ok, hwrite, Option.toList_none, List.append_nil] at haccepted
    exact h.of_accepted_eq hnext haccepted
  | taken hfits =>
    simp only [Reply.ok, hwrite, Option.toList_some] at haccepted
    refine ⟨hnext, fun s hs => ?_⟩
    rw [haccepted]
    rcases Series.mem_listed.1 hs with hold | rfl
    · obtain ⟨w, hw, heq⟩ := h.written s hold
      exact ⟨w, List.mem_append_left _ hw, heq⟩
    · exact ⟨_, List.mem_concat_self, rfl⟩
  | refused hneg => exact absurd (hrising.nonneg hwrite) (not_le.2 hneg)
  | clashing =>
    simp only [Reply.failed, Option.toList_none, List.append_nil] at haccepted
    exact h.of_accepted_eq hnext haccepted

/-- What a registry exposes is determined by the series that are registered and the writes that
were accepted. -/
theorem registry_eq (h : Records stem run own) {next : ExpositionRun}
    (hnext : Records stem next own) (haccepted : next.accepted = run.accepted) :
    next.registry = run.registry := by
  have hstem := hnext.stem_eq.trans h.stem_eq.symm
  have hfamilies := hnext.exposes.families
  rw [haccepted, hstem, ← h.exposes.families] at hfamilies
  exact congrArg CollectorRegistry.mk hfamilies

theorem mem_claims_iff (h : Records stem run own) {n : String} :
    (∃ t ∈ own, n ∈ t.claims stem) ↔ ∃ v ∈ run.accepted, n ∈ v.series.claims stem := by
  constructor
  · rintro ⟨t, ht, hn⟩
    obtain ⟨v, hv, rfl⟩ := h.written t ht
    exact ⟨v, hv, hn⟩
  · rintro ⟨v, hv, hn⟩
    exact ⟨v.series, (h.listed v hv).1, hn⟩

theorem answers [Collectors] [LawfulCollectors] (h : Records stem run own)
    (hnow : moment.now.IsReading) (hcall : call.Bounded)
    (hrising : call.Rising) :
    run.Answers stem moment call
      (run.publisher.publish run.registry moment call.call).1 := by
  obtain ⟨answer, own', hhistory, hends, hnext⟩ := h.next hnow hcall hrising
  have hanswer : (run.publisher.publish run.registry moment call.call).1 = answer :=
    congrArg Exchange.answer (List.append_cancel_left hhistory |> List.singleton_inj.1)
  have haccepted := ExpositionRun.accepted_next hhistory
  rw [hanswer]
  generalize hwrite : Exchange.write? run.history moment call = w? at hends
  cases hends with
  | idle => exact ⟨fun _ => rfl, fun w hw => nomatch hwrite.symm.trans hw⟩
  | taken hfits =>
    refine ⟨fun _ => rfl, fun w hw hapart => ?_⟩
    cases hwrite.symm.trans hw
    exact absurd (h.fits_iff.1 hfits) hapart
  | refused hneg => exact absurd (hrising.nonneg hwrite) (not_le.2 hneg)
  | clashing hclash hnames =>
    refine ⟨fun hapart => absurd (h.fits_iff.2 (hapart _ hwrite)) hclash, fun w hw _ => ?_⟩
    cases hwrite.symm.trans hw
    have hsame : (run.next moment call).accepted = run.accepted :=
      haccepted.trans (List.append_nil _)
    refine ⟨_, rfl, fun n => ?_, h.registry_eq hnext hsame⟩
    rw [hnames, ← h.mem_claims_iff]
    exact and_congr_right fun _ => or_iff_right List.not_mem_nil

end Records

namespace ExpositionPublisher

variable {stem : String} {reference : Value} {base : CollectorRegistry}
  {calls : List (Moment × SeriesCall)} {call : Moment × SeriesCall} {w : SeriesWrite}

theorem run_concat [Collectors] : run stem reference base (calls ++ [call]) =
    (run stem reference base calls).next call.1 call.2 :=
  List.foldl_concat ..

theorem series_of_accepted [Collectors] (h : w ∈ (run stem reference base calls).accepted) :
    ∃ call ∈ calls, call.2.series? = some w.series := by
  induction calls using List.reverseRecOn with
  | nil => cases h
  | append_singleton calls call ih =>
    rw [run_concat, ExpositionRun.accepted_next rfl, List.mem_append, Option.mem_toList] at h
    rcases h with hold | hnew
    · obtain ⟨earlier, hearlier, hseries⟩ := ih hold
      exact ⟨earlier, List.mem_append_left _ hearlier, hseries⟩
    · exact ⟨call, List.mem_concat_self, Exchange.series_of_accepted? hnew⟩

theorem exists_records [Collectors] [LawfulCollectors] (stem : String) (reference : Value)
    (hcalls : ∀ call ∈ calls, call.1.now.IsReading ∧ call.2.Bounded ∧ call.2.Rising) :
    ∃ own, Records stem (run stem reference {} calls) own := by
  induction calls using List.reverseRecOn with
  | nil => exact ⟨[], .start {} stem reference, fun _ hs => nomatch hs⟩
  | append_singleton calls call ih =>
    rw [List.forall_mem_append, List.forall_mem_singleton] at hcalls
    obtain ⟨own, h⟩ := ih hcalls.1
    obtain ⟨hnow, hcall, hrising⟩ := hcalls.2
    obtain ⟨-, own', -, -, hnext⟩ := h.next hnow hcall hrising
    rw [run_concat]
    exact ⟨own', hnext⟩

/-- Calls about series of which no two claim a common name are all accepted. -/
theorem answers_ok [Collectors] [LawfulCollectors]
    (hcalls : ∀ call ∈ calls, call.1.now.IsReading ∧ call.2.Bounded ∧ call.2.Rising)
    (hapart : ∀ c ∈ calls, ∀ d ∈ calls, ∀ s t, c.2.series? = some s → d.2.series? = some t →
      s ≠ t → ¬ s.Clashes stem t) :
    ∀ x ∈ (run stem reference {} calls).history, x.answer = .ok .ok := by
  induction calls using List.reverseRecOn with
  | nil => exact fun x hx => nomatch hx
  | append_singleton calls call ih =>
    simp only [List.forall_mem_append, List.forall_mem_singleton] at hcalls
    obtain ⟨own, h⟩ := exists_records stem reference hcalls.1
    obtain ⟨hnow, hcall, hrising⟩ := hcalls.2
    have hearlier : ∀ c ∈ calls, c ∈ calls ++ [call] := fun c hc => List.mem_append_left _ hc
    rw [run_concat]
    refine List.forall_mem_append.2 ⟨ih hcalls.1 fun c hc d hd =>
      hapart c (hearlier c hc) d (hearlier d hd), List.forall_mem_singleton.2 ?_⟩
    refine (h.answers hnow hcall hrising).accepts fun w hwrite v hv hne => ?_
    obtain ⟨c, hc, hseries⟩ := series_of_accepted hv
    exact hapart call List.mem_concat_self c (hearlier c hc) _ _
      (Exchange.series_of_write? hwrite) hseries hne.symm

/-- In a registry of its own a publisher accepts every call but those about a series that claims a
name of another one with accepted writes, so that it accepts all calls about series that claim no
common names. -/
theorem answers_of_calls [Collectors] [LawfulCollectors] (stem : String) (reference : Value)
    (calls : List (Moment × SeriesCall))
    (hcalls : ∀ call ∈ calls, call.1.now.IsReading ∧ call.2.Bounded ∧ call.2.Rising) :
    let run := ExpositionPublisher.run stem reference {} calls
    (∀ (moment : Moment) (call : SeriesCall), moment.now.IsReading → call.Bounded → call.Rising →
      run.Answers stem moment call (run.publisher.publish run.registry moment call.call).1) ∧
    ((∀ c ∈ calls, ∀ d ∈ calls, ∀ s t, c.2.series? = some s → d.2.series? = some t → s ≠ t →
        ¬ s.Clashes stem t) →
      ∀ x ∈ run.history, x.answer = .ok .ok) := by
  obtain ⟨own, h⟩ := exists_records stem reference hcalls
  exact ⟨fun _ _ => h.answers, answers_ok hcalls⟩

theorem answers_of_calls_apart :
    (∀ call ∈ [(({} : Moment), SeriesCall.set "load" 3), ({}, .add "calls" none)],
      call.1.now.IsReading ∧ call.2.Bounded ∧ call.2.Rising) ∧
    ∀ x ∈ (run "mediatel" .null {} [({}, .set "load" 3), ({}, .add "calls" none)]).history,
      x.answer = .ok .ok := by
  have hcalls : ∀ call ∈ [(({} : Moment), SeriesCall.set "load" 3), ({}, .add "calls" none)],
      call.1.now.IsReading ∧ call.2.Bounded ∧ call.2.Rising := by
    simp only [List.forall_mem_cons, SeriesCall.Bounded, SeriesCall.Rising]
    refine ⟨⟨.float _, ?_, trivial⟩, ⟨.float _, ?_, ?_⟩, fun _ h => nomatch h⟩ <;> decide
  refine ⟨hcalls, (answers_of_calls "mediatel" .null _ hcalls).2 ?_⟩
  intro c hc d hd s t hs ht hne
  simp only [List.mem_cons, List.not_mem_nil, or_false] at hc hd
  rcases hc with rfl | rfl <;> rcases hd with rfl | rfl <;> cases hs <;> cases ht
  · exact absurd rfl hne
  · decide
  · decide
  · exact absurd rfl hne

/-- A gauge keeps a counter of its name from being registered. -/
theorem answer_failed_of_kinds :
    (∀ call ∈ [(({} : Moment), SeriesCall.set "load" 1), ({}, .add "load" none)],
      call.1.now.IsReading ∧ call.2.Bounded ∧ call.2.Rising) ∧
    ∃ x ∈ (run "mediatel" .null {} [({}, .set "load" 1), ({}, .add "load" none)]).history,
      x.answer ≠ .ok .ok := by
  constructor
  · simp only [List.forall_mem_cons, SeriesCall.Bounded, SeriesCall.Rising]
    refine ⟨⟨.float _, ?_, trivial⟩, ⟨.float _, ?_, ?_⟩, fun _ h => nomatch h⟩ <;> decide
  · have hfailed : ((run "mediatel" .null {}
        [({}, .set "load" 1), ({}, .add "load" none)]).history.any
          fun x => Outcome.ofReply x.answer ≠ .ok) = true := by
      decide +kernel
    obtain ⟨x, hx, hne⟩ := List.any_eq_true.1 hfailed
    refine ⟨x, hx, fun hok => of_decide_eq_true hne ?_⟩
    rw [hok]
    rfl

end ExpositionPublisher

end SessionTelemetry
