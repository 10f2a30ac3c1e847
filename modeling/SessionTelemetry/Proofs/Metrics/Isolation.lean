import Mathlib.Data.List.Forall2
import SessionTelemetry.Metrics.FanOut
import SessionTelemetry.Proofs.Metrics.Division

/-!
# Publishers do not see each other

Where no publisher changes what another one owns, a call finds every publisher as if it were alone
(`run_of_separate`). One call therefore keeps a publisher among others like the same publisher on
its own (`mirrors_call`), and so do any calls.

All this is about publishers that can be named (`FanOut.Named`). One that has to be named in a
record and cannot be ends the call before the ones after it are reached (`FanOut.Interrupted`), and
nothing else does (`run_interrupted`).
-/

namespace SessionTelemetry

inductive Outcome.Means : Except Fault Reply → Outcome → Prop where
  | returned (o : Outcome) : Means (.ok (.outcome o)) o
  | value (v : Value) : Means (.ok (.other v)) .ok
  | unsupported (fault : Fault) (h : fault.isUnsupported = true) :
      Means (.error fault) .unsupported
  | raised (fault : Fault) (h : fault.isUnsupported = false) :
      Means (.error fault) (.failed (some fault))

inductive Outcome.Reported : Outcome → List Record → Prop where
  | ok : Reported .ok []
  | unsupported (r : Record) (hlevel : r.level = Record.debugLevel) (hfault : r.fault = none) :
      Reported .unsupported [r]
  | failed (fault : Option Fault) (r : Record) (hlevel : r.level = Record.errorLevel)
      (hfault : r.fault = fault) : Reported (.failed fault) [r]

theorem Outcome.means_ofReply (reply : Except Fault Reply) : Means reply (ofReply reply) := by
  cases reply with
  | ok r =>
    cases r with
    | outcome o => exact .returned o
    | other v => exact .value v
  | error fault =>
    simp only [ofReply]
    split_ifs with h
    · exact .unsupported fault h
    · exact .raised fault (by simpa using h)

theorem FanOut.reported_outcomeRecord (title : String) (call : MetricCall) (o : Outcome) :
    o.Reported (outcomeRecord title call o) := by
  cases o with
  | ok => exact .ok
  | unsupported => exact .unsupported _ rfl rfl
  | failed fault => exact .failed fault _ rfl rfl

theorem FanOut.report_of_title {title : Except Fault String} {name : String}
    (h : title = .ok name) (call : MetricCall) (o : Outcome) :
    report title call o = .ok (outcomeRecord name call o) := by
  subst h
  cases o <;> rfl

/-- Recording fails only where there is something to record, and a name is missing for it. -/
theorem FanOut.report_eq_error {title : Except Fault String} {call : MetricCall} {o : Outcome}
    {fault : Fault} (h : report title call o = .error fault) :
    o ≠ .ok ∧ title = .error fault := by
  cases o with
  | ok => cases h
  | _ =>
    cases title with
    | ok name => cases h
    | error f => exact ⟨Outcome.noConfusion, by cases h; rfl⟩

/-- Publishers get the arguments of a call, but for an amount that is null. -/
theorem MetricCall.passedOn_eq (call : MetricCall) :
    (∀ name, call.passedOn ≠ .incremental name (some .null)) ∧
    (call.passedOn = call ∨
      ∃ name, call = .incremental name (some .null) ∧ call.passedOn = .incremental name none) := by
  unfold passedOn
  split
  · exact ⟨fun _ => by simp, .inr ⟨_, rfl, rfl⟩⟩
  · rename_i hnull
    exact ⟨hnull, .inl rfl⟩

def Publisher.Titled (p : Publisher) : Prop := ∃ name, p.title = .ok name

structure FanOut.Step (ε : Type) where
  meanwhile : ε → ε := id
  call : MetricCall

namespace FanOut

variable {ε P κ ω : Type} {respond : ε → P → MetricCall → PublisherAnswer ε P}
  {title : P → Except Fault String} {call : MetricCall} {b c : ε} {p q : P} {publishers : List P}

inductive Reaches (respond : ε → P → MetricCall → PublisherAnswer ε P) (p : P) : P → Prop where
  | refl : Reaches respond p p
  | call {q : P} (h : Reaches respond p q) (b : ε) (call : MetricCall) :
      Reaches respond p (respond b q call).publisher

/-- A publisher whose name can be read after any calls. -/
def Named (respond : ε → P → MetricCall → PublisherAnswer ε P) (title : P → Except Fault String)
    (p : P) : Prop :=
  ∀ q, Reaches respond p q → ∃ name, title q = .ok name

theorem Reaches.head (b : ε) (call : MetricCall)
    (h : Reaches respond (respond b p call).publisher q) : Reaches respond p q := by
  induction h with
  | refl => exact .call .refl b call
  | call _ c later ih => exact .call ih c later

theorem Named.called (h : Named respond title p) (b : ε) (call : MetricCall) :
    Named respond title (respond b p call).publisher :=
  fun q hq => h q (hq.head b call)

theorem named_of_constant (hkeeps : ∀ b p call, title (respond b p call).publisher = title p)
    {name : String} (h : title p = .ok name) : Named respond title p := by
  intro q hq
  induction hq with
  | refl => exact ⟨name, h⟩
  | call _ b call ih => rwa [hkeeps]

theorem named_of_titled {p : Publisher} (h : p.Titled) :
    Named Publisher.respond Publisher.title p :=
  h.elim fun _ hname => named_of_constant Publisher.title_respond hname

/-- A publisher that can be named does not end a call, and there is a record where one is due. -/
theorem run_cons_of_named (h : Named respond title p) (b : ε) (call : MetricCall) (rest : List P) :
    ∃ records, report (title (respond b p call).publisher) call
        (Outcome.ofReply (respond b p call).reply) = .ok records ∧
      (Outcome.ofReply (respond b p call).reply).Reported records ∧
      run respond title call b (p :: rest) =
        let later := run respond title call (respond b p call).shared rest
        ⟨Outcome.ofReply (respond b p call).reply :: later.outcomes,
          (respond b p call).publisher :: later.publishers, later.shared,
          (respond b p call).records ++ records ++ later.records, later.fault⟩ := by
  obtain ⟨name, hname⟩ := h _ (.call .refl b call)
  have hreport := report_of_title hname call (Outcome.ofReply (respond b p call).reply)
  exact ⟨_, hreport, reported_outcomeRecord _ _ _, by simp only [run, hreport]⟩

/-- How a call ends early: at a publisher for which it has something to record and whose name cannot
be read. The ones before it have been called as if they were all there are, and the ones after it
have not been called. -/
def Interrupted (respond : ε → P → MetricCall → PublisherAnswer ε P)
    (title : P → Except Fault String) (call : MetricCall) (b : ε) (publishers : List P)
    (done : FanOut ε P) : Prop :=
  ∃ before p after fault, publishers = before ++ p :: after ∧
    let reached := run respond title call b before
    let answer := respond reached.shared p call
    reached.fault = none ∧ Outcome.ofReply answer.reply ≠ .ok ∧
    title answer.publisher = .error fault ∧
    done = ⟨reached.outcomes, reached.publishers ++ answer.publisher :: after, answer.shared,
      reached.records ++ answer.records, some fault⟩

theorem run_interrupted (respond : ε → P → MetricCall → PublisherAnswer ε P)
    (title : P → Except Fault String) (call : MetricCall) (b : ε) (publishers : List P) :
    (run respond title call b publishers).fault = none ∨
      Interrupted respond title call b publishers (run respond title call b publishers) := by
  induction publishers generalizing b with
  | nil => exact .inl rfl
  | cons p rest ih =>
    cases hreport : report (title (respond b p call).publisher) call
        (Outcome.ofReply (respond b p call).reply) with
    | error fault =>
      obtain ⟨hrecorded, hname⟩ := report_eq_error hreport
      refine .inr ⟨[], p, rest, fault, rfl, rfl, hrecorded, hname, ?_⟩
      simp only [run, hreport, List.nil_append]
    | ok records =>
      obtain hnone | ⟨before, q, after, fault, rfl, hreached, hrecorded, hname, hdone⟩ :=
        ih (respond b p call).shared
      · exact .inl (by simp only [run, hreport, hnone])
      -- the publisher at the head is one more of those before the one without a name
      · refine .inr ⟨p :: before, q, after, fault, rfl, ?_, ?_, ?_, ?_⟩
        · simpa only [run, hreport] using hreached
        · simpa only [run, hreport] using hrecorded
        · simpa only [run, hreport] using hname
        · simp only [run, hreport, hdone, List.cons_append, List.append_assoc]

def witnessed (respond : ε → P → MetricCall → PublisherAnswer ε P) :
    List (P × MetricCall) × ε → P → MetricCall → PublisherAnswer (List (P × MetricCall) × ε) P :=
  fun shared p call =>
    let answer := respond shared.2 p call
    ⟨answer.reply, answer.publisher, (shared.1 ++ [(p, call)], answer.shared), answer.records⟩

/-- The publishers are called in their order, each of them once. -/
theorem run_witnessed (called : List (P × MetricCall)) (publishers : List P)
    (hnamed : ∀ p ∈ publishers, Named respond title p) :
    run (witnessed respond) title call (called, b) publishers =
      { run respond title call b publishers with
        shared := (called ++ publishers.map fun p => (p, call),
          (run respond title call b publishers).shared) } := by
  induction publishers generalizing b called with
  | nil => simp [run]
  | cons p rest ih =>
    rw [List.forall_mem_cons] at hnamed
    obtain ⟨records, hreport, -⟩ := run_cons_of_named hnamed.1 b call rest
    simp only [run, witnessed, hreport, ih _ hnamed.2]
    simp

theorem fault_run_of_named (h : ∀ p ∈ publishers, Named respond title p) :
    (run respond title call b publishers).fault = none := by
  induction publishers generalizing b with
  | nil => rfl
  | cons p rest ih =>
    rw [List.forall_mem_cons] at h
    obtain ⟨records, -, -, hrun⟩ := run_cons_of_named h.1 b call rest
    rw [hrun]
    exact ih h.2

theorem forall_named_run (h : ∀ p ∈ publishers, Named respond title p) :
    ∀ p ∈ (run respond title call b publishers).publishers, Named respond title p := by
  induction publishers generalizing b with
  | nil => exact h
  | cons p rest ih =>
    rw [List.forall_mem_cons] at h
    obtain ⟨records, -, -, hrun⟩ := run_cons_of_named h.1 b call rest
    rw [hrun]
    exact List.forall_mem_cons.2 ⟨h.1.called b call, ih h.2⟩

def next (respond : ε → P → MetricCall → PublisherAnswer ε P) (title : P → Except Fault String)
    (now : ε × List P) (step : Step ε) : ε × List P :=
  let done := publish respond title (step.meanwhile now.1) now.2 step.call
  (done.shared, done.publishers)

def after (respond : ε → P → MetricCall → PublisherAnswer ε P) (title : P → Except Fault String)
    (now : ε × List P) (steps : List (Step ε)) : ε × List P :=
  steps.foldl (next respond title) now

theorem forall_named_after {now : ε × List P} (h : ∀ p ∈ now.2, Named respond title p)
    (steps : List (Step ε)) : ∀ p ∈ (after respond title now steps).2, Named respond title p := by
  induction steps generalizing now with
  | nil => exact h
  | cons step rest ih => exact ih (forall_named_run h)

section Separate

variable (d : Division respond κ ω)

theorem map_owned_run (publishers : List P) :
    (run respond title call b publishers).publishers.map d.owned = publishers.map d.owned := by
  induction publishers generalizing b with
  | nil => rfl
  | cons p rest ih =>
    simp only [run]
    split
    · rw [List.map_cons, List.map_cons, d.keeps]
    · simp only [List.map_cons, ih, d.keeps]

/-- What is owned by somebody else stays as it is. -/
theorem part_run_of_spares {l : κ} (h : ∀ p ∈ publishers, d.Spares (d.owned p) l) :
    d.part l (run respond title call b publishers).shared = d.part l b := by
  induction publishers generalizing b with
  | nil => rfl
  | cons p rest ih =>
    rw [List.forall_mem_cons] at h
    simp only [run]
    split
    · exact h.1 b p call rfl
    · exact (ih h.2).trans (h.1 b p call rfl)

theorem forall_spares_of_separate_cons (h : d.Separate (p :: publishers)) :
    ∀ q ∈ publishers, d.Spares (d.owned p) (d.owned q) ∧ d.Spares (d.owned q) (d.owned p) :=
  fun _ hq => (List.pairwise_cons.1 h).1 _ (List.mem_map_of_mem hq)

/-- Separate publishers that can be named answer a call as if each were the first to be called. -/
theorem run_of_separate (title : P → Except Fault String) (call : MetricCall) (b : ε)
    (h : d.Separate publishers) (hnamed : ∀ p ∈ publishers, Named respond title p) :
    (run respond title call b publishers).outcomes =
      publishers.map (fun p => Outcome.ofReply (respond b p call).reply) ∧
    (run respond title call b publishers).publishers =
      publishers.map (fun p => (respond b p call).publisher) ∧
    ∃ reports, List.Forall₂ Outcome.Reported
        (publishers.map fun p => Outcome.ofReply (respond b p call).reply) reports ∧
      (run respond title call b publishers).records = (List.zipWith (· ++ ·)
        (publishers.map fun p => (respond b p call).records) reports).flatten := by
  induction publishers generalizing b with
  | nil => exact ⟨rfl, rfl, [], .nil, rfl⟩
  | cons p rest ih =>
    rw [List.forall_mem_cons] at hnamed
    obtain ⟨records, -, hreported, hrun⟩ := run_cons_of_named hnamed.1 b call rest
    obtain ⟨houtcomes, hpublishers, reports, hreports, hrecords⟩ :=
      ih (respond b p call).shared (List.pairwise_cons.1 h).2 hnamed.2
    -- the first publisher left alone what the others read
    have hsame : ∀ q ∈ rest, _ := fun q hq => d.reads (respond b p call).shared b q call
      ((forall_spares_of_separate_cons d h q hq).1 b p call rfl)
    have houtcome : rest.map (fun q => Outcome.ofReply
        (respond (respond b p call).shared q call).reply) =
          rest.map fun q => Outcome.ofReply (respond b q call).reply :=
      List.map_congr_left fun q hq => by rw [(hsame q hq).1]
    rw [houtcome] at houtcomes hreports
    have hpublisher : rest.map (fun q => (respond (respond b p call).shared q call).publisher) =
        rest.map fun q => (respond b q call).publisher :=
      List.map_congr_left fun q hq => (hsame q hq).2.1
    have hrecord : rest.map (fun q => (respond (respond b p call).shared q call).records) =
        rest.map fun q => (respond b q call).records :=
      List.map_congr_left fun q hq => (hsame q hq).2.2.1
    rw [hrun]
    refine ⟨?_, ?_, records :: reports, .cons hreported hreports, ?_⟩
    · simp only [houtcomes, List.map_cons]
    · simp only [hpublishers, hpublisher, List.map_cons]
    · simp only [hrecords, hrecord, List.map_cons, List.zipWith_cons_cons, List.flatten_cons]

/-- What a publisher owns is changed by its own call only. -/
theorem part_run_of_separate (call : MetricCall) (b : ε) (h : d.Separate publishers)
    (hnamed : ∀ p ∈ publishers, Named respond title p) (hp : p ∈ publishers) :
    d.part (d.owned p) (run respond title call b publishers).shared =
      d.part (d.owned p) (respond b p call).shared := by
  induction publishers generalizing b with
  | nil => cases hp
  | cons q rest ih =>
    have hspares := forall_spares_of_separate_cons d h
    rw [List.forall_mem_cons] at hnamed
    obtain ⟨records, -, -, hrun⟩ := run_cons_of_named hnamed.1 b call rest
    rw [hrun]
    cases hp with
    | head => exact part_run_of_spares d fun q hq => (hspares q hq).2
    | tail _ hp =>
      rw [ih _ (List.pairwise_cons.1 h).2 hnamed.2 hp]
      exact (d.reads _ b p call ((hspares p hp).1 b q call rfl)).2.2.2

/-- The publisher at a place among others, and the same one on its own: the two are in the same
state and own the same. -/
def Mirrors (i : ℕ) (many one : ε × List P) : Prop :=
  ∃ p, many.2[i]? = some p ∧ one.2 = [p] ∧
    d.part (d.owned p) many.1 = d.part (d.owned p) one.1

variable {d}

/-- A call gives a publisher among others the result, the state and the part that it gives to the
publisher on its own. -/
theorem mirrors_call {i : ℕ} {many one : ε × List P} (hseparate : d.Separate many.2)
    (hnamed : ∀ p ∈ many.2, Named respond title p) (h : Mirrors d i many one) :
    let done := publish respond title many.1 many.2 call
    let alone := publish respond title one.1 one.2 call
    Mirrors d i (done.shared, done.publishers) (alone.shared, alone.publishers) ∧
    ∃ o, done.outcomes[i]? = some o ∧ alone.outcomes = [o] := by
  obtain ⟨p, hmany, hone, hpart⟩ := h
  -- among others, the publisher is called as if it were the first, and alone it is the first
  obtain ⟨houtcomes, hpublishers, -⟩ :=
    run_of_separate d title call.passedOn many.1 hseparate hnamed
  obtain ⟨hreply, hpublisher, -, hshared⟩ := d.reads many.1 one.1 p call.passedOn hpart
  have hown := part_run_of_separate d call.passedOn many.1 hseparate hnamed
    (List.mem_of_getElem? hmany)
  obtain ⟨records, -, -, halone⟩ :=
    run_cons_of_named (hnamed p (List.mem_of_getElem? hmany)) one.1 call.passedOn []
  refine ⟨⟨(respond one.1 p call.passedOn).publisher, ?_, ?_, ?_⟩,
    Outcome.ofReply (respond one.1 p call.passedOn).reply, ?_, ?_⟩
  · simp [publish, hpublishers, hmany, hpublisher]
  · simp only [publish, hone, halone]
    rfl
  · rw [d.keeps]
    simp only [publish, hone, halone]
    exact hown.trans hshared
  · simp [publish, houtcomes, hmany, hreply]
  · simp only [publish, hone, halone]
    rfl

theorem separate_next {now : ε × List P} (h : d.Separate now.2) (step : Step ε) :
    d.Separate (next respond title now step).2 := by
  rw [Division.Separate, next, publish, map_owned_run]
  exact h

theorem mirrors_next {i : ℕ} {many one : ε × List P} {step : Step ε} (hseparate : d.Separate many.2)
    (hnamed : ∀ p ∈ many.2, Named respond title p) (hmeanwhile : d.Respects step.meanwhile)
    (h : Mirrors d i many one) :
    Mirrors d i (next respond title many step) (next respond title one step) := by
  obtain ⟨p, hmany, hone, hpart⟩ := h
  have hbefore : Mirrors d i (step.meanwhile many.1, many.2) (step.meanwhile one.1, one.2) :=
    ⟨p, hmany, hone, hmeanwhile _ _ _ hpart⟩
  refine (mirrors_call ?_ ?_ hbefore).1
  · exact hseparate
  · exact hnamed

theorem separate_after {now : ε × List P} (h : d.Separate now.2) (steps : List (Step ε)) :
    d.Separate (after respond title now steps).2 := by
  induction steps generalizing now with
  | nil => exact h
  | cons step rest ih => exact ih (separate_next h step)

theorem mirrors_after {i : ℕ} {many one : ε × List P} {steps : List (Step ε)}
    (hseparate : d.Separate many.2) (hnamed : ∀ p ∈ many.2, Named respond title p)
    (hmeanwhile : ∀ step ∈ steps, d.Respects step.meanwhile) (h : Mirrors d i many one) :
    Mirrors d i (after respond title many steps) (after respond title one steps) := by
  induction steps generalizing many one with
  | nil => exact h
  | cons step rest ih =>
    rw [List.forall_mem_cons] at hmeanwhile
    exact ih (separate_next hseparate step) (forall_named_run hnamed) hmeanwhile.2
      (mirrors_next hseparate hnamed hmeanwhile.1 h)

end Separate

/-- The same with a publisher that fails and has a name that cannot be read. -/
example :
    (publish Publisher.respond Publisher.title {}
      [.exposition { registry := .registry "a" },
        .standIn { name := .error .unsuitable, typeName := "Failing" },
        .exposition { registry := .registry "b" }]
      (.incremental (.text "joined") none)).fault = some .unsuitable := by
  decide +kernel

end FanOut

end SessionTelemetry
