import Mathlib.Data.List.ReduceOption
import SessionTelemetry.Notify.Service
import SessionTelemetry.Proofs.Metrics.Isolation
import SessionTelemetry.Proofs.Metrics.Transactions
import SessionTelemetry.Proofs.Session.Census

/-!
# Conferences over whole runs

A run of notifications is looked at through a publisher that remembers, one among others. The
notifications whose conference is on a bridge make up a history (`ConferenceEvent`); the numbers and
the durations that are remembered can be read off this history alone (`Kept`).
-/

namespace SessionTelemetry

structure ConferenceEvent where
  created : Bool
  id : String
  live : Nat
  now : Value

structure ConferenceLength where
  id : String
  started : Value
  ended : Value

namespace ConferenceEvent

variable (earlier : List ConferenceEvent) (e : ConferenceEvent) (id : String)

/-- The time of the latest creation of a conference since its last expiry, if there was one. -/
def running? : Option Value :=
  ((earlier.reverse.filter fun e => e.id = id).takeWhile fun e => e.created).head?.map (·.now)

def length? : Option ConferenceLength :=
  if e.created then none else (running? earlier e.id).map fun started => ⟨e.id, started, e.now⟩

def lengths (earlier : List ConferenceEvent) : List ConferenceEvent → List ConferenceLength
  | [] => []
  | e :: rest => (length? earlier e).toList ++ lengths (earlier ++ [e]) rest

theorem running?_concat :
    running? (earlier ++ [e]) id =
      if e.id = id then if e.created then some e.now else none else running? earlier id := by
  unfold running?
  rw [List.reverse_append, List.reverse_singleton, List.singleton_append, List.filter_cons]
  by_cases hid : e.id = id
  · cases hcreated : e.created <;> simp [hid, hcreated]
  · simp [hid]

theorem lengths_concat (rest : List ConferenceEvent) :
    lengths earlier (rest ++ [e]) =
      lengths earlier rest ++ (length? (earlier ++ rest) e).toList := by
  induction rest generalizing earlier with
  | nil => simp [lengths]
  | cons first rest ih => simp [lengths, ih]

end ConferenceEvent

structure ConferenceLength.Measures (d : Duration) (l : ConferenceLength) : Prop where
  type : d.type = .text MetricName.conferenceLength
  id : d.id = .text l.id
  seconds : l.started.Lasted l.ended d.seconds

/-- What a publisher that remembers holds after a history. -/
structure Kept (history : List ConferenceEvent) (m : MemoryPublisher) : Prop where
  numeric : m.numeric =
    history.map fun e => (.text MetricName.conferences, .int e.live)
  durations :
    List.Forall₂ ConferenceLength.Measures m.durations (ConferenceEvent.lengths [] history)
  sound : m.transactions.Sound
  running : ∀ id, m.transactions.running.find?
    (Stopwatch.textKey MetricName.conferenceLength id) = ConferenceEvent.running? history id

namespace ConferenceEvent

def transaction (e : ConferenceEvent) : MetricCall :=
  if e.created then .start (.text MetricName.conferenceLength) (.text e.id)
  else .finish (.text MetricName.conferenceLength) (.text e.id)

def calls (e : ConferenceEvent) : List MetricCall :=
  [.numeric (.text MetricName.conferences) (.int e.live), e.transaction]

theorem map_passedOn_calls (e : ConferenceEvent) : e.calls.map MetricCall.passedOn = e.calls := by
  unfold calls transaction
  cases e.created <;> rfl

end ConferenceEvent

theorem kept_empty : Kept [] {} where
  numeric := rfl
  durations := .nil
  sound := Stopwatch.sound_empty
  running _ := rfl

namespace Kept

variable {history : List ConferenceEvent} {m : MemoryPublisher} {e : ConferenceEvent}
  {moment : Moment}

theorem created (h : Kept history m) (he : e.created = true) (hmoment : moment.now = e.now)
    (hnow : e.now.IsReading) :
    Kept (history ++ [e]) (e.calls.foldl (fun m call => (m.publish moment call).2) m) := by
  have hlength : ConferenceEvent.length? history e = none := by
    rw [ConferenceEvent.length?, if_pos he]
  simp only [ConferenceEvent.calls, ConferenceEvent.transaction, if_pos he, List.foldl_cons,
    List.foldl_nil, MemoryPublisher.publish, Stopwatch.start_text, hmoment]
  refine ⟨by simp [h.numeric], ?_, h.sound.put hnow _, fun id => ?_⟩
  · rw [ConferenceEvent.lengths_concat, List.nil_append, hlength, Option.toList_none,
      List.append_nil]
    exact h.durations
  · rw [Table.find?_put, ConferenceEvent.running?_concat, if_pos he, h.running]
    simp only [Stopwatch.textKey_inj, true_and, eq_comm]

theorem expired (h : Kept history m) (he : e.created = false) (hmoment : moment.now = e.now)
    (hnow : e.now.IsReading) :
    Kept (history ++ [e]) (e.calls.foldl (fun m call => (m.publish moment call).2) m) := by
  have hne : ¬ e.created = true := by simp [he]
  simp only [ConferenceEvent.calls, ConferenceEvent.transaction, if_neg hne, List.foldl_cons,
    List.foldl_nil, MemoryPublisher.publish]
  have hrunning := h.running e.id
  cases hstarted : ConferenceEvent.running? history e.id with
  | none =>
    -- the expiry is unmatched, and the next one would be, too
    rw [hstarted] at hrunning
    rw [Stopwatch.stop_of_absent hrunning]
    refine ⟨by simp [h.numeric], ?_, h.sound, fun id => ?_⟩
    · rw [ConferenceEvent.lengths_concat, List.nil_append, ConferenceEvent.length?, if_neg hne,
        hstarted, Option.map_none, Option.toList_none, List.append_nil]
      exact h.durations
    · rw [ConferenceEvent.running?_concat, if_neg hne, h.running]
      split_ifs with hid
      · rw [← hid, hstarted]
      · rfl
  | some started =>
    rw [hstarted] at hrunning
    have hreading : moment.now.IsReading := hmoment ▸ hnow
    obtain ⟨seconds, hstop, hlasted, -⟩ :=
      Stopwatch.stop_of_running hreading (h.sound.reading hrunning) hrunning
    rw [hstop]
    refine ⟨by simp [h.numeric], ?_, h.sound.erase _, fun id => ?_⟩
    · rw [ConferenceEvent.lengths_concat, List.nil_append, ConferenceEvent.length?, if_neg hne,
        hstarted]
      exact List.rel_append h.durations (.cons ⟨rfl, rfl, hmoment ▸ hlasted⟩ .nil)
    · rw [Table.find?_erase h.sound.distinct, ConferenceEvent.running?_concat, if_neg hne,
        h.running]
      simp only [Stopwatch.textKey_inj, true_and, eq_comm]

theorem next (h : Kept history m) (hmoment : moment.now = e.now) (hnow : e.now.IsReading) :
    Kept (history ++ [e]) (e.calls.foldl (fun m call => (m.publish moment call).2) m) := by
  cases he : e.created with
  | true => exact h.created he hmoment hnow
  | false => exact h.expired he hmoment hnow

end Kept

section FanOut

variable {b : MetricBackends} {publishers : List Publisher} {i : Nat} {m : MemoryPublisher}

/-- A call leaves publishers that can be named as such, and comes to its end. -/
theorem FanOut.run_of_titled (call : MetricCall) (h : ∀ p ∈ publishers, p.Titled) :
    (run Publisher.respond Publisher.title call b publishers).fault = none ∧
    ∀ p ∈ (run Publisher.respond Publisher.title call b publishers).publishers, p.Titled := by
  have hnamed : ∀ p ∈ publishers, Named Publisher.respond Publisher.title p :=
    fun p hp => named_of_titled (h p hp)
  refine ⟨fault_run_of_named hnamed, fun p hp => ?_⟩
  exact forall_named_run hnamed p hp p .refl

theorem FanOut.memory_run (call : MetricCall) (hnamed : ∀ p ∈ publishers, p.Titled)
    (h : publishers[i]? = some (.memory m)) :
    (run Publisher.respond Publisher.title call b publishers).publishers[i]? =
      some (.memory (m.publish b.moment call).2) := by
  induction publishers generalizing b i with
  | nil => cases h
  | cons p rest ih =>
    rw [List.forall_mem_cons] at hnamed
    obtain ⟨records, -, -, hrun⟩ := run_cons_of_named (named_of_titled hnamed.1) b call rest
    rw [hrun]
    cases i with
    | zero =>
      obtain rfl : p = .memory m := by simpa using h
      rfl
    | succ i =>
      rw [List.getElem?_cons_succ] at h
      simp only [List.getElem?_cons_succ]
      -- what the first publisher did has not touched the clock
      rw [ih hnamed.2 h, Publisher.moment_respond]

theorem FanOut.moment_run (title : Publisher → Except Fault String) (call : MetricCall) :
    (run Publisher.respond title call b publishers).shared.moment = b.moment := by
  induction publishers generalizing b with
  | nil => rfl
  | cons p rest ih =>
    simp only [run]
    split
    · exact Publisher.moment_respond b p call
    · exact ih.trans (Publisher.moment_respond b p call)

theorem MetricService.fault_publishAll {s : MetricService} (calls : List MetricCall)
    (h : ∀ p ∈ s.publishers, p.Titled) : (s.publishAll b calls).2.2.2 = none := by
  induction calls generalizing s b with
  | nil => rfl
  | cons call rest ih =>
    obtain ⟨hfault, hnamed⟩ := FanOut.run_of_titled (b := b) call.passedOn h
    have hdone : (s.publish b call).fault = none := hfault
    simp only [publishAll, hdone]
    exact ih hnamed

/-- Calls reach a publisher that remembers one after the other, as long as the publishers beside it
can be named, and leave them so. -/
theorem MetricService.memory_publishAll {s : MetricService} (calls : List MetricCall)
    (hnamed : ∀ p ∈ s.publishers, p.Titled) (h : s.publishers[i]? = some (.memory m)) :
    (∀ p ∈ (s.publishAll b calls).1.publishers, p.Titled) ∧
    (s.publishAll b calls).1.publishers[i]? =
      some (.memory ((calls.map MetricCall.passedOn).foldl
        (fun m call => (m.publish b.moment call).2) m)) := by
  induction calls generalizing s b m with
  | nil => exact ⟨hnamed, h⟩
  | cons call rest ih =>
    obtain ⟨hfault, hnamed'⟩ := FanOut.run_of_titled (b := b) call.passedOn hnamed
    have hmemory : (s.publish b call).publishers[i]? = _ :=
      FanOut.memory_run call.passedOn hnamed h
    have hmoment : (s.publish b call).shared.moment = b.moment := FanOut.moment_run _ _
    have hdone : (s.publish b call).fault = none := hfault
    simp only [publishAll, hdone, List.map_cons, List.foldl_cons]
    rw [← hmoment]
    exact ih hnamed' (hmoment ▸ hmemory)

end FanOut

theorem MetricPlan.calls_ofConference {g : SessionGraph} {signal : Signal}
    {conference bridge : Value} {call : Value → MetricCall}
    (h : g.get conference .videobridge = .ok bridge) :
    (ofConference g signal conference call).calls =
      if bridge.isNull then [] else
        (publishCount MetricName.conferences (g.liveConferences bridge)
          (callAbout (g.get conference .id) call)).calls := by
  rw [ofConference, SessionGraph.getOrNull_of_get h]
  simp only [ofExcept, unlessMissing, References.skip?, References.firstMissing?, List.find?_cons,
    SessionGraph.isNull_of_get h, bind, Except.bind, pure, Except.pure]
  cases bridge.isNull <;> rfl

/-- A notification that a conference has been created or has expired: the session model and the
clock as they are then, and what else happened to the publishers and what they share before. -/
structure Occasion where
  graph : SessionGraph
  now : Value
  created : Bool
  conference : Value
  meanwhile : List Publisher × MetricBackends → List Publisher × MetricBackends := id

namespace Occasion

def signal (o : Occasion) : Signal :=
  if o.created then .conferenceCreated o.conference else .conferenceExpired o.conference

def next (before : MetricService × MetricBackends) (o : Occasion) :
    MetricService × MetricBackends :=
  let (publishers, backends) := o.meanwhile (before.1.publishers, before.2)
  let reaction := MetricService.notify ⟨publishers⟩
    { graph := o.graph, wall := o.now, backends := backends.tick o.now } o.signal
  (reaction.service, reaction.shared.backends)

/-- The publisher at a place is not touched by what else happens. -/
def Spares (o : Occasion) (i : Nat) : Prop :=
  ∀ publishers backends, (o.meanwhile (publishers, backends)).1[i]? = publishers[i]?

/-- What a notification shows of the session model, all of whose attributes can be read: nothing
without a conference on a bridge, otherwise the conference and how many of the bridge are live. -/
inductive Shows (o : Occasion) : Option ConferenceEvent → Prop where
  | noConference (h : o.conference = .null) : Shows o none
  | noBridge (h : o.graph.get o.conference .videobridge = .ok .null) : Shows o none
  | counted {bridge conferences : Value} {id : String} {entries : List Value} {lives : List Bool}
      (hbridge : o.graph.get o.conference .videobridge = .ok bridge)
      (hthere : bridge.isNull = false)
      (hid : o.graph.get o.conference .id = .ok (.text id))
      (hconferences : o.graph.get bridge .conferences = .ok conferences)
      (hentries : conferences.truthy = true → conferences.elements? = some entries)
      (hnone : conferences.truthy = false → entries = [])
      (hlives : List.Forall₂ o.graph.Alive entries lives) :
      Shows o (some ⟨o.created, id, lives.count true, o.now⟩)

/-- What else happens leaves publishers that can be named as such. -/
def KeepsNames (o : Occasion) : Prop :=
  ∀ publishers backends, (∀ p ∈ publishers, p.Titled) →
    ∀ p ∈ (o.meanwhile (publishers, backends)).1, p.Titled

variable {o : Occasion} {e : ConferenceEvent}

theorem ofSignal_signal : MetricPlan.ofSignal o.graph o.signal =
    MetricPlan.ofConference o.graph o.signal o.conference
      (if o.created then .start (.text MetricName.conferenceLength)
        else .finish (.text MetricName.conferenceLength)) := by
  unfold signal
  cases o.created <;> rfl

theorem calls_of_none (h : o.Shows none) : (MetricPlan.ofSignal o.graph o.signal).calls = [] := by
  rw [ofSignal_signal]
  cases h with
  | noConference h =>
    rw [h]
    rfl
  | noBridge h =>
    rw [MetricPlan.calls_ofConference h]
    rfl

theorem calls_of_some (h : o.Shows (some e)) :
    (MetricPlan.ofSignal o.graph o.signal).calls = e.calls := by
  obtain _ | _ | ⟨hbridge, hthere, hid, hconferences, hentries, hnone, hlives⟩ := h
  rw [ofSignal_signal, MetricPlan.calls_ofConference hbridge, hthere, if_neg Bool.false_ne_true,
    SessionGraph.liveConferences_of_alive hconferences hentries hnone hlives, hid]
  simp only [MetricPlan.publishCount, MetricPlan.callAbout, ConferenceEvent.calls,
    ConferenceEvent.transaction]
  cases o.created <;> rfl

theorem kept_next {before : MetricService × MetricBackends} {i : Nat} {m : MemoryPublisher}
    {history : List ConferenceEvent} {seen : Option ConferenceEvent}
    (hnamed : ∀ p ∈ before.1.publishers, p.Titled)
    (hmemory : before.1.publishers[i]? = some (.memory m)) (hkept : Kept history m)
    (hnow : o.now.IsReading) (hspares : o.Spares i) (hnames : o.KeepsNames)
    (hseen : o.Shows seen) :
    (∀ p ∈ (next before o).1.publishers, p.Titled) ∧
    ∃ m', (next before o).1.publishers[i]? = some (.memory m') ∧
      Kept (history ++ seen.toList) m' := by
  have hbefore : (o.meanwhile (before.1.publishers, before.2)).1[i]? = some (.memory m) :=
    (hspares _ _).trans hmemory
  have hbeside := hnames _ before.2 hnamed
  refine ⟨(MetricService.memory_publishAll (MetricPlan.ofSignal o.graph o.signal).calls hbeside
    hbefore).1, _, (MetricService.memory_publishAll _ hbeside hbefore).2, ?_⟩
  cases hseen' : seen with
  | none =>
    rw [calls_of_none (hseen' ▸ hseen), Option.toList_none, List.append_nil]
    exact hkept
  | some e =>
    have hshows : o.Shows (some e) := hseen' ▸ hseen
    have htime : e.now = o.now := by cases hshows; rfl
    rw [calls_of_some hshows, ConferenceEvent.map_passedOn_calls, Option.toList_some]
    exact hkept.next htime.symm (htime ▸ hnow)

end Occasion

namespace MetricService

def after (before : MetricService × MetricBackends) (occasions : List Occasion) :
    MetricService × MetricBackends :=
  occasions.foldl Occasion.next before

variable {before : MetricService × MetricBackends} {i : Nat} {m : MemoryPublisher}
  {history : List ConferenceEvent} {occasions : List Occasion}
  {seen : List (Option ConferenceEvent)}

theorem kept_after (hnamed : ∀ p ∈ before.1.publishers, p.Titled)
    (hmemory : before.1.publishers[i]? = some (.memory m))
    (hkept : Kept history m) (hnow : ∀ o ∈ occasions, o.now.IsReading)
    (hspares : ∀ o ∈ occasions, o.Spares i) (hnames : ∀ o ∈ occasions, o.KeepsNames)
    (hseen : List.Forall₂ Occasion.Shows occasions seen) :
    ∃ m', (after before occasions).1.publishers[i]? = some (.memory m') ∧
      Kept (history ++ seen.reduceOption) m' := by
  induction hseen generalizing before m history with
  | nil => exact ⟨m, hmemory, by simpa using hkept⟩
  | @cons o first rest seen hfirst _ ih =>
    rw [List.forall_mem_cons] at hnow hspares hnames
    obtain ⟨hnamed', m', hmemory', hkept'⟩ :=
      Occasion.kept_next hnamed hmemory hkept hnow.1 hspares.1 hnames.1 hfirst
    obtain ⟨m'', hmemory'', hkept''⟩ := ih hnamed' hmemory' hkept' hnow.2 hspares.2 hnames.2
    refine ⟨m'', hmemory'', ?_⟩
    cases first <;> simpa using hkept''

/-- A run of notifications, in which conferences may be created and expire in any pattern while
their bridges change and the clock goes on or back, at a publisher that remembers and has any others
beside it, whatever they do with a call, as long as their names can be read. Afterwards it holds, in
order, the number of live conferences for every notification whose conference was on a bridge, and
for every such expiry of a conference that had been created since its last expiry, the time since
its latest creation. Other notifications leave no trace. -/
theorem conferences_measured {s : MetricService} {b : MetricBackends}
    (hnamed : ∀ p ∈ s.publishers, p.Titled)
    (hmemory : s.publishers[i]? = some (.memory {}))
    (hnow : ∀ o ∈ occasions, o.now.IsReading) (hspares : ∀ o ∈ occasions, o.Spares i)
    (hnames : ∀ o ∈ occasions, o.KeepsNames)
    (hseen : List.Forall₂ Occasion.Shows occasions seen) :
    ∃ m, (after (s, b) occasions).1.publishers[i]? = some (.memory m) ∧
      m.numeric = seen.reduceOption.map
        (fun e => (.text MetricName.conferences, .int e.live)) ∧
      List.Forall₂ ConferenceLength.Measures m.durations
        (ConferenceEvent.lengths [] seen.reduceOption) := by
  have hstart : (s, b).1.publishers[i]? = some (.memory {}) := hmemory
  obtain ⟨m, hm, hkept⟩ := kept_after hnamed hstart kept_empty hnow hspares hnames hseen
  exact ⟨m, hm, hkept.numeric, hkept.durations⟩

def createdTwice : List Occasion :=
  [⟨.unreachable, .int 1, true, .object "conference", id⟩,
    ⟨.unreachable, .int 5, true, .object "conference", id⟩,
    ⟨.unreachable, .int 3, false, .object "conference", id⟩,
    ⟨.unreachable, .float (.ofInt 4), false, .object "conference", id⟩,
    ⟨.unreachable, .int 6, false, .null, id⟩]

theorem shows_unreachable (now : Value) (created : Bool) :
    Occasion.Shows ⟨.unreachable, now, created, .object "conference", id⟩
      (some ⟨created, "conf", 1, now⟩) := by
  have hflag : SessionGraph.unreachable.get (.object "conference") .isExpired =
      .ok (.bool false) := rfl
  have hlives : List.Forall₂ SessionGraph.unreachable.Alive [.object "conference"] [true] :=
    .cons (.present hflag) .nil
  have hshows := Occasion.Shows.counted
    (o := ⟨.unreachable, now, created, .object "conference", id⟩) rfl rfl rfl rfl
    (fun _ => rfl) nofun hlives
  exact hshows

theorem conferences_measured_createdTwice :
    let s : MetricService := ⟨[.standIn { typeName := "Failing" }, .memory {}]⟩
    (∀ p ∈ s.publishers, p.Titled) ∧
    s.publishers[1]? = some (.memory {}) ∧ (∀ o ∈ createdTwice, o.now.IsReading) ∧
    (∀ o ∈ createdTwice, o.Spares 1) ∧ (∀ o ∈ createdTwice, o.KeepsNames) ∧
    ∃ m, (after (s, {}) createdTwice).1.publishers[1]? = some (.memory m) ∧
      m.numeric = List.replicate 4 (.text "Conferences", .int 1) ∧
      List.Forall₂ ConferenceLength.Measures m.durations [⟨"conf", .int 5, .int 3⟩] := by
  intro s
  have hnamed : ∀ p ∈ s.publishers, p.Titled := by
    simp only [s, List.forall_mem_cons]
    exact ⟨⟨_, rfl⟩, ⟨_, rfl⟩, nofun⟩
  have hsmall {n : Int} (h : n.natAbs < twoTo 3) : (Value.int n).IsReading :=
    .int n (h.trans (twoTo_lt_twoTo (by decide)))
  have hnow : ∀ o ∈ createdTwice, o.now.IsReading := by
    simp only [createdTwice, List.forall_mem_cons]
    exact ⟨hsmall (by decide), hsmall (by decide), hsmall (by decide), .float _,
      hsmall (by decide), nofun⟩
  have hspares : ∀ o ∈ createdTwice, o.Spares 1 := by
    simp only [createdTwice, List.forall_mem_cons]
    exact ⟨fun _ _ => rfl, fun _ _ => rfl, fun _ _ => rfl, fun _ _ => rfl, fun _ _ => rfl, nofun⟩
  have hnames : ∀ o ∈ createdTwice, o.KeepsNames := by
    simp only [createdTwice, List.forall_mem_cons]
    exact ⟨fun _ _ h => h, fun _ _ h => h, fun _ _ h => h, fun _ _ h => h, fun _ _ h => h, nofun⟩
  have hseen : List.Forall₂ Occasion.Shows createdTwice _ :=
    .cons (shows_unreachable _ _) (.cons (shows_unreachable _ _) (.cons (shows_unreachable _ _)
      (.cons (shows_unreachable _ _) (.cons (.noConference rfl) .nil))))
  obtain ⟨m, hm, hnumeric, hdurations⟩ :=
    conferences_measured (s := s) (b := {}) (i := 1) hnamed rfl hnow hspares hnames hseen
  exact ⟨hnamed, rfl, hnow, hspares, hnames, m, hm, hnumeric, hdurations⟩

end MetricService

end SessionTelemetry
