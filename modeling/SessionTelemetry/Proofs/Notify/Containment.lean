import SessionTelemetry.Notify.Bootstrap
import SessionTelemetry.Proofs.Notify.Chains
import SessionTelemetry.Proofs.Notify.ConferenceMetrics
import SessionTelemetry.Proofs.Session.Census

/-!
# What notifications may fail

A composite and the service that is silent never fail. A sink that is the only service passes on
what it meets in the session model, so it never fails in a typed one, and may fail in others.
-/

namespace SessionTelemetry

/-- What a signal is about is an object of the kind that the signal takes, or null; a prepared event
can be encoded. -/
def Signal.Fits (is : ObjectKind → String → Prop) (signal : Signal) : Prop :=
  match signal with
  | event e => ∃ name columns rows, e.Stores name columns rows
  | channelStartedStreaming v => v.Refers (is .channel)
  | signal => ∃ chain, signal.chain? = some chain ∧ chain.target.Refers (is chain.kind)

variable {g : SessionGraph} {is : ObjectKind → String → Prop} {signal : Signal}

namespace MetricPlan

variable {refs : References} {plan : MetricPlan}

theorem fault_unlessMissing (h : (∀ ref ∈ refs, ref.2 ≠ .null) → plan.fault = none) :
    (unlessMissing signal refs plan).fault = none := by
  unfold unlessMissing
  cases hskip : refs.skip? signal.words with
  | some record => rfl
  | none =>
    -- no record means that no reference was found to be null
    apply h
    rintro ref href hnull
    have hfound : refs.find? (fun r => r.2.isNull) = none := by
      simpa [References.skip?, References.firstMissing?] using hskip
    have hnotNull := List.find?_eq_none.1 hfound ref href
    rw [hnull] at hnotNull
    exact hnotNull rfl

theorem fault_publishCount {count : Except Fault Nat} {name : String}
    (hcount : Yields count fun _ => True) (h : plan.fault = none) :
    (publishCount name count plan).fault = none := by
  obtain ⟨n, rfl, -⟩ := hcount
  exact h

theorem fault_ofExcept {r : Except Fault MetricPlan} (h : Yields r fun plan => plan.fault = none) :
    (ofExcept r).fault = none := by
  obtain ⟨plan, rfl, hplan⟩ := h
  exact hplan

theorem fault_ofConference (types : g.Typed is) {v : Value} (h : v.Refers (is .conference))
    (call : Value → MetricCall) : (ofConference g signal v call).fault = none := by
  apply fault_ofExcept
  refine (types.getOrNull (a := .videobridge) h .null).bind fun bridge hbridge => .pure ?_
  apply fault_unlessMissing
  intro hpresent
  simp only [List.forall_mem_cons] at hpresent
  obtain ⟨o, rfl, ho⟩ := h.exists_object hpresent.1
  obtain ⟨p, rfl, hp⟩ := Value.Refers.exists_object hbridge hpresent.2.1
  apply fault_publishCount (types.yields_liveConferences hp)
  obtain ⟨id, hid, -⟩ := types.get (a := .id) ho
  rw [hid]
  rfl

theorem fault_ofChannel (types : g.Typed is) {v : Value} (h : v.Refers (is .channel)) :
    (ofChannel g signal v).fault = none := by
  apply fault_ofExcept
  refine (types.getOrNull (a := .content) h .null).bind fun content hcontent => ?_
  refine (types.getOrNull (a := .conference) hcontent .null).bind fun conference hconference => ?_
  refine (types.getOrNull (a := .videobridge) hconference .null).bind fun bridge hbridge => .pure ?_
  apply fault_unlessMissing
  intro hpresent
  simp only [List.forall_mem_cons] at hpresent
  obtain ⟨p, rfl, hp⟩ := Value.Refers.exists_object hbridge hpresent.2.2.2.1
  exact fault_publishCount (types.yields_liveChannels hp) rfl

/-- In a typed session model the metrics of a signal can be put together. -/
theorem fault_ofSignal (types : g.Typed is) (h : signal.Fits is) :
    (ofSignal g signal).fault = none := by
  cases signal with
  | conferenceCreated v | conferenceExpired v =>
    obtain ⟨_, hchain, htarget⟩ := h
    cases hchain
    exact fault_ofConference types htarget _
  | channelCreated v | channelExpired v =>
    obtain ⟨_, hchain, htarget⟩ := h
    cases hchain
    exact fault_ofChannel types htarget
  | channelStartedStreaming v =>
    apply fault_ofExcept
    refine (types.getOrNull (a := .streamTargetAddress) h trivial).bind fun _ _ => .pure ?_
    exact fault_unlessMissing fun _ => rfl
  | _ => rfl

end MetricPlan

namespace SeriesSink

variable {sink : SeriesSink} {wall : Value} {now : Int}

structure Installed (sink : SeriesSink) : Prop where
  clock : sink.clock = none
  outlet : ∃ d line, sink.outlet = .dispatcher d line

namespace Installed

theorem of_ofSettings {connect : Value → Except Fault Value} {settings : SeriesSettings}
    {records : List Record}
    (h : SeriesSink.ofSettings connect settings = .ok (sink, records)) : sink.Installed := by
  obtain ⟨url, -, h⟩ := exists_of_bind h
  obtain ⟨-, -, h⟩ := exists_of_bind h
  obtain ⟨limit, -, h⟩ := exists_of_bind h
  obtain ⟨d, -, h⟩ := exists_of_bind h
  obtain ⟨rfl, -⟩ := Prod.mk.inj (Except.ok.inj h)
  exact ⟨rfl, d, _, rfl⟩

theorem take (h : sink.Installed) (payload : String) :
    (sink.outlet.take payload).1 = .ok () ∧
      ∃ d line, (sink.outlet.take payload).2.1 = .dispatcher d line := by
  obtain ⟨d, line, houtlet⟩ := h.outlet
  rw [houtlet]
  exact ⟨rfl, _, _, rfl⟩

theorem log (h : sink.Installed) (e : Event) : (sink.log wall e).2.1.Installed := by
  unfold SeriesSink.log
  rw [h.clock]
  rcases e.encode _ with ⟨payload | payload, clock⟩
  · exact ⟨rfl, h.outlet⟩
  · exact ⟨rfl, (h.take payload).2⟩

theorem notify (h : sink.Installed) : (sink.notify g wall signal).2.1.Installed := by
  unfold SeriesSink.notify
  split
  · exact h
  · exact h
  · exact h
  · exact h.log _

theorem log_of_stores (h : sink.Installed) (hwall : wall.milliseconds = .ok now) {e : Event}
    {name : String} {columns : List String} {rows : List (List Cell)}
    (he : e.Stores name columns rows) : (sink.log wall e).1 = .ok () := by
  have hclock : (sink.clock.getD (.wall wall)).read.1 = .ok (.int now) := by
    rw [h.clock]
    simp [CaptureClock.read, hwall, Except.map]
  rw [SeriesSink.log, Event.encode_of_stores he hclock]
  exact (h.take _).1

/-- In a typed session model whose values can be written, a sink that is set up from settings does
not fail. -/
theorem notify_ok (h : sink.Installed) (types : g.Typed is) (hsignal : signal.Fits is)
    (hwritten : ∀ v, SeriesAnswer.Involves g signal v → v.obstacle? = none)
    (hwall : wall.milliseconds = .ok now) : (sink.notify g wall signal).1 = .ok () := by
  have hchain (chain : Chain) (hchain : signal.chain? = some chain)
      (htarget : chain.target.Refers (is chain.kind)) :
      (sink.notify g wall signal).1 = .ok () := by
    have hanswers := SeriesAnswer.answers_ofSignal types hchain htarget
    cases hanswer : SeriesAnswer.ofSignal g signal with
    | error fault =>
      rw [hanswer] at hanswers
      obtain ⟨-, v, hv, hfault⟩ := hanswers
      rw [hwritten v hv] at hfault
      cases hfault
    | ok answer =>
      rw [hanswer] at hanswers
      rw [SeriesSink.notify, hanswer]
      obtain ⟨-, e, ⟨s, cells, hcells, he⟩, rfl⟩ | ⟨record, rfl, -⟩ :=
        SeriesAnswer.Meets.complete_or_gap hanswers
      · obtain ⟨row, hstores⟩ := Schema.stores_event hcells he
        exact h.log_of_stores hwall hstores
      · rfl
  cases signal with
  | event e =>
    obtain ⟨name, columns, rows, hstores⟩ := hsignal
    exact h.log_of_stores hwall hstores
  | channelStartedStreaming v => rfl
  | _ =>
    obtain ⟨chain, hsome, htarget⟩ := hsignal
    exact hchain chain hsome htarget

end Installed

end SeriesSink

namespace ServiceTree

open LoggingService (behaviour)

variable {connect : ClientMaker}

/-- The services that settings can ask for. -/
inductive Installed : ServiceTree LoggingService → Prop where
  | silent : Installed (.leaf .silent)
  | series {sink : SeriesSink} (h : sink.Installed) : Installed (.leaf (.series sink))
  | metrics (service : MetricService) : Installed (.leaf (.metrics service))
  | both {sink : SeriesSink} (h : sink.Installed) (service : MetricService) :
      Installed (.composite [.leaf (.series sink), .leaf (.metrics service)])

inductive Serves (t : ServiceTree LoggingService) : ServiceTree LoggingService → Prop where
  | start : Serves t t
  | next {u : ServiceTree LoggingService} (h : Serves t u) (signal : Signal)
      (shared : Surroundings) : Serves t (u.deliver behaviour signal shared).service

variable {t u : ServiceTree LoggingService} {shared : Surroundings}

theorem Installed.deliver (h : t.Installed) :
    (t.deliver behaviour signal shared).service.Installed := by
  cases h with
  | silent => exact .silent
  | series h => exact .series h.notify
  | metrics service => exact .metrics _
  | both h service => exact .both h.notify _

theorem Installed.of_serves (h : t.Installed) (hserves : Serves t u) : u.Installed := by
  induction hserves with
  | start => exact h
  | next _ signal shared ih => exact ih.deliver

theorem installed_series {environment : Properties} {given : Option SeriesSettings}
    {sink : SeriesSink} {records : List Record}
    (h : Bootstrap.series connect environment given = .ok (some (sink, records))) :
    sink.Installed := by
  have hmade (settings : SeriesSettings)
      (h : (if settings.enabled.truthy then do
          return some (← SeriesSink.ofSettings (connect environment) settings)
        else return none) = .ok (some (sink, records))) : sink.Installed := by
    split at h
    · obtain ⟨made, hmade, h⟩ := exists_of_bind h
      cases h
      exact .of_ofSettings hmade
    · cases h
  cases given with
  | some settings => exact hmade settings h
  | none =>
    obtain ⟨settings, -, h⟩ := exists_of_bind h
    exact hmade settings h

theorem installed_seriesPart {environment : Properties} {given : Option SeriesSettings}
    {services : List LoggingService} {records : List Record}
    (h : Bootstrap.seriesPart connect environment given = .ok (services, records)) :
    services = [] ∨ ∃ sink : SeriesSink, sink.Installed ∧ services = [.series sink] := by
  unfold Bootstrap.seriesPart at h
  split at h
  · cases h
    exact .inl rfl
  · rename_i sink _ hseries
    cases h
    exact .inr ⟨sink, installed_series hseries, rfl⟩
  · split at h
    · cases h
      exact .inl rfl
    · cases h

theorem metricPart_eq {catalogue : Catalogue PublisherFactory} {hashOf : HashReader}
    {settings : MetricSettings} {services : List LoggingService} {records : List Record}
    (h : Bootstrap.metricPart catalogue hashOf settings = .ok (services, records)) :
    services = [] ∨ ∃ service, services = [.metrics service] := by
  unfold Bootstrap.metricPart at h
  split at h
  · obtain ⟨made, -, h⟩ := exists_of_bind h
    cases h
    exact .inr ⟨made.1, rfl⟩
  · cases h
    exact .inl rfl

theorem installed_create {catalogue : Catalogue PublisherFactory} {hashOf : HashReader}
    {environment : Properties} {seriesSettings : Option SeriesSettings}
    {metricSettings : Option MetricSettings} {records : List Record}
    (h : Bootstrap.create connect catalogue hashOf environment seriesSettings metricSettings =
      .ok (t, records)) : t.Installed := by
  obtain ⟨⟨seriesServices, seriesRecords⟩, hseries, h⟩ := exists_of_bind h
  obtain ⟨⟨metricServices, metricRecords⟩, hmetrics, h⟩ := exists_of_bind h
  cases h
  obtain rfl | ⟨sink, hsink, rfl⟩ := installed_seriesPart hseries
  · obtain rfl | ⟨service, rfl⟩ := metricPart_eq hmetrics
    · exact .silent
    · exact .metrics service
  · obtain rfl | ⟨service, rfl⟩ := metricPart_eq hmetrics
    · exact .series hsink
    · exact .both hsink service

/-- A service that settings ask for never fails, at any time, as long as it is a composite or
silent, whatever happens in the session model. In a typed session model no service fails, as long as
all that a sink writes can be written, and all publishers of a metric service can be named. -/
theorem create_contains {catalogue : Catalogue PublisherFactory} {hashOf : HashReader}
    {environment : Properties} {seriesSettings : Option SeriesSettings}
    {metricSettings : Option MetricSettings} {records : List Record}
    (hcreate : Bootstrap.create connect catalogue hashOf environment seriesSettings metricSettings =
      .ok (t, records)) (hserves : Serves t u) (shared : Surroundings) (signal : Signal) :
    ((∀ sink, u ≠ .leaf (.series sink)) → (∀ service, u ≠ .leaf (.metrics service)) →
      (u.deliver behaviour signal shared).outcome = .ok ()) ∧
    ∀ is, shared.graph.Typed is → signal.Fits is →
      (∀ v, v ∈ signal.arguments ∨ shared.graph.Holds v → v.obstacle? = none) →
      (∀ service, u = .leaf (.metrics service) → ∀ p ∈ service.publishers, p.Titled) →
      ∀ now, shared.wall.milliseconds = .ok now →
        (u.deliver behaviour signal shared).outcome = .ok () := by
  -- every signal leaves a service of the same shape, so the first one tells what can be met
  have hinstalled : u.Installed := (installed_create hcreate).of_serves hserves
  cases hinstalled with
  | silent => exact ⟨fun _ _ => rfl, fun _ _ _ _ _ _ _ => rfl⟩
  | both => exact ⟨fun _ _ => rfl, fun _ _ _ _ _ _ _ => rfl⟩
  | series hsink =>
    refine ⟨fun hseries => absurd rfl (hseries _), fun is types hsignal hwritten _ now hwall => ?_⟩
    exact hsink.notify_ok types hsignal hwritten hwall
  | metrics service =>
    refine ⟨fun _ hmetrics => absurd rfl (hmetrics _), fun is types hsignal _ hnamed _ _ => ?_⟩
    have hfault := MetricPlan.fault_ofSignal types hsignal
    have hpublished := MetricService.fault_publishAll (b := shared.current)
      (MetricPlan.ofSignal shared.graph signal).calls (hnamed service rfl)
    simp only [deliver, behaviour, LoggingService.react, MetricService.notify, hfault, hpublished,
      Option.or_none]

def connected : SeriesSettings where
  enabled := .bool true
  urlBase := .text "http://localhost"
  database := .text "sessions"
  user := .text "user"
  password := .text "secret"

theorem create_contains_unreachable :
    ∃ tree records, Bootstrap.create .plain PublisherFactory.builtIn
        SessionGraph.unreachable.hashOf [] (some connected) (some {}) = .ok (tree, records) ∧
      (tree.deliver behaviour (.transportChannelAdded (.object "channel"))
        { graph := .unreachable, wall := .int 5 }).outcome = .ok () := by
  have hcreate : Bootstrap.create .plain PublisherFactory.builtIn
      SessionGraph.unreachable.hashOf [] (some connected) (some {}) =
        .ok (.leaf (.series _), _) := rfl
  have hsignal : (Signal.transportChannelAdded (.object "channel")).Fits
      SessionGraph.unreachableKinds :=
    ⟨_, rfl, .object (by simp [SessionGraph.unreachableKinds])⟩
  have hwritten (v : Value) (hv : v ∈ (Signal.transportChannelAdded (.object "channel")).arguments ∨
      SessionGraph.unreachable.Holds v) : v.obstacle? = none := by
    obtain hargument | hheld := hv
    · obtain rfl : v = .object "channel" := by simpa [Signal.arguments] using hargument
      rfl
    · exact SessionGraph.obstacle?_of_holds (by decide +kernel) hheld
  obtain ⟨-, htyped⟩ := create_contains hcreate .start { graph := .unreachable, wall := .int 5 }
    (.transportChannelAdded (.object "channel"))
  exact ⟨_, _, hcreate, htyped _ SessionGraph.typed_unreachable hsignal hwritten
    (fun _ h => by cases h) 5000 rfl⟩

def unidentified : SessionGraph := .ofObjects
  [("bridge", .make .videobridge [] []),
   ("conference", .make .conference
      [(.videobridge, .ok (.object "bridge")), (.id, .error .unsuitable)] [])]

/-- A sink fails at a conference that cannot be identified if it is the only service, and does not
fail as part of a composite. -/
theorem sole_sinks_fail :
    let created (series : SeriesSettings) (metrics : MetricSettings) :=
      Bootstrap.create .plain PublisherFactory.builtIn unidentified.hashOf [] (some series)
        (some metrics)
    let outcome (tree : ServiceTree LoggingService) :=
      (tree.deliver behaviour (.conferenceCreated (.object "conference"))
        { graph := unidentified, wall := .int 5 }).outcome
    (∃ tree records, created connected {} = .ok (tree, records) ∧
      outcome tree = .error .unsuitable) ∧
    (∃ tree records, created {} { enabled := .bool true } = .ok (tree, records) ∧
      outcome tree = .error .unsuitable) ∧
    ∃ tree records, created connected { enabled := .bool true } = .ok (tree, records) ∧
      outcome tree = .ok () :=
  ⟨⟨_, _, rfl, rfl⟩, ⟨_, _, rfl, rfl⟩, ⟨_, _, rfl, rfl⟩⟩

end ServiceTree

end SessionTelemetry
