import SessionTelemetry.Notify.Bootstrap
import SessionTelemetry.Proofs.Dispatch.Limits
import SessionTelemetry.Proofs.Settings.Environment

/-!
# There is always a service

Every environment leads to a service. The time-series sink is part of it if it is switched on and
nothing is wrong with its settings; of what is wrong, the first that is looked for is recorded.
-/

namespace SessionTelemetry

namespace Environment

variable (e : Environment)

/-- All that is wrong with an environment, in the order in which it is looked for. A setting that
cannot be read is wrong even if the sink is switched off. -/
def offences : List Offence :=
  e.misread ++ if e.isOn SettingName.seriesEnabled then e.misfit else []

def complaints : List Record :=
  e.offences.head?.toList.map fun o =>
    ⟨"mediatel.bootstrap", Record.errorLevel,
      .ok ("Time-series logging disabled: " ++ o.text), none⟩

structure Readable : Prop where
  timeout : ∀ shown, e.setting? SettingName.timeout = some shown → (float? shown).isSome
  workers : ∀ shown, e.setting? SettingName.maxWorkers = some shown → (integer? shown).isSome
  queue : ∀ shown, e.setting? SettingName.maxQueue = some shown → (integer? shown).isSome
  overflow : ∀ shown, e.setting? SettingName.overflow = some shown → (policy? shown).isSome

structure Connected : Prop where
  urlBase : (e.setting? SettingName.urlBase).isSome
  database : (e.setting? SettingName.database).isSome
  user : (e.setting? SettingName.user).isSome
  password : (e.setting? SettingName.password).isSome

structure Roomy : Prop where
  workers : 1 ≤ e.workers
  queue : 1 ≤ e.queue

/-- The time-series sink is switched on, and nothing keeps it from being set up. -/
structure Sound : Prop where
  readable : e.Readable
  on : e.isOn SettingName.seriesEnabled = true
  connected : e.Connected
  roomy : e.Roomy

variable {e}

theorem unreadable_eq_nil_iff {ν : Type} {name : String} {read : String → Option ν}
    {offence : String → Offence} : e.unreadable name read offence = [] ↔
      ∀ shown, e.setting? name = some shown → (read shown).isSome := by
  rw [unreadable]
  cases e.setting? name with
  | none => simp
  | some shown => by_cases h : (read shown).isSome = true <;> simp [h]

theorem misread_eq_nil_iff : e.misread = [] ↔ e.Readable := by
  simp only [misread, List.append_eq_nil_iff, unreadable_eq_nil_iff]
  exact ⟨fun ⟨h1, h2, h3, h4⟩ => ⟨h1, h2, h3, h4⟩, fun h => ⟨h.1, h.2, h.3, h.4⟩⟩

theorem missing_eq_nil_iff {name : String} : e.missing name = [] ↔ (e.setting? name).isSome := by
  rw [missing]
  cases e.setting? name <;> simp

theorem tooLow_eq_nil_iff {name : String} {n : Int} : tooLow name n = [] ↔ 1 ≤ n := by
  rw [tooLow]
  split_ifs with h
  · simp [Int.not_le.2 h]
  · simp [Int.not_lt.1 h]

theorem misfit_eq_nil_iff : e.misfit = [] ↔ e.Connected ∧ e.Roomy := by
  simp only [misfit, connection, List.flatMap_cons, List.flatMap_nil, List.append_eq_nil_iff,
    missing_eq_nil_iff, tooLow_eq_nil_iff]
  exact ⟨fun ⟨⟨h1, h2, h3, h4, _⟩, h5, h6⟩ => ⟨⟨h1, h2, h3, h4⟩, ⟨h5, h6⟩⟩,
    fun ⟨h, h'⟩ => ⟨⟨h.1, h.2, h.3, h.4, trivial⟩, h'.1, h'.2⟩⟩

theorem offences_eq_nil_iff : e.offences = [] ↔
    e.Readable ∧ (e.isOn SettingName.seriesEnabled = true → e.Connected ∧ e.Roomy) := by
  rw [offences, List.append_eq_nil_iff, misread_eq_nil_iff, ← misfit_eq_nil_iff]
  cases e.isOn SettingName.seriesEnabled <;> simp

theorem sound_iff : e.Sound ↔ e.offences = [] ∧ e.isOn SettingName.seriesEnabled = true := by
  rw [offences_eq_nil_iff]
  exact ⟨fun h => ⟨⟨h.readable, fun _ => ⟨h.connected, h.roomy⟩⟩, h.on⟩,
    fun ⟨⟨hreadable, hfit⟩, hon⟩ => ⟨hreadable, hon, (hfit hon).1, (hfit hon).2⟩⟩

variable (e)

theorem reports_missing {α : Type} (a : α) (names : List String) :
    Reports (match (names.map fun name => (name, e.value name)).find? fun r => r.2.isNull with
      | some r => .error (.missingSetting r.1)
      | none => .ok a) (names.flatMap e.missing) fun _ => True := by
  induction names with
  | nil => exact .ok trivial
  | cons name rest ih =>
    rw [List.map_cons, List.flatMap_cons, missing, value]
    cases e.setting? name with
    | some shown => exact ih
    | none => exact .error (Fault.tells_missingSetting name)

theorem reports_requireUrl :
    Reports e.seriesSettings.requireUrl (connection.flatMap e.missing) fun _ => True :=
  e.reports_missing _ connection

theorem reports_checkBound (setting : String) (n : Int) :
    Reports (PoolSettings.checkBound setting (.int n)) (tooLow setting n) fun _ => 1 ≤ n := by
  rw [PoolSettings.checkBound, Value.isBelow_int, tooLow]
  by_cases h : n < 1
  · simp only [if_pos h, decide_eq_true h]
    exact .error (Fault.tells_boundBelowOne setting _)
  · simp only [if_neg h, decide_eq_false h]
    exact .ok (Int.not_lt.1 h)

theorem reports_validate : Reports e.seriesSettings.pool.validate
    (tooLow SettingName.maxWorkers e.workers ++ tooLow SettingName.maxQueue e.queue)
    fun _ => e.Roomy :=
  (reports_checkBound SettingName.maxWorkers e.workers).bind fun _ hworkers =>
    (reports_checkBound SettingName.maxQueue e.queue).mono fun _ hqueue => ⟨hworkers, hqueue⟩

theorem yields_dispatcher (h : e.Roomy) :
    Yields (Dispatcher.ofSettings e.seriesSettings.pool) fun _ => True := by
  have hworkers : e.seriesSettings.pool.maxWorkers.isBelow 1 = .ok false := by
    rw [seriesSettings, Value.isBelow_int, decide_eq_false (Int.not_lt.2 h.workers)]
  have hqueue : e.seriesSettings.pool.maxQueueSize.isBelow 1 = .ok false := by
    rw [seriesSettings, Value.isBelow_int, decide_eq_false (Int.not_lt.2 h.queue)]
  rw [Dispatcher.ofSettings, hworkers, hqueue]
  exact .ok trivial

variable {connect : ClientMaker}

/-- A client can be made in an environment, for any number of seconds. -/
def Connects (connect : ClientMaker) : Prop :=
  ∀ seconds : Binary64, ∃ limit, connect e.properties (.float seconds) = .ok limit

/-- Setting up a sink reports the first setting with which it cannot be set up. -/
theorem reports_ofSettings (hconnects : e.Connects connect) :
    Reports (SeriesSink.ofSettings (connect e.properties) e.seriesSettings) e.misfit
      fun made => ∀ record ∈ made.2, record.logger = SeriesAnswer.logger := by
  refine e.reports_requireUrl.bind fun url _ => e.reports_validate.bind_yields fun _ hroomy => ?_
  obtain ⟨limit, hlimit⟩ : ∃ limit, connect e.properties e.seriesSettings.timeout = .ok limit :=
    hconnects _
  rw [hlimit]
  refine (e.yields_dispatcher hroomy).bind fun d _ => .pure ?_
  exact List.forall_mem_singleton.2 rfl

theorem ofSettings_of_unconnected {fault : Fault} (h : e.misfit = [])
    (hconnect : connect e.properties e.seriesSettings.timeout = .error fault) :
    SeriesSink.ofSettings (connect e.properties) e.seriesSettings = .error fault := by
  obtain ⟨hconnection, hbounds⟩ := List.append_eq_nil_iff.1 h
  have hurl := e.reports_requireUrl
  have hvalid := e.reports_validate
  rw [hconnection] at hurl
  rw [hbounds] at hvalid
  obtain ⟨url, hurl, -⟩ := hurl
  obtain ⟨_, hvalid, -⟩ := hvalid
  simp only [SeriesSink.ofSettings, hurl, hvalid, hconnect, bind, Except.bind]

/-- A sink is set up from an environment if it is switched on. -/
theorem reports_series (hconnects : e.Connects connect) :
    Reports (Bootstrap.series connect e.properties none) e.offences fun made =>
      if e.isOn SettingName.seriesEnabled then
        ∃ sink records, made = some (sink, records) ∧
          SeriesSink.ofSettings (connect e.properties) e.seriesSettings = .ok (sink, records) ∧
          ∀ record ∈ records, record.logger = SeriesAnswer.logger
      else made = none := by
  refine e.reports_seriesSettings.bind ?_
  rintro settings rfl
  have hswitch : e.seriesSettings.enabled.truthy = e.isOn SettingName.seriesEnabled := rfl
  simp only [hswitch]
  cases e.isOn SettingName.seriesEnabled with
  | false => exact .ok rfl
  | true =>
    refine (e.reports_ofSettings hconnects).returned.bind_yields fun made hmade => .pure ?_
    exact ⟨made.1, made.2, rfl, hmade⟩

/-- The time-series part of the service of an environment: a sink if nothing keeps it from being
set up, and the record of what does. -/
theorem seriesPart_properties (hconnects : e.Connects connect) :
    ∃ services records, Bootstrap.seriesPart connect e.properties none = .ok (services, records) ∧
      records.filter (fun record => record.logger = "mediatel.bootstrap") = e.complaints ∧
      (e.Sound → ∃ sink ready,
        SeriesSink.ofSettings (connect e.properties) e.seriesSettings = .ok (sink, ready) ∧
          services = [.series sink]) ∧
      (¬ e.Sound → services = []) := by
  have hreports := e.reports_series hconnects
  rw [sound_iff, Bootstrap.seriesPart, complaints]
  cases hoffences : e.offences with
  | nil =>
    rw [hoffences] at hreports
    obtain ⟨made, hmade, hshape⟩ := hreports
    cases hon : e.isOn SettingName.seriesEnabled with
    | false =>
      rw [hon] at hshape
      obtain rfl : made = none := hshape
      rw [hmade]
      exact ⟨[], [], rfl, rfl, fun h => by simp at h, fun _ => rfl⟩
    | true =>
      rw [hon] at hshape
      obtain ⟨sink, records, rfl, hsink, hloggers⟩ := hshape
      rw [hmade]
      refine ⟨_, records, rfl, ?_, fun _ => ⟨sink, records, hsink, rfl⟩, fun h => by simp at h⟩
      -- the sink announces itself under a name of its own
      refine List.filter_eq_nil_iff.2 fun record hrecord => ?_
      rw [hloggers record hrecord]
      decide
  | cons first rest =>
    rw [hoffences] at hreports
    obtain ⟨fault, hfault, htells⟩ := hreports
    rw [hfault]
    simp only [htells.isSetting, htells.2, if_true]
    exact ⟨[], _, rfl, rfl, fun h => by simp at h, fun _ => rfl⟩

variable (catalogue : Catalogue PublisherFactory) (hashOf : HashReader)

theorem logger_makePublishers (configs : Properties) (ids : List Value) :
    ∀ record ∈ (MetricService.makePublishers catalogue hashOf configs ids).2,
      record.logger = FanOut.logger := by
  induction ids with
  | nil => exact List.forall_mem_nil _
  | cons id rest ih =>
    simp only [MetricService.makePublishers]
    cases MetricService.makePublisher catalogue hashOf configs id with
    | ok p => exact List.forall_mem_cons.2 ⟨rfl, ih⟩
    | error fault => exact List.forall_mem_cons.2 ⟨rfl, List.forall_mem_cons.2 ⟨rfl, ih⟩⟩

/-- There is a metric service for any list of publishers, as those that cannot be made are left
out. -/
theorem yields_metricService :
    Yields (MetricService.ofSettings catalogue hashOf (.ofProperties e.properties) .null)
      fun made => ∀ record ∈ made.2, record.logger = FanOut.logger :=
  .pure (List.forall_mem_cons.2 ⟨rfl, logger_makePublishers catalogue hashOf _ _⟩)

theorem metricPart_properties :
    ∃ services records, Bootstrap.metricPart catalogue hashOf (.ofProperties e.properties) =
        .ok (services, records) ∧
      records.filter (fun record => record.logger = "mediatel.bootstrap") = [] ∧
      (e.isOn SettingName.metricsEnabled = true → ∃ service ready,
        MetricService.ofSettings catalogue hashOf (.ofProperties e.properties) .null =
          .ok (service, ready) ∧ services = [.metrics service]) ∧
      (¬ e.isOn SettingName.metricsEnabled = true → services = []) := by
  have hswitch : (MetricSettings.ofProperties e.properties).enabled.truthy =
      e.isOn SettingName.metricsEnabled := e.flag_properties SettingName.metricsEnabled
  rw [Bootstrap.metricPart, hswitch]
  cases e.isOn SettingName.metricsEnabled with
  | false => exact ⟨[], [], rfl, rfl, fun h => absurd h Bool.false_ne_true, fun _ => rfl⟩
  | true =>
    obtain ⟨made, hmade, hloggers⟩ := e.yields_metricService catalogue hashOf
    rw [hmade]
    refine ⟨_, made.2, rfl, ?_, fun _ => ⟨made.1, made.2, rfl, rfl⟩, fun h => absurd rfl h⟩
    refine List.filter_eq_nil_iff.2 fun record hrecord => ?_
    rw [hloggers record hrecord]
    decide

end Environment

namespace Bootstrap

/-- Every environment leads to a service, as long as clients can be made in it. The time-series sink
is installed if and only if its settings can be read, it is switched on, its connection is complete
and its bounds are at least one; the metric service if and only if it is switched on. The service is
silent without both, bare with one, and a composite of the two with both. What is wrong with the
settings is recorded once, by the first setting in the order of `Environment.offences`, and its text
names the setting. -/
theorem create_of_environment (catalogue : Catalogue PublisherFactory) (hashOf : HashReader)
    (e : Environment) {connect : ClientMaker} (hconnects : e.Connects connect) :
    ∃ tree records, create connect catalogue hashOf e.properties none none = .ok (tree, records) ∧
      (let isSink (sink : SeriesSink) :=
        ∃ ready, SeriesSink.ofSettings (connect e.properties) e.seriesSettings = .ok (sink, ready)
      let isService (service : MetricService) := ∃ ready,
        MetricService.ofSettings catalogue hashOf (.ofProperties e.properties) .null =
          .ok (service, ready)
      let measured := e.isOn SettingName.metricsEnabled = true
      (¬ e.Sound → ¬ measured → tree = .leaf .silent) ∧
      (e.Sound → ¬ measured → ∃ sink, isSink sink ∧ tree = .leaf (.series sink)) ∧
      (¬ e.Sound → measured → ∃ service, isService service ∧ tree = .leaf (.metrics service)) ∧
      (e.Sound → measured → ∃ sink service, isSink sink ∧ isService service ∧
        tree = .composite [.leaf (.series sink), .leaf (.metrics service)])) ∧
      records.filter (fun record => record.logger = "mediatel.bootstrap") =
        e.offences.head?.toList.map (fun o => ⟨"mediatel.bootstrap", Record.errorLevel,
          .ok ("Time-series logging disabled: " ++ o.text), none⟩) ∧
      (e.offences ≠ [] ↔ ¬ e.Readable ∨
        e.isOn SettingName.seriesEnabled = true ∧ (¬ e.Connected ∨ ¬ e.Roomy)) := by
  obtain ⟨sinks, seriesRecords, hseries, hcomplaints, hsound, hunsound⟩ :=
    e.seriesPart_properties hconnects
  obtain ⟨services, metricRecords, hmetrics, hnone, hon, hoff⟩ :=
    e.metricPart_properties catalogue hashOf
  refine ⟨combine (sinks ++ services), seriesRecords ++ metricRecords, ?_, ?_, ?_, ?_⟩
  · rw [create, Option.getD_none, hseries]
    simp only [bind, Except.bind, hmetrics]
    rfl
  · refine ⟨?_, ?_, ?_, ?_⟩
    · intro hs hm
      rw [hunsound hs, hoff hm]
      rfl
    · intro hs hm
      obtain ⟨sink, ready, hsink, rfl⟩ := hsound hs
      rw [hoff hm]
      exact ⟨sink, ⟨ready, hsink⟩, rfl⟩
    · intro hs hm
      obtain ⟨service, ready, hservice, rfl⟩ := hon hm
      rw [hunsound hs]
      exact ⟨service, ⟨ready, hservice⟩, rfl⟩
    · intro hs hm
      obtain ⟨sink, ready, hsink, rfl⟩ := hsound hs
      obtain ⟨service, announced, hservice, rfl⟩ := hon hm
      exact ⟨sink, service, ⟨ready, hsink⟩, ⟨announced, hservice⟩, rfl⟩
  · rw [List.filter_append, hcomplaints, hnone, List.append_nil, Environment.complaints]
  · rw [Ne, Environment.offences_eq_nil_iff, not_and_or, Classical.not_imp, not_and_or]

def furnished : Environment :=
  [(SettingName.seriesEnabled, " Yes "), (SettingName.urlBase, "http://localhost/"),
    (SettingName.database, "sessions"), (SettingName.user, "user"),
    (SettingName.password, "secret"), (SettingName.timeout, "2.5"),
    (SettingName.maxWorkers, "1_0"), (SettingName.maxQueue, ""),
    (SettingName.overflow, "DROP_NEWEST"), (SettingName.metricsEnabled, "on")]

theorem create_of_environment_furnished :
    furnished.Connects .plain ∧ furnished.Sound ∧
      furnished.isOn SettingName.metricsEnabled = true ∧ ∃ sink service records,
        create .plain PublisherFactory.builtIn (fun _ => .error .absentMember) furnished.properties
            none none = .ok (.composite [.leaf (.series sink), .leaf (.metrics service)], records) ∧
          records.filter (fun record => record.logger = "mediatel.bootstrap") = [] := by
  have hconnects : furnished.Connects .plain := fun _ => ⟨_, rfl⟩
  have hsound : furnished.Sound := Environment.sound_iff.2 ⟨rfl, rfl⟩
  have hmeasured : furnished.isOn SettingName.metricsEnabled = true := rfl
  obtain ⟨tree, records, hcreate, hshape, hrecords, -⟩ :=
    create_of_environment PublisherFactory.builtIn (fun _ => .error .absentMember) furnished
      hconnects
  obtain ⟨sink, service, -, -, rfl⟩ := hshape.2.2.2 hsound hmeasured
  exact ⟨hconnects, hsound, hmeasured, sink, service, records, hcreate, hrecords⟩

/-- Where nothing is wrong with the settings but no client can be made, its fault is passed on. -/
theorem create_of_unconnected (catalogue : Catalogue PublisherFactory) (hashOf : HashReader)
    {e : Environment} (hsound : e.Sound) {connect : ClientMaker} {fault : Fault}
    (hconnect : connect e.properties e.seriesSettings.timeout = .error fault)
    (hsetting : fault.isSetting = false) :
    create connect catalogue hashOf e.properties none none = .error fault := by
  obtain ⟨hreadable, hon, hconnected, hroomy⟩ := hsound
  have hsettings := e.reports_seriesSettings
  rw [Environment.misread_eq_nil_iff.2 hreadable] at hsettings
  obtain ⟨settings, hsettings, rfl⟩ := hsettings
  have hsink := e.ofSettings_of_unconnected
    (Environment.misfit_eq_nil_iff.2 ⟨hconnected, hroomy⟩) hconnect
  have hswitch : e.seriesSettings.enabled.truthy = true := hon
  have hseries : series connect e.properties none = .error fault := by
    simp only [series, hsettings, hswitch, if_true, hsink, bind, Except.bind]
  simp only [create, seriesPart, hseries, hsetting, Bool.false_eq_true, if_false, bind, Except.bind]

end Bootstrap

end SessionTelemetry
