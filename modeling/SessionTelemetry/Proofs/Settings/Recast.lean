import Mathlib.Data.List.Sort
import SessionTelemetry.Proofs.Settings.Environment
import SessionTelemetry.Proofs.Table
import SessionTelemetry.Settings.Metrics

/-!
# Environments that say the same

Settings depend on an environment only through the trimmed texts, blank ones left out, of the names
that are heeded (`Environment.Agrees`). Reordering an environment, padding its texts, and adding or
removing blank texts or names that nobody looks for does not change these (`agrees_of_recast`).
-/

namespace SessionTelemetry

namespace Environment

variable {e e' e'' : Environment} {name raw shown : String}

def singleNames : List String :=
  [SettingName.seriesEnabled, SettingName.urlBase, SettingName.database, SettingName.user,
   SettingName.password, SettingName.timeout, SettingName.maxWorkers, SettingName.maxQueue,
   SettingName.overflow, SettingName.metricsEnabled]

def Lists (name : String) : Prop := SettingName.publisherStem.toList <+: name.toList

instance (name : String) : Decidable (Lists name) :=
  inferInstanceAs (Decidable (SettingName.publisherStem.toList <+: name.toList))

def Heeded (name : String) : Prop := name ∈ singleNames ∨ Lists name

instance (name : String) : Decidable (Heeded name) :=
  inferInstanceAs (Decidable (name ∈ singleNames ∨ Lists name))

def Distinct (e : Environment) : Prop := (e.map Prod.fst).Nodup

instance (e : Environment) : Decidable (Distinct e) :=
  inferInstanceAs (Decidable (e.map Prod.fst).Nodup)

/-- Two environments set the same names that are heeded to the same texts. -/
def Agrees (e e' : Environment) : Prop := ∀ name, Heeded name → e.setting? name = e'.setting? name

/-- What can be done to an environment without saying anything else. -/
inductive Recast : Environment → Environment → Prop where
  | permute {e e' : Environment} (perm : e.Perm e') : Recast e e'
  | removeBlank (name raw : String) (e : Environment) (blank : Text.AllBlank raw) :
      Recast ((name, raw) :: e) e
  | addBlank (name raw : String) (e : Environment) (blank : Text.AllBlank raw)
      (new : name ∉ e.map Prod.fst) : Recast e ((name, raw) :: e)
  | pad (name left raw right : String) (e : Environment) (before : Text.AllBlank left)
      (after : Text.AllBlank right) : Recast ((name, raw) :: e) ((name, left ++ raw ++ right) :: e)
  /-- A name that is not heeded is set, whether or not it was set before. -/
  | setOther (name raw : String) (e : Environment) (other : ¬ Heeded name) :
      Recast e ((name, raw) :: e.eraseP fun entry => entry.1 = name)
  | trans {e e' e'' : Environment} (first : Recast e e') (second : Recast e' e'') : Recast e e''

section Recasting

theorem setting?_cons (name other raw : String) (e : Environment) :
    setting? ((other, raw) :: e) name =
      if name = other then (some (Text.trimmed raw)).filter fun shown => !shown.isEmpty
      else e.setting? name := by
  rw [setting?, List.lookup_cons]
  split_ifs with h
  · rw [h, beq_self_eq_true]
    rfl
  · rw [beq_false_of_ne h]
    rfl

theorem setting?_congr (h : e.lookup name = e'.lookup name) :
    e.setting? name = e'.setting? name := by
  rw [setting?, setting?, h]

theorem setting?_of_not_mem (h : name ∉ e.map Prod.fst) : e.setting? name = none := by
  have hnone : e.lookup name = none := (Table.find?_eq_none_iff (t := ⟨e⟩)).2 h
  rw [setting?, hnone]
  rfl

theorem filter_trimmed_of_allBlank (h : Text.AllBlank raw) :
    (some (Text.trimmed raw)).filter (fun shown => !shown.isEmpty) = none := by
  rw [Text.trimmed_eq_empty_iff.2 h]
  rfl

theorem agrees_cons_of_allBlank (blank : Text.AllBlank raw) (new : name ∉ e.map Prod.fst) :
    Agrees ((name, raw) :: e) e := by
  intro other _
  rw [setting?_cons, filter_trimmed_of_allBlank blank]
  split_ifs with h
  · rw [h, setting?_of_not_mem new]
  · rfl

theorem Agrees.symm (h : Agrees e e') : Agrees e' e := fun name hheeded => (h name hheeded).symm

theorem Agrees.trans (h : Agrees e e') (h' : Agrees e' e'') : Agrees e e'' :=
  fun name hheeded => (h name hheeded).trans (h' name hheeded)

theorem agrees_of_recast (h : Recast e e') (hdistinct : Distinct e) :
    Distinct e' ∧ Agrees e e' := by
  induction h with
  | @permute e e' perm =>
    refine ⟨(perm.map Prod.fst).nodup_iff.1 hdistinct, fun name _ => setting?_congr ?_⟩
    exact Table.find?_of_perm (t := ⟨e⟩) (u := ⟨e'⟩) hdistinct perm
  | removeBlank name raw e blank =>
    obtain ⟨hnew, hrest⟩ := List.nodup_cons.1 hdistinct
    exact ⟨hrest, agrees_cons_of_allBlank blank hnew⟩
  | addBlank name raw e blank new =>
    exact ⟨List.nodup_cons.2 ⟨new, hdistinct⟩, (agrees_cons_of_allBlank blank new).symm⟩
  | pad name left raw right e before after =>
    refine ⟨hdistinct, fun other _ => ?_⟩
    rw [setting?_cons, setting?_cons, Text.trimmed_append before after]
  | setOther name raw e other =>
    -- the name may have been set before, to something that was not heeded either
    have herase : ∀ key, (e.eraseP fun entry => entry.1 = name).lookup key =
        if key = name then none else e.lookup key := fun key =>
      Table.find?_erase (t := ⟨e⟩) hdistinct
    have hgone : name ∉ (e.eraseP fun entry => entry.1 = name).map Prod.fst :=
      (Table.find?_eq_none_iff (t := ⟨_⟩)).1 ((herase name).trans (if_pos rfl))
    refine ⟨List.nodup_cons.2 ⟨hgone, Table.distinct_erase (t := ⟨e⟩) hdistinct⟩, ?_⟩
    intro key hheeded
    have hne : key ≠ name := fun heq => other (heq ▸ hheeded)
    rw [setting?_cons, if_neg hne]
    exact setting?_congr ((herase key).trans (if_neg hne)).symm
  | trans first second ih ih' =>
    obtain ⟨hmiddle, hagrees⟩ := ih hdistinct
    obtain ⟨hlast, hagrees'⟩ := ih' hmiddle
    exact ⟨hlast, hagrees.trans hagrees'⟩

end Recasting

section Listing

theorem setting?_eq_some_iff (h : Distinct e) : e.setting? name = some shown ↔
    ∃ raw, (name, raw) ∈ e ∧ ¬ Text.AllBlank raw ∧ Text.trimmed raw = shown := by
  have hshown : ∀ raw, Text.trimmed raw = shown →
      ((!shown.isEmpty) = true ↔ ¬ Text.AllBlank raw) := by
    rintro raw rfl
    rw [← Text.trimmed_eq_empty_iff, Bool.not_eq_true', ← Bool.not_eq_true, String.isEmpty_iff]
  rw [setting?, Option.filter_eq_some_iff, Option.map_eq_some_iff]
  constructor
  · rintro ⟨⟨raw, hraw, heq⟩, hne⟩
    exact ⟨raw, (Table.find?_eq_some_iff (t := ⟨e⟩) h).1 hraw, (hshown raw heq).1 hne, heq⟩
  · rintro ⟨raw, hmem, hblank, heq⟩
    exact ⟨⟨raw, (Table.find?_eq_some_iff (t := ⟨e⟩) h).2 hmem, heq⟩, (hshown raw heq).2 hblank⟩

def listing (e : Environment) : List (String × String) :=
  (MetricSettings.publisherNames e.properties).filterMap fun name =>
    (e.setting? name).map fun shown => (name, shown)

theorem map_fst_properties (e : Environment) : e.properties.map Prod.fst = e.map Prod.fst := by
  rw [properties, List.map_map]
  rfl

theorem mem_publisherNames :
    name ∈ MetricSettings.publisherNames e.properties ↔ name ∈ e.map Prod.fst ∧ Lists name := by
  rw [MetricSettings.publisherNames, List.mem_mergeSort, List.mem_filter, map_fst_properties,
    List.isPrefixOf_iff_prefix]
  rfl

theorem pairwise_publisherNames (h : Distinct e) :
    (MetricSettings.publisherNames e.properties).Pairwise (· < ·) := by
  apply Text.pairwise_lt_mergeSort
  rw [map_fst_properties]
  exact h.filter _

theorem mem_listing : (name, shown) ∈ e.listing ↔ Lists name ∧ e.setting? name = some shown := by
  simp only [listing, List.mem_filterMap, Option.map_eq_some_iff, Prod.mk.injEq,
    mem_publisherNames]
  constructor
  · rintro ⟨_, ⟨-, hlists⟩, _, hset, rfl, rfl⟩
    exact ⟨hlists, hset⟩
  · rintro ⟨hlists, hset⟩
    refine ⟨name, ⟨?_, hlists⟩, shown, hset, rfl, rfl⟩
    by_contra hmem
    rw [setting?_of_not_mem hmem] at hset
    cases hset

theorem pairwise_listing (h : Distinct e) : e.listing.Pairwise fun a b => a.1 < b.1 := by
  refine (pairwise_publisherNames h).filterMap _ fun a b hlt entry hentry entry' hentry' => ?_
  obtain ⟨shown, -, rfl⟩ := Option.map_eq_some_iff.1 hentry
  obtain ⟨shown', -, rfl⟩ := Option.map_eq_some_iff.1 hentry'
  exact hlt

theorem publishers_eq (e : Environment) : (MetricSettings.ofProperties e.properties).publishers =
    .tuple (e.listing.map fun entry => .text entry.2) := by
  have htexts : e.listing.map Prod.snd =
      (MetricSettings.publisherNames e.properties).filterMap e.properties.text? := by
    rw [listing, List.map_filterMap]
    refine List.filterMap_congr fun name _ => ?_
    rw [text?_properties, Option.map_map]
    exact congrFun Option.map_id _
  rw [MetricSettings.ofProperties, ← htexts, List.map_map]
  rfl

theorem listing_congr (hdistinct : Distinct e) (hdistinct' : Distinct e') (h : Agrees e e') :
    e.listing = e'.listing := by
  -- names ascend strictly, so the entries of a listing determine it
  have hirrefl : Std.Irrefl fun a b : String × String => a.1 < b.1 := ⟨fun a => lt_irrefl a.1⟩
  have hantisymm : Std.Antisymm fun a b : String × String => a.1 < b.1 :=
    ⟨fun a b hab hba => absurd hab (lt_asymm hba)⟩
  refine (pairwise_listing hdistinct).eq_of_mem_iff (pairwise_listing hdistinct') fun entry => ?_
  rw [mem_listing, mem_listing]
  exact and_congr_right fun hlists => by rw [h entry.1 (.inr hlists)]

end Listing

section Settings

theorem text?_congr (h : Agrees e e') (hheeded : Heeded name) :
    e.properties.text? name = e'.properties.text? name := by
  rw [text?_properties, text?_properties, h name hheeded]

theorem number_congr {default : Value} {read : Value → Except Fault Value} (h : Agrees e e')
    (hname : name ∈ singleNames) :
    e.properties.number name default read = e'.properties.number name default read := by
  rw [Properties.number, Properties.number, text?_congr h (.inl hname)]

theorem flag_congr (h : Agrees e e') (hname : name ∈ singleNames) :
    e.properties.flag name = e'.properties.flag name := by
  rw [Properties.flag, Properties.flag, text?_congr h (.inl hname)]

theorem textOrNull_congr (h : Agrees e e') (hname : name ∈ singleNames) :
    e.properties.textOrNull name = e'.properties.textOrNull name := by
  rw [Properties.textOrNull, Properties.textOrNull, text?_congr h (.inl hname)]

theorem seriesSettings_congr (h : Agrees e e') :
    SeriesSettings.ofProperties e.properties = SeriesSettings.ofProperties e'.properties := by
  have hpool : PoolSettings.ofProperties e.properties =
      PoolSettings.ofProperties e'.properties := by
    simp only [PoolSettings.ofProperties]
    rw [number_congr h (by decide), number_congr h (by decide),
      text?_congr h (.inl (by decide : SettingName.overflow ∈ singleNames))]
  simp only [SeriesSettings.ofProperties]
  rw [hpool, number_congr h (by decide), flag_congr h (by decide), textOrNull_congr h (by decide),
    textOrNull_congr h (by decide), textOrNull_congr h (by decide), textOrNull_congr h (by decide)]

theorem metricSettings_congr (hdistinct : Distinct e) (hdistinct' : Distinct e')
    (h : Agrees e e') :
    MetricSettings.ofProperties e.properties = MetricSettings.ofProperties e'.properties := by
  have hpublishers := publishers_eq e
  rw [listing_congr hdistinct hdistinct' h, ← publishers_eq e'] at hpublishers
  have henabled : (MetricSettings.ofProperties e.properties).enabled =
      (MetricSettings.ofProperties e'.properties).enabled :=
    congrArg Value.bool (flag_congr h (by decide))
  exact congrArg₂ MetricSettings.mk henabled hpublishers

/-- An environment and what it is recast into come to the same settings, or fail at the same
offence. The publishers are the texts of the names that list them, in the order of these names. -/
theorem settings_of_recast (hdistinct : Distinct e) :
    (∀ e', Recast e e' →
      ((∃ s, SeriesSettings.ofProperties e.properties = .ok s ∧
          SeriesSettings.ofProperties e'.properties = .ok s) ∨
        ∃ fault offence, SeriesSettings.ofProperties e.properties = .error fault ∧
          SeriesSettings.ofProperties e'.properties = .error fault ∧ fault.Tells offence) ∧
      MetricSettings.ofProperties e.properties = MetricSettings.ofProperties e'.properties) ∧
    ∃ listed : List (String × String), listed.Pairwise (fun a b => a.1 < b.1) ∧
      (∀ name shown, (name, shown) ∈ listed ↔
        Lists name ∧ ∃ raw, (name, raw) ∈ e ∧ ¬ Text.AllBlank raw ∧ Text.trimmed raw = shown) ∧
      (MetricSettings.ofProperties e.properties).publishers =
        .tuple (listed.map fun entry => .text entry.2) := by
  refine ⟨fun e' hrecast => ?_, e.listing, pairwise_listing hdistinct, ?_, publishers_eq e⟩
  · obtain ⟨hdistinct', hagrees⟩ := agrees_of_recast hrecast hdistinct
    refine ⟨?_, metricSettings_congr hdistinct hdistinct' hagrees⟩
    rw [← seriesSettings_congr hagrees]
    have hreports := reports_seriesSettings e
    cases hmisread : e.misread with
    | nil =>
      rw [hmisread] at hreports
      obtain ⟨s, hs, -⟩ := hreports
      exact .inl ⟨s, hs, hs⟩
    | cons first rest =>
      rw [hmisread] at hreports
      obtain ⟨fault, hfault, htells⟩ := hreports
      exact .inr ⟨fault, first, hfault, hfault, htells⟩
  · intro name shown
    rw [mem_listing, setting?_eq_some_iff hdistinct]

theorem settings_of_recast_twoPublishers :
    let e : Environment := [("MEDIATEL_METRIC_PUBLISHER_B", "otel"),
      ("MEDIATEL_METRIC_PUBLISHER_A", "otel"), ("MEDIATEL_DISPATCH_MAX_WORKERS", " \t")]
    let e' : Environment := [("PATH", "/bin"), ("MEDIATEL_METRIC_PUBLISHER_A", " otel\n"),
      ("MEDIATEL_METRIC_PUBLISHER_B", "otel")]
    Distinct e ∧ Recast e e' ∧
      MetricSettings.ofProperties e.properties = MetricSettings.ofProperties e'.properties := by
  intro e e'
  have hdistinct : Distinct e := by decide
  have hrotate : Recast e [("MEDIATEL_DISPATCH_MAX_WORKERS", " \t"),
      ("MEDIATEL_METRIC_PUBLISHER_A", "otel"), ("MEDIATEL_METRIC_PUBLISHER_B", "otel")] :=
    .permute (by decide)
  have hblank : Recast _ [("MEDIATEL_METRIC_PUBLISHER_A", "otel"),
      ("MEDIATEL_METRIC_PUBLISHER_B", "otel")] :=
    hrotate.trans (.removeBlank _ _ _ (by decide))
  have hpad : Recast _ [("MEDIATEL_METRIC_PUBLISHER_A", " otel\n"),
      ("MEDIATEL_METRIC_PUBLISHER_B", "otel")] :=
    hblank.trans (.pad _ " " _ "\n" _ (by decide) (by decide))
  have hrecast : Recast e e' := hpad.trans (.setOther "PATH" "/bin" _ (by decide))
  exact ⟨hdistinct, hrecast, ((settings_of_recast hdistinct).1 e' hrecast).2⟩

end Settings

end Environment

end SessionTelemetry
