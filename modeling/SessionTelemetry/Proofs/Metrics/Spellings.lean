import Mathlib.Data.List.Forall2
import SessionTelemetry.Metrics.FanOut

/-!
# Spellings of publisher identifiers

The factory of a publisher is found by the normal form of the identifier that is listed, and its
configuration by the identifier as it is spelled. So the spelling does not matter for which
factories are asked for publishers, and in which order. It matters for what they are given: of the
configurations that are filed under normal forms, none reaches a factory whose identifier is spelled
otherwise.
-/

namespace SessionTelemetry

namespace Catalogue

variable {c : Catalogue PublisherFactory} {filed : Properties} {id id' : String}
  {ids ids' : List String}

def Respells (id id' : String) : Prop := key (.text id) = key (.text id')

def Normal (id : String) : Prop := key (.text id) = id

instance (id : String) : Decidable (Normal id) :=
  inferInstanceAs (Decidable (key (.text id) = id))

/-- The configuration that goes with an identifier: what is filed under its normal form if that is
how it is spelled, and nothing otherwise. -/
def given (filed : Properties) (id : String) : Value :=
  if Normal id then (filed.lookup (key (.text id))).getD .null else .null

/-- The factory that is asked for a publisher, and what it is given. -/
def request? (c : Catalogue PublisherFactory) (filed : Properties) (id : String) :
    Option (PublisherFactory × Value) :=
  (c.entries.find? (key (.text id))).map fun factory => (factory, given filed id)

def madeBy (requests : List (PublisherFactory × Value)) : List Publisher :=
  requests.filterMap fun request => (request.1.create request.2).toOption

/-- Where only normal forms are filed, nothing is found under another spelling. -/
theorem given_eq_lookup (hfiled : ∀ e ∈ filed, Normal e.1) (id : String) :
    given filed id = (filed.lookup id).getD .null := by
  unfold given
  split_ifs with hnormal
  · rw [hnormal]
  · have hnone : filed.lookup id = none :=
      List.lookup_eq_none_iff.2 fun e he => bne_iff_ne.2 fun heq => hnormal (heq ▸ hfiled e he)
    rw [hnone, Option.getD_none]

/-- The spelling does not matter where nothing is filed, nor if both identifiers are spelled in
their normal form or neither is. -/
theorem given_congr (h : Respells id id')
    (hsame : filed.lookup (key (.text id)) = none ∨ (Normal id ↔ Normal id')) :
    given filed id = given filed id' := by
  unfold given
  rw [← h]
  rcases hsame with hnone | hiff
  · rw [hnone, Option.getD_none, ite_self, ite_self]
  · exact if_congr hiff rfl rfl

theorem factory_request? (h : Respells id id') :
    (c.request? filed id).map Prod.fst = (c.request? filed id').map Prod.fst := by
  rw [request?, request?, h, Option.map_map, Option.map_map]
  rfl

/-- The same factories are asked, in the same order. -/
theorem factories_requests (h : List.Forall₂ Respells ids ids') :
    (ids.filterMap (c.request? filed)).map Prod.fst =
      (ids'.filterMap (c.request? filed)).map Prod.fst := by
  rw [List.map_filterMap, List.map_filterMap]
  induction h with
  | nil => rfl
  | cons hfirst _ ih => rw [List.filterMap_cons, List.filterMap_cons, factory_request? hfirst, ih]

theorem requests_congr (h : List.Forall₂ Respells ids ids')
    (hsame : List.Forall₂ (fun id id' =>
      filed.lookup (key (.text id)) = none ∨ (Normal id ↔ Normal id')) ids ids') :
    ids.filterMap (c.request? filed) = ids'.filterMap (c.request? filed) := by
  induction h with
  | nil => rfl
  | cons hfirst _ ih =>
    obtain ⟨hgiven, hrest⟩ := List.forall₂_cons.1 hsame
    rw [List.filterMap_cons, List.filterMap_cons, ih hrest, request?, request?,
      given_congr hfirst hgiven, hfirst]

end Catalogue

namespace MetricService

open Catalogue

variable {c : Catalogue PublisherFactory} {hashOf : HashReader} {filed : Properties}
  {ids ids' : List String} {configs : Value} {settings settings' : MetricSettings}

theorem makePublisher_text (c : Catalogue PublisherFactory) (hashOf : HashReader)
    (hfiled : ∀ e ∈ filed, Normal e.1) (id : String) :
    (makePublisher c hashOf filed (.text id)).toOption =
      (c.request? filed id).bind fun request => (request.1.create request.2).toOption := by
  have hmake : makePublisher c hashOf filed (.text id) =
      c.create (.text id) ((filed.lookup id).getD .null) := rfl
  rw [hmake, request?, given_eq_lookup hfiled, Catalogue.create, Catalogue.find]
  cases c.entries.find? (key (.text id)) <;> rfl

theorem makePublishers_text (c : Catalogue PublisherFactory) (hashOf : HashReader)
    (hfiled : ∀ e ∈ filed, Normal e.1) (ids : List String) :
    (makePublishers c hashOf filed (ids.map .text)).1 =
      madeBy (ids.filterMap (c.request? filed)) := by
  rw [madeBy, List.filterMap_filterMap]
  induction ids with
  | nil => rfl
  | cons id rest ih =>
    rw [List.filterMap_cons, ← makePublisher_text c hashOf hfiled, List.map_cons, makePublishers]
    cases makePublisher c hashOf filed (.text id) with
    | ok p => exact congrArg (p :: ·) ih
    | error fault => exact ih

/-- The service that a list of identifiers leads to. -/
theorem exists_ofSettings (hconfigs : Properties.ofConfig configs = .ok filed)
    (hfiled : ∀ e ∈ filed, Normal e.1)
    (hids : settings.publishers.elements = .ok (ids.map .text)) :
    ∃ records, ofSettings c hashOf settings configs =
      .ok (⟨madeBy (ids.filterMap (c.request? filed))⟩, records) := by
  simp only [ofSettings, hconfigs, hids, bind, Except.bind,
    ← makePublishers_text c hashOf hfiled ids]
  exact ⟨_, rfl⟩

/-- Two lists of identifiers that differ in their spelling, where configurations are filed under
normal forms. The same factories are asked for publishers in the same order. They are given what is
filed only under identifiers that are spelled in their normal form, so the services are the same as
long as each identifier that something is filed under is so spelled in both lists or in neither. -/
theorem ofSettings_respelled (c : Catalogue PublisherFactory) (hashOf : HashReader)
    (hconfigs : Properties.ofConfig configs = .ok filed) (hfiled : ∀ e ∈ filed, Normal e.1)
    (hids : settings.publishers.elements = .ok (ids.map .text))
    (hids' : settings'.publishers.elements = .ok (ids'.map .text))
    (hspelled : List.Forall₂ Respells ids ids') :
    let requests := ids.filterMap (c.request? filed)
    let requests' := ids'.filterMap (c.request? filed)
    (∃ records, ofSettings c hashOf settings configs = .ok (⟨madeBy requests⟩, records)) ∧
      (∃ records, ofSettings c hashOf settings' configs = .ok (⟨madeBy requests'⟩, records)) ∧
      requests.map Prod.fst = requests'.map Prod.fst ∧
      (List.Forall₂ (fun id id' =>
          filed.lookup (key (.text id)) = none ∨ (Normal id ↔ Normal id')) ids ids' →
        requests = requests') :=
  ⟨exists_ofSettings hconfigs hfiled hids, exists_ofSettings hconfigs hfiled hids',
    factories_requests hspelled, requests_congr hspelled⟩

def meterName? : Publisher → Option String
  | .meter p => some p.meterName
  | _ => none

def meterConfigs : Value := .dict [(.text "otel", .dict [(.text "meter_name", .text "calls")])]

theorem ofSettings_respelled_journal :
    ∃ filed, Properties.ofConfig meterConfigs = .ok filed ∧ (∀ e ∈ filed, Normal e.1) ∧
      List.Forall₂ Respells ["otel", "logging"] ["otel", " Logging "] ∧
      (∃ records, ofSettings PublisherFactory.builtIn (fun _ => .error .absentMember)
        { publishers := .tuple [.text "otel", .text " Logging "] } meterConfigs =
          .ok (⟨madeBy (["otel", "logging"].filterMap (PublisherFactory.builtIn.request? filed))⟩,
            records)) := by
  have hfiled : ∀ e ∈ [("otel", Value.dict [(.text "meter_name", .text "calls")])],
      Normal e.1 := by
    rw [List.forall_mem_singleton]
    decide +kernel
  have hspelled : List.Forall₂ Respells ["otel", "logging"] ["otel", " Logging "] := by
    refine .cons rfl (.cons ?_ .nil)
    unfold Respells
    decide +kernel
  let settings : MetricSettings := { publishers := .tuple [.text "otel", .text "logging"] }
  let settings' : MetricSettings := { publishers := .tuple [.text "otel", .text " Logging "] }
  have hids : settings.publishers.elements = .ok (["otel", "logging"].map .text) := rfl
  have hids' : settings'.publishers.elements = .ok (["otel", " Logging "].map .text) := rfl
  have hconfigs : Properties.ofConfig meterConfigs = .ok _ := rfl
  obtain ⟨-, ⟨records, hmade⟩, -, hsame⟩ := ofSettings_respelled PublisherFactory.builtIn
    (fun _ => .error .absentMember) hconfigs hfiled hids hids' hspelled
  refine ⟨_, rfl, hfiled, hspelled, records, ?_⟩
  rw [hsame (.cons (.inr Iff.rfl) (.cons (.inl (by decide +kernel)) .nil))]
  exact hmade

/-- An identifier in capital letters leads to the same factory, which is not given what is filed. -/
theorem meterName_of_capitals :
    Respells "otel" "OTEL" ∧
      (ofSettings PublisherFactory.builtIn (fun _ => .error .absentMember)
        { publishers := .tuple [.text "otel"] } meterConfigs).map (·.1.publishers.map meterName?) =
          .ok [some "calls"] ∧
      (ofSettings PublisherFactory.builtIn (fun _ => .error .absentMember)
        { publishers := .tuple [.text "OTEL"] } meterConfigs).map (·.1.publishers.map meterName?) =
          .ok [some "mediatel.metrics"] := by
  refine ⟨?_, ?_, ?_⟩
  · unfold Respells; decide +kernel
  · decide +kernel
  · rfl

end MetricService

end SessionTelemetry
