import SessionTelemetry.Proofs.Text.Spelling
import SessionTelemetry.Proofs.Yields
import SessionTelemetry.Settings.Series

/-!
# Settings from the environment

What can be wrong with an environment is listed setting by setting, in the order in which it is
looked for (`Environment.misread`, `Environment.misfit`). Reading the settings reports the first of
what is wrong, and comes to a result if nothing is (`Reports`).
-/

namespace SessionTelemetry

/-- Texts by name; of two with one name the first counts. -/
abbrev Environment := List (String × String)

/-- A setting with which something is wrong, and the text about it before and after its name. -/
structure Offence where
  before : String
  setting : String
  after : String

def Offence.text (o : Offence) : String := o.before ++ o.setting ++ o.after

def Fault.Tells (fault : Fault) (o : Offence) : Prop :=
  fault.setting? = some o.setting ∧ fault.message? = some o.text

namespace Fault

theorem tells_unreadableSetting (name shown : String) :
    (unreadableSetting name shown).Tells
      ⟨"Invalid value for ", name, ": '" ++ shown ++ "'"⟩ := by
  refine ⟨rfl, congrArg some ?_⟩
  rw [Offence.text, ← String.append_assoc, ← String.append_assoc]
  rfl

theorem tells_unknownPolicy (name shown : String) :
    (unknownPolicy name shown).Tells ⟨"Unknown ", name, " policy '" ++ shown ++ "'"⟩ := by
  refine ⟨rfl, congrArg some ?_⟩
  rw [Offence.text, ← String.append_assoc, ← String.append_assoc]
  rfl

theorem tells_missingSetting (name : String) :
    (missingSetting name).Tells ⟨"Required property not set: ", name, ""⟩ :=
  ⟨rfl, congrArg some String.append_empty.symm⟩

theorem tells_boundBelowOne (name shown : String) :
    (boundBelowOne name shown).Tells ⟨"", name, " must be >= 1, got " ++ shown⟩ := by
  refine ⟨rfl, congrArg some ?_⟩
  rw [Offence.text, String.empty_append, ← String.append_assoc]
  rfl

theorem Tells.isSetting {fault : Fault} {o : Offence} (h : fault.Tells o) :
    fault.isSetting = true := by
  have hsome := h.1
  cases fault <;> first | rfl | cases hsome

end Fault

variable {α β : Type} {r : Except Fault α} {offences further : List Offence} {p : α → Prop}
  {q : β → Prop}

/-- A computation ends with the first of some offences, or with a result that has a property. -/
def Reports (r : Except Fault α) (offences : List Offence) (p : α → Prop) : Prop :=
  match offences with
  | [] => Yields r p
  | first :: _ => ∃ fault, r = .error fault ∧ fault.Tells first

namespace Reports

theorem ok {a : α} (h : p a) : Reports (.ok a) [] p := Yields.ok h

theorem error {fault : Fault} {first : Offence} (h : fault.Tells first) :
    Reports (.error fault) (first :: offences) p := ⟨fault, rfl, h⟩

theorem bind {f : α → Except Fault β} (h : Reports r offences p)
    (hf : ∀ a, p a → Reports (f a) further q) : Reports (r >>= f) (offences ++ further) q := by
  cases offences with
  | nil =>
    obtain ⟨a, rfl, ha⟩ := h
    exact hf a ha
  | cons first rest =>
    obtain ⟨fault, rfl, htells⟩ := h
    exact ⟨fault, rfl, htells⟩

theorem mono {p' : α → Prop} (h : Reports r offences p) (himp : ∀ a, p a → p' a) :
    Reports r offences p' := by
  cases offences with
  | nil => exact Yields.mono h himp
  | cons first rest => exact h

/-- The result is what the computation came to. -/
theorem returned (h : Reports r offences p) : Reports r offences fun a => r = .ok a ∧ p a := by
  cases offences with
  | nil =>
    obtain ⟨a, rfl, ha⟩ := h
    exact .ok ⟨rfl, ha⟩
  | cons first rest => exact h

/-- Nothing more is looked for once the last offence could have been found. -/
theorem bind_yields {f : α → Except Fault β} (h : Reports r offences p)
    (hf : ∀ a, p a → Yields (f a) q) : Reports (r >>= f) offences q := by
  rw [← List.append_nil offences]
  exact h.bind hf

end Reports

namespace Environment

variable (e : Environment)

def properties : Properties := e.map fun entry => (entry.1, .text entry.2)

/-- The setting under a name: its text without the blanks around it, unless nothing remains. -/
def setting? (name : String) : Option String :=
  ((e.lookup name).map Text.trimmed).filter fun shown => !shown.isEmpty

def isOn (name : String) : Bool :=
  match e.setting? name with
  | some shown => ["1", "true", "yes", "on"].contains (Text.lowerCase shown)
  | none => false

def integer? (shown : String) : Option Int :=
  match Numeral.readInteger shown.toList with
  | .integer n => some n
  | _ => none

def float? (shown : String) : Option Binary64 := Numeral.readFloat? shown.toList

def policy? (shown : String) : Option String :=
  let policy := Text.lowerCase shown
  if policy = "drop_oldest" ∨ policy = "drop_newest" then some policy else none

def chosen {ν : Type} (name : String) (read : String → Option ν) (default : ν) : ν :=
  ((e.setting? name).bind read).getD default

def workers : Int := e.chosen SettingName.maxWorkers integer? 4

def queue : Int := e.chosen SettingName.maxQueue integer? 1024

def value (name : String) : Value := ((e.setting? name).map .text).getD .null

def seriesSettings : SeriesSettings where
  enabled := .bool (e.isOn SettingName.seriesEnabled)
  urlBase := e.value SettingName.urlBase
  database := e.value SettingName.database
  user := e.value SettingName.user
  password := e.value SettingName.password
  timeout := .float (e.chosen SettingName.timeout float? (.ofInt 5))
  pool := {
    maxWorkers := .int e.workers
    maxQueueSize := .int e.queue
    overflowPolicy := .text (e.chosen SettingName.overflow policy? "drop_oldest") }

def unreadable {ν : Type} (name : String) (read : String → Option ν) (offence : String → Offence) :
    List Offence :=
  match e.setting? name with
  | some shown => if (read shown).isSome then [] else [offence shown]
  | none => []

def invalid (name shown : String) : Offence := ⟨"Invalid value for ", name, ": '" ++ shown ++ "'"⟩

def unknown (name shown : String) : Offence := ⟨"Unknown ", name, " policy '" ++ shown ++ "'"⟩

def misread : List Offence :=
  e.unreadable SettingName.timeout float? (invalid SettingName.timeout) ++
    (e.unreadable SettingName.maxWorkers integer? (invalid SettingName.maxWorkers) ++
      (e.unreadable SettingName.maxQueue integer? (invalid SettingName.maxQueue) ++
        e.unreadable SettingName.overflow policy? (unknown SettingName.overflow)))

def missing (name : String) : List Offence :=
  match e.setting? name with
  | some _ => []
  | none => [⟨"Required property not set: ", name, ""⟩]

def tooLow (name : String) (n : Int) : List Offence :=
  if n < 1 then [⟨"", name, " must be >= 1, got " ++ (Value.int n).display⟩] else []

def connection : List String :=
  [SettingName.urlBase, SettingName.database, SettingName.user, SettingName.password]

def misfit : List Offence :=
  connection.flatMap e.missing ++
    (tooLow SettingName.maxWorkers e.workers ++ tooLow SettingName.maxQueue e.queue)

theorem lookup_properties (name : String) :
    e.properties.lookup name = (e.lookup name).map .text := by
  induction e with
  | nil => rfl
  | cons entry rest ih =>
    rw [properties, List.map_cons, List.lookup_cons, List.lookup_cons]
    cases name == entry.1 with
    | true => rfl
    | false => exact ih

theorem text?_properties (name : String) : e.properties.text? name = e.setting? name := by
  rw [Properties.text?, lookup_properties, setting?]
  cases e.lookup name with
  | none => rfl
  | some raw =>
    simp only [Option.map_some, Option.filter_some, Value.display]
    by_cases hblank : (Text.trimmed raw).isEmpty = true
    · simp [hblank]
    · simp [hblank]

theorem flag_properties (name : String) : e.properties.flag name = e.isOn name := by
  rw [Properties.flag, text?_properties, isOn]
  cases e.setting? name with
  | none => rfl
  | some shown => rfl

theorem trimmed_of_setting? {name shown : String} (h : e.setting? name = some shown) :
    Text.trimmed shown = shown := by
  obtain ⟨hraw, -⟩ := Option.filter_eq_some_iff.1 h
  obtain ⟨raw, -, rfl⟩ := Option.map_eq_some_iff.1 hraw
  exact Text.trimmed_trimmed raw

theorem reports_number {ν : Type} {name : String} {default : ν} {wrap : ν → Value}
    {read : Value → Except Fault Value} {shows : String → Option ν}
    (hshown : ∀ shown a, shows shown = some a → read (.text shown) = .ok (wrap a))
    (hspoilt : ∀ shown, shows shown = none → ∃ fault, read (.text shown) = .error fault) :
    Reports (e.properties.number name (wrap default) read)
      (e.unreadable name shows (invalid name)) (· = wrap (e.chosen name shows default)) := by
  rw [Properties.number, text?_properties, unreadable, chosen]
  cases e.setting? name with
  | none => exact .ok rfl
  | some shown =>
    cases h : shows shown with
    | some a =>
      simp only [hshown shown a h, h, Option.isSome_some, if_true, Option.bind_some,
        Option.getD_some]
      exact .ok rfl
    | none =>
      obtain ⟨fault, hfault⟩ := hspoilt shown h
      simp only [hfault, h, Option.isSome_none]
      exact .error (Fault.tells_unreadableSetting name shown)

theorem reports_integer (name : String) (default : Int) :
    Reports (e.properties.number name (.int default) fun v => v.toInteger.map .int)
      (e.unreadable name integer? (invalid name))
      (· = .int (e.chosen name integer? default)) := by
  apply reports_number
  · intro shown n h
    unfold integer? at h
    split at h
    · cases h
      simp only [Value.toInteger, Value.readInteger, *]
      rfl
    · cases h
  · intro shown h
    simp only [Value.toInteger, Value.readInteger]
    unfold integer? at h
    cases hread : Numeral.readInteger shown.toList with
    | integer n => rw [hread] at h; cases h
    | tooLong digits => exact ⟨_, rfl⟩
    | malformed => exact ⟨_, rfl⟩

theorem reports_float (name : String) (default : Binary64) :
    Reports (e.properties.number name (.float default) fun v => v.toFloat.map .float)
      (e.unreadable name float? (invalid name))
      (· = .float (e.chosen name float? default)) := by
  apply reports_number
  · intro shown x h
    simp only [Value.toFloat, show Numeral.readFloat? shown.toList = some x from h]
    rfl
  · intro shown h
    simp only [Value.toFloat, show Numeral.readFloat? shown.toList = none from h]
    exact ⟨_, rfl⟩

theorem reports_policy :
    Reports (OverflowPolicy.ofText? (e.properties.text? SettingName.overflow))
      (e.unreadable SettingName.overflow policy? (unknown SettingName.overflow))
      (· = e.chosen SettingName.overflow policy? "drop_oldest") := by
  rw [text?_properties, unreadable, chosen]
  cases h : e.setting? SettingName.overflow with
  | none => exact .ok rfl
  | some shown =>
    -- what is set has no blanks around it that could be dropped once more
    simp only [OverflowPolicy.ofText?, e.trimmed_of_setting? h, policy?, Option.bind_some,
      OverflowPolicy.dropOldest, OverflowPolicy.dropNewest]
    by_cases hpolicy : Text.lowerCase shown = "drop_oldest" ∨ Text.lowerCase shown = "drop_newest"
    · simp only [if_pos hpolicy, Option.isSome_some, if_true]
      exact .ok rfl
    · simp only [if_neg hpolicy, Option.isSome_none]
      exact .error (Fault.tells_unknownPolicy _ shown)

theorem textOrNull_properties (name : String) : e.properties.textOrNull name = e.value name := by
  rw [Properties.textOrNull, text?_properties, value]
  cases e.setting? name <;> rfl

theorem reports_seriesSettings :
    Reports (SeriesSettings.ofProperties e.properties) e.misread (· = e.seriesSettings) := by
  refine (e.reports_float SettingName.timeout (.ofInt 5)).bind fun timeout htimeout => ?_
  have hpool : Reports (PoolSettings.ofProperties e.properties) _ (· = e.seriesSettings.pool) :=
    (e.reports_integer SettingName.maxWorkers 4).bind fun workers hworkers =>
      (e.reports_integer SettingName.maxQueue 1024).bind fun queue hqueue =>
        e.reports_policy.bind_yields fun policy hpolicy => .pure (by
          rw [hworkers, hqueue, hpolicy]
          rfl)
  refine hpool.bind_yields fun pool hpool => .pure ?_
  simp only [flag_properties, textOrNull_properties]
  rw [htimeout, hpool]
  rfl

end Environment

end SessionTelemetry
