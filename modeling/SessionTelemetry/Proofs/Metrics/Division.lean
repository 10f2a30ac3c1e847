import Mathlib.Data.List.Basic
import SessionTelemetry.Metrics.Publisher

/-!
# Who owns what of a shared state

What publishers share divides into parts, of which each publisher owns one (`Division`). Publishers
are separate where none changes what another one owns. The publishers of the library own the
registry or the meter that their configuration names (`Publisher.division`), so they are separate
as soon as no two of them name the same one.
-/

namespace SessionTelemetry

/-- How the state that publishers share divides into parts. A call depends on the part that its
publisher owns, and on nothing else of the shared state. -/
structure Division {ε P : Type} (respond : ε → P → MetricCall → PublisherAnswer ε P)
    (κ ω : Type) where
  owned : P → κ
  part : κ → ε → ω
  keeps : ∀ b p call, owned (respond b p call).publisher = owned p
  reads : ∀ b c p call, part (owned p) b = part (owned p) c →
    (respond b p call).reply = (respond c p call).reply ∧
    (respond b p call).publisher = (respond c p call).publisher ∧
    (respond b p call).records = (respond c p call).records ∧
    part (owned p) (respond b p call).shared = part (owned p) (respond c p call).shared

namespace Division

variable {ε P κ ω : Type} {respond : ε → P → MetricCall → PublisherAnswer ε P}

def Spares (d : Division respond κ ω) (k l : κ) : Prop :=
  ∀ b p call, d.owned p = k → d.part l (respond b p call).shared = d.part l b

def Separate (d : Division respond κ ω) (publishers : List P) : Prop :=
  (publishers.map d.owned).Pairwise fun k l => d.Spares k l ∧ d.Spares l k

/-- A change of the shared state changes each part by what that part was. -/
def Respects (d : Division respond κ ω) (change : ε → ε) : Prop :=
  ∀ k b c, d.part k b = d.part k c → d.part k (change b) = d.part k (change c)

end Division

/-- What a publisher of the library keeps outside of itself, by the value that refers to it. -/
inductive Backend where
  | nothing
  | registry (reference : Value)
  | meter (reference : Value)

namespace MetricBackends

variable {b : MetricBackends} {v w : Value} {r : CollectorRegistry} {link : MeterLink}

@[simp] theorem moment_setRegistry : (b.setRegistry v r).moment = b.moment := by
  unfold setRegistry
  split <;> rfl

@[simp] theorem moment_setMeterLink : (b.setMeterLink v link).moment = b.moment := by
  unfold setMeterLink
  split <;> rfl

@[simp] theorem registry_setMeterLink :
    registry? (b.setMeterLink v link) w = b.registry? w := by
  unfold setMeterLink
  split <;> cases w <;> rfl

@[simp] theorem meterLink_setRegistry : (b.setRegistry v r).meterLink w = b.meterLink w := by
  unfold setRegistry
  split <;> cases w <;> rfl

theorem registry_setRegistry_self (h : b.registry? v ≠ none) :
    registry? (b.setRegistry v r) v = some r := by
  cases v <;> simp_all [ registry?, setRegistry]

theorem registry_setRegistry_ne (h : v ≠ w) :
    registry? (b.setRegistry v r) w = b.registry? w := by
  cases v <;> cases w <;> simp_all [ registry?, setRegistry, eq_comm]

theorem meterLink_setMeterLink_ne (h : v ≠ w) :
    (b.setMeterLink v link).meterLink w = b.meterLink w := by
  cases v <;> cases link <;> cases w <;> simp_all [meterLink, setMeterLink, setMeter, eq_comm]

/-- After a meter has been put back, its reference leads to what was put back, or to what it led to
before. -/
theorem meterLink_setMeterLink_congr {c : MetricBackends} (h : b.meterLink v = c.meterLink v) :
    (b.setMeterLink v link).meterLink v = (c.setMeterLink v link).meterLink v := by
  cases v <;> cases link <;> simp_all [meterLink, setMeterLink, setMeter]

def part : Backend → MetricBackends → Moment × Option CollectorRegistry × MeterLink
  | .nothing, b => (b.moment, none, .idle)
  | .registry reference, b => (b.moment, b.registry? reference, .idle)
  | .meter reference, b => (b.moment, none, b.meterLink reference)

end MetricBackends

namespace ExpositionPublisher

variable {p q : ExpositionPublisher} {r r' : CollectorRegistry} {hashOf : HashReader}
  {kind : SeriesKind} {name : Value} {family : String}

theorem registry_familyOf (h : p.familyOf hashOf r kind name = .ok (family, q, r')) :
    q.registry = p.registry := by
  unfold familyOf at h
  cases hkey : familyKey hashOf kind name with
  | error fault => simp [hkey, bind, Except.bind] at h
  | ok key =>
    simp only [hkey, bind, Except.bind] at h
    split at h
    · simp only [pure, Except.pure, Except.ok.injEq, Prod.mk.injEq] at h
      rw [← h.2.1]
    · split at h
      · cases h
      · simp only [pure, Except.pure, Except.ok.injEq, Prod.mk.injEq] at h
        rw [← h.2.1]

@[simp] theorem registry_write (f : Collected → Except Fault Collected) :
    (p.write hashOf r kind name f).2.1.registry = p.registry := by
  unfold write
  split
  · rfl
  · rename_i hfamily
    split <;> exact registry_familyOf hfamily

@[simp] theorem registry_publish (moment : Moment) (call : MetricCall) :
    (p.publish r moment call).2.1.registry = p.registry := by
  cases call with
  | numeric name value => exact registry_write _
  | string name value => rfl
  | incremental name delta => exact registry_write _
  | start type id =>
    simp only [publish]
    split <;> rfl
  | finish type id =>
    simp only [publish]
    split
    · rfl
    · rfl
    · exact registry_write _

end ExpositionPublisher

namespace MeterPublisher

variable {p q : MeterPublisher} {link link' : MeterLink} {hashOf : HashReader}
  {kind : InstrumentKind} {name created : Value}

theorem meter_ensure (h : p.ensure hashOf link kind name = .ok (created, q, link')) :
    q.meter = p.meter := by
  unfold ensure at h
  cases hkey : instrumentKey hashOf kind name with
  | error fault => simp [hkey, bind, Except.bind] at h
  | ok key =>
    simp only [hkey, bind, Except.bind] at h
    split at h
    · simp only [pure, Except.pure, Except.ok.injEq, Prod.mk.injEq] at h
      rw [← h.2.1]
    · split at h
      · cases h
      · simp only [pure, Except.pure, Except.ok.injEq, Prod.mk.injEq] at h
        rw [← h.2.1]

@[simp] theorem meter_measure (value : Except Fault Value) (attributes : List (String × Value)) :
    (p.measure hashOf link kind name value attributes).2.1.meter = p.meter := by
  unfold measure
  split
  · rfl
  · rename_i hcreated
    split
    · exact meter_ensure hcreated
    · split <;> exact meter_ensure hcreated

@[simp] theorem meter_publish (moment : Moment) (call : MetricCall) :
    (p.publish link moment call).2.1.meter = p.meter := by
  cases call with
  | numeric name value =>
    simp only [publish, publishNumeric]
    split <;> simp
  | string name value => rfl
  | incremental name delta => exact meter_measure _ _
  | start type id =>
    simp only [publish]
    split <;> rfl
  | finish type id =>
    simp only [publish]
    split <;> simp

end MeterPublisher

namespace Publisher

def backend : Publisher → Backend
  | silent _ | memory _ | journal _ | standIn _ => .nothing
  | exposition p => .registry p.registry
  | meter p => .meter p.meter

/-- A call does not touch the clock. -/
theorem moment_respond (b : MetricBackends) (p : Publisher) (call : MetricCall) :
    (respond b p call).shared.moment = b.moment := by
  cases p with
  | exposition p =>
    simp only [respond, publishExposition]
    split <;> simp
  | meter p => exact MetricBackends.moment_setMeterLink
  | _ => rfl

theorem backend_respond (b : MetricBackends) (p : Publisher) (call : MetricCall) :
    (respond b p call).publisher.backend = p.backend := by
  cases p with
  | exposition p =>
    simp only [respond, publishExposition]
    split
    · exact congrArg Backend.registry (ExpositionPublisher.registry_publish _ _)
    · rfl
  | meter p => exact congrArg Backend.meter (MeterPublisher.meter_publish _ _)
  | _ => rfl

theorem title_respond (b : MetricBackends) (p : Publisher) (call : MetricCall) :
    (respond b p call).publisher.title = p.title := by
  cases p with
  | exposition p =>
    simp only [respond, publishExposition]
    split <;> rfl
  | standIn s =>
    simp only [respond, StandIn.publish]
    split <;> rfl
  | _ => rfl

/-- Equal parts are left as equal parts, and are all that is read. -/
theorem respond_congr (b c : MetricBackends) (p : Publisher) (call : MetricCall)
    (h : MetricBackends.part p.backend b = MetricBackends.part p.backend c) :
    (respond b p call).reply = (respond c p call).reply ∧
    (respond b p call).publisher = (respond c p call).publisher ∧
    (respond b p call).records = (respond c p call).records ∧
    MetricBackends.part p.backend (respond b p call).shared =
      MetricBackends.part p.backend (respond c p call).shared := by
  cases p with
  | exposition p =>
    obtain ⟨hmoment, hregistry, -⟩ := by
      simpa only [backend, MetricBackends.part, Prod.mk.injEq] using h
    simp only [respond, publishExposition, ← hmoment, ← hregistry, backend, MetricBackends.part]
    -- the registry is put back under the reference under which it was found
    cases hfound : b.registry? p.registry with
    | none => simp [hfound, ← hregistry, hmoment]
    | some r =>
      simp only [MetricBackends.moment_setRegistry, ExpositionPublisher.registry_publish]
      rw [MetricBackends.registry_setRegistry_self (by simp [hfound]),
        MetricBackends.registry_setRegistry_self (by simp [← hregistry, hfound])]
      simp [hmoment]
  | meter p =>
    obtain ⟨hmoment, -, hlink⟩ := by
      simpa only [backend, MetricBackends.part, Prod.mk.injEq] using h
    simp only [respond, ← hmoment, ← hlink, backend, MetricBackends.part,
      MetricBackends.moment_setMeterLink, MeterPublisher.meter_publish, Prod.mk.injEq, true_and]
    exact MetricBackends.meterLink_setMeterLink_congr hlink
  | silent name => exact ⟨rfl, rfl, rfl, h⟩
  | standIn s => exact ⟨rfl, rfl, rfl, h⟩
  | memory m | journal m =>
    have hmoment : b.moment = c.moment := congrArg Prod.fst h
    simp only [respond, hmoment, true_and]
    exact h

/-- The publishers of the library own the registries and the meters that they name. -/
def division : Division respond Backend (Moment × Option CollectorRegistry × MeterLink) where
  owned := backend
  part := MetricBackends.part
  keeps := backend_respond
  reads := respond_congr

/-- Publishers that do not name the same registry or meter leave each other alone. -/
theorem spares_of_ne {k l : Backend} (h : k = l → k = .nothing) : division.Spares k l := by
  rintro b p call rfl
  change MetricBackends.part l (respond b p call).shared = MetricBackends.part l b
  cases p with
  | exposition p =>
    simp only [respond, publishExposition]
    split
    · cases l with
      | registry w =>
        have hne : p.registry ≠ w := fun heq => by simp [backend, heq, division] at h
        simp [MetricBackends.part, MetricBackends.registry_setRegistry_ne hne]
      | _ => simp [MetricBackends.part]
    · rfl
  | meter p =>
    simp only [respond]
    cases l with
    | meter w =>
      have hne : p.meter ≠ w := fun heq => by simp [backend, heq, division] at h
      simp [MetricBackends.part, MetricBackends.meterLink_setMeterLink_ne hne]
    | _ => simp [MetricBackends.part]
  | _ => rfl

theorem separate_of_distinct {publishers : List Publisher}
    (h : (publishers.map backend).Pairwise fun k l => k = l → k = .nothing) :
    division.Separate publishers :=
  h.imp fun hkl => ⟨spares_of_ne hkl, spares_of_ne fun heq => heq.trans (hkl heq.symm)⟩

/-- The clock moves for all publishers alike. -/
theorem division_respects_tick (now : Value) : division.Respects (·.tick now) := by
  intro k b c h
  have hmoment : b.moment = c.moment := by
    cases k <;> exact congrArg Prod.fst h
  cases k <;> simp_all [division, MetricBackends.part, MetricBackends.tick,
    MetricBackends.registry?, MetricBackends.meterLink]

end Publisher

end SessionTelemetry
