import Mathlib.Data.List.Basic
import SessionTelemetry.Metrics.Collectors
import SessionTelemetry.Proofs.Yields

/-!
# Names that are given away

What the registries are relied on for is `LawfulCollectors`: one takes a family if none of its names
is given away, and otherwise refuses it by those that are; and as long as no two families share a
name, a change of one leaves all others as they are. The registries that keep lists of families have
these properties, and show a sample under a name that its family claims.
-/

namespace SessionTelemetry

theorem SeriesKind.word_injective : Function.Injective SeriesKind.word := by
  intro a b h
  cases a <;> cases b <;> first | rfl | exact absurd h (by decide)

theorem SeriesKind.name_mem_claims (kind : SeriesKind) (name : String) : name ∈ kind.claims name :=
  List.mem_cons_self

theorem SeriesKind.ending_mem_claims (kind : SeriesKind) {ending : String}
    (h : ending ∈ kind.endings) (name : String) : name ++ ending ∈ kind.claims name :=
  List.mem_cons_of_mem _ (List.mem_map_of_mem h)

/-- A family claims the name of each of its samples. -/
theorem Family.name_mem_claims {f : Family} {s : Sample} (h : s ∈ f.samples) :
    s.name ∈ f.claims := by
  obtain ⟨name, doc, collected⟩ := f
  cases collected with
  | gauge value =>
    obtain rfl := List.mem_singleton.1 h
    exact SeriesKind.name_mem_claims .gauge name
  | counter total =>
    obtain rfl := List.mem_singleton.1 h
    exact SeriesKind.ending_mem_claims .counter (by decide) name
  | histogram counts sum =>
    simp only [samples, Collected.samples, List.mem_append, List.mem_map, List.mem_cons,
      List.not_mem_nil, or_false] at h
    obtain ⟨entry, -, rfl⟩ | rfl | rfl := h
    · exact SeriesKind.ending_mem_claims .histogram (by decide) name
    · exact SeriesKind.ending_mem_claims .histogram (by decide) name
    · exact SeriesKind.ending_mem_claims .histogram (by decide) name

namespace CollectorRegistry

variable {r : CollectorRegistry} {kind : SeriesKind} {name doc n : String}
  {before after : List Family} {f : Family}

def Free (r : CollectorRegistry) (kind : SeriesKind) (name : String) : Prop :=
  ∀ n ∈ kind.claims name, n ∉ r.claimed

theorem mem_clashes : n ∈ r.clashes kind name ↔ n ∈ kind.claims name ∧ n ∈ r.claimed := by
  rw [clashes, List.mem_mergeSort, List.mem_filter, List.contains_iff_mem]

theorem clashes_eq_nil_iff : r.clashes kind name = [] ↔ r.Free kind name := by
  simp only [List.eq_nil_iff_forall_not_mem, mem_clashes, not_and, Free]

def exposed? (r : CollectorRegistry) (name : String) : Option Binary64 :=
  ((r.families.flatMap Family.samples).find? fun s => s.name = name ∧ s.bound = none).map
    Sample.value

/-- A sample is found where no earlier family claims its name. -/
theorem exposed?_append_cons (h : ∀ g ∈ before, n ∉ g.claims) (hn : ∃ s ∈ f.samples,
    s.name = n ∧ s.bound = none) :
    exposed? ⟨before ++ f :: after⟩ n =
      (f.samples.find? fun s => s.name = n ∧ s.bound = none).map Sample.value := by
  have hnone : ((before.flatMap Family.samples).find? fun s => s.name = n ∧ s.bound = none) =
      none := by
    rw [List.find?_eq_none]
    intro s hs
    obtain ⟨g, hg, hsg⟩ := List.mem_flatMap.1 hs
    have hne : s.name ≠ n := fun heq => h g hg (heq ▸ Family.name_mem_claims hsg)
    simp [hne]
  obtain ⟨s, hs, hname⟩ := hn
  have hsome : (f.samples.find? fun s => s.name = n ∧ s.bound = none).isSome := by
    rw [List.find?_isSome]
    exact ⟨s, hs, by simpa using hname⟩
  rw [exposed?, List.flatMap_append, List.flatMap_cons, List.find?_append, hnone, Option.none_or,
    List.find?_append, Option.or_of_isSome hsome]

end CollectorRegistry

/-- What is known of a library of collector registries: a family is taken, last and with nothing
collected, if none of its names is given away, and otherwise refused by those that are; and only the
family of a name is changed, if no two families have that name. -/
class LawfulCollectors [Collectors] : Prop where
  register_of_free {r : CollectorRegistry} {kind : SeriesKind} {name : String}
    (h : r.Free kind name) (doc : String) :
    r.register kind name doc = .ok ⟨r.families ++ [⟨name, doc, .empty kind⟩]⟩
  register_of_not_free {r : CollectorRegistry} {kind : SeriesKind} {name : String}
    (h : ¬ r.Free kind name) (doc : String) :
    r.register kind name doc = .error (.duplicateSeries (r.clashes kind name))
  change_of_ne {r : CollectorRegistry} {name : String} (h : ∀ f ∈ r.families, f.name ≠ name)
    (change : Collected → Except Fault Collected) : r.change name change = .ok r
  change_append_cons {before after : List Family} {f : Family}
    (hbefore : ∀ g ∈ before, g.name ≠ f.name) (hafter : ∀ g ∈ after, g.name ≠ f.name)
    (change : Collected → Except Fault Collected) :
    CollectorRegistry.change ⟨before ++ f :: after⟩ f.name change =
      (change f.collected).map fun c => ⟨before ++ { f with collected := c } :: after⟩

/-- The families of other names are run through without a change. -/
theorem mapM_change_of_ne {name : String} {change : Collected → Except Fault Collected}
    {families : List Family} (h : ∀ f ∈ families, f.name ≠ name) :
    (families.mapM fun family =>
      if family.name = name then do return { family with collected := ← change family.collected }
      else pure family : Except Fault (List Family)) = .ok families := by
  rw [mapM_eq_ok_iff, List.forall₂_same]
  intro f hf
  rw [if_neg (h f hf)]
  rfl

/-- The library in use is such a library. -/
instance : LawfulCollectors where
  register_of_free h doc := by
    simp only [CollectorRegistry.register, Collectors.register,
      CollectorRegistry.clashes_eq_nil_iff.2 h]
  register_of_not_free {r kind name} h doc := by
    simp only [CollectorRegistry.register, Collectors.register]
    split
    · next hnil => exact absurd (CollectorRegistry.clashes_eq_nil_iff.1 hnil) h
    · rfl
  change_of_ne h change := by
    simp only [CollectorRegistry.change, Collectors.change, mapM_change_of_ne h]
    rfl
  change_append_cons {before after f} hbefore hafter change := by
    simp only [CollectorRegistry.change, Collectors.change]
    rw [List.mapM_append, List.mapM_cons, mapM_change_of_ne hbefore, mapM_change_of_ne hafter,
      if_pos rfl]
    cases change f.collected <;> rfl

end SessionTelemetry
