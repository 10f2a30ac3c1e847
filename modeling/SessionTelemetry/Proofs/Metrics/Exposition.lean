import Mathlib.Data.List.Pairwise
import Mathlib.Logic.Function.Basic
import SessionTelemetry.Metrics.Exposition
import SessionTelemetry.Proofs.Metrics.Families
import SessionTelemetry.Proofs.Table

/-!
# Series of a publisher

What a publisher has registered and what its registry exposes stay in step (`Exposes`): one family
for each series, none of which shares a name with another or with what was there before. A write
changes the family of its own series (`write_taken`, `write_refused`); one whose names are given
away changes nothing (`write_clashing`).
-/

namespace SessionTelemetry

structure Series where
  kind : SeriesKind
  name : String
  deriving DecidableEq, Repr

namespace Series

variable {stem : String} {s t : Series}

def key (s : Series) : Key := .item (.text s.kind.word) (.item (.text s.name) .noItems)

def family (stem : String) (s : Series) : String :=
  s.kind.familyName stem (SeriesName.ofText s.name)

def claims (stem : String) (s : Series) : List String := s.kind.claims (s.family stem)

/-- Two series claim a common name, so that not both can be exposed. -/
def Clashes (stem : String) (s t : Series) : Prop := ∃ n ∈ s.claims stem, n ∈ t.claims stem

instance (stem : String) (s t : Series) : Decidable (s.Clashes stem t) :=
  inferInstanceAs (Decidable (∃ n ∈ s.claims stem, n ∈ t.claims stem))

def exposing (stem : String) (s : Series) (collected : Collected) : Family :=
  ⟨s.family stem, s!"Media session metric {s.name}", collected⟩

def listed (own : List Series) (s : Series) : List Series := if s ∈ own then own else own ++ [s]

theorem key_injective : Function.Injective key := by
  rintro ⟨kind, name⟩ ⟨kind', name'⟩ h
  simp only [key, Key.item.injEq, Key.text.injEq, and_true] at h
  rw [SeriesKind.word_injective h.1, h.2]

theorem family_mem_claims (stem : String) (s : Series) : s.family stem ∈ s.claims stem :=
  s.kind.name_mem_claims _

theorem clashes_self (stem : String) (s : Series) : s.Clashes stem s :=
  ⟨_, s.family_mem_claims stem, s.family_mem_claims stem⟩

theorem Clashes.symm (h : s.Clashes stem t) : t.Clashes stem s := by
  obtain ⟨n, hs, ht⟩ := h
  exact ⟨n, ht, hs⟩

theorem clashes_of_family_eq (h : s.family stem = t.family stem) : s.Clashes stem t :=
  ⟨_, s.family_mem_claims stem, h ▸ t.family_mem_claims stem⟩

theorem mem_listed {own : List Series} : t ∈ listed own s ↔ t ∈ own ∨ t = s := by
  unfold listed
  split_ifs with h
  · exact ⟨.inl, fun ht => ht.elim id fun heq => heq ▸ h⟩
  · rw [List.mem_append, List.mem_singleton]

theorem prefix_listed (own : List Series) (s : Series) : own <+: listed own s := by
  unfold listed
  split_ifs
  · exact List.prefix_refl _
  · exact List.prefix_append _ _

end Series

/-- A publisher has registered these series beside what its registry held before, and the registry
exposes what each of them has collected. A series that is not registered has collected nothing. -/
structure Exposes (base : CollectorRegistry) (own : List Series) (state : Series → Collected)
    (p : ExpositionPublisher) (r : CollectorRegistry) : Prop where
  cached : p.families.entries = own.map fun s => (s.key, s.family p.stem)
  families : r.families = base.families ++ own.map fun s => s.exposing p.stem (state s)
  kinds : ∀ s, (state s).kind = s.kind
  unset : ∀ s, s ∉ own → state s = .empty s.kind
  free : ∀ s ∈ own, base.Free s.kind (s.family p.stem)
  apart : own.Pairwise fun s t => ¬ s.Clashes p.stem t

namespace Exposes

variable {base r : CollectorRegistry} {own : List Series} {state : Series → Collected}
  {p : ExpositionPublisher} {s t : Series} {c : Collected} {fault : Fault} {hashOf : HashReader}
  {f : Collected → Except Fault Collected}

theorem empty (base : CollectorRegistry) (stem : String) (registry : Value) :
    Exposes base [] (fun s => .empty s.kind) { stem, registry } base where
  cached := rfl
  families := (List.append_nil _).symm
  kinds s := by cases s.kind <;> rfl
  unset _ _ := rfl
  free _ hs := nomatch hs
  apart := .nil

theorem find?_key (h : Exposes base own state p r) (s : Series) :
    p.families.find? s.key = if s ∈ own then some (s.family p.stem) else none := by
  rw [Table.find?, h.cached]
  generalize p.stem = stem
  clear h
  induction own with
  | nil => rfl
  | cons t rest ih =>
    rw [List.map_cons, List.lookup_cons]
    by_cases heq : s = t
    · simp [heq]
    · simp [beq_false_of_ne fun hkey => heq (Series.key_injective hkey), heq, ih]

theorem claims_exposing (h : Exposes base own state p r) (s : Series) :
    (s.exposing p.stem (state s)).claims = s.claims p.stem := by
  rw [Series.exposing, Family.claims, Family.kind, h.kinds, Series.claims]

theorem claimed_eq (h : Exposes base own state p r) :
    r.claimed = base.claimed ++ own.flatMap (Series.claims p.stem) := by
  rw [CollectorRegistry.claimed, h.families, List.flatMap_append, List.flatMap_map]
  exact congrArg _ (List.flatMap_congr fun s _ => h.claims_exposing s)

theorem free_iff (h : Exposes base own state p r) (s : Series) :
    r.Free s.kind (s.family p.stem) ↔
      base.Free s.kind (s.family p.stem) ∧ ∀ t ∈ own, ¬ s.Clashes p.stem t := by
  simp only [CollectorRegistry.Free, h.claimed_eq, List.mem_append, List.mem_flatMap, not_or,
    Series.Clashes, not_exists, not_and, Series.claims]
  exact ⟨fun hfree => ⟨fun n hn => (hfree n hn).1, fun t ht n hn => (hfree n hn).2 t ht⟩,
    fun hfree n hn => ⟨hfree.1 n hn, fun t ht => hfree.2 t ht n hn⟩⟩

theorem not_clashes (h : Exposes base own state p r) (hs : s ∈ own) (ht : t ∈ own) (hne : s ≠ t) :
    ¬ s.Clashes p.stem t := by
  have : Std.Symm fun s t : Series => ¬ s.Clashes p.stem t := ⟨fun _ _ hst hts => hst hts.symm⟩
  exact h.apart.forall hs ht hne

theorem not_mem_of_split {xs ys : List Series} (h : Exposes base (xs ++ s :: ys) state p r) :
    s ∉ xs ∧ s ∉ ys := by
  obtain ⟨-, hafter, hacross⟩ := List.pairwise_append.1 h.apart
  refine ⟨fun hx => hacross s hx s List.mem_cons_self (s.clashes_self _), fun hy => ?_⟩
  exact (List.pairwise_cons.1 hafter).1 s hy (s.clashes_self _)

theorem map_exposing_update {own : List Series} (h : s ∉ own) (stem : String) (c : Collected) :
    own.map (fun t => t.exposing stem (Function.update state s c t)) =
      own.map fun t => t.exposing stem (state t) :=
  List.map_congr_left fun t ht => by
    have hne : t ≠ s := fun heq => h (heq ▸ ht)
    rw [Function.update_of_ne hne]

/-- The families before and after that of a registered series. No family before it claims one of
its names, and it alone is different when the series has collected something else. -/
theorem exists_split (h : Exposes base own state p r) (hs : s ∈ own) :
    ∃ before after : List Family, (∀ n ∈ s.claims p.stem, ∀ f ∈ before, n ∉ f.claims) ∧
      (∀ f ∈ after, f.name ≠ s.family p.stem) ∧
      r.families = before ++ s.exposing p.stem (state s) :: after ∧
      ∀ c, base.families ++ own.map (fun t => t.exposing p.stem (Function.update state s c t)) =
        before ++ s.exposing p.stem c :: after := by
  obtain ⟨xs, ys, rfl⟩ := List.append_of_mem hs
  obtain ⟨hxs, hys⟩ := h.not_mem_of_split
  refine ⟨base.families ++ xs.map fun t => t.exposing p.stem (state t),
    ys.map fun t => t.exposing p.stem (state t), fun n hn => ?_, ?_, ?_, fun c => ?_⟩
  · rw [List.forall_mem_append, List.forall_mem_map]
    refine ⟨fun f hf hmem => h.free s hs n hn (List.mem_flatMap.2 ⟨f, hf, hmem⟩), ?_⟩
    intro t ht hmem
    rw [h.claims_exposing] at hmem
    have hne : t ≠ s := fun heq => hxs (heq ▸ ht)
    exact h.not_clashes (List.mem_append_left _ ht) hs hne ⟨n, hmem, hn⟩
  · rw [List.forall_mem_map]
    intro t ht hname
    have hne : t ≠ s := fun heq => hys (heq ▸ ht)
    exact h.not_clashes (List.mem_append_right _ (List.mem_cons_of_mem _ ht)) hs hne
      (Series.clashes_of_family_eq hname)
  · rw [h.families, List.map_append, List.map_cons, List.append_assoc]
  · rw [List.map_append, List.map_cons, map_exposing_update hxs, map_exposing_update hys,
      Function.update_self, List.append_assoc]

theorem change [Collectors] [LawfulCollectors] (h : Exposes base own state p r) (hs : s ∈ own) :
    r.change (s.family p.stem) f = (f (state s)).map fun c =>
      ⟨base.families ++ own.map fun t => t.exposing p.stem (Function.update state s c t)⟩ := by
  obtain ⟨before, after, hbefore, hafter, hsplit, hupdate⟩ := h.exists_split hs
  have hnames : ∀ g ∈ before, g.name ≠ s.family p.stem := fun g hg hname =>
    hbefore _ (s.family_mem_claims _) g hg (hname ▸ g.kind.name_mem_claims _)
  have hchange := LawfulCollectors.change_append_cons (f := s.exposing p.stem (state s)) hnames
    hafter f
  rw [← hsplit] at hchange
  simp only [hupdate]
  exact hchange

theorem update (h : Exposes base own state p r) (hs : s ∈ own) (hkind : c.kind = s.kind) :
    Exposes base own (Function.update state s c) p
      ⟨base.families ++ own.map fun t => t.exposing p.stem (Function.update state s c t)⟩ where
  cached := h.cached
  families := rfl
  kinds t := by
    by_cases heq : t = s
    · rw [heq, Function.update_self, hkind]
    · rw [Function.update_of_ne heq, h.kinds]
  unset t ht := by
    have hne : t ≠ s := fun heq => ht (heq ▸ hs)
    rw [Function.update_of_ne hne, h.unset t ht]
  free := h.free
  apart := h.apart

/-- A series that is not registered yet is registered if its names are free. -/
theorem register (h : Exposes base own state p r) (hs : s ∉ own)
    (hfree : r.Free s.kind (s.family p.stem)) :
    Exposes base (own ++ [s]) state
      { p with families := p.families.put s.key (s.family p.stem) }
      ⟨r.families ++ [s.exposing p.stem (.empty s.kind)]⟩ where
  cached := by
    have hkey : s.key ∉ p.families.entries.map Prod.fst := by
      rw [h.cached, List.map_map]
      exact fun hmem => hs ((List.mem_map_of_injective Series.key_injective).1 hmem)
    rw [Table.entries_put_of_not_mem hkey, h.cached, List.map_append, List.map_singleton]
  families := by
    rw [h.families, List.map_append, List.map_singleton, h.unset s hs, List.append_assoc]
  kinds := h.kinds
  unset t ht := h.unset t fun hmem => ht (List.mem_append_left _ hmem)
  free := by
    rw [List.forall_mem_append, List.forall_mem_singleton]
    exact ⟨h.free, ((h.free_iff s).1 hfree).1⟩
  apart := by
    rw [List.pairwise_append]
    refine ⟨h.apart, List.pairwise_singleton _ _, fun t ht u hu hclash => ?_⟩
    rw [List.mem_singleton.1 hu] at hclash
    exact ((h.free_iff s).1 hfree).2 t ht hclash.symm

theorem newFamily_text [Collectors] (p : ExpositionPublisher) (r : CollectorRegistry) (s : Series) :
    p.newFamily r s.kind (.text s.name) =
      (r.register s.kind (s.family p.stem) s!"Media session metric {s.name}").map fun r =>
        (s.family p.stem, r) := by
  show Except.bind (r.register s.kind (s.family p.stem) s!"Media session metric {s.name}") _ = _
  cases r.register s.kind (s.family p.stem) s!"Media session metric {s.name}" <;> rfl

/-- A series is found, or is registered because its names are free. -/
theorem familyOf [Collectors] [LawfulCollectors] (h : Exposes base own state p r)
    (hashOf : HashReader)
    (hs : s ∈ own ∨ r.Free s.kind (s.family p.stem)) :
    ∃ cache r', p.familyOf hashOf r s.kind (.text s.name) =
        .ok (s.family p.stem, { p with families := cache }, r') ∧
      Exposes base (Series.listed own s) state { p with families := cache } r' := by
  have hkey : ExpositionPublisher.familyKey hashOf s.kind (.text s.name) = .ok s.key := rfl
  unfold ExpositionPublisher.familyOf Series.listed
  simp only [hkey, bind, Except.bind, h.find?_key]
  by_cases hown : s ∈ own
  · rw [if_pos hown, if_pos hown]
    exact ⟨p.families, r, rfl, h⟩
  · have hfree := hs.resolve_left hown
    rw [if_neg hown, if_neg hown, newFamily_text, LawfulCollectors.register_of_free hfree]
    exact ⟨_, _, rfl, h.register hown hfree⟩

/-- A write that the series takes. -/
theorem write_taken [Collectors] [LawfulCollectors] (h : Exposes base own state p r)
    (hashOf : HashReader)
    (hs : s ∈ own ∨ r.Free s.kind (s.family p.stem)) (hf : f (state s) = .ok c)
    (hkind : c.kind = s.kind) :
    ∃ cache r', p.write hashOf r s.kind (.text s.name) f =
        (.ok .ok, { p with families := cache }, r') ∧
      Exposes base (Series.listed own s) (Function.update state s c)
        { p with families := cache } r' := by
  obtain ⟨cache, r', hfamily, hnext⟩ := h.familyOf hashOf hs
  have hmem : s ∈ Series.listed own s := Series.mem_listed.2 (.inr rfl)
  have hchange := hnext.change (f := f) hmem
  rw [hf] at hchange
  refine ⟨cache, _, ?_, hnext.update hmem hkind⟩
  simp only [ExpositionPublisher.write, hfamily]
  rw [show r'.change (s.family p.stem) f = _ from hchange]
  rfl

/-- A write that the series refuses. It is registered all the same. -/
theorem write_refused [Collectors] [LawfulCollectors] (h : Exposes base own state p r)
    (hashOf : HashReader)
    (hs : s ∈ own ∨ r.Free s.kind (s.family p.stem)) (hf : f (state s) = .error fault) :
    ∃ cache r', p.write hashOf r s.kind (.text s.name) f =
        (ExpositionPublisher.answerFault fault, { p with families := cache }, r') ∧
      Exposes base (Series.listed own s) state { p with families := cache } r' := by
  obtain ⟨cache, r', hfamily, hnext⟩ := h.familyOf hashOf hs
  have hchange := hnext.change (f := f) (Series.mem_listed.2 (.inr rfl))
  rw [hf] at hchange
  refine ⟨cache, r', ?_, hnext⟩
  simp only [ExpositionPublisher.write, hfamily]
  rw [show r'.change (s.family p.stem) f = _ from hchange]
  rfl

/-- A write to a series that cannot be registered. -/
theorem write_clashing [Collectors] [LawfulCollectors] (h : Exposes base own state p r)
    (hs : s ∉ own)
    (hclash : ¬ r.Free s.kind (s.family p.stem)) :
    p.write hashOf r s.kind (.text s.name) f =
      (.ok (.failed (.duplicateSeries (r.clashes s.kind (s.family p.stem)))), p, r) := by
  have hkey : ExpositionPublisher.familyKey hashOf s.kind (.text s.name) = .ok s.key := rfl
  unfold ExpositionPublisher.write ExpositionPublisher.familyOf
  simp only [hkey, bind, Except.bind, h.find?_key, if_neg hs, newFamily_text,
    LawfulCollectors.register_of_not_free hclash]
  rfl

end Exposes

end SessionTelemetry
