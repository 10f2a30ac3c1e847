import Mathlib.Data.List.Forall2
import Mathlib.Data.List.Perm.Basic
import SessionTelemetry.Proofs.Metrics.Exposition

/-!
# A registry that is shared

A publisher is not alone with its registry: others register families as well and change what they
have collected (`RegistryStep`). All the same it knows its series by their names, and no name is
that of two families (`Orderly`). A call comes to an answer or to one write (`Effect`); where a
registry has some families more than another one, the same changes come to the same in both.
-/

namespace SessionTelemetry

def MetricCall.series? : MetricCall → Option Series
  | numeric (.text name) _ => some ⟨.gauge, name⟩
  | incremental (.text name) _ => some ⟨.counter, name⟩
  | finish type _ => some ⟨.histogram, type.display ++ " seconds"⟩
  | _ => none

/-- What happens to a publisher and its registry: the publisher is called, or somebody else
registers a family or changes what a family has collected. -/
inductive RegistryStep where
  | call (moment : Moment) (call : MetricCall)
  | register (kind : SeriesKind) (name doc : String)
  | change (name : String) (f : Collected → Except Fault Collected)

def KeepsKind (f : Collected → Except Fault Collected) : Prop :=
  ∀ c d, f c = .ok d → d.kind = c.kind

theorem Family.claims_empty (kind : SeriesKind) (name doc : String) :
    Family.claims ⟨name, doc, .empty kind⟩ = kind.claims name := by
  cases kind <;> rfl

namespace CollectorRegistry

variable {r after : CollectorRegistry} {kind : SeriesKind} {name doc n : String}
  {f : Collected → Except Fault Collected} {extra : List Family} {g : Family}

/-- No name is that of two families. -/
def Distinct (r : CollectorRegistry) : Prop := (r.families.map Family.name).Nodup

theorem Distinct.others {before after : List Family} {g : Family}
    (h : Distinct ⟨before ++ g :: after⟩) :
    (∀ g' ∈ before, g'.name ≠ g.name) ∧ ∀ g' ∈ after, g'.name ≠ g.name := by
  rw [Distinct, List.map_append, List.map_cons, List.nodup_append, List.nodup_cons] at h
  obtain ⟨-, ⟨hafter, -⟩, hbefore⟩ := h
  exact ⟨fun g' hg => hbefore _ (List.mem_map_of_mem hg) _ List.mem_cons_self,
    fun g' hg heq => hafter (heq ▸ List.mem_map_of_mem hg)⟩

theorem families_change [Collectors] [LawfulCollectors] (hr : r.Distinct)
    (h : r.change name f = .ok after) :
    List.Forall₂ (fun g g' : Family => g'.name = g.name ∧ (KeepsKind f → g'.claims = g.claims))
      r.families after.families := by
  by_cases hmem : ∃ g ∈ r.families, g.name = name
  · obtain ⟨g, hg, rfl⟩ := hmem
    obtain ⟨families⟩ := r
    obtain ⟨xs, ys, rfl⟩ := List.append_of_mem hg
    rw [LawfulCollectors.change_append_cons hr.others.1 hr.others.2] at h
    cases hc : f g.collected with
    | error fault =>
      rw [hc] at h
      cases h
    | ok c =>
      rw [hc] at h
      cases h
      refine List.rel_append (List.forall₂_same.2 fun _ _ => ⟨rfl, fun _ => rfl⟩)
        (.cons ⟨rfl, fun hf => ?_⟩ (List.forall₂_same.2 fun _ _ => ⟨rfl, fun _ => rfl⟩))
      rw [Family.claims, Family.claims, Family.kind, Family.kind, hf _ _ hc]
  · have hnone : ∀ g ∈ r.families, g.name ≠ name := fun g hg heq => hmem ⟨g, hg, heq⟩
    rw [LawfulCollectors.change_of_ne hnone] at h
    cases h
    exact List.forall₂_same.2 fun _ _ => ⟨rfl, fun _ => rfl⟩

theorem names_change [Collectors] [LawfulCollectors] (hr : r.Distinct)
    (h : r.change name f = .ok after) :
    after.families.map Family.name = r.families.map Family.name := by
  rw [← List.forall₂_eq_eq_eq, List.forall₂_map_left_iff, List.forall₂_map_right_iff]
  exact (families_change hr h).flip.imp fun _ _ hg => hg.1

theorem claimed_change [Collectors] [LawfulCollectors] (hr : r.Distinct) (hf : KeepsKind f)
    (h : r.change name f = .ok after) :
    after.claimed = r.claimed := by
  rw [claimed, claimed, List.flatMap_def, List.flatMap_def]
  congr 1
  rw [← List.forall₂_eq_eq_eq, List.forall₂_map_left_iff, List.forall₂_map_right_iff]
  exact (families_change hr h).flip.imp fun _ _ hg => hg.2 hf

theorem distinct_register [Collectors] [LawfulCollectors] (hr : r.Distinct)
    (h : r.register kind name doc = .ok after) :
    after.Distinct ∧ after.families = r.families ++ [⟨name, doc, .empty kind⟩] := by
  by_cases hfree : r.Free kind name
  · rw [LawfulCollectors.register_of_free hfree] at h
    cases h
    refine ⟨?_, rfl⟩
    rw [Distinct, List.map_append, List.nodup_append]
    refine ⟨hr, List.nodup_singleton _, fun n hn m hm heq => ?_⟩
    obtain rfl := List.mem_singleton.1 hm
    obtain ⟨g, hg, hname⟩ := List.mem_map.1 hn
    refine hfree _ (kind.name_mem_claims _) (List.mem_flatMap.2 ⟨g, hg, ?_⟩)
    have hclaims : g.name ∈ g.claims := g.kind.name_mem_claims g.name
    exact (hname.trans heq) ▸ hclaims
  · rw [LawfulCollectors.register_of_not_free hfree] at h
    cases h

theorem Distinct.of_perm (hafter : after.Distinct) (h : after.families.Perm (extra ++ r.families)) :
    r.Distinct := by
  have hall := (h.map Family.name).nodup_iff.1 hafter
  rw [List.map_append] at hall
  exact hall.of_append_right

/-- A registry has some families more than another one. A change of any other family comes to the
same in both. -/
theorem change_beside [Collectors] [LawfulCollectors] (hdistinct : after.Distinct)
    (h : after.families.Perm (extra ++ r.families)) (hextra : ∀ g ∈ extra, g.name ≠ name)
    (f : Collected → Except Fault Collected) :
    (∃ fault, r.change name f = .error fault ∧ after.change name f = .error fault) ∨
      ∃ s t, r.change name f = .ok s ∧ after.change name f = .ok t ∧
        t.families.Perm (extra ++ s.families) := by
  have hr := hdistinct.of_perm h
  obtain ⟨families⟩ := r
  obtain ⟨families'⟩ := after
  dsimp only at h
  by_cases hmem : ∃ g ∈ families, g.name = name
  · obtain ⟨g, hg, rfl⟩ := hmem
    obtain ⟨xs, ys, rfl⟩ := List.append_of_mem hg
    obtain ⟨xs', ys', rfl⟩ := List.append_of_mem (h.mem_iff.2 (List.mem_append_right _ hg))
    rw [LawfulCollectors.change_append_cons hr.others.1 hr.others.2,
      LawfulCollectors.change_append_cons hdistinct.others.1 hdistinct.others.2]
    have hmiddle : ∀ g : Family,
        (extra ++ (xs ++ g :: ys)).Perm (g :: (extra ++ (xs ++ ys))) := fun g => by
      rw [← List.append_assoc, ← List.append_assoc]
      exact List.perm_middle
    -- what stands around the family is the same up to the order
    have haround : (xs' ++ ys').Perm (extra ++ (xs ++ ys)) :=
      (List.perm_middle.symm.trans (h.trans (hmiddle g))).cons_inv
    cases f g.collected with
    | error fault => exact .inl ⟨fault, rfl, rfl⟩
    | ok c =>
      exact .inr ⟨_, _, rfl, rfl, (List.perm_middle.trans (haround.cons _)).trans (hmiddle _).symm⟩
  · have hnone : ∀ g ∈ families, g.name ≠ name := fun g hg heq => hmem ⟨g, hg, heq⟩
    have hnone' : ∀ g ∈ families', g.name ≠ name := by
      intro g hg
      rcases List.mem_append.1 (h.mem_iff.1 hg) with hnew | hold
      · exact hextra g hnew
      · exact hnone g hold
    exact .inr ⟨⟨families⟩, ⟨families'⟩, LawfulCollectors.change_of_ne hnone f,
      LawfulCollectors.change_of_ne hnone' f, h⟩

/-- A family that claims no name of those that a registry has more is taken by both or refused by
both for the same names. -/
theorem clashes_beside (h : after.families.Perm (extra ++ r.families))
    (hextra : ∀ n ∈ kind.claims name, ∀ g ∈ extra, n ∉ g.claims) :
    after.clashes kind name = r.clashes kind name := by
  rw [clashes, clashes]
  congr 1
  refine List.filter_congr fun n hn => ?_
  rw [Bool.eq_iff_iff, List.contains_iff_mem, List.contains_iff_mem, claimed, claimed,
    (h.flatMap_right Family.claims).mem_iff, List.flatMap_append, List.mem_append]
  refine or_iff_right fun hmem => ?_
  obtain ⟨g, hg, hng⟩ := List.mem_flatMap.1 hmem
  exact hextra n hn g hg hng

end CollectorRegistry

namespace ExpositionPublisher

variable {p q : ExpositionPublisher} {r after : CollectorRegistry} {s t : Series}
  {c d : Collected} {v : Value} {hashOf : HashReader} {f : Collected → Except Fault Collected}

/-- Takes a step. Others are answered as the publisher is. -/
def takeStep [Collectors] (p : ExpositionPublisher) (r : CollectorRegistry) : RegistryStep → Result
  | .call moment call => p.publish r moment call
  | .register kind name doc =>
    match r.register kind name doc with
    | .ok r => (.ok .ok, p, r)
    | .error fault => (.error fault, p, r)
  | .change name f =>
    match r.change name f with
    | .ok r => (.ok .ok, p, r)
    | .error fault => (.error fault, p, r)

def takeSteps [Collectors] (p : ExpositionPublisher) (r : CollectorRegistry) :
    List RegistryStep → List (Except Fault Reply) × ExpositionPublisher × CollectorRegistry
  | [] => ([], p, r)
  | step :: rest =>
    let (answer, p, r) := p.takeStep r step
    let (answers, p, r) := takeSteps p r rest
    (answer :: answers, p, r)

theorem keepsKind_setTo (v : Value) : KeepsKind (setTo v) := by
  intro c d h
  cases c with
  | gauge value =>
    obtain ⟨x, -, hx⟩ := exists_of_bind h
    cases hx
    rfl
  | counter | histogram =>
    cases h
    rfl

theorem keepsKind_increaseBy (v : Value) : KeepsKind (increaseBy v) := by
  intro c d h
  cases c with
  | counter total =>
    obtain ⟨below, -, hbelow⟩ := exists_of_bind h
    cases below with
    | true => cases hbelow
    | false =>
      obtain ⟨x, -, hx⟩ := exists_of_bind hbelow
      cases hx
      rfl
  | gauge | histogram =>
    cases h
    rfl

theorem keepsKind_observe (v : Value) : KeepsKind (observe v) := by
  intro c d h
  cases c with
  | histogram counts sum =>
    obtain ⟨x, -, hx⟩ := exists_of_bind h
    cases hx
    rfl
  | gauge | counter =>
    cases h
    rfl

/-- No other value is the key of a text. -/
theorem eq_text_of_toKey {hashOf : HashReader} {text : String}
    (h : v.toKey hashOf = .ok (.text text)) : v = .text text := by
  cases v with
  | text =>
    cases h
    rfl
  | tuple items =>
    rw [Value.toKey] at h
    cases items with
    | nil => cases h
    | cons first rest =>
      obtain ⟨key, -, hrest⟩ := exists_of_bind h
      obtain ⟨keys, -, hkeys⟩ := exists_of_bind hrest
      cases hkeys
  | object name | foreign name =>
    rw [Value.toKey] at h
    cases hhash : hashOf name with
    | error fault =>
      rw [hhash] at h
      cases h
    | ok hash =>
      rw [hhash] at h
      cases h
  | _ => cases h

def Caches (p : ExpositionPublisher) : Prop :=
  ∀ e ∈ p.families.entries, ∃ s : Series, e = (s.key, s.family p.stem)

def withSeries (p : ExpositionPublisher) (s : Series) : ExpositionPublisher :=
  { p with families := p.families.put s.key (s.family p.stem) }

theorem Caches.withSeries (h : p.Caches) (s : Series) : (p.withSeries s).Caches := by
  intro e he
  rcases Table.mem_entries_put he with rfl | hold
  · exact ⟨s, rfl⟩
  · exact h e hold

theorem find?_withSeries : (p.withSeries s).families.find? t.key =
    if t = s then some (s.family p.stem) else p.families.find? t.key := by
  rw [ExpositionPublisher.withSeries, Table.find?_put]
  exact if_congr Series.key_injective.eq_iff rfl rfl

theorem Caches.family_eq (h : p.Caches) {family : String}
    (hfound : p.families.find? s.key = some family) : family = s.family p.stem := by
  obtain ⟨t, ht⟩ := h _ (Table.mem_entries_of_find? hfound)
  obtain ⟨hkey, rfl⟩ := Prod.mk.inj ht
  rw [Series.key_injective hkey]

theorem familyKey_text (hashOf : HashReader) (s : Series) :
    familyKey hashOf s.kind (.text s.name) = .ok s.key := rfl

theorem familyOf_known [Collectors] (h : p.Caches) (hashOf : HashReader) (r : CollectorRegistry)
    (hs : p.families.find? s.key ≠ none) :
    p.familyOf hashOf r s.kind (.text s.name) = .ok (s.family p.stem, p, r) := by
  obtain ⟨family, hfound⟩ := Option.ne_none_iff_exists'.1 hs
  simp only [familyOf, familyKey_text, bind, Except.bind, hfound, h.family_eq hfound]
  rfl

theorem familyOf_free [Collectors] [LawfulCollectors] (hashOf : HashReader)
    (hs : p.families.find? s.key = none)
    (hfree : r.Free s.kind (s.family p.stem)) :
    p.familyOf hashOf r s.kind (.text s.name) = .ok (s.family p.stem, p.withSeries s,
      ⟨r.families ++ [s.exposing p.stem (.empty s.kind)]⟩) := by
  simp only [familyOf, familyKey_text, bind, Except.bind, hs, Exposes.newFamily_text,
    LawfulCollectors.register_of_free hfree]
  rfl

theorem familyOf_clashing [Collectors] [LawfulCollectors] (hashOf : HashReader)
    (hs : p.families.find? s.key = none)
    (hclash : ¬ r.Free s.kind (s.family p.stem)) :
    p.familyOf hashOf r s.kind (.text s.name) =
      .error (.duplicateSeries (r.clashes s.kind (s.family p.stem))) := by
  simp only [familyOf, familyKey_text, bind, Except.bind, hs, Exposes.newFamily_text,
    LawfulCollectors.register_of_not_free hclash]
  rfl

/-- A name that is no text is never that of a registered series, and cannot be registered. -/
theorem familyOf_unnamed [Collectors] (hashOf : HashReader) (kind : SeriesKind) {name : Value}
    (hname : ∀ text, name ≠ .text text) :
    ∃ fault, ∀ p r, Caches p → p.familyOf hashOf r kind name = .error fault := by
  cases hkey : name.toKey hashOf with
  | error fault =>
    refine ⟨fault, fun p r _ => ?_⟩
    have hfamily : familyKey hashOf kind name = .error fault := by
      simp only [familyKey, Value.toKey, Value.itemsKey, hkey]
      rfl
    simp only [familyOf, hfamily, bind, Except.bind]
  | ok key =>
    obtain ⟨fault, hfault⟩ : ∃ fault, SeriesName.ofValue name = .error fault := by
      cases name with
      | text text => exact absurd rfl (hname text)
      | _ => exact ⟨_, rfl⟩
    refine ⟨fault, fun p r h => ?_⟩
    have hfamily : familyKey hashOf kind name =
        .ok (.item (.text kind.word) (.item key .noItems)) := by
      simp only [familyKey, Value.toKey, Value.itemsKey, hkey]
      rfl
    have hfound : p.families.find? (.item (.text kind.word) (.item key .noItems)) = none := by
      rw [Table.find?, List.lookup_eq_none_iff]
      intro e he
      obtain ⟨s, rfl⟩ := h e he
      rw [bne_iff_ne, Series.key, ne_eq, Key.item.injEq, Key.item.injEq]
      rintro ⟨-, htext, -⟩
      exact hname s.name (eq_text_of_toKey (htext ▸ hkey))
    have hnew : p.newFamily r kind name = .error fault := by
      simp only [newFamily, hfault]
      rfl
    simp only [familyOf, hfamily, bind, Except.bind, hfound, hnew]

inductive Effect where
  | answer (reply : Except Fault Reply)
  | write (kind : SeriesKind) (name : Value) (f : Collected → Except Fault Collected)

def effect (w : Stopwatch) (moment : Moment) : MetricCall → Stopwatch × Effect
  | .numeric name value => (w, .write .gauge name (setTo value))
  | .string _ _ => (w, .answer (.ok .unsupported))
  | .incremental name delta => (w, .write .counter name (increaseBy (delta.getD (.int 1))))
  | .start type id =>
    match w.start type id moment with
    | .ok w => (w, .answer (.ok .ok))
    | .error fault => (w, .answer (.error fault))
  | .finish type id =>
    match w.stop type id moment with
    | (.error fault, w) => (w, .answer (.error fault))
    | (.ok none, w) => (w, .answer (.ok .ok))
    | (.ok (some seconds), w) => (w, .write .histogram (durationName type) (observe seconds))

def perform [Collectors] (p : ExpositionPublisher) (r : CollectorRegistry) (hashOf : HashReader) :
    Effect → Result
  | .answer reply => (reply, p, r)
  | .write kind name f => p.write hashOf r kind name f

theorem publish_eq_perform [Collectors] (p : ExpositionPublisher) (r : CollectorRegistry)
    (moment : Moment)
    (call : MetricCall) :
    p.publish r moment call =
      perform { p with transactions := (effect p.transactions moment call).1 } r moment.hashOf
        (effect p.transactions moment call).2 := by
  cases call with
  | numeric | string | incremental => rfl
  | start type id =>
    simp only [publish, effect]
    cases p.transactions.start type id moment <;> rfl
  | finish type id =>
    simp only [publish, effect]
    obtain ⟨stopped, w⟩ := p.transactions.stop type id moment
    cases stopped with
    | error fault => rfl
    | ok seconds? => cases seconds? <;> rfl

theorem keepsKind_effect {w : Stopwatch} {moment : Moment} {call : MetricCall} {kind : SeriesKind}
    {name : Value} (h : (effect w moment call).2 = .write kind name f) : KeepsKind f := by
  cases call with
  | numeric name value =>
    cases h
    exact keepsKind_setTo value
  | incremental name delta =>
    cases h
    exact keepsKind_increaseBy _
  | string => cases h
  | start type id =>
    simp only [effect] at h
    split at h <;> cases h
  | finish type id =>
    simp only [effect] at h
    split at h
    · cases h
    · cases h
    · cases h
      exact keepsKind_observe _

theorem series_effect {w : Stopwatch} {moment : Moment} {call : MetricCall}
    (h : (effect w moment call).2 = .write s.kind (.text s.name) f) : call.series? = some s := by
  obtain ⟨kind, name⟩ := s
  cases call with
  | numeric | incremental =>
    cases h
    rfl
  | string => cases h
  | start type id =>
    simp only [effect] at h
    split at h <;> cases h
  | finish type id =>
    simp only [effect] at h
    split at h
    · cases h
    · cases h
    · cases h
      rfl

end ExpositionPublisher

/-- A publisher that knows its series by their names, and a registry that holds no name twice. -/
structure Orderly (p : ExpositionPublisher) (r : CollectorRegistry) : Prop where
  caches : p.Caches
  distinct : r.Distinct

namespace Orderly

variable {p q : ExpositionPublisher} {r after : CollectorRegistry} {s : Series}
  {hashOf : HashReader} {f : Collected → Except Fault Collected}

theorem fresh (stem : String) (registry : Value) : Orderly { stem, registry } {} :=
  ⟨nofun, List.nodup_nil⟩

theorem withSeries [Collectors] [LawfulCollectors] (h : Orderly p r)
    (hfree : r.Free s.kind (s.family p.stem)) :
    Orderly (p.withSeries s) ⟨r.families ++ [s.exposing p.stem (.empty s.kind)]⟩ :=
  ⟨h.caches.withSeries s,
    (CollectorRegistry.distinct_register h.distinct (LawfulCollectors.register_of_free hfree _)).1⟩

theorem familyOf [Collectors] [LawfulCollectors] (h : Orderly p r) {kind : SeriesKind}
    {name : Value} {family : String}
    (hfamily : p.familyOf hashOf r kind name = .ok (family, q, after)) : Orderly q after := by
  by_cases hname : ∃ text, name = .text text
  · obtain ⟨text, rfl⟩ := hname
    let s : Series := ⟨kind, text⟩
    by_cases hs : p.families.find? s.key = none
    · by_cases hfree : r.Free s.kind (s.family p.stem)
      · cases (ExpositionPublisher.familyOf_free hashOf hs hfree).symm.trans hfamily
        exact h.withSeries hfree
      · cases (ExpositionPublisher.familyOf_clashing hashOf hs hfree).symm.trans hfamily
    · cases (ExpositionPublisher.familyOf_known h.caches hashOf r hs).symm.trans hfamily
      exact h
  · obtain ⟨fault, hfault⟩ := ExpositionPublisher.familyOf_unnamed hashOf kind (not_exists.1 hname)
    cases (hfault p r h.caches).symm.trans hfamily

theorem change [Collectors] [LawfulCollectors] (h : Orderly p r) {name : String}
    (hchange : r.change name f = .ok after) :
    Orderly p after :=
  ⟨h.caches, by
    rw [CollectorRegistry.Distinct, CollectorRegistry.names_change h.distinct hchange]
    exact h.distinct⟩

theorem write [Collectors] [LawfulCollectors] (h : Orderly p r) (hashOf : HashReader)
    (kind : SeriesKind) (name : Value)
    (f : Collected → Except Fault Collected) :
    Orderly (p.write hashOf r kind name f).2.1 (p.write hashOf r kind name f).2.2 := by
  unfold ExpositionPublisher.write
  split
  · exact h
  · next hfamily =>
    have hnext := h.familyOf hfamily
    split
    · exact hnext
    · next hchange => exact hnext.change hchange

theorem withTransactions (h : Orderly p r) (w : Stopwatch) :
    Orderly { p with transactions := w } r :=
  ⟨h.caches, h.distinct⟩

theorem takeStep [Collectors] [LawfulCollectors] (h : Orderly p r) (step : RegistryStep) :
    Orderly (p.takeStep r step).2.1 (p.takeStep r step).2.2 := by
  cases step with
  | call moment call =>
    have htimed := h.withTransactions (ExpositionPublisher.effect p.transactions moment call).1
    simp only [ExpositionPublisher.takeStep, ExpositionPublisher.publish_eq_perform]
    cases (ExpositionPublisher.effect p.transactions moment call).2 with
    | answer reply => exact htimed
    | write kind name f => exact htimed.write moment.hashOf kind name f
  | register kind name doc =>
    simp only [ExpositionPublisher.takeStep]
    split
    · next hregister =>
      exact ⟨h.caches, (CollectorRegistry.distinct_register h.distinct hregister).1⟩
    · exact h
  | change name f =>
    simp only [ExpositionPublisher.takeStep]
    split
    · next hchange => exact h.change hchange
    · exact h

theorem takeSteps [Collectors] [LawfulCollectors] (h : Orderly p r) (steps : List RegistryStep) :
    Orderly (p.takeSteps r steps).2.1 (p.takeSteps r steps).2.2 := by
  induction steps generalizing p r with
  | nil => exact h
  | cons step rest ih => exact ih (h.takeStep step)

end Orderly

end SessionTelemetry
