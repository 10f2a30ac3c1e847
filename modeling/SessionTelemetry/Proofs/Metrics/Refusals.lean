import SessionTelemetry.Proofs.Metrics.SeriesHistory
import SessionTelemetry.Proofs.Metrics.SharedRegistry

/-!
# Writes that fail

A series is registered before it is written to. So a write that fails changes nothing that is
exposed, unless it is the first to its series and the names of that are free: then an empty family
has come to the others (`Refusal`). A publisher for which this has happened and one for which it has
not (`Beside`) are told apart only by what asks for the names of that family.
-/

namespace SessionTelemetry

inductive MetricCall.Writes : MetricCall → Prop where
  | numeric (name value : Value) : Writes (.numeric name value)
  | incremental (name : Value) (delta : Option Value) : Writes (.incremental name delta)

/-- The family that a publisher still has to register for a series. -/
def ExpositionPublisher.pending (p : ExpositionPublisher) (s : Series) : List Family :=
  if p.families.find? s.key = none then [s.exposing p.stem (.empty s.kind)] else []

/-- Two publishers with their registries, of which the second has registered a series. That is all
in which they differ, and the first can register it as well if it has not. -/
structure Beside (s : Series) (p q : ExpositionPublisher) (r after : CollectorRegistry) : Prop where
  left : p.Caches
  right : Orderly q after
  stem : q.stem = p.stem
  transactions : q.transactions = p.transactions
  known : q.families.find? s.key ≠ none
  others : ∀ t, t ≠ s → q.families.find? t.key = p.families.find? t.key
  families : after.families.Perm (p.pending s ++ r.families)
  free : p.families.find? s.key = none → r.Free s.kind (s.family p.stem)

structure Alike (stem : String) (s : Series) (x y : ExpositionPublisher.Result) : Prop where
  answer : x.1 = y.1
  stem_eq : x.2.1.stem = stem
  beside : Beside s x.2.1 y.2.1 x.2.2 y.2.2

/-- A step asks for no name of a series, unless it is about the series itself. -/
def RegistryStep.Clear (stem : String) (s : Series) : RegistryStep → Prop
  | .call _ c => ∀ t, c.series? = some t → t ≠ s → ¬ t.Clashes stem s
  | .register kind name _ => ∀ n ∈ kind.claims name, n ∉ s.claims stem
  | .change name f => name ≠ s.family stem ∧ KeepsKind f

namespace Beside

variable {p q : ExpositionPublisher} {r after : CollectorRegistry} {s t : Series}
  {kind : SeriesKind} {name : String} {name' : Value} {f : Collected → Except Fault Collected}

theorem withTransactions (h : Beside s p q r after) (w : Stopwatch) :
    Beside s { p with transactions := w } { q with transactions := w } r after :=
  ⟨h.left, h.right.withTransactions w, h.stem, rfl, h.known, h.others, h.families, h.free⟩

/-- A change of another family than that of the series comes to the same. -/
theorem change [Collectors] [LawfulCollectors] (h : Beside s p q r after) (hf : KeepsKind f)
    (hname : p.families.find? s.key = none → s.family p.stem ≠ name) :
    (∃ fault, r.change name f = .error fault ∧ after.change name f = .error fault) ∨
      ∃ r' after', r.change name f = .ok r' ∧ after.change name f = .ok after' ∧
        Beside s p q r' after' := by
  have hpending : ∀ g ∈ p.pending s, g.name ≠ name := by
    unfold ExpositionPublisher.pending
    split_ifs with hs
    · intro g hg
      obtain rfl := List.mem_singleton.1 hg
      exact hname hs
    · exact fun g hg => absurd hg List.not_mem_nil
  obtain herror | ⟨r', after', hr, hafter, hperm⟩ :=
    CollectorRegistry.change_beside h.right.distinct h.families hpending f
  · exact .inl herror
  · refine .inr ⟨r', after', hr, hafter,
      { h with right := h.right.change hafter, families := hperm, free := fun hs => ?_ }⟩
    rw [CollectorRegistry.Free,
      CollectorRegistry.claimed_change (h.right.distinct.of_perm h.families) hf hr]
    exact h.free hs

/-- A family that claims no name of the series is registered by both, or refused by both for the
same names. -/
theorem clashes_eq (h : Beside s p q r after)
    (hclear : ∀ n ∈ kind.claims name, n ∉ s.claims p.stem) :
    after.clashes kind name = r.clashes kind name := by
  refine CollectorRegistry.clashes_beside h.families fun n hn g hg => ?_
  unfold ExpositionPublisher.pending at hg
  split_ifs at hg
  · obtain rfl := List.mem_singleton.1 hg
    exact (Family.claims_empty _ _ _).symm ▸ hclear n hn
  · cases hg

theorem free_iff (h : Beside s p q r after)
    (hclear : ∀ n ∈ kind.claims name, n ∉ s.claims p.stem) :
    after.Free kind name ↔ r.Free kind name := by
  rw [← CollectorRegistry.clashes_eq_nil_iff, ← CollectorRegistry.clashes_eq_nil_iff,
    h.clashes_eq hclear]

theorem register [Collectors] [LawfulCollectors] (h : Beside s p q r after)
    (hclear : ∀ n ∈ kind.claims name, n ∉ s.claims p.stem) (hfree : r.Free kind name)
    (doc : String) :
    Beside s p q ⟨r.families ++ [⟨name, doc, .empty kind⟩]⟩
      ⟨after.families ++ [⟨name, doc, .empty kind⟩]⟩ := by
  have hafter := LawfulCollectors.register_of_free ((h.free_iff hclear).2 hfree) doc
  refine { h with
    right := ⟨h.right.caches, (CollectorRegistry.distinct_register h.right.distinct hafter).1⟩
    families := ?_, free := fun hs n hn => ?_ }
  · rw [← List.append_assoc]
    exact h.families.append_right _
  · rw [CollectorRegistry.claimed, List.flatMap_append, List.mem_append, not_or]
    refine ⟨h.free hs n hn, ?_⟩
    rw [List.flatMap_singleton, Family.claims_empty]
    exact fun hmem => hclear n hmem hn

/-- The first has registered the series as well. -/
theorem catchUp (h : Beside s p q r after) (hs : p.families.find? s.key = none) :
    Beside s (p.withSeries s) q ⟨r.families ++ [s.exposing p.stem (.empty s.kind)]⟩ after := by
  have hfound : (p.withSeries s).families.find? s.key = some (s.family p.stem) := by
    rw [ExpositionPublisher.find?_withSeries, if_pos rfl]
  refine ⟨h.left.withSeries s, h.right, h.stem, h.transactions, h.known, fun t hts => ?_, ?_,
    fun hnone => nomatch hfound.symm.trans hnone⟩
  · rw [ExpositionPublisher.find?_withSeries, if_neg hts, h.others t hts]
  · have hfamilies := h.families
    rw [ExpositionPublisher.pending, if_pos hs] at hfamilies
    rw [ExpositionPublisher.pending, if_neg (by simp [hfound]), List.nil_append]
    exact hfamilies.trans List.perm_append_comm

/-- Both have registered another series. -/
theorem withSeries (h : Beside s p q r after) (hts : t ≠ s) :
    Beside s (p.withSeries t) (q.withSeries t) r after := by
  have hsame : (p.withSeries t).families.find? s.key = p.families.find? s.key := by
    rw [ExpositionPublisher.find?_withSeries, if_neg hts.symm]
  refine ⟨h.left.withSeries t, ⟨h.right.caches.withSeries t, h.right.distinct⟩, h.stem,
    h.transactions, ?_, fun u hu => ?_, ?_, fun hs => h.free (hsame ▸ hs)⟩
  · rw [ExpositionPublisher.find?_withSeries, if_neg hts.symm]
    exact h.known
  · rw [ExpositionPublisher.find?_withSeries, ExpositionPublisher.find?_withSeries, h.others u hu,
      h.stem]
  · rw [ExpositionPublisher.pending, hsame]
    exact h.families

theorem clear_of_not_clashes {stem : String} (h : ¬ t.Clashes stem s) :
    ∀ n ∈ t.kind.claims (t.family stem), n ∉ s.claims stem :=
  fun n ht hs => h ⟨n, ht, hs⟩

/-- Both find the family of a series, or both cannot register it for the same reason. -/
theorem familyOf [Collectors] [LawfulCollectors] (h : Beside s p q r after) (hashOf : HashReader)
    (hclear : t ≠ s → ¬ t.Clashes p.stem s) :
    (∃ fault, p.familyOf hashOf r t.kind (.text t.name) = .error fault ∧
        q.familyOf hashOf after t.kind (.text t.name) = .error fault) ∨
      ∃ p' q' r' after', p.familyOf hashOf r t.kind (.text t.name) =
          .ok (t.family p.stem, p', r') ∧
        q.familyOf hashOf after t.kind (.text t.name) = .ok (t.family p.stem, q', after') ∧
        Beside s p' q' r' after' ∧ p'.stem = p.stem ∧ p'.families.find? t.key ≠ none := by
  by_cases hts : t = s
  · subst hts
    have hright := ExpositionPublisher.familyOf_known h.right.caches hashOf after h.known
    rw [h.stem] at hright
    -- The second publisher knows the series. The first registers it now, if it has not yet.
    by_cases ht : p.families.find? t.key = none
    · refine .inr ⟨_, q, _, after, ExpositionPublisher.familyOf_free hashOf ht (h.free ht), hright,
        h.catchUp ht, rfl, ?_⟩
      simp [ExpositionPublisher.find?_withSeries]
    · have hleft := ExpositionPublisher.familyOf_known h.left hashOf r ht
      exact .inr ⟨p, q, r, after, hleft, hright, h, rfl, ht⟩
  · have hclaims := clear_of_not_clashes (hclear hts)
    by_cases ht : p.families.find? t.key = none
    · have ht' : q.families.find? t.key = none := (h.others t hts).trans ht
      by_cases hfree : r.Free t.kind (t.family p.stem)
      · have hfree' : after.Free t.kind (t.family q.stem) := by
          rw [h.stem]
          exact (h.free_iff hclaims).2 hfree
        have hright := ExpositionPublisher.familyOf_free hashOf ht' hfree'
        rw [h.stem] at hright
        refine .inr ⟨_, _, _, _, ExpositionPublisher.familyOf_free hashOf ht hfree, hright,
          (h.register hclaims hfree _).withSeries hts, rfl, ?_⟩
        simp [ExpositionPublisher.find?_withSeries]
      · have hclash : ¬ after.Free t.kind (t.family q.stem) := by
          rw [h.stem]
          exact mt (h.free_iff hclaims).1 hfree
        have hright := ExpositionPublisher.familyOf_clashing hashOf ht' hclash
        rw [h.stem, h.clashes_eq hclaims] at hright
        exact .inl ⟨_, ExpositionPublisher.familyOf_clashing hashOf ht hfree, hright⟩
    · have ht' : q.families.find? t.key ≠ none := h.others t hts ▸ ht
      have hleft := ExpositionPublisher.familyOf_known h.left hashOf r ht
      have hright := ExpositionPublisher.familyOf_known h.right.caches hashOf after ht'
      rw [h.stem] at hright
      exact .inr ⟨p, q, r, after, hleft, hright, h, rfl, ht⟩

theorem write [Collectors] [LawfulCollectors] (h : Beside s p q r after) (hashOf : HashReader)
    (hf : KeepsKind f)
    (hclear : t ≠ s → ¬ t.Clashes p.stem s) :
    Alike p.stem s (p.write hashOf r t.kind (.text t.name) f)
      (q.write hashOf after t.kind (.text t.name) f) := by
  unfold ExpositionPublisher.write
  obtain ⟨fault, hp, hq⟩ | ⟨p', q', r', after', hp, hq, hnext, hstem, hfound⟩ :=
    h.familyOf hashOf hclear
  · rw [hp, hq]
    exact ⟨rfl, rfl, h⟩
  · rw [hp, hq]
    -- While the first has not registered `s`, what is written to is another series, whose family
    -- shares no name with that of `s`.
    have hname : p'.families.find? s.key = none → s.family p'.stem ≠ t.family p.stem := by
      intro hs hname
      have hts : t ≠ s := fun heq => hfound (heq ▸ hs)
      exact hclear hts (Series.clashes_of_family_eq (hstem ▸ hname.symm))
    obtain ⟨fault, hr, hafter⟩ | ⟨r'', after'', hr, hafter, hlast⟩ := hnext.change hf hname
    · simp only [hr, hafter]
      exact ⟨rfl, hstem, hnext⟩
    · simp only [hr, hafter]
      exact ⟨rfl, hstem, hlast⟩

theorem write_unnamed [Collectors] (h : Beside s p q r after) (hashOf : HashReader)
    (hname : ∀ text, name' ≠ .text text) (f : Collected → Except Fault Collected) :
    Alike p.stem s (p.write hashOf r kind name' f) (q.write hashOf after kind name' f) := by
  obtain ⟨fault, hfault⟩ := ExpositionPublisher.familyOf_unnamed hashOf kind hname
  unfold ExpositionPublisher.write
  rw [hfault p r h.left, hfault q after h.right.caches]
  exact ⟨rfl, rfl, h⟩

theorem publish [Collectors] [LawfulCollectors] (h : Beside s p q r after) (moment : Moment)
    {call : MetricCall}
    (hclear : ∀ t, call.series? = some t → t ≠ s → ¬ t.Clashes p.stem s) :
    Alike p.stem s (p.publish r moment call) (q.publish after moment call) := by
  rw [ExpositionPublisher.publish_eq_perform, ExpositionPublisher.publish_eq_perform,
    h.transactions]
  have htimed := h.withTransactions (ExpositionPublisher.effect p.transactions moment call).1
  cases heffect : (ExpositionPublisher.effect p.transactions moment call).2 with
  | answer reply => exact ⟨rfl, rfl, htimed⟩
  | write kind name f =>
    have hf := ExpositionPublisher.keepsKind_effect heffect
    by_cases hname : ∃ text, name = .text text
    · obtain ⟨text, rfl⟩ := hname
      exact htimed.write (t := ⟨kind, text⟩) moment.hashOf hf
        (hclear _ (ExpositionPublisher.series_effect heffect))
    · exact htimed.write_unnamed moment.hashOf (not_exists.1 hname) f

theorem takeStep [Collectors] [LawfulCollectors] (h : Beside s p q r after) {step : RegistryStep}
    (hclear : step.Clear p.stem s) :
    Alike p.stem s (p.takeStep r step) (q.takeStep after step) := by
  cases step with
  | call moment call => exact h.publish moment hclear
  | register kind name doc =>
    unfold ExpositionPublisher.takeStep
    by_cases hfree : r.Free kind name
    · simp only [LawfulCollectors.register_of_free hfree,
        LawfulCollectors.register_of_free ((h.free_iff hclear).2 hfree)]
      exact ⟨rfl, rfl, h.register hclear hfree doc⟩
    · simp only [LawfulCollectors.register_of_not_free hfree,
        LawfulCollectors.register_of_not_free (mt (h.free_iff hclear).1 hfree),
        h.clashes_eq hclear]
      exact ⟨rfl, rfl, h⟩
  | change name f =>
    unfold ExpositionPublisher.takeStep
    obtain ⟨fault, hr, hafter⟩ | ⟨r', after', hr, hafter, hnext⟩ :=
      h.change hclear.2 fun _ => hclear.1.symm
    · simp only [hr, hafter]
      exact ⟨rfl, rfl, h⟩
    · simp only [hr, hafter]
      exact ⟨rfl, rfl, hnext⟩

/-- All answers are the same. -/
theorem takeSteps [Collectors] [LawfulCollectors] (h : Beside s p q r after)
    {steps : List RegistryStep}
    (hclear : ∀ step ∈ steps, step.Clear p.stem s) :
    (p.takeSteps r steps).1 = (q.takeSteps after steps).1 := by
  induction steps generalizing p q r after with
  | nil => rfl
  | cons step rest ih =>
    obtain ⟨hfirst, hrest⟩ := List.forall_mem_cons.1 hclear
    obtain ⟨hanswer, hstem, hnext⟩ := h.takeStep hfirst
    exact congrArg₂ List.cons hanswer (ih hnext (hstem.symm ▸ hrest))

end Beside

/-- What a write that failed has left behind. If its series was registered already, or some of its
names were given away, nothing has changed. If not, an empty family has come last. Later steps are
then answered as if the write had not been tried, as long as none asks for a name of that family
other than for the series itself. -/
inductive Refusal [Collectors] (p : ExpositionPublisher) (r : CollectorRegistry)
    (call : MetricCall) :
    ExpositionPublisher → CollectorRegistry → Prop where
  | unchanged (h : ∀ s, call.series? = some s →
      p.families.find? s.key ≠ none ∨ ¬ r.Free s.kind (s.family p.stem)) : Refusal p r call p r
  | registered {q : ExpositionPublisher} {after : CollectorRegistry} (s : Series)
      (series : call.series? = some s) (unknown : p.families.find? s.key = none)
      (free : r.Free s.kind (s.family p.stem))
      (families : after.families = r.families ++ [s.exposing p.stem (.empty s.kind)])
      (answers : ∀ later : List RegistryStep, (∀ step ∈ later, step.Clear p.stem s) →
        (q.takeSteps after later).1 = (p.takeSteps r later).1) :
      Refusal p r call q after

namespace Orderly

variable {p q : ExpositionPublisher} {r after : CollectorRegistry} {s : Series} {fault : Fault}
  {call : MetricCall} {hashOf : HashReader} {f : Collected → Except Fault Collected}

theorem beside_withSeries [Collectors] [LawfulCollectors] (h : Orderly p r)
    (hs : p.families.find? s.key = none)
    (hfree : r.Free s.kind (s.family p.stem)) :
    Beside s p (p.withSeries s) r ⟨r.families ++ [s.exposing p.stem (.empty s.kind)]⟩ where
  left := h.caches
  right := h.withSeries hfree
  stem := rfl
  transactions := rfl
  known := by simp [ExpositionPublisher.find?_withSeries]
  others t ht := by rw [ExpositionPublisher.find?_withSeries, if_neg ht]
  families := by
    rw [ExpositionPublisher.pending, if_pos hs]
    exact List.perm_append_comm
  free _ := hfree

theorem refusal_of_write [Collectors] [LawfulCollectors] (h : Orderly p r)
    (hseries : call.series? = some s)
    (hfailed : p.write hashOf r s.kind (.text s.name) f = (.ok (.failed fault), q, after)) :
    Refusal p r call q after := by
  have honly : ∀ t, call.series? = some t → t = s := fun t ht =>
    Option.some.inj (ht.symm.trans hseries)
  unfold ExpositionPublisher.write at hfailed
  by_cases hs : p.families.find? s.key = none
  · by_cases hfree : r.Free s.kind (s.family p.stem)
    · rw [ExpositionPublisher.familyOf_free hashOf hs hfree] at hfailed
      dsimp only at hfailed
      split at hfailed
      · simp only [Prod.mk.injEq] at hfailed
        obtain ⟨-, rfl, rfl⟩ := hfailed
        exact .registered s hseries hs hfree rfl fun later hlater =>
          ((h.beside_withSeries hs hfree).takeSteps hlater).symm
      · cases hfailed
    · rw [ExpositionPublisher.familyOf_clashing hashOf hs hfree] at hfailed
      cases hfailed
      exact .unchanged fun t ht => .inr (honly t ht ▸ hfree)
  · rw [ExpositionPublisher.familyOf_known h.caches hashOf r hs] at hfailed
    dsimp only at hfailed
    split at hfailed
    · simp only [Prod.mk.injEq] at hfailed
      obtain ⟨-, rfl, rfl⟩ := hfailed
      exact .unchanged fun t ht => .inl (honly t ht ▸ hs)
    · cases hfailed

/-- A counter is not lowered, but is registered on the occasion. -/
theorem publish_negative [Collectors] [LawfulCollectors] (h : Orderly p r) (moment : Moment)
    (name : String) {n : Int}
    (hs : p.families.find? (Series.key ⟨.counter, name⟩) = none)
    (hfree : r.Free .counter (Series.family p.stem ⟨.counter, name⟩)) (hneg : n < 0) :
    p.publish r moment (.incremental (.text name) (some (.int n))) =
      (.ok (.failed .negativeIncrement), p.withSeries ⟨.counter, name⟩,
        ⟨r.families ++ [Series.exposing p.stem ⟨.counter, name⟩ (.empty .counter)]⟩) := by
  let s : Series := ⟨.counter, name⟩
  have hfamily : p.familyOf moment.hashOf r .counter (.text name) = _ :=
    ExpositionPublisher.familyOf_free (s := s) moment.hashOf hs hfree
  have hrefused : ExpositionPublisher.increaseBy (.int n) (.empty .counter) =
      .error .negativeIncrement := by
    simp only [ExpositionPublisher.increaseBy, Collected.empty, Value.isBelow_int,
      decide_eq_true hneg]
    rfl
  obtain ⟨hbefore, hafter⟩ := (h.withSeries (s := s) hfree).distinct.others
  have hchange := LawfulCollectors.change_append_cons hbefore hafter
    (ExpositionPublisher.increaseBy (.int n))
  have herror : CollectorRegistry.change ⟨r.families ++ [s.exposing p.stem (.empty .counter)]⟩
      (s.family p.stem) (ExpositionPublisher.increaseBy (.int n)) = .error .negativeIncrement :=
    hchange.trans (congrArg (Except.map _) hrefused)
  simp only [ExpositionPublisher.publish, ExpositionPublisher.write, hfamily, Option.getD_some]
  rw [herror]
  rfl

/-- A metric that is not named by a text is never registered. -/
theorem refusal_of_unnamed [Collectors] (h : Orderly p r) {kind : SeriesKind} {name : Value}
    (hfailed : p.write hashOf r kind name f = (.ok (.failed fault), q, after))
    (hname : ∀ text, name ≠ .text text) (hseries : call.series? = none) :
    Refusal p r call q after := by
  obtain ⟨fault, hfault⟩ := ExpositionPublisher.familyOf_unnamed hashOf kind hname
  rw [ExpositionPublisher.write, hfault p r h.caches] at hfailed
  simp only [Prod.mk.injEq] at hfailed
  obtain ⟨-, rfl, rfl⟩ := hfailed
  exact .unchanged fun s hs => absurd (hs.symm.trans hseries) (Option.some_ne_none s)

end Orderly

namespace ExpositionPublisher

/-- A number or an amount that is refused, in any state to which a publisher and its registry come,
whatever is published and whatever others register and change: at most an empty family of its own
series has come to what is exposed. -/
theorem refusal_of_failed [Collectors] [LawfulCollectors] (stem : String) (reference : Value)
    (steps : List RegistryStep)
    {answers : List (Except Fault Reply)} {p q : ExpositionPublisher} {r after : CollectorRegistry}
    {moment : Moment} {call : MetricCall} {fault : Fault}
    (hrun : takeSteps { stem, registry := reference } {} steps = (answers, p, r))
    (hcall : call.Writes) (hfailed : p.publish r moment call = (.ok (.failed fault), q, after)) :
    Refusal p r call q after := by
  have h := (Orderly.fresh stem reference).takeSteps steps
  simp only [hrun] at h
  cases hcall with
  | numeric name value =>
    have hwrite : p.write moment.hashOf r .gauge name (setTo value) =
        (.ok (.failed fault), q, after) := hfailed
    cases name with
    | text name => exact h.refusal_of_write (s := ⟨.gauge, name⟩) rfl hwrite
    | _ => exact h.refusal_of_unnamed hwrite nofun rfl
  | incremental name delta =>
    have hwrite : p.write moment.hashOf r .counter name (increaseBy (delta.getD (.int 1))) =
        (.ok (.failed fault), q, after) := hfailed
    cases name with
    | text name => exact h.refusal_of_write (s := ⟨.counter, name⟩) rfl hwrite
    | _ => exact h.refusal_of_unnamed hwrite nofun rfl

theorem refusal_of_failed_load :
    ∃ answers p r q after,
      takeSteps {} {} [.call {} (.incremental (.text "users") (some (.int (-1))))] =
        (answers, p, r) ∧
      MetricCall.Writes (.incremental (.text "load") (some (.int (-1)))) ∧
      p.publish r {} (.incremental (.text "load") (some (.int (-1)))) =
        (.ok (.failed .negativeIncrement), q, after) ∧
      Refusal p r (.incremental (.text "load") (some (.int (-1)))) q after := by
  let users : Series := ⟨.counter, "users"⟩
  have hfresh := Orderly.fresh "mediatel" .null
  have hfree : CollectorRegistry.Free {} users.kind (users.family "mediatel") :=
    fun _ _ => List.not_mem_nil
  have hrun : takeSteps {} {} [.call {} (.incremental (.text "users") (some (.int (-1))))] =
      ([.ok (.failed .negativeIncrement)], withSeries {} users,
        ⟨[users.exposing "mediatel" (.empty .counter)]⟩) := by
    simp only [takeSteps, takeStep]
    rw [hfresh.publish_negative {} "users" rfl hfree (by decide)]
    rfl
  have hsecond := (hfresh.withSeries hfree).publish_negative {} "load" (n := -1) (by decide)
    (by unfold CollectorRegistry.Free; decide) (by decide)
  exact ⟨_, _, _, _, _, hrun, .incremental _ _, hsecond,
    refusal_of_failed "mediatel" .null _ hrun (.incremental _ _) hsecond⟩

/-- A counter is not lowered. It is exposed all the same, and keeps a gauge of its name from being
registered, which would have been possible before. -/
theorem exposed_of_refused :
    ∃ q after, publish {} {} {} (.incremental (.text "load") (some (.int (-1)))) =
        (.ok (.failed .negativeIncrement), q, after) ∧ after ≠ {} ∧
      (q.publish after {} (.numeric (.text "load") (.int 3))).1 ≠ .ok .ok ∧
      (publish {} {} {} (.numeric (.text "load") (.int 3))).1 = .ok .ok := by
  let counter : Series := ⟨.counter, "load"⟩
  let gauge : Series := ⟨.gauge, "load"⟩
  let after : CollectorRegistry := ⟨[counter.exposing "mediatel" (.empty .counter)]⟩
  have hrefused : publish {} {} {} (.incremental (.text "load") (some (.int (-1)))) =
      (.ok (.failed .negativeIncrement), withSeries {} counter, after) :=
    (Orderly.fresh "mediatel" .null).publish_negative {} "load" rfl
      (fun _ _ => List.not_mem_nil) (by decide)
  refine ⟨_, after, hrefused, by decide +kernel, fun heq => ?_, ?_⟩
  · have hfamily : (withSeries {} counter).familyOf ({} : Moment).hashOf after .gauge
        (.text "load") =
          .error (.duplicateSeries (after.clashes .gauge (gauge.family "mediatel"))) :=
      familyOf_clashing (s := gauge) _ (by decide) (by unfold CollectorRegistry.Free; decide)
    simp only [publish, write, hfamily] at heq
    cases heq
  · obtain ⟨cache, r, hwrite, -⟩ := (Exposes.empty {} "mediatel" .null).write_taken
      (s := ⟨.gauge, "load"⟩) (fun _ => .error .absentMember) (.inr fun _ _ => List.not_mem_nil)
      (SeriesWrite.setTo_eq (n := 3) (by decide) rfl) (SeriesWrite.kind_apply (.set "load" 3) _)
    exact congrArg Prod.fst hwrite

end ExpositionPublisher

end SessionTelemetry
