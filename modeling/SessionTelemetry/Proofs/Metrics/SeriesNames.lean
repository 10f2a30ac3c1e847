import SessionTelemetry.Metrics.SeriesName
import SessionTelemetry.Proofs.Text.Spelling

/-!
# Series names as normal forms

Of a metric's name its series name keeps the ASCII letters and digits, in order and with small
letters, and puts nothing but underscores between them. Making a series name trims underscores and
then may set one before a digit, so the steps partly undo each other; still the names that come out
are those that stay as they are (`ofChars_eq_self_iff`). All of them have the form that series names
must have, and only a name without letters and digits is replaced (`ofText_canonical`).
-/

namespace SessionTelemetry

namespace SeriesName

variable {c : Char} {s rest : List Char} {insideRun : Bool}

def alphanumerics (s : List Char) : List Char := s.filter Char.isAlphanum

def isSmall (c : Char) : Bool := c.isLower || c.isDigit || c = '_'

inductive Regular : List Char → Prop where
  | cons {c : Char} {rest : List Char} (hfirst : c.isLower ∨ c = '_')
      (hrest : ∀ d ∈ rest, isSmall d) : Regular (c :: rest)

section Characters

theorem eq_underscore_iff : c = '_' ↔ c.toNat = 95 := by
  rw [← Char.toNat_inj]
  rfl

theorem isNameChar_iff : isNameChar c ↔ c.isAlphanum ∨ c = '_' := by
  rw [isNameChar, Bool.or_eq_true, decide_eq_true_eq]

theorem isSmall_iff : isSmall c ↔ c.isLower ∨ c.isDigit ∨ c = '_' := by
  rw [isSmall, Bool.or_eq_true, Bool.or_eq_true, decide_eq_true_eq, or_assoc]

theorem toLower_beq_underscore (c : Char) : (c.toLower == '_') = (c == '_') := by
  rw [Bool.eq_iff_iff, beq_iff_eq, beq_iff_eq, eq_underscore_iff, eq_underscore_iff,
    Text.toNat_toLower]
  split_ifs <;> omega

theorem isSmall_toLower (h : isNameChar c) : isSmall c.toLower := by
  rw [isNameChar_iff, Text.isAlphanum_iff, eq_underscore_iff] at h
  rw [isSmall_iff, Text.isLower_iff, Text.isDigit_iff, eq_underscore_iff, Text.toNat_toLower]
  split_ifs <;> omega

theorem isNameChar_of_isSmall (h : isSmall c) : isNameChar c := by
  rw [isSmall_iff, Text.isLower_iff, Text.isDigit_iff] at h
  rw [isNameChar_iff, Text.isAlphanum_iff]
  tauto

theorem toLower_of_isSmall (h : isSmall c) : c.toLower = c := by
  rw [isSmall_iff, Text.isLower_iff, Text.isDigit_iff, eq_underscore_iff] at h
  rw [← Char.toNat_inj, Text.toNat_toLower]
  split_ifs <;> omega

theorem isNameChar_of_isBlank (h : Text.isBlank c) : isNameChar c = false := by
  rw [← Bool.not_eq_true, isNameChar_iff, Text.isAlphanum_iff, eq_underscore_iff]
  simp only [Text.isBlank, Text.blankRanges, CodeRanges.contains, List.any_cons, List.any_nil,
    Bool.or_false, Bool.or_eq_true, Bool.and_eq_true, decide_eq_true_eq] at h
  omega

theorem isAlphanum_of_not_isNameChar (h : ¬ isNameChar c) : c.isAlphanum = false := by
  rw [← Bool.not_eq_true]
  exact fun hc => h (isNameChar_iff.2 (.inl hc))

theorem isAlphanum_of_isBlank (h : Text.isBlank c) : c.isAlphanum = false :=
  isAlphanum_of_not_isNameChar (by simp [isNameChar_of_isBlank h])

theorem isAlphanum_of_underscore (h : (c == '_') = true) : c.isAlphanum = false := by
  rw [beq_iff_eq.1 h]
  rfl

end Characters

section Runs

theorem alphanumerics_map_toLower (s : List Char) :
    alphanumerics (s.map Char.toLower) = (alphanumerics s).map Char.toLower := by
  have hcomp : Char.isAlphanum ∘ Char.toLower = Char.isAlphanum := funext Text.isAlphanum_toLower
  rw [alphanumerics, List.filter_map, hcomp, alphanumerics]

theorem alphanumerics_trimWhile {p : Char → Bool} (h : ∀ c, p c → c.isAlphanum = false)
    (s : List Char) : alphanumerics (Text.trimWhile p s) = alphanumerics s :=
  Text.filter_trimWhile h s

theorem isNameChar_of_mem_collapse (h : c ∈ collapse insideRun s) : isNameChar c := by
  induction s generalizing insideRun with
  | nil => cases h
  | cons d rest ih =>
    rw [collapse] at h
    split_ifs at h with hname
    · rcases List.mem_cons.1 h with rfl | hrest
      · exact hname
      · exact ih hrest
    · exact ih h
    · rcases List.mem_cons.1 h with rfl | hrest
      · rfl
      · exact ih hrest

theorem collapse_of_isNameChar (h : ∀ c ∈ s, isNameChar c) : collapse insideRun s = s := by
  induction s generalizing insideRun with
  | nil => rfl
  | cons c rest ih =>
    rw [List.forall_mem_cons] at h
    rw [collapse, if_pos h.1, ih h.2]

/-- What a run is replaced by is neither a letter nor a digit, and neither is what it replaces. -/
theorem alphanumerics_collapse (insideRun : Bool) (s : List Char) :
    alphanumerics (collapse insideRun s) = alphanumerics s := by
  unfold alphanumerics
  induction s generalizing insideRun with
  | nil => rfl
  | cons c rest ih =>
    rw [collapse]
    split_ifs with hname
    · rw [List.filter_cons, List.filter_cons, ih]
    · rw [List.filter_cons_of_neg (by simp [isAlphanum_of_not_isNameChar hname]), ih]
    · rw [List.filter_cons_of_neg (by decide),
        List.filter_cons_of_neg (by simp [isAlphanum_of_not_isNameChar hname]), ih]

end Runs

section Bodies

/-- Small letters, digits and underscores, of which the last are not at the ends. -/
structure Bare (s : List Char) : Prop where
  small : ∀ c ∈ s, isSmall c
  trimmed : Text.trimWhile (· == '_') s = s

theorem bare_body (s : List Char) : Bare (body s) where
  small := by
    rw [body, List.forall_mem_map]
    exact fun c hc => isSmall_toLower (isNameChar_of_mem_collapse (Text.mem_of_mem_trimWhile hc))
  trimmed := by
    rw [body, Text.trimWhile_map toLower_beq_underscore, Text.trimWhile_trimWhile]

theorem alphanumerics_body (s : List Char) :
    alphanumerics (body s) = (alphanumerics s).map Char.toLower := by
  rw [body, alphanumerics_map_toLower, alphanumerics_trimWhile fun _ => isAlphanum_of_underscore,
    alphanumerics_collapse, alphanumerics_trimWhile fun _ => isAlphanum_of_isBlank]

theorem Bare.eq_nil (h : Bare s) (hnone : alphanumerics s = []) : s = [] := by
  rw [← h.trimmed, Text.trimWhile_eq_nil_iff]
  intro c hc
  have hname := isNameChar_iff.1 (isNameChar_of_isSmall (h.small c hc))
  exact beq_iff_eq.2 (hname.resolve_left (List.filter_eq_nil_iff.1 hnone c hc))

theorem body_eq_nil_iff : body s = [] ↔ alphanumerics s = [] := by
  constructor
  · intro h
    rw [← List.map_eq_nil_iff, ← alphanumerics_body, h]
    rfl
  · intro h
    apply (bare_body s).eq_nil
    rw [alphanumerics_body, h, List.map_nil]

theorem body_of_isSmall (h : ∀ c ∈ s, isSmall c) : body s = Text.trimWhile (· == '_') s := by
  have hname : ∀ c ∈ s, isNameChar c := fun c hc => isNameChar_of_isSmall (h c hc)
  have hblank : Text.trimWhile Text.isBlank s = s :=
    Text.trimWhile_of_forall_not fun c hc hblank => by
      simpa [isNameChar_of_isBlank hblank] using hname c hc
  rw [body, hblank, collapse_of_isNameChar hname]
  have hlower : ∀ c ∈ Text.trimWhile (· == '_') s, c.toLower = id c := fun c hc =>
    toLower_of_isSmall (h c (Text.mem_of_mem_trimWhile hc))
  rw [List.map_congr_left hlower, List.map_id]

theorem Bare.body_eq (h : Bare s) : body s = s := by
  rw [body_of_isSmall h.small, h.trimmed]

theorem Bare.body_cons_underscore (h : Bare s) : body ('_' :: s) = s := by
  rw [body_of_isSmall (List.forall_mem_cons.2 ⟨rfl, h.small⟩), Text.trimWhile_cons_of_pos rfl,
    h.trimmed]

end Bodies

section NormalForm

inductive Normal : List Char → Prop where
  | bare {c : Char} {rest : List Char} (h : Bare (c :: rest)) (hfirst : ¬ c.isDigit) :
      Normal (c :: rest)
  | guarded {c : Char} {rest : List Char} (h : Bare (c :: rest)) (hfirst : c.isDigit) :
      Normal ('_' :: c :: rest)

theorem ofChars_of_nil (h : body s = []) : ofChars s = "unnamed".toList := by
  rw [ofChars, h]

theorem ofChars_of_digit (h : body s = c :: rest) (hfirst : c.isDigit) :
    ofChars s = '_' :: c :: rest := by
  simp only [ofChars, h, if_pos hfirst]

theorem ofChars_of_not_digit (h : body s = c :: rest) (hfirst : ¬ c.isDigit) :
    ofChars s = c :: rest := by
  simp only [ofChars, h, if_neg hfirst]

theorem toList_ofText (s : String) : (ofText s).toList = ofChars s.toList :=
  String.toList_ofList

theorem normal_ofChars (s : List Char) : Normal (ofChars s) := by
  have hbare := bare_body s
  cases hbody : body s with
  | nil =>
    -- what stands for no name is a series name itself
    rw [ofChars_of_nil hbody]
    exact .bare ⟨List.all_eq_true.1 rfl, rfl⟩ (by decide)
  | cons c rest =>
    rw [hbody] at hbare
    by_cases hfirst : c.isDigit
    · rw [ofChars_of_digit hbody hfirst]
      exact .guarded hbare hfirst
    · rw [ofChars_of_not_digit hbody hfirst]
      exact .bare hbare hfirst

/-- The guard before a digit is trimmed off and set again. -/
theorem ofChars_of_normal (h : Normal s) : ofChars s = s := by
  cases h with
  | bare h hfirst => exact ofChars_of_not_digit h.body_eq hfirst
  | guarded h hfirst => exact ofChars_of_digit h.body_cons_underscore hfirst

theorem ofChars_eq_self_iff : ofChars s = s ↔ Normal s := by
  constructor
  · intro h
    rw [← h]
    exact normal_ofChars s
  · exact ofChars_of_normal

theorem Normal.regular (h : Normal s) : Regular s := by
  cases h with
  | @bare c rest h hfirst =>
    obtain ⟨hc, hrest⟩ := List.forall_mem_cons.1 h.small
    rcases isSmall_iff.1 hc with hlower | hdigit | hunderscore
    · exact .cons (.inl hlower) hrest
    · exact absurd hdigit hfirst
    · exact .cons (.inr hunderscore) hrest
  | guarded h hfirst => exact .cons (.inr rfl) h.small

theorem alphanumerics_ofChars (h : alphanumerics s ≠ []) :
    alphanumerics (ofChars s) = (alphanumerics s).map Char.toLower := by
  rw [← alphanumerics_body]
  obtain ⟨c, rest, hbody⟩ := List.exists_cons_of_ne_nil (mt body_eq_nil_iff.1 h)
  rw [hbody]
  by_cases hfirst : c.isDigit
  · rw [ofChars_of_digit hbody hfirst]
    rfl
  · rw [ofChars_of_not_digit hbody hfirst]

/-- A series name is not empty, has the form that series names must have and is its own series name.
If the metric's name has letters or digits, then the series name has just these, in order and with
small letters. -/
theorem ofText_canonical (s : String) :
    ofText s ≠ "" ∧ Regular (ofText s).toList ∧ ofText (ofText s) = ofText s ∧
      ((∃ c ∈ s.toList, c.isAlphanum) →
        alphanumerics (ofText s).toList = (alphanumerics s.toList).map Char.toLower) ∧
      ((¬ ∃ c ∈ s.toList, c.isAlphanum) → ofText s = "unnamed") := by
  have hnormal : Normal (ofText s).toList := by
    rw [toList_ofText]
    exact normal_ofChars s.toList
  refine ⟨?_, hnormal.regular, ?_, ?_, ?_⟩
  · intro hempty
    rw [hempty] at hnormal
    cases hnormal
  · rw [← String.toList_inj, toList_ofText]
    exact ofChars_eq_self_iff.2 hnormal
  · rintro ⟨c, hc, hletter⟩
    rw [toList_ofText]
    exact alphanumerics_ofChars (List.ne_nil_of_mem (List.mem_filter.2 ⟨hc, hletter⟩))
  · intro hnone
    have hnil : alphanumerics s.toList = [] :=
      List.filter_eq_nil_iff.2 fun c hc hletter => hnone ⟨c, hc, hletter⟩
    rw [← String.toList_inj, toList_ofText]
    exact ofChars_of_nil (body_eq_nil_iff.2 hnil)

theorem ofText_canonical_guarded :
    (∃ c ∈ " 2é Salle__A!".toList, c.isAlphanum) ∧
      ofText " 2é Salle__A!" = "_2_salle__a" ∧ ofText "_2_salle__a" = "_2_salle__a" ∧
      alphanumerics "_2_salle__a".toList = "2sallea".toList ∧
      (¬ ∃ c ∈ "_é_".toList, c.isAlphanum) ∧ ofText "_é_" = "unnamed" := by
  have hname : ofText " 2é Salle__A!" = "_2_salle__a" := by decide +kernel
  have hsome : ∃ c ∈ " 2é Salle__A!".toList, c.isAlphanum :=
    List.any_eq_true.1 (by decide +kernel)
  have hnone : ¬ ∃ c ∈ "_é_".toList, c.isAlphanum := mt List.any_eq_true.2 (by decide +kernel)
  obtain ⟨-, -, hagain, hkept, -⟩ := ofText_canonical " 2é Salle__A!"
  obtain ⟨-, -, -, -, hunnamed⟩ := ofText_canonical "_é_"
  rw [hname] at hagain hkept
  exact ⟨hsome, hname, hagain, (hkept hsome).trans (by decide +kernel), hnone, hunnamed hnone⟩

end NormalForm

end SeriesName

end SessionTelemetry
