import Mathlib.Data.List.DropRight
import Mathlib.Data.String.Basic
import SessionTelemetry.Text.Blank
import SessionTelemetry.Text.Case

/-!
# Spellings of texts

Blanks around a text are gone once it is trimmed. In an ASCII text every letter has its small form,
whatever stands around it, so that a text without blanks around it and without capitals is the
normal form of every text that differs from it in blanks around it and in capitals only
(`normal_of_spells`).
-/

namespace SessionTelemetry

namespace Text

section Trimming

variable {p : Char → Bool} {s left right : List Char}

theorem dropWhile_of_prefix {t : List Char} (h : s <+: t) (ht : t.dropWhile p = t) :
    s.dropWhile p = s := by
  obtain ⟨rest, rfl⟩ := h
  cases s with
  | nil => rfl
  | cons c s =>
    rw [List.dropWhile_eq_self_iff] at ht ⊢
    exact fun _ => ht (by simp)

theorem trimWhile_trimWhile (p : Char → Bool) (s : List Char) :
    trimWhile p (trimWhile p s) = trimWhile p s := by
  have hstart : (trimWhile p s).dropWhile p = trimWhile p s :=
    dropWhile_of_prefix (List.rdropWhile_prefix p (s.dropWhile p)) (List.dropWhile_idempotent p s)
  rw [trimWhile, hstart]
  exact List.rdropWhile_idempotent p (s.dropWhile p)

theorem trimmed_trimmed (s : String) : trimmed (trimmed s) = trimmed s := by
  rw [trimmed, trimmed, String.toList_ofList, trimWhile_trimWhile]

theorem trimEndWhile_append (hright : ∀ c ∈ right, p c) :
    trimEndWhile p (s ++ right) = trimEndWhile p s := by
  rw [trimEndWhile, List.reverse_append, List.dropWhile_append_of_pos, trimEndWhile]
  exact fun c hc => hright c (List.mem_reverse.1 hc)

theorem trimWhile_eq_nil_iff : trimWhile p s = [] ↔ ∀ c ∈ s, p c := by
  rw [trimWhile, trimEndWhile, List.reverse_eq_nil_iff, List.dropWhile_eq_nil_iff]
  simp only [List.mem_reverse]
  constructor
  · intro h
    rw [← List.dropWhile_eq_nil_iff]
    have hnil : (s.dropWhile p).dropWhile p = [] := List.dropWhile_eq_nil_iff.2 h
    rwa [List.dropWhile_idempotent] at hnil
  · exact fun h c hc => h c (List.dropWhile_subset p hc)

theorem trimWhile_append (hleft : ∀ c ∈ left, p c) (hright : ∀ c ∈ right, p c) :
    trimWhile p (left ++ s ++ right) = trimWhile p s := by
  rw [List.append_assoc, trimWhile, List.dropWhile_append_of_pos hleft, List.dropWhile_append]
  split_ifs with hblank
  · have hs : s.dropWhile p = [] := List.isEmpty_iff.1 hblank
    have hr : right.dropWhile p = [] := List.dropWhile_eq_nil_iff.2 hright
    rw [trimWhile, hs, hr]
  · rw [trimEndWhile_append hright, trimWhile]

theorem trimWhile_cons_of_pos {c : Char} (h : p c) : trimWhile p (c :: s) = trimWhile p s := by
  rw [trimWhile, List.dropWhile_cons_of_pos h, trimWhile]

theorem trimWhile_of_forall_not (h : ∀ c ∈ s, ¬ p c) : trimWhile p s = s := by
  have hstart : s.dropWhile p = s :=
    List.dropWhile_eq_self_iff.2 fun hpos => h _ (List.getElem_mem hpos)
  rw [trimWhile, hstart]
  exact List.rdropWhile_eq_self_iff.2 fun hne => h _ (List.getLast_mem hne)

theorem filter_dropWhile {q : Char → Bool} (h : ∀ c, p c → q c = false) (s : List Char) :
    (s.dropWhile p).filter q = s.filter q := by
  induction s with
  | nil => rfl
  | cons c rest ih =>
    by_cases hc : p c
    · rw [List.dropWhile_cons_of_pos hc, ih, List.filter_cons_of_neg (by simp [h c hc])]
    · rw [List.dropWhile_cons_of_neg hc]

/-- Trimming keeps the characters of every other class. -/
theorem filter_trimWhile {q : Char → Bool} (h : ∀ c, p c → q c = false) (s : List Char) :
    (trimWhile p s).filter q = s.filter q := by
  rw [trimWhile, trimEndWhile, List.filter_reverse, filter_dropWhile h, ← List.filter_reverse,
    List.reverse_reverse, filter_dropWhile h]

theorem trimWhile_map {f : Char → Char} (hf : ∀ c, p (f c) = p c) (s : List Char) :
    trimWhile p (s.map f) = (trimWhile p s).map f := by
  have hcomp : p ∘ f = p := funext hf
  rw [trimWhile, trimEndWhile, List.dropWhile_map, hcomp, ← List.map_reverse, List.dropWhile_map,
    hcomp, ← List.map_reverse]
  rfl

def AllBlank (s : String) : Prop := ∀ c ∈ s.toList, isBlank c

-- over the characters of the text: an instance found by search may be one over all characters
instance (s : String) : Decidable (AllBlank s) :=
  List.decidableBAll (fun c : Char => isBlank c) s.toList

theorem trimmed_eq_empty_iff {s : String} : trimmed s = "" ↔ AllBlank s := by
  rw [trimmed, ← String.toList_inj, String.toList_ofList]
  exact trimWhile_eq_nil_iff

theorem trimmed_append {left s right : String} (hleft : AllBlank left) (hright : AllBlank right) :
    trimmed (left ++ s ++ right) = trimmed s := by
  rw [trimmed, String.toList_append, String.toList_append, trimWhile_append hleft hright, trimmed]

end Trimming

section Classes

variable {c : Char}

theorem isDigit_iff : c.isDigit ↔ 48 ≤ c.toNat ∧ c.toNat ≤ 57 :=
  Char.isDigit_iff_toNat

theorem isLower_iff : c.isLower ↔ 97 ≤ c.toNat ∧ c.toNat ≤ 122 := by
  have hbounds : c.isLower = (decide ('a'.val ≤ c.val) && decide (c.val ≤ 'z'.val)) := rfl
  rw [hbounds, Bool.and_eq_true, decide_eq_true_iff, decide_eq_true_iff]
  exact Iff.rfl

theorem isUpper_iff : c.isUpper ↔ 65 ≤ c.toNat ∧ c.toNat ≤ 90 := by
  have hbounds : c.isUpper = decide ('A'.val ≤ c.val ∧ c.val ≤ 'Z'.val) := rfl
  rw [hbounds, decide_eq_true_iff]
  exact Iff.rfl

theorem isAlphanum_iff : c.isAlphanum ↔
    (65 ≤ c.toNat ∧ c.toNat ≤ 90) ∨ (97 ≤ c.toNat ∧ c.toNat ≤ 122) ∨
      (48 ≤ c.toNat ∧ c.toNat ≤ 57) := by
  have hclasses : c.isAlphanum = ((c.isUpper || c.isLower) || c.isDigit) := rfl
  rw [hclasses, Bool.or_eq_true, Bool.or_eq_true, isUpper_iff, isLower_iff, isDigit_iff, or_assoc]

end Classes

section SmallLetters

theorem lowerFrom_ne_nil {before cs : List Char} (h : cs ≠ []) : lowerFrom before cs ≠ [] := by
  cases cs with
  | nil => exact absurd rfl h
  | cons c rest =>
    rw [lowerFrom, lowerChar]
    split_ifs <;> exact List.cons_ne_nil _ _

theorem lowerCase_eq_empty_iff {s : String} : lowerCase s = "" ↔ s = "" := by
  rw [← String.toList_inj, ← String.toList_inj, lowerCase, String.toList_ofList]
  constructor
  · exact fun h => by_contra fun hs => lowerFrom_ne_nil hs h
  · intro h
    rw [h]
    rfl

def IsAscii (s : String) : Prop := ∀ c ∈ s.toList, c.toNat < 0x80

instance (s : String) : Decidable (IsAscii s) :=
  List.decidableBAll (fun c : Char => c.toNat < 0x80) s.toList

theorem toNat_toLower (c : Char) :
    c.toLower.toNat = if 65 ≤ c.toNat ∧ c.toNat ≤ 90 then c.toNat + 32 else c.toNat := by
  unfold Char.toLower
  have hbounds : (c.val ≥ 'A'.val ∧ c.val ≤ 'Z'.val) ↔ 65 ≤ c.toNat ∧ c.toNat ≤ 90 := Iff.rfl
  by_cases h : c.val ≥ 'A'.val ∧ c.val ≤ 'Z'.val
  · rw [dif_pos h, if_pos (hbounds.1 h)]
    have hlast := (hbounds.1 h).2
    change (c.val + 32).toNat = c.val.toNat + 32
    rw [UInt32.toNat_add]
    change c.val.toNat ≤ 90 at hlast
    have hthirtyTwo : (32 : UInt32).toNat = 32 := rfl
    omega
  · rw [dif_neg h, if_neg fun hc => h (hbounds.2 hc)]

theorem isBlank_toLower (c : Char) : isBlank c.toLower = isBlank c := by
  rw [Bool.eq_iff_iff]
  simp only [isBlank, blankRanges, CodeRanges.contains, toNat_toLower, List.any_cons,
    List.any_nil, Bool.or_false, Bool.or_eq_true, Bool.and_eq_true, decide_eq_true_eq]
  split_ifs <;> omega

theorem isAlphanum_toLower (c : Char) : c.toLower.isAlphanum = c.isAlphanum := by
  rw [Bool.eq_iff_iff, isAlphanum_iff, isAlphanum_iff, toNat_toLower]
  split_ifs <;> omega

theorem toLower_toLower (c : Char) : c.toLower.toLower = c.toLower := by
  rw [← Char.toNat_inj, toNat_toLower, toNat_toLower]
  split_ifs <;> omega

theorem lowerFrom_of_ascii {cs : List Char} (h : ∀ c ∈ cs, c.toNat < 0x80) (before : List Char) :
    lowerFrom before cs = cs.map Char.toLower := by
  induction cs generalizing before with
  | nil => rfl
  | cons c rest ih =>
    rw [List.forall_mem_cons] at h
    rw [lowerFrom, lowerChar, if_pos h.1, ih h.2, List.map_cons, List.singleton_append]

end SmallLetters

section NormalForm

variable {s word : String}

def normal (s : String) : String := lowerCase (trimmed s)

/-- A text is another one but for blanks around it and for which ASCII letters are capital. -/
def Spells (s word : String) : Prop :=
  ∃ left inner right, s.toList = left ++ inner ++ right ∧ (∀ c ∈ left, isBlank c) ∧
    (∀ c ∈ right, isBlank c) ∧ inner.map Char.toLower = word.toList.map Char.toLower

theorem normal_eq_empty_iff : normal s = "" ↔ AllBlank s := by
  rw [normal, lowerCase_eq_empty_iff, trimmed_eq_empty_iff]

/-- Trimming an ASCII text and taking its small letters go in either order. -/
theorem toList_normal (h : ∀ c ∈ trimWhile isBlank s.toList, c.toNat < 0x80) :
    (normal s).toList = trimWhile isBlank (s.toList.map Char.toLower) := by
  rw [normal, lowerCase, String.toList_ofList, trimmed, String.toList_ofList,
    lowerFrom_of_ascii h, trimWhile_map isBlank_toLower]

theorem isAscii_of_map_toLower {cs : List Char} (hword : IsAscii word)
    (h : cs.map Char.toLower = word.toList.map Char.toLower) : ∀ c ∈ cs, c.toNat < 0x80 := by
  intro c hc
  have hmem : c.toLower ∈ word.toList.map Char.toLower := h ▸ List.mem_map_of_mem hc
  obtain ⟨d, hd, heq⟩ := List.mem_map.1 hmem
  have hlower := congrArg Char.toNat heq
  have hascii := hword d hd
  rw [toNat_toLower, toNat_toLower] at hlower
  split_ifs at hlower <;> omega

theorem mem_of_mem_trimWhile {p : Char → Bool} {cs : List Char} {c : Char}
    (h : c ∈ trimWhile p cs) : c ∈ cs :=
  List.dropWhile_subset p ((List.rdropWhile_prefix p (cs.dropWhile p)).subset h)

/-- All spellings of an ASCII text have its normal form. -/
theorem normal_of_spells (hword : IsAscii word) (h : Spells s word) : normal s = normal word := by
  obtain ⟨left, inner, right, hs, hleft, hright, hinner⟩ := h
  have hascii := isAscii_of_map_toLower hword hinner
  have htrim : trimWhile isBlank s.toList = trimWhile isBlank inner := by
    rw [hs, trimWhile_append hleft hright]
  rw [← String.toList_inj, toList_normal, toList_normal, ← hinner, trimWhile_map isBlank_toLower,
    trimWhile_map isBlank_toLower, htrim]
  · exact fun c hc => hword c (mem_of_mem_trimWhile hc)
  · rw [htrim]
    exact fun c hc => hascii c (mem_of_mem_trimWhile hc)

theorem isAscii_normal (h : IsAscii s) : IsAscii (normal s) := by
  intro c hc
  rw [toList_normal fun c hc => h c (mem_of_mem_trimWhile hc)] at hc
  obtain ⟨d, hd, rfl⟩ := List.mem_map.1 (mem_of_mem_trimWhile hc)
  have hascii := h d hd
  rw [toNat_toLower]
  split_ifs <;> omega

theorem normal_normal (h : IsAscii s) : normal (normal s) = normal s := by
  have hnormal := toList_normal fun c hc => h c (mem_of_mem_trimWhile hc)
  rw [← String.toList_inj, toList_normal, hnormal, ← trimWhile_map isBlank_toLower,
    trimWhile_trimWhile, List.map_map]
  · refine congrArg (trimWhile isBlank) (List.map_congr_left fun c _ => ?_)
    exact toLower_toLower c
  · exact fun c hc => isAscii_normal h c (mem_of_mem_trimWhile hc)

end NormalForm

section Order

/-- Different texts, once sorted, ascend. -/
theorem pairwise_lt_mergeSort {names : List String} (h : names.Nodup) :
    (names.mergeSort fun a b => a ≤ b).Pairwise (· < ·) := by
  let le : String → String → Bool := fun a b => a ≤ b
  have htrans : ∀ a b c, le a b → le b c → le a c := fun a b c hab hbc =>
    decide_eq_true (String.le_trans (of_decide_eq_true hab) (of_decide_eq_true hbc))
  have htotal : ∀ a b, (le a b || le b a) = true := fun a b => by
    simpa [le] using String.le_total a b
  have hle := List.pairwise_mergeSort htrans htotal names
  have hne : (names.mergeSort fun a b => a ≤ b).Nodup := (List.mergeSort_perm _ _).nodup_iff.2 h
  refine (hle.and hne).imp fun {a b} hab => ?_
  exact lt_of_le_of_ne (of_decide_eq_true hab.1) hab.2

end Order

end Text

end SessionTelemetry
