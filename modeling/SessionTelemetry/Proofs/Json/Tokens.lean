import Mathlib.Data.List.TakeWhile
import SessionTelemetry.Json.Reader

/-!
# Reading back texts and integers

Inside quotes every character is written so that it is read back as itself, whatever follows. The
digits of an integer are read back up to the first character that can not belong to a number.
-/

namespace SessionTelemetry

namespace Json

variable {c e : Char} {cs rest : List Char}

theorem hexValue?_hexDigit (n : Nat) : hexValue? (hexDigit n) = some (n % 16) := by
  have hall : ∀ d < 16, hexValue? (Nat.digitChar d) = some d := by decide
  exact hall (n % 16) (Nat.mod_lt n (by decide))

/-- A control character is given back by the last two of its four digits. -/
theorem unit?_control (h : c.toNat < 0x20) :
    unit? '0' '0' (hexDigit (c.toNat / 16)) (hexDigit c.toNat) = some c.toNat := by
  have hzero : hexValue? '0' = some 0 := by decide
  have hvalue : (c.toNat / 16 % 16) * 16 + c.toNat % 16 = c.toNat := by omega
  simp only [unit?, hzero, hexValue?_hexDigit, Option.bind_eq_bind, Option.bind_some,
    Option.pure_def, Nat.zero_mul, Nat.zero_add, hvalue]

theorem readText_simple (h : simpleEscape? e = some c) (rest : List Char) :
    readText none ('\\' :: e :: rest) =
      (readText none rest).map fun (cs, tail) => (c :: cs, tail) := by
  have hne : e ≠ 'u' := by
    rintro rfl
    cases h
  rw [readText]
  · simp only [h, Option.bind_eq_bind, Option.bind_some, Option.map_eq_bind]
    rfl
  · intro _ _ _ _ _ he _
    exact hne he

theorem readText_control (h : c.toNat < 0x20) (rest : List Char) :
    readText none
        ('\\' :: 'u' :: '0' :: '0' :: hexDigit (c.toNat / 16) :: hexDigit c.toNat :: rest) =
      (readText none rest).map fun (cs, tail) => (c :: cs, tail) := by
  have hlow : ¬ (0xD800 ≤ c.toNat ∧ c.toNat < 0xDC00) := by omega
  have hchars : unitChars none c.toNat = [c] := by
    have hlow : ¬ (0xDC00 ≤ c.toNat ∧ c.toNat < 0xE000) := by omega
    simp only [unitChars, hlow, if_false, unpaired, Char.ofNat_toNat, Option.isSome_none,
      Bool.false_eq_true, List.nil_append]
  rw [readText]
  simp only [unit?_control h, Option.bind_eq_bind, Option.bind_some, hlow, if_false, hchars,
    Option.map_eq_bind]
  rfl

theorem readText_plain (hquote : c ≠ '"') (hslash : c ≠ '\\') (h : 0x20 ≤ c.toNat)
    (rest : List Char) :
    readText none (c :: rest) = (readText none rest).map fun (cs, tail) => (c :: cs, tail) := by
  have hnone : ¬ (c = '\\' ∨ c.toNat < 0x20) := by
    rintro (he | hlt)
    · exact hslash he
    · omega
  rw [readText]
  · simp only [hnone, if_false, Option.bind_eq_bind, Option.map_eq_bind]
    rfl
  · exact hquote
  · intro _ _ _ _ _ he _
    exact hslash he
  · intro _ _ he _
    exact hslash he

/-- A character is written by one letter after a backslash, by four digits, or as it is. -/
theorem escaped_cases (c : Char) :
    (∃ e, simpleEscape? e = some c ∧ escaped c = ['\\', e]) ∨
    (c.toNat < 0x20 ∧ escaped c =
      ['\\', 'u', '0', '0', hexDigit (c.toNat / 16), hexDigit c.toNat]) ∨
    (c ≠ '"' ∧ c ≠ '\\' ∧ 0x20 ≤ c.toNat ∧ escaped c = [c]) := by
  unfold escaped
  by_cases hquote : c = '"'
  · exact .inl ⟨'"', by rw [hquote]; rfl, if_pos hquote⟩
  rw [if_neg hquote]
  by_cases hslash : c = '\\'
  · exact .inl ⟨'\\', by rw [hslash]; rfl, if_pos hslash⟩
  rw [if_neg hslash]
  by_cases hn : c = '\n'
  · exact .inl ⟨'n', by rw [hn]; rfl, if_pos hn⟩
  rw [if_neg hn]
  by_cases hr : c = '\r'
  · exact .inl ⟨'r', by rw [hr]; rfl, if_pos hr⟩
  rw [if_neg hr]
  by_cases ht : c = '\t'
  · exact .inl ⟨'t', by rw [ht]; rfl, if_pos ht⟩
  rw [if_neg ht]
  by_cases hb : c.toNat = 8
  · exact .inl ⟨'b', by rw [← Char.ofNat_toNat c, hb]; rfl, if_pos hb⟩
  rw [if_neg hb]
  by_cases hf : c.toNat = 12
  · exact .inl ⟨'f', by rw [← Char.ofNat_toNat c, hf]; rfl, if_pos hf⟩
  rw [if_neg hf]
  by_cases hlt : c.toNat < 0x20
  · exact .inr (.inl ⟨hlt, if_pos hlt⟩)
  · exact .inr (.inr ⟨hquote, hslash, Nat.le_of_not_lt hlt, if_neg hlt⟩)

/-- However a character is written, it is read back as itself. -/
theorem readText_escaped (c : Char) (rest : List Char) :
    readText none (escaped c ++ rest) =
      (readText none rest).map fun (cs, tail) => (c :: cs, tail) := by
  rcases escaped_cases c with ⟨e, hsimple, he⟩ | ⟨hcontrol, he⟩ | ⟨hquote, hslash, hplain, he⟩
  · rw [he]
    exact readText_simple hsimple rest
  · rw [he]
    exact readText_control hcontrol rest
  · rw [he]
    exact readText_plain hquote hslash hplain rest

theorem readText_flatMap_escaped (cs rest : List Char) :
    readText none (cs.flatMap escaped ++ '"' :: rest) = some (cs, rest) := by
  induction cs with
  | nil =>
    rw [List.flatMap_nil, List.nil_append, readText]
    rfl
  | cons c cs ih =>
    rw [List.flatMap_cons, List.append_assoc, readText_escaped, ih]
    rfl

theorem writeText_append (cs rest : List Char) :
    writeText cs ++ rest = '"' :: (cs.flatMap escaped ++ '"' :: rest) := by
  simp only [writeText, List.cons_append, List.append_assoc, List.nil_append]

theorem skipSpace_cons {c : Char} (h : c ∉ [' ', '\n', '\r', '\t']) (rest : List Char) :
    skipSpace (c :: rest) = c :: rest := by
  simp only [List.mem_cons, List.not_mem_nil, or_false, not_or] at h
  obtain ⟨hspace, hline, hreturn, htab⟩ := h
  simp [skipSpace, hspace, hline, hreturn, htab]

/-! ## Integers -/

theorem isDigit_of_mem_toDigits {n : Nat} (h : c ∈ Nat.toDigits 10 n) : c.isDigit = true :=
  Nat.isDigit_of_mem_toDigits (by decide) (by decide) h

/-- A positive number starts with another digit than zero. -/
theorem head?_toDigits {n : Nat} (h : 0 < n) : (Nat.toDigits 10 n).head? ≠ some '0' := by
  have hsmall : ∀ n < 10, 0 < n → [Nat.digitChar n].head? ≠ some '0' := by decide
  induction n using Nat.strongRecOn with
  | ind n ih =>
    by_cases hlt : n < 10
    · rw [Nat.toDigits_of_lt_base hlt]
      exact hsmall n hlt h
    · have hle : 10 ≤ n := Nat.le_of_not_lt hlt
      have hhead := ih (n / 10) (by omega) (by omega)
      obtain ⟨first, others, hdigits⟩ :=
        List.exists_cons_of_ne_nil (Nat.toDigits_ne_nil (n := n / 10) (b := 10))
      rw [Nat.toDigits_of_base_le (by decide) hle, hdigits]
      rw [hdigits] at hhead
      exact hhead

/-- The digits of a number have no leading zero. -/
theorem noLeadingZero (n : Nat) :
    ¬ ((Nat.toDigits 10 n).head? = some '0' ∧ 1 < (Nat.toDigits 10 n).length) := by
  rintro ⟨hhead, hlength⟩
  cases n with
  | zero => simp [Nat.toDigits_zero] at hlength
  | succ n => exact head?_toDigits n.succ_pos hhead

theorem signed?_toDigits (negative : Bool) (n : Nat) :
    signed? negative (Nat.toDigits 10 n) = some (.int (if negative then -n else n)) := by
  have hall : (Nat.toDigits 10 n).takeWhile Char.isDigit = Nat.toDigits 10 n :=
    List.takeWhile_eq_self_iff.2 fun _ => isDigit_of_mem_toDigits
  have hsome : (Nat.toDigits 10 n).isEmpty = false :=
    List.isEmpty_eq_false_iff.2 Nat.toDigits_ne_nil
  have hlead :
      ((Nat.toDigits 10 n).head? = some '0' && 1 < (Nat.toDigits 10 n).length) = false := by
    simpa only [Bool.and_eq_false_iff, decide_eq_false_iff_not, not_and_or] using noLeadingZero n
  simp only [signed?, hall, hsome, hlead, Bool.or_false, Bool.false_eq_true, if_false, if_true,
    Nat.ofDigitChars_ten_toDigits]

theorem numberOf?_writeInt (n : Int) : numberOf? (writeInt n) = some (.int n) := by
  unfold writeInt
  by_cases hneg : n < 0
  · rw [if_pos hneg, numberOf?, signed?_toDigits]
    simp only [if_true]
    congr
    omega
  · rw [if_neg hneg, numberOf?, signed?_toDigits]
    · simp only [Bool.false_eq_true, if_false]
      congr
      omega
    · intro rest hrest
      have hdigit : Char.isDigit '-' = true :=
        isDigit_of_mem_toDigits (n := n.natAbs) (hrest ▸ List.mem_cons_self)
      exact absurd hdigit (by decide)

/-! ## Texts of numbers -/

structure IsNumberText (s : List Char) : Prop where
  ne_nil : s ≠ []
  chars : ∀ c ∈ s, isNumberChar c = true

theorem isNumberText_toDigits (n : Nat) : IsNumberText (Nat.toDigits 10 n) :=
  ⟨Nat.toDigits_ne_nil, fun c hc => by simp [isNumberChar, isDigit_of_mem_toDigits hc]⟩

theorem IsNumberText.neg {s : List Char} (h : IsNumberText s) : IsNumberText ('-' :: s) :=
  ⟨List.cons_ne_nil _ _, List.forall_mem_cons.2 ⟨rfl, h.chars⟩⟩

theorem isNumberText_writeInt (n : Int) : IsNumberText (writeInt n) := by
  unfold writeInt
  split
  · exact (isNumberText_toDigits _).neg
  · exact isNumberText_toDigits _

theorem not_mem_of_isNumberChar (h : isNumberChar c = true) (hnone : cs.any isNumberChar = false) :
    c ∉ cs := by
  intro hmem
  exact List.any_eq_false.1 hnone c hmem h

theorem IsNumberText.exists_eq_cons {s : List Char} (h : IsNumberText s) :
    ∃ c cs, s = c :: cs ∧ isNumberChar c = true := by
  obtain ⟨c, cs, rfl⟩ := List.exists_cons_of_ne_nil h.ne_nil
  exact ⟨c, cs, rfl, h.chars c List.mem_cons_self⟩

/-- The text of a number does not start with a character that belongs to no number. -/
theorem IsNumberText.append_ne {s : List Char} (hs : IsNumberText s) (h : isNumberChar c = false)
    (rest tail : List Char) : s ++ rest ≠ c :: tail := by
  intro heq
  obtain ⟨d, cs, rfl, hd⟩ := hs.exists_eq_cons
  rw [(List.cons.inj heq).1, h] at hd
  cases hd

theorem IsNumberText.skipSpace_append {s : List Char} (h : IsNumberText s) (rest : List Char) :
    skipSpace (s ++ rest) = s ++ rest := by
  obtain ⟨c, cs, rfl, hc⟩ := h.exists_eq_cons
  exact skipSpace_cons (not_mem_of_isNumberChar hc (by decide)) _

/-- A run of characters of a kind is found again if what follows starts with another one. -/
theorem takeWhile_append_of_head? {p : Char → Bool} {s : List Char} (hs : ∀ c ∈ s, p c = true)
    (hrest : ∀ c ∈ rest.head?, p c = false) : (s ++ rest).takeWhile p = s := by
  rw [List.takeWhile_append_of_pos hs]
  cases rest with
  | nil => rw [List.takeWhile_nil, List.append_nil]
  | cons c tail => rw [List.takeWhile_cons_of_neg (by simp [hrest c rfl]), List.append_nil]

theorem dropWhile_append_of_head? {p : Char → Bool} {s : List Char} (hs : ∀ c ∈ s, p c = true)
    (hrest : ∀ c ∈ rest.head?, p c = false) : (s ++ rest).dropWhile p = rest := by
  rw [List.dropWhile_append_of_pos hs]
  cases rest with
  | nil => rfl
  | cons c tail => exact List.dropWhile_cons_of_neg (by simp [hrest c rfl])

def EndsNumber (rest : List Char) : Prop := ∀ c ∈ rest.head?, isNumberChar c = false

theorem endsNumber_cons {c : Char} (h : isNumberChar c = false) (rest : List Char) :
    EndsNumber (c :: rest) := by
  intro d hd
  rw [List.head?_cons, Option.mem_some_iff] at hd
  rw [← hd, h]

/-- The text of a number is read up to its end. -/
theorem readValue_number {s : List Char} {j : Json} (hs : IsNumberText s)
    (hj : numberOf? s = some j) (fuel : Nat) (hends : EndsNumber rest) :
    readValue (fuel + 1) (s ++ rest) = some (j, rest) := by
  rw [readValue, hs.skipSpace_append]
  split
  case h_7 =>
    rw [takeWhile_append_of_head? hs.chars hends, dropWhile_append_of_head? hs.chars hends, hj]
    rfl
  all_goals
    rename_i heq
    exact absurd heq (hs.append_ne rfl rest _)

end Json

end SessionTelemetry
