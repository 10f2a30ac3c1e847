import SessionTelemetry.Proofs.Json.Tokens

/-!
# Floats as numbers of a document

A finite float is written as digits without a leading zero, with a fraction or an exponent or both,
whatever decimal is laid out (`isDecimal_layout`). A reader takes this for a float, never for an
integer and never for anything else (`numberOf?_writeFloat`).
-/

namespace SessionTelemetry

namespace Numeral

variable {s : List Char}

def Digits (s : List Char) : Prop := ∀ c ∈ s, c.isDigit = true

inductive Fraction : List Char → Prop where
  | none : Fraction []
  | digits {ds : List Char} (h : Digits ds) : Fraction ('.' :: ds)

inductive Exponent : List Char → Prop where
  | none : Exponent []
  | digits {sign : Char} {ds : List Char} (hsign : sign = '+' ∨ sign = '-') (hne : ds ≠ [])
      (h : Digits ds) : Exponent ('e' :: sign :: ds)

/-- Digits without a leading zero, followed by a fraction, an exponent, or both. -/
inductive IsDecimal : List Char → Prop where
  | intro {whole fraction exponent : List Char} (hdigits : Digits whole) (hne : whole ≠ [])
      (hlead : whole.head? = some '0' → whole.length = 1) (hfraction : Fraction fraction)
      (hexponent : Exponent exponent) (hmore : fraction ++ exponent ≠ []) :
      IsDecimal (whole ++ (fraction ++ exponent))

def EndsDigits (rest : List Char) : Prop := ∀ c ∈ rest.head?, c.isDigit = false

theorem digits_toDigits (n : Nat) : Digits (Nat.toDigits 10 n) :=
  fun _ => Json.isDigit_of_mem_toDigits

theorem digits_replicate (n : Nat) : Digits (List.replicate n '0') := by
  intro c hc
  rw [List.eq_of_mem_replicate hc]
  rfl

theorem Digits.append {t : List Char} (hs : Digits s) (ht : Digits t) : Digits (s ++ t) :=
  List.forall_mem_append.2 ⟨hs, ht⟩

theorem Exponent.ends (h : Exponent s) : EndsDigits s := by
  cases h with
  | none => exact fun _ hc => nomatch hc
  | digits => exact fun c hc => Option.mem_some_iff.1 hc ▸ rfl

theorem Fraction.ends {exponent : List Char} (h : Fraction s) (hexponent : Exponent exponent) :
    EndsDigits (s ++ exponent) := by
  cases h with
  | none => exact hexponent.ends
  | digits => exact fun c hc => Option.mem_some_iff.1 hc ▸ rfl

theorem readExponent?_of_exponent (h : Exponent s) : ∃ n, readExponent? s = some n := by
  cases h with
  | none => exact ⟨0, rfl⟩
  | @digits sign ds hsign hne hdigits =>
    have hall : ds.all Char.isDigit = true := List.all_eq_true.2 hdigits
    have hsome : ds.isEmpty = false := List.isEmpty_eq_false_iff.2 hne
    rcases hsign with rfl | rfl <;> simp [readExponent?, splitSign, hall, hsome]

theorem isSome_readDecimal? (h : IsDecimal s) (negative : Bool) :
    (readDecimal? negative s).isSome := by
  obtain ⟨hdigits, hne, -, hfraction, hexponent, -⟩ := h
  have hends := hfraction.ends hexponent
  have hsome : ∀ w : List Char, w ≠ [] → w.isEmpty = false := fun w => List.isEmpty_eq_false_iff.2
  obtain ⟨n, hn⟩ := readExponent?_of_exponent hexponent
  simp only [readDecimal?, Json.takeWhile_append_of_head? hdigits hends,
    Json.dropWhile_append_of_head? hdigits hends]
  cases hfraction with
  | none =>
    cases hexponent <;> simp [hsome _ hne, hn]
  | digits hdigits =>
    simp only [List.cons_append, Json.takeWhile_append_of_head? hdigits hexponent.ends,
      Json.dropWhile_append_of_head? hdigits hexponent.ends, hn]
    simp [hsome _ hne]

/-- A number with a fraction or an exponent is a float to a reader. -/
theorem signed?_of_isDecimal (h : IsDecimal s) (negative : Bool) :
    ∃ x, Json.signed? negative s = some (.float x) := by
  obtain ⟨x, hx⟩ := Option.isSome_iff_exists.1 (isSome_readDecimal? h negative)
  refine ⟨x, ?_⟩
  obtain ⟨hdigits, hne, hlead, hfraction, hexponent, hmore⟩ := h
  rename_i whole fraction exponent
  have hsome : whole.isEmpty = false := List.isEmpty_eq_false_iff.2 hne
  have hlead : (whole.head? = some '0' && 1 < whole.length) = false := by
    rw [Bool.and_eq_false_iff, decide_eq_false_iff_not, decide_eq_false_iff_not]
    by_cases hzero : whole.head? = some '0'
    · exact .inr (hlead hzero).not_gt
    · exact .inl hzero
  have hlength : (whole ++ (fraction ++ exponent)).length ≠ whole.length := by
    have hpos := List.length_pos_iff.2 hmore
    rw [List.length_append]
    omega
  rw [Json.signed?, Json.takeWhile_append_of_head? hdigits (hfraction.ends hexponent)]
  simp only [hsome, hlead, Bool.or_false, Bool.false_eq_true, if_false, hlength, hx,
    Option.map_some]

theorem Digits.isNumberChar (h : Digits s) : ∀ c ∈ s, Json.isNumberChar c = true :=
  fun c hc => by simp [Json.isNumberChar, h c hc]

theorem IsDecimal.isNumberText (h : IsDecimal s) : Json.IsNumberText s := by
  obtain ⟨hdigits, hne, -, hfraction, hexponent, -⟩ := h
  refine ⟨List.append_ne_nil_of_left_ne_nil hne _, ?_⟩
  rw [List.forall_mem_append, List.forall_mem_append]
  refine ⟨hdigits.isNumberChar, ?_, ?_⟩
  · cases hfraction with
    | none => exact List.forall_mem_nil _
    | digits h => exact List.forall_mem_cons.2 ⟨rfl, h.isNumberChar⟩
  · cases hexponent with
    | none => exact List.forall_mem_nil _
    | digits hsign _ h =>
      refine List.forall_mem_cons.2 ⟨rfl, List.forall_mem_cons.2 ⟨?_, h.isNumberChar⟩⟩
      rcases hsign with rfl | rfl <;> rfl

theorem IsDecimal.ne_minus_cons (h : IsDecimal s) (rest : List Char) : s ≠ '-' :: rest := by
  obtain ⟨hdigits, hne, -⟩ := h
  obtain ⟨c, cs, rfl⟩ := List.exists_cons_of_ne_nil hne
  rintro heq
  have hminus : Char.isDigit '-' = true := (List.cons.inj heq).1 ▸ hdigits c List.mem_cons_self
  exact absurd hminus (by decide)

theorem numberOf?_of_isDecimal (h : IsDecimal s) (negative : Bool) :
    ∃ x, Json.numberOf? (if negative then '-' :: s else s) = some (.float x) := by
  obtain ⟨x, hx⟩ := signed?_of_isDecimal h negative
  cases negative with
  | true => exact ⟨x, hx⟩
  | false => exact ⟨x, by rw [if_neg Bool.false_ne_true, Json.numberOf?, hx]; exact h.ne_minus_cons⟩

end Numeral

namespace DecimalStyle

open Numeral

variable {d : Decimal}

theorem exponent_padded (width : Nat) (leading : Int) :
    Exponent ('e' :: (if leading < 0 then '-' else '+') ::
      padded width (Nat.toDigits 10 leading.natAbs)) := by
  refine .digits ?_ (List.append_ne_nil_of_right_ne_nil _ Nat.toDigits_ne_nil)
    ((digits_replicate _).append (digits_toDigits _))
  split_ifs
  · exact .inr rfl
  · exact .inl rfl

/-- Only zero starts with a zero, and has no further digit. -/
theorem length_of_head?_toDigits {n : Nat} (h : (Nat.toDigits 10 n).head? = some '0') :
    n = 0 ∧ (Nat.toDigits 10 n).length = 1 := by
  obtain rfl : n = 0 := Nat.eq_zero_of_not_pos fun hpos => Json.head?_toDigits hpos h
  exact ⟨rfl, rfl⟩

theorem isDecimal_whole (h : d.digits ≠ 0 ∨ d.exponent = 0) :
    IsDecimal (Nat.toDigits 10 d.digits ++ List.replicate d.exponent.toNat '0' ++
      (['.', '0'] ++ [])) := by
  refine .intro ((digits_toDigits _).append (digits_replicate _))
    (List.append_ne_nil_of_left_ne_nil Nat.toDigits_ne_nil _) (fun hzero => ?_)
    (.digits (digits_replicate 1)) .none (List.cons_ne_nil _ _)
  rw [List.head?_append, Option.or_of_isSome (by simp [Nat.toDigits_ne_nil])] at hzero
  obtain ⟨hdigits, hlength⟩ := length_of_head?_toDigits hzero
  rw [h.resolve_left (not_not.2 hdigits), List.length_append, hlength]
  rfl

theorem isDecimal_point (h : d.digits ≠ 0) (k : Nat) :
    IsDecimal ((Nat.toDigits 10 d.digits).take (k + 1) ++
      '.' :: (Nat.toDigits 10 d.digits).drop (k + 1)) := by
  have hall := digits_toDigits d.digits
  obtain ⟨c, cs, hcons⟩ :=
    List.exists_cons_of_ne_nil (Nat.toDigits_ne_nil (n := d.digits) (b := 10))
  rw [← List.append_nil ('.' :: _)]
  refine .intro (fun c hc => hall c (List.mem_of_mem_take hc)) (by simp [hcons]) (fun hzero => ?_)
    (.digits fun c hc => hall c (List.mem_of_mem_drop hc)) .none (List.cons_ne_nil _ _)
  have hhead : (Nat.toDigits 10 d.digits).head? = some '0' := by
    rw [hcons] at hzero ⊢
    exact hzero
  exact absurd (length_of_head?_toDigits hhead).1 h

theorem isDecimal_small (zeros : Nat) :
    IsDecimal ('0' :: '.' :: List.replicate zeros '0' ++ Nat.toDigits 10 d.digits) := by
  have hfraction : Fraction ('.' :: (List.replicate zeros '0' ++ Nat.toDigits 10 d.digits)) :=
    .digits ((digits_replicate _).append (digits_toDigits _))
  rw [← List.append_nil (_ ++ _)]
  exact .intro (digits_replicate 1) (List.cons_ne_nil _ _) (fun _ => rfl) hfraction .none
    (List.cons_ne_nil _ _)

theorem isDecimal_scientific (width : Nat) (leading : Int) :
    IsDecimal ((match Nat.toDigits 10 d.digits with
        | [only] => [only]
        | first :: rest => first :: '.' :: rest
        | [] => []) ++
      'e' :: (if leading < 0 then '-' else '+') ::
        padded width (Nat.toDigits 10 leading.natAbs)) := by
  have hall := digits_toDigits d.digits
  have hexponent := exponent_padded width leading
  rcases hdigits : Nat.toDigits 10 d.digits with _ | ⟨first, _ | ⟨second, rest⟩⟩
  · exact absurd hdigits Nat.toDigits_ne_nil
  all_goals
    rw [hdigits] at hall
    rw [Digits, List.forall_mem_cons] at hall
  · exact .intro (List.forall_mem_singleton.2 hall.1) (List.cons_ne_nil _ _) (fun _ => rfl) .none
      hexponent (List.cons_ne_nil _ _)
  · exact .intro (List.forall_mem_singleton.2 hall.1) (List.cons_ne_nil _ _) (fun _ => rfl)
      (.digits hall.2) hexponent (List.cons_ne_nil _ _)

/-- A decimal that is not zero, or is zero without an exponent, is laid out as a number. -/
theorem isDecimal_layout (style : DecimalStyle) (h : d.digits ≠ 0 ∨ d.exponent = 0) :
    IsDecimal (style.layout d) := by
  unfold layout
  dsimp only
  split
  · split_ifs
    · exact isDecimal_whole h
    · exact isDecimal_point (h.resolve_right (by omega)) _
    · exact isDecimal_small _
  · exact isDecimal_scientific _ _

end DecimalStyle

namespace Decimal

variable {d : Decimal} {m : Nat} {e exponent : Int}

/-- Zero is not among the reals that round to a positive number. -/
theorem digits_ne_zero_of_readsBack (hm : 0 < m) (h : d.readsBack m e = true) : d.digits ≠ 0 := by
  intro hzero
  have hlow : ∀ low, 0 < low → d.compareScaled low (e - 2) = .lt := by
    intro low hpos
    rw [compareScaled, hzero, Nat.zero_mul, Nat.zero_mul, Nat.compare_eq_lt]
    exact Nat.mul_pos (Nat.mul_pos hpos (Nat.pow_pos (by decide))) (Nat.pow_pos (by decide))
  have hpos : 0 < if m = twoTo 52 ∧ Binary64.minExponent < e then 4 * m - 1 else 4 * m - 2 := by
    split_ifs <;> omega
  simp only [readsBack, hlow _ hpos] at h
  simp at h

theorem readsBack_of_onGrid? (h : onGrid? m e exponent = some d) : d.readsBack m e = true := by
  unfold onGrid? at h
  rcases neighbours m e exponent with ⟨below, above⟩
  dsimp only at h
  split at h
  · cases h
  · cases h
    assumption
  · cases h
    assumption
  · split at h
    · cases h
      assumption
    · cases h
      assumption
    · cases h
      split_ifs <;> assumption

theorem digits_strip_ne_zero (h : d.digits ≠ 0) (fuel : Nat) : (d.strip fuel).digits ≠ 0 := by
  induction fuel generalizing d with
  | zero => exact h
  | succ fuel ih =>
    rw [strip]
    split_ifs with hten
    · exact ih (by dsimp only; omega)
    · exact h

theorem digits_exact_ne_zero (hm : 0 < m) (e : Int) : (exact m e).digits ≠ 0 := by
  unfold exact
  split_ifs
  · exact (Nat.mul_pos hm (Nat.pow_pos (by decide))).ne'
  · exact (Nat.mul_pos hm (Nat.pow_pos (by decide))).ne'

/-- The shortest decimal of a positive number is not zero. -/
theorem digits_shortest_ne_zero (hm : 0 < m) (e : Int) : (shortest m e).digits ≠ 0 := by
  refine digits_strip_ne_zero ?_ 20
  rcases hfound : ((List.range 17).map fun (n : Nat) => scale m e - (n + 1)).findSome?
    (onGrid? m e) with _ | d
  · exact digits_exact_ne_zero hm e
  · obtain ⟨exponent, -, hgrid⟩ := List.exists_of_findSome?_eq_some hfound
    exact digits_ne_zero_of_readsBack hm (readsBack_of_onGrid? hgrid)

end Decimal

/-- A finite float is read as a float. -/
theorem Json.numberOf?_writeFloat (negative : Bool) (m : Nat) (e : Int) :
    IsNumberText (writeFloat (.finite negative m e)) ∧
      ∃ y, numberOf? (writeFloat (.finite negative m e)) = some (.float y) := by
  have hdecimal : Numeral.IsDecimal
      (DecimalStyle.payload.layout (if m = 0 then ⟨0, 0⟩ else Decimal.shortest m e)) := by
    apply DecimalStyle.isDecimal_layout
    split_ifs with hzero
    · exact .inr rfl
    · exact .inl (Decimal.digits_shortest_ne_zero (Nat.pos_of_ne_zero hzero) e)
  refine ⟨?_, Numeral.numberOf?_of_isDecimal hdecimal negative⟩
  cases negative with
  | true => exact hdecimal.isNumberText.neg
  | false => exact hdecimal.isNumberText

end SessionTelemetry
