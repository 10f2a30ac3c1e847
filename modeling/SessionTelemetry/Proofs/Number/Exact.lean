import Mathlib.Algebra.BigOperators.Ring.Finset
import Mathlib.Algebra.Order.Field.Power
import Mathlib.Tactic.Positivity
import Mathlib.Tactic.Linarith
import Mathlib.Tactic.Ring
import SessionTelemetry.Value.Numeric

/-!
# Exact arithmetic

A rational number of the 64-bit format is its own nearest number (`shows_ofRat`), so an operation
whose exact result has the format yields that result.
-/

namespace SessionTelemetry

theorem twoTo_pos (k : Nat) : 0 < twoTo k := Nat.pow_pos Nat.two_pos

theorem twoTo_succ (k : Nat) : twoTo (k + 1) = twoTo k + twoTo k :=
  (Nat.pow_succ 2 k).trans (Nat.mul_two _)

theorem twoTo_lt_twoTo {j k : Nat} (h : j < k) : twoTo j < twoTo k :=
  Nat.pow_lt_pow_right Nat.one_lt_two h

theorem add_lt_twoTo_succ {m n k : Nat} (hm : m < twoTo k) (hn : n < twoTo k) :
    m + n < twoTo (k + 1) :=
  (Nat.add_lt_add hm hn).trans_eq (twoTo_succ k).symm

theorem lt_twoTo_succ {n k : Nat} (h : n < twoTo k) : n < twoTo (k + 1) :=
  add_lt_twoTo_succ h (twoTo_pos k)

theorem log2_lt_of_lt_twoTo {n k : Nat} (hn : n ≠ 0) (h : n < twoTo k) : n.log2 < k :=
  (Nat.log2_lt hn).2 h

namespace Binary64

variable {x y : Binary64} {p q : Rat} {num den : Nat}

/-- A rational number of the 64-bit format. -/
def Representable (q : Rat) : Prop :=
  ∃ m e : Int, m.natAbs < twoTo 53 ∧ minExponent ≤ e ∧ e ≤ maxExponent ∧ q = scaled m e

def Shows (x : Binary64) (q : Rat) : Prop :=
  ∃ negative m e, x = finite negative m e ∧ x.toRat = q

theorem scaled_eq (m e : Int) : scaled m e = m * (2 : Rat) ^ e := by
  unfold scaled twoTo
  split_ifs with h
  · obtain ⟨k, rfl⟩ := Int.eq_ofNat_of_zero_le h
    simp
  · obtain ⟨k, rfl⟩ := Int.exists_eq_neg_ofNat (Int.le_of_not_le h)
    simp [Rat.mkRat_eq_div, div_eq_mul_inv]

theorem twoTo_div_twoTo (e : Int) : (twoTo e.toNat : Rat) / twoTo (-e).toNat = 2 ^ e := by
  unfold twoTo
  obtain ⟨k, rfl | rfl⟩ := Int.eq_nat_or_neg e
  · simp
  · simp

theorem log2_bounds {n : Nat} (h : n ≠ 0) :
    (2 : Rat) ^ n.log2 ≤ n ∧ (n : Rat) < 2 ^ (n.log2 + 1) :=
  ⟨by exact_mod_cast Nat.log2_self_le h, by exact_mod_cast Nat.lt_log2_self⟩

theorem zpow_le_quotient_iff (hden : 0 < den) (e : Int) :
    (2 : Rat) ^ e ≤ num / den ↔ den * twoTo e.toNat ≤ num * twoTo (-e).toNat := by
  have hden : (0 : Rat) < den := by exact_mod_cast hden
  have hdown : (0 : Rat) < twoTo (-e).toNat := by exact_mod_cast twoTo_pos _
  rw [← twoTo_div_twoTo, div_le_div_iff₀ hdown hden, mul_comm]
  exact_mod_cast Iff.rfl

/-- A positive quotient lies between the power of its binary exponent and the next one. -/
theorem binaryExponent_bounds (hnum : 0 < num) (hden : 0 < den) :
    (2 : Rat) ^ binaryExponent num den ≤ num / den ∧
      (num : Rat) / den < 2 ^ (binaryExponent num den + 1) := by
  obtain ⟨hnumLow, hnumHigh⟩ := log2_bounds hnum.ne'
  obtain ⟨hdenLow, hdenHigh⟩ := log2_bounds hden.ne'
  have hdenPos : (0 : Rat) < den := by exact_mod_cast hden
  set e : Int := (num.log2 : Int) - den.log2 with he
  have hlow : (2 : Rat) ^ (e - 1) ≤ num / den := by
    rw [le_div_iff₀ hdenPos]
    calc (2 : Rat) ^ (e - 1) * den ≤ 2 ^ (e - 1) * 2 ^ (den.log2 + 1) := by gcongr
      _ = 2 ^ num.log2 := by
        rw [← zpow_natCast, ← zpow_add₀ two_ne_zero, ← zpow_natCast]
        congr 1
        push_cast
        omega
      _ ≤ num := hnumLow
  have hhigh : (num : Rat) / den < 2 ^ (e + 1) := by
    rw [div_lt_iff₀ hdenPos]
    calc (num : Rat) < 2 ^ (num.log2 + 1) := hnumHigh
      _ = 2 ^ (e + 1) * 2 ^ den.log2 := by
        rw [← zpow_natCast, ← zpow_natCast, ← zpow_add₀ two_ne_zero]
        congr 1
        push_cast
        omega
      _ ≤ 2 ^ (e + 1) * den := by gcongr
  unfold binaryExponent
  simp only [← he]
  split_ifs with h
  · exact ⟨(zpow_le_quotient_iff hden e).2 h, hhigh⟩
  · refine ⟨hlow, ?_⟩
    rw [sub_add_cancel]
    exact not_le.1 fun hle => h ((zpow_le_quotient_iff hden e).1 hle)

theorem roundedQuotient_mul (n : Nat) (hden : 0 < den) : roundedQuotient (n * den) den = n := by
  simp [roundedQuotient, hden]

/-- A quotient of the format is not rounded. -/
theorem toRat_ofQuotient {n : Nat} {e : Int} (negative : Bool) (hnum : 0 < num) (hden : 0 < den)
    (hn : n < twoTo 53) (hlow : minExponent ≤ e) (hhigh : e ≤ maxExponent)
    (heq : (num : Rat) / den = n * 2 ^ e) :
    ∃ m k, ofQuotient negative num den = finite negative m k ∧ (m : Rat) * 2 ^ k = num / den := by
  obtain ⟨hbLow, hbHigh⟩ := binaryExponent_bounds hnum hden
  set b := binaryExponent num den with hb
  set k := max (b - 52) minExponent with hk
  -- the grid of the result is not coarser than the one on which the quotient lies
  have hke : k ≤ e := by
    have hpow : (2 : Rat) ^ b < 2 ^ (53 + e) := by
      calc (2 : Rat) ^ b ≤ n * 2 ^ e := heq ▸ hbLow
        _ < 2 ^ (53 : Int) * 2 ^ e := by
          gcongr
          exact_mod_cast hn
        _ = 2 ^ (53 + e) := (zpow_add₀ two_ne_zero _ _).symm
    have := (zpow_lt_zpow_iff_right₀ (by norm_num : (1 : Rat) < 2)).1 hpow
    omega
  obtain ⟨j, hj⟩ := Int.exists_add_of_le hke
  have hgrid : (num : Rat) / den = (n * 2 ^ j : Nat) * 2 ^ k := by
    rw [heq, hj, zpow_add₀ two_ne_zero, zpow_natCast]
    push_cast
    ring
  have hsmall : n * 2 ^ j < twoTo 53 := by
    have hpow : ((n * 2 ^ j : Nat) : Rat) * 2 ^ k < 2 ^ (53 : Int) * 2 ^ k := by
      calc ((n * 2 ^ j : Nat) : Rat) * 2 ^ k < 2 ^ (b + 1) := hgrid ▸ hbHigh
        _ ≤ 2 ^ (53 + k) := zpow_le_zpow_right₀ (by norm_num) (by omega)
        _ = 2 ^ (53 : Int) * 2 ^ k := zpow_add₀ two_ne_zero _ _
    exact_mod_cast lt_of_mul_lt_mul_right hpow (by positivity)
  have hexact : num * twoTo (-k).toNat = n * 2 ^ j * (den * twoTo k.toNat) := by
    have hdenPos : (den : Rat) ≠ 0 := by exact_mod_cast hden.ne'
    have hdown : (twoTo (-k).toNat : Rat) ≠ 0 := by exact_mod_cast (twoTo_pos _).ne'
    rw [← twoTo_div_twoTo, div_eq_iff hdenPos, mul_div_assoc', div_mul_eq_mul_div,
      eq_div_iff hdown] at hgrid
    have : ((num * twoTo (-k).toNat : Nat) : Rat) = (n * 2 ^ j * (den * twoTo k.toNat) : Nat) := by
      push_cast at hgrid ⊢
      linarith
    exact_mod_cast this
  refine ⟨n * 2 ^ j, k, ?_, hgrid.symm⟩
  unfold ofQuotient
  simp only [if_neg hnum.ne', ← hb, ← hk, hexact,
    roundedQuotient_mul _ (Nat.mul_pos hden (twoTo_pos _)), if_neg hsmall.ne,
    if_neg (not_lt.2 (hke.trans hhigh))]

theorem toRat_finite (negative : Bool) (m : Nat) (e : Int) :
    (finite negative m e).toRat = (if negative then -(m : Rat) else m) * 2 ^ e := by
  rw [toRat, scaled_eq]
  cases negative <;> simp

/-- A number of the format is not rounded. -/
theorem shows_ofRat (h : Representable q) (negativeZero : Bool) :
    Shows (ofRat q negativeZero) q := by
  obtain ⟨n, e, hn, hlow, hhigh, heq⟩ := h
  rw [scaled_eq] at heq
  unfold ofRat
  split_ifs with hzero
  · exact ⟨_, _, _, rfl, by simp [toRat_finite, Rat.num_eq_zero.1 hzero]⟩
  · have hmagnitude : (q.num.natAbs : Rat) / q.den = |q| := by
      conv_rhs => rw [← Rat.num_div_den q]
      rw [abs_div, Nat.abs_cast, Nat.cast_natAbs, Int.cast_abs]
    have hpos : (0 : Rat) < 2 ^ e := by positivity
    have hscale : |q| = n.natAbs * 2 ^ e := by
      rw [heq, abs_mul, Nat.cast_natAbs, Int.cast_abs, abs_of_pos hpos]
    obtain ⟨m, k, hmade, hvalue⟩ := toRat_ofQuotient (q.num < 0) (Int.natAbs_pos.2 hzero)
      q.den_pos hn hlow hhigh (hmagnitude.trans hscale)
    refine ⟨_, m, k, hmade, ?_⟩
    rw [hmade, toRat_finite]
    rw [hmagnitude] at hvalue
    by_cases hneg : q.num < 0
    · rw [abs_of_neg (Rat.num_neg.1 hneg)] at hvalue
      simp only [hneg, decide_true, if_true]
      linarith
    · rw [abs_of_nonneg (Rat.num_nonneg.1 (not_lt.1 hneg))] at hvalue
      simpa [hneg] using hvalue

theorem shows_neg (h : Shows x q) : Shows x.neg (-q) := by
  obtain ⟨negative, m, e, rfl, rfl⟩ := h
  refine ⟨_, m, e, rfl, ?_⟩
  rw [neg, toRat_finite, toRat_finite]
  cases negative <;> simp

theorem shows_sub (hx : Shows x p) (hy : Shows y q) (h : Representable (p - q)) :
    Shows (x.sub y) (p - q) := by
  obtain ⟨a, m, e, rfl, rfl⟩ := hx
  obtain ⟨b, n, k, hy, hneg⟩ := shows_neg hy
  rw [sub, hy, add, ← hy, hneg, ← sub_eq_add_neg]
  exact shows_ofRat h _

theorem shows_add (hx : Shows x p) (hy : Shows y q) (h : Representable (p + q)) :
    Shows (x.add y) (p + q) := by
  obtain ⟨a, m, e, rfl, rfl⟩ := hx
  obtain ⟨b, n, k, rfl, rfl⟩ := hy
  exact shows_ofRat h _

theorem shows_mul (hx : Shows x p) (hy : Shows y q) (h : Representable (p * q)) :
    Shows (x.mul y) (p * q) := by
  obtain ⟨a, m, e, rfl, rfl⟩ := hx
  obtain ⟨b, n, k, rfl, rfl⟩ := hy
  exact shows_ofRat h _

theorem representable_intCast {n : Int} (h : n.natAbs ≤ twoTo 53) : Representable n := by
  rcases Nat.lt_or_eq_of_le h with hlt | heq
  · exact ⟨n, 0, hlt, by decide, by decide, by rw [scaled_eq]; simp⟩
  · refine ⟨n.sign, 53, ?_, by decide, by decide, ?_⟩
    · exact lt_of_le_of_lt (by rw [Int.natAbs_sign]; split_ifs <;> omega) (by decide : 1 < twoTo 53)
    · rw [scaled_eq]
      conv_lhs => rw [← Int.sign_mul_natAbs n, heq]
      norm_num [twoTo]

theorem shows_ofInt {n : Int} (h : n.natAbs ≤ twoTo 53) : Shows (ofInt n) n :=
  shows_ofRat (representable_intCast h) _

theorem shows_zero : Shows zero 0 := ⟨_, _, _, rfl, by rw [zero, toRat_finite]; simp⟩

/-- A sum of floats is exact where all sums on the way to it have their format. -/
theorem shows_foldl_add {α : Type} {xs : List α} {f : α → Binary64} {g : α → Rat}
    (h : ∀ a ∈ xs, Shows (f a) (g a))
    (hsums : ∀ ys, ys <+: xs → Representable (ys.map g).sum) :
    Shows (xs.foldl (fun sum a => sum.add (f a)) zero) (xs.map g).sum := by
  induction xs using List.reverseRecOn with
  | nil => exact shows_zero
  | append_singleton xs a ih =>
    rw [List.forall_mem_append, List.forall_mem_singleton] at h
    have hrest := ih h.1 fun ys hys => hsums ys (hys.trans (List.prefix_append _ _))
    have hall := hsums _ (List.prefix_refl _)
    rw [List.map_append, List.sum_append, List.map_singleton, List.sum_singleton] at hall ⊢
    rw [List.foldl_concat]
    exact shows_add hrest h.2 hall

/-- A sum of integers that do not go below zero is exact up to the bound of exact integers. -/
theorem shows_sum_ofInt {ns : List Int} (h : ∀ n ∈ ns, 0 ≤ n) (hsum : ns.sum ≤ twoTo 53) :
    Shows (ns.foldl (fun sum n => sum.add (ofInt n)) zero) ns.sum := by
  have hsums : ∀ ys, ys <+: ns → 0 ≤ ys.sum ∧ ys.sum ≤ twoTo 53 := by
    rintro ys ⟨rest, rfl⟩
    rw [List.forall_mem_append] at h
    have hys := List.sum_nonneg h.1
    have hrest := List.sum_nonneg h.2
    rw [List.sum_append] at hsum
    omega
  rw [Int.cast_list_sum]
  refine shows_foldl_add (fun n hn => shows_ofInt ?_) fun ys hys => ?_
  · have hle := List.single_le_sum h n hn
    have hnonneg := h n hn
    omega
  · obtain ⟨hnonneg, hle⟩ := hsums ys hys
    rw [← Int.cast_list_sum]
    exact representable_intCast (by omega)

theorem extent_of_shows (h : Shows x q) : Extent.ofFloat x = .finite q := by
  obtain ⟨negative, m, e, rfl, rfl⟩ := h
  rfl

/-- Below the exponent of the largest finite numbers a quotient is not rounded to an infinity. -/
theorem ofQuotient_finite (negative : Bool) (h : binaryExponent num den ≤ 1022) :
    ∃ m e, ofQuotient negative num den = finite negative m e := by
  unfold ofQuotient
  split_ifs with hzero
  · exact ⟨_, _, rfl⟩
  · set k := max (binaryExponent num den - 52) minExponent with hk
    have hfits : k + 1 ≤ maxExponent := by
      simp only [minExponent, maxExponent] at hk ⊢
      omega
    dsimp only
    generalize roundedQuotient _ _ = m
    by_cases hcarry : m = twoTo 53
    · simp only [if_pos hcarry, if_neg (not_lt.2 hfits)]
      exact ⟨_, _, rfl⟩
    · simp only [if_neg hcarry, if_neg (not_lt.2 (Int.le_of_lt hfits))]
      exact ⟨_, _, rfl⟩

theorem ofInt_finite {n : Int} (h : n.natAbs < twoTo 1023) :
    ∃ negative m e, ofInt n = finite negative m e := by
  unfold ofInt ofRat
  split_ifs with hzero
  · exact ⟨_, _, _, rfl⟩
  · have hlog : n.natAbs.log2 < 1023 := log2_lt_of_lt_twoTo (Int.natAbs_ne_zero.2 hzero) h
    have hexponent : binaryExponent n.natAbs 1 ≤ 1022 := by
      unfold binaryExponent
      simp only [show Nat.log2 1 = 0 from rfl]
      split_ifs <;> omega
    exact ⟨_, ofQuotient_finite _ hexponent⟩

end Binary64

namespace Value

theorem isBelow_int (n m : Int) : (Value.int n).isBelow m = .ok (decide (n < m)) := by
  by_cases h : n < m
  · simp [isBelow, extent?, Extent.compare?, h]
  · simp only [isBelow, extent?, Extent.compare?, Int.cast_lt, h, if_false]
    split_ifs <;> rfl

theorem floatOfInt_eq {n : Int} (h : n.natAbs < twoTo 1023) :
    floatOfInt n = .ok (.ofInt n) := by
  obtain ⟨negative, m, e, heq⟩ := Binary64.ofInt_finite h
  rw [floatOfInt, Binary64.ofInt?, heq]

end Value

end SessionTelemetry
