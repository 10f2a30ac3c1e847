import Mathlib.Data.Nat.Digits.Defs
import SessionTelemetry.Proofs.Yields
import SessionTelemetry.Session.Graph

/-!
# Hash codes fit a word

Whatever an object states, its hash code is below `2 ^ 64` in size, and so is that of every value.
So a hash code can always be written as text (`SessionGraph.obstacle?_hashCode`).
-/

namespace SessionTelemetry

/-- An integer that fits a word can be written. -/
theorem Value.obstacle?_int_of_lt {n : Int} (h : n.natAbs < HashCode.words) :
    (Value.int n).obstacle? = none := by
  have hdigits : (Nat.toDigits 10 n.natAbs).length ≤ 20 :=
    Nat.toDigits_length 10 n.natAbs 20 (by omega) (h.trans (by decide))
  show intObstacle? n = none
  rw [intObstacle?, if_neg]
  simp only [Numeral.maxDigits]
  omega

namespace HashCode

variable {n : Int}

theorem natAbs_avoidMinusOne (h : n.natAbs < words) : (avoidMinusOne n).natAbs < words := by
  rw [avoidMinusOne]
  split_ifs
  · decide
  · exact h

theorem modulus_lt_words : modulus < words := by decide

theorem natAbs_ofInt (n : Int) : (ofInt n).natAbs < words := by
  have hmod : (n.tmod modulus).natAbs < modulus := by
    rw [Int.natAbs_tmod, Int.natAbs_natCast]
    exact Nat.mod_lt _ (by decide)
  exact natAbs_avoidMinusOne (hmod.trans modulus_lt_words)

theorem natAbs_ofStated (n : Int) : (ofStated n).natAbs < words := by
  rw [ofStated]
  split_ifs with h
  · have hhalf : twoTo 63 < words := by decide
    exact natAbs_avoidMinusOne (by omega)
  · exact natAbs_ofInt n

theorem natAbs_ofFloat {x : Binary64} (h : ofFloat x = some n) : n.natAbs < words := by
  cases x with
  | nan => cases h
  | infinite negative =>
    cases h
    cases negative <;> decide
  | finite negative m e =>
    cases h
    have hmod : m * ofTwoTo e % modulus < words :=
      (Nat.mod_lt _ (by decide)).trans modulus_lt_words
    apply natAbs_avoidMinusOne
    generalize m * ofTwoTo e % modulus = r at hmod ⊢
    cases negative <;> simpa using hmod

theorem natAbs_ofItems (codes : List Int) : (ofItems codes).natAbs < words := by
  have hword : ∀ m : Nat, m % words < words := fun m => Nat.mod_lt _ (by decide)
  simp only [ofItems]
  split_ifs
  · decide
  · rw [Int.natAbs_natCast]
    exact hword _
  · have := hword (codes.foldl mix offset + (codes.length ^^^ (offset ^^^ 3527539)))
    have hhalf : 0 < twoTo 63 := by decide
    omega

end HashCode

open HashCode

/-- The hash code of a value fits a word if those of objects do. -/
theorem Value.natAbs_hashCode {hashOf : HashReader} {v : Value} {n : Int}
    (hobjects : ∀ name code, hashOf name = .ok code → code.natAbs < words)
    (h : v.hashCode hashOf = .ok n) : n.natAbs < words := by
  cases v with
  | bool b =>
    cases h
    cases b <;> decide
  | int m =>
    cases h
    exact natAbs_ofInt m
  | float x =>
    rw [hashCode] at h
    cases hx : HashCode.ofFloat x with
    | none =>
      rw [hx] at h
      cases h
    | some code =>
      rw [hx] at h
      cases h
      exact natAbs_ofFloat hx
  | tuple items =>
    rw [hashCode] at h
    cases hcodes : hashCodes hashOf items with
    | error fault =>
      rw [hcodes] at h
      cases h
    | ok codes =>
      rw [hcodes] at h
      cases h
      exact natAbs_ofItems codes
  | object name | foreign name => exact hobjects name n h
  | text | bytes =>
    rw [hashCode] at h
    split_ifs at h
    cases h
    decide
  | _ => cases h

namespace SessionGraph

variable {g : SessionGraph} {v : Value} {code : Int}

theorem natAbs_hashOf {name : String} (h : g.hashOf name = .ok code) : code.natAbs < words := by
  unfold hashOf at h
  split at h
  · cases h
    exact natAbs_ofStated _
  · next b _ =>
    cases h
    cases b <;> decide
  · cases h
  · split_ifs at h
    cases h
    decide

theorem obstacle?_hashCode (h : v.hashCode g.hashOf = .ok code) :
    (Value.int code).obstacle? = none :=
  Value.obstacle?_int_of_lt (Value.natAbs_hashCode (fun _ _ => natAbs_hashOf) h)

end SessionGraph

end SessionTelemetry
