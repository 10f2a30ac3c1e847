/-!
# Binary floating-point numbers of 64 bits

A finite number is a signed significand times a power of two. Every operation is computed exactly
on rational numbers and rounded once, to the nearest representable number, a half to the even
significand. Integers up to `2 ^ 53` are therefore exact, and so are their sums.
-/

namespace SessionTelemetry

def twoTo (k : Nat) : Nat := Nat.pow 2 k

def tenTo (k : Nat) : Nat := Nat.pow 10 k

/-- The quotient rounded to the nearest natural number; a half goes to the even neighbour. -/
def roundedQuotient (num den : Nat) : Nat :=
  let q := num / den
  let twice := 2 * (num % den)
  if twice < den then q
  else if den < twice then q + 1
  else if q % 2 = 0 then q else q + 1

/-- A number of the 64-bit binary format. A finite one is `significand * 2 ^ exponent`, with a sign
of its own so that the two zeros differ. One that is no number carries a label, by which tables tell
such numbers apart; results of operations have the label zero. -/
inductive Binary64 where
  | nan (label : Nat)
  | infinite (negative : Bool)
  | finite (negative : Bool) (significand : Nat) (exponent : Int)
  deriving DecidableEq, Repr

namespace Binary64

def minExponent : Int := -1074

def maxExponent : Int := 971

def zero : Binary64 := finite false 0 minExponent

def scaled (significand : Int) (exponent : Int) : Rat :=
  if 0 ≤ exponent then (significand * twoTo exponent.toNat : Int)
  else mkRat significand (twoTo (-exponent).toNat)

def toRat : Binary64 → Rat
  | finite negative m e => scaled (if negative then -(m : Int) else m) e
  | _ => 0

/-- The largest `e` with `2 ^ e ≤ num / den`, for a positive quotient. -/
def binaryExponent (num den : Nat) : Int :=
  let e := (num.log2 : Int) - den.log2
  if den * twoTo e.toNat ≤ num * twoTo (-e).toNat then e else e - 1

/-- The number nearest to `num / den`, with the given sign. Beyond the largest finite number it is
an infinity; below half of the smallest it is a zero. -/
def ofQuotient (negative : Bool) (num den : Nat) : Binary64 :=
  if num = 0 then finite negative 0 minExponent
  else
    let e := max (binaryExponent num den - 52) minExponent
    let m := roundedQuotient (num * twoTo (-e).toNat) (den * twoTo e.toNat)
    let (m, e) := if m = twoTo 53 then (twoTo 52, e + 1) else (m, e)
    if maxExponent < e then infinite negative else finite negative m e

def ofRat (q : Rat) (negativeZero : Bool := false) : Binary64 :=
  if q.num = 0 then finite negativeZero 0 minExponent
  else ofQuotient (q.num < 0) q.num.natAbs q.den

def ofInt (n : Int) : Binary64 := ofRat n

def ofInt? (n : Int) : Option Binary64 :=
  match ofInt n with
  | infinite _ => none
  | x => some x

def isNegative : Binary64 → Bool
  | nan _ => false
  | infinite negative => negative
  | finite negative _ _ => negative

def isZero : Binary64 → Bool
  | finite _ m _ => m = 0
  | _ => false

def neg : Binary64 → Binary64
  | nan _ => nan 0
  | infinite negative => infinite (!negative)
  | finite negative m e => finite (!negative) m e

/-- The sum. Two opposite infinities have none; an exact zero is negative only when both terms
are. -/
def add : Binary64 → Binary64 → Binary64
  | nan _, _ => nan 0
  | _, nan _ => nan 0
  | infinite a, infinite b => if a = b then infinite a else nan 0
  | infinite a, _ => infinite a
  | _, infinite b => infinite b
  | x@(finite a _ _), y@(finite b _ _) => ofRat (x.toRat + y.toRat) (a && b)

def sub (x y : Binary64) : Binary64 := add x y.neg

def mul (x y : Binary64) : Binary64 :=
  let negative := x.isNegative != y.isNegative
  match x, y with
  | nan _, _ => nan 0
  | _, nan _ => nan 0
  | infinite _, y => if y.isZero then nan 0 else infinite negative
  | x, infinite _ => if x.isZero then nan 0 else infinite negative
  | finite _ _ _, finite _ _ _ => ofRat (x.toRat * y.toRat) negative

def div (x y : Binary64) : Binary64 :=
  let negative := x.isNegative != y.isNegative
  match x, y with
  | nan _, _ => nan 0
  | _, nan _ => nan 0
  | infinite _, infinite _ => nan 0
  | infinite _, _ => infinite negative
  | _, infinite _ => finite negative 0 minExponent
  | finite _ _ _, finite _ _ _ => ofRat (x.toRat / y.toRat) negative

def compare? : Binary64 → Binary64 → Option Ordering
  | nan _, _ => none
  | _, nan _ => none
  | infinite a, infinite b => some (Ord.compare b a)
  | infinite a, _ => some (if a then .lt else .gt)
  | _, infinite b => some (if b then .gt else .lt)
  | x, y => some (if x.toRat < y.toRat then .lt else if y.toRat < x.toRat then .gt else .eq)

def less (x y : Binary64) : Bool := compare? x y == some .lt

def truncate? : Binary64 → Option Int
  | finite negative m e =>
    let magnitude : Nat := if 0 ≤ e then m * twoTo e.toNat else m / twoTo (-e).toNat
    some (if negative then -(magnitude : Int) else magnitude)
  | _ => none

/-- The number nearest to `digits * 10 ^ exponent`. Exponents far outside the format are cut off
before any power is formed. -/
def ofDecimal (negative : Bool) (digits : Nat) (exponent : Int) : Binary64 :=
  let leading := exponent + (digits.log2 : Int) * 30103 / 100000
  if digits = 0 ∨ leading < -400 then finite negative 0 minExponent
  else if 400 < leading then infinite negative
  else ofQuotient negative (digits * tenTo exponent.toNat) (tenTo (-exponent).toNat)

end Binary64

end SessionTelemetry
