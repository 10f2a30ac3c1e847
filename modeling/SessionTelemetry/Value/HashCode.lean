import SessionTelemetry.Value.Key

/-!
# Hash codes

Equal numbers have the same hash code, whatever their type: it is the remainder of the number by a
prime, where a half is `2 ^ 60`. The hash code of a tuple mixes those of its items. An empty text
and empty bytes have the hash code zero. All other texts and bytes, and null, have hash codes that
differ from run to run; they count as having none.
-/

namespace SessionTelemetry

namespace HashCode

/-- The modulus of the hash codes of numbers, a prime just below `2 ^ 61`. -/
def modulus : Nat := twoTo 61 - 1

def words : Nat := twoTo 64

/-- Minus one is set aside and replaced by minus two. -/
def avoidMinusOne (n : Int) : Int := if n = -1 then -2 else n

def ofInt (n : Int) : Int := avoidMinusOne (n.tmod modulus)

/-- The hash code of an integer that an object states: one that fits a word is left as it is. -/
def ofStated (n : Int) : Int :=
  if -(twoTo 63 : Int) ≤ n ∧ n < twoTo 63 then avoidMinusOne n else ofInt n

/-- The remainder of a power of two. As `2 ^ 61` has the remainder one, only the remainder of the
exponent by 61 counts, and a negative exponent has one as well. -/
def ofTwoTo (exponent : Int) : Nat := twoTo (exponent % 61).toNat

def ofFloat : Binary64 → Option Int
  | .nan _ => none
  | .infinite negative => some (if negative then -314159 else 314159)
  | .finite negative m e =>
    let r : Int := (m * ofTwoTo e % modulus : Nat)
    some (avoidMinusOne (if negative then -r else r))

def firstFactor : Nat := 11400714785074694791
def secondFactor : Nat := 14029467366897019727
def offset : Nat := 2870177450012600261

def turned (n : Nat) : Nat := (n * twoTo 31 + n / twoTo 33) % words

def mix (acc : Nat) (code : Int) : Nat :=
  let lane := (code % words).toNat
  turned ((acc + lane * secondFactor) % words) * firstFactor % words

def ofItems (codes : List Int) : Int :=
  let mixed := codes.foldl mix offset
  let n := (mixed + (codes.length ^^^ (offset ^^^ 3527539))) % words
  if n = words - 1 then 1546275796
  else if n < twoTo 63 then n else (n : Int) - words

end HashCode

namespace Value

mutual

def hashCode (hashOf : HashReader) : Value → Except Fault Int
  | bool b => .ok b.toInt
  | int n => .ok (HashCode.ofInt n)
  | float x =>
    match HashCode.ofFloat x with
    | some code => .ok code
    | none => .error .unsuitable
  | tuple items => (hashCodes hashOf items).map HashCode.ofItems
  | object name => hashOf name
  | foreign name _ _ => hashOf name
  | text s => if s.isEmpty then .ok 0 else .error .unsuitable
  | bytes bs => if bs.isEmpty then .ok 0 else .error .unsuitable
  | _ => .error .unsuitable

def hashCodes (hashOf : HashReader) : List Value → Except Fault (List Int)
  | [] => .ok []
  | v :: rest => do return (← hashCode hashOf v) :: (← hashCodes hashOf rest)

end

end Value

end SessionTelemetry
