import SessionTelemetry.Fault
import SessionTelemetry.Number.Numeral
import SessionTelemetry.Value.Display
import SessionTelemetry.Value.Key

/-!
# Values as numbers

Conversions of values to integers and floats, exact comparison of numbers of both kinds, and the
two operations on clock readings: their difference and its part above zero.
-/

namespace SessionTelemetry

namespace Value

/-- The quoted form of a text that is no integer, cut off after 200 characters. Bytes are cut off
before they are quoted as well. -/
def shownInteger (quoted : List Char) : String := String.ofList (quoted.take 200)

def readInteger (shown body : List Char) : Except Fault Int :=
  match Numeral.readInteger body with
  | .integer n => .ok n
  | .tooLong digits => .error (.tooManyDigits digits)
  | .malformed => .error (.notInteger (shownInteger shown))

def byteChars (bs : List UInt8) : List Char := bs.map fun b =>
  if b < 0x80 then Char.ofNat b.toNat else '?'

def truncateFloat : Binary64 → Except Fault Int
  | .nan _ => .error .integerOfNan
  | .infinite _ => .error .tooLarge
  | x => .ok (x.truncate?.getD 0)

def toInteger : Value → Except Fault Int
  | bool b => .ok (if b then 1 else 0)
  | int n => .ok n
  | float x => truncateFloat x
  | text s => readInteger (Text.quoted s.toList) s.toList
  | bytes bs => readInteger (Text.quotedBytes (bs.take 200)) (byteChars bs)
  | _ => .error .unsuitable

def floatOfInt (n : Int) : Except Fault Binary64 :=
  match Binary64.ofInt? n with
  | some x => .ok x
  | none => .error .tooLarge

def numberAsFloat : Value → Except Fault Binary64
  | bool b => .ok (if b then .ofInt 1 else .zero)
  | int n => floatOfInt n
  | float x => .ok x
  | _ => .error .unsuitable

def toFloat : Value → Except Fault Binary64
  | text s =>
    match Numeral.readFloat? s.toList with
    | some x => .ok x
    | none => .error (.notNumber (quote (text s)))
  | bytes bs =>
    match Numeral.readFloat? (byteChars bs) with
    | some x => .ok x
    | none => .error (.notNumber (quote (bytes bs)))
  | v => numberAsFloat v

def wholeText : Value → Except Fault String
  | bool b => shown (int (if b then 1 else 0))
  | int n => shown (int n)
  | float x => do shown (int (← truncateFloat x))
  | _ => .error .unsuitable

/-- Whether a number is below an integer, compared exactly. -/
def isBelow (v : Value) (n : Int) : Except Fault Bool :=
  match v.extent? with
  | some p => .ok (p.compare? (.finite n) == some .lt)
  | none => .error .unsuitable

/-- The difference of two numbers: exact for integers, otherwise that of the floats nearest to
them. -/
def difference (v w : Value) : Except Fault Value :=
  match v, w with
  | float x, w => do return float (x.sub (← numberAsFloat w))
  | v, float y => do return float ((← numberAsFloat v).sub y)
  | bool a, bool b => .ok (int (a.toInt - b.toInt))
  | bool a, int n => .ok (int (a.toInt - n))
  | int m, bool b => .ok (int (m - b.toInt))
  | int m, int n => .ok (int (m - n))
  | _, _ => .error .unsuitable

def aboveZero (v : Value) : Value :=
  match v.extent? with
  | some p => if p.compare? (.finite 0) = some .gt then v else float .zero
  | none => float .zero

def repeated {α : Type} (times : Nat) (items : List α) : List α :=
  (List.replicate times items).flatten

/-- The milliseconds of a clock reading in seconds. A text is repeated, not multiplied. -/
def milliseconds : Value → Except Fault Int
  | bool b => .ok (b.toInt * 1000)
  | int n => .ok (n * 1000)
  | float x => truncateFloat (x.mul (.ofInt 1000))
  | text s => toInteger (text (String.ofList (repeated 1000 s.toList)))
  | bytes bs => toInteger (bytes (repeated 1000 bs))
  | _ => .error .unsuitable

end Value

end SessionTelemetry
