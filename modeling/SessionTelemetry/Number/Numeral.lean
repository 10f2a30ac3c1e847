import SessionTelemetry.Number.Binary64
import SessionTelemetry.Text.Blank
import SessionTelemetry.Text.DecimalDigit

/-!
# Numbers read from text

Blanks around a numeral are ignored, a single underscore may stand between two digits, and decimal
digits of any script count. An integer has at most 4300 digits.
-/

namespace SessionTelemetry

namespace Numeral

inductive Reading where
  | integer (n : Int)
  | tooLong (digits : Nat)
  | malformed
  deriving DecidableEq, Repr

def maxDigits : Nat := 4300

/-- Digits and blanks of other scripts in their ASCII form; what is neither becomes a character
that no numeral holds. -/
def asciiForm (c : Char) : Char :=
  if c.toNat < 0x7F then c
  else if Text.isBlank c then ' '
  else match Text.digitValue? c with
    | some d => Nat.digitChar d
    | none => '?'

def isSpace (c : Char) : Bool := c = ' ' || (0x9 ≤ c.toNat && c.toNat ≤ 0xD)

def splitSign : List Char → Bool × List Char
  | '+' :: rest => (false, rest)
  | '-' :: rest => (true, rest)
  | rest => (false, rest)

/-- Whether every underscore of a run of digits and underscores stands between two digits. -/
def underscoresInside : List Char → Bool
  | [] => false
  | ['_'] => false
  | [_] => true
  | '_' :: _ => false
  | _ :: '_' :: rest => underscoresInside rest
  | _ :: rest => underscoresInside rest

def isDigitOrUnderscore (c : Char) : Bool := c.isDigit || c = '_'

def readInteger (s : List Char) : Reading :=
  let (negative, body) := splitSign ((s.map asciiForm).dropWhile isSpace)
  let run := body.takeWhile isDigitOrUnderscore
  let digits := run.filter Char.isDigit
  if !underscoresInside run then .malformed
  else if maxDigits < digits.length then .tooLong digits.length
  else if !(body.dropWhile isDigitOrUnderscore).all isSpace then .malformed
  else
    let magnitude : Int := Nat.ofDigitChars 10 digits 0
    .integer (if negative then -magnitude else magnitude)

def withoutUnderscores? (previousIsDigit : Bool) : List Char → Option (List Char)
  | [] => some []
  | '_' :: c :: rest =>
    if previousIsDigit && c.isDigit then
      (withoutUnderscores? true rest).map fun r => c :: r
    else none
  | ['_'] => none
  | c :: rest => (withoutUnderscores? c.isDigit rest).map fun r => c :: r

def readExponent? : List Char → Option Int
  | [] => some 0
  | mark :: rest =>
    let (negative, digits) := splitSign rest
    if (mark = 'e' || mark = 'E') && !digits.isEmpty && digits.all Char.isDigit then
      let magnitude : Int := Nat.ofDigitChars 10 digits 0
      some (if negative then -magnitude else magnitude)
    else none

def readDecimal? (negative : Bool) (s : List Char) : Option Binary64 :=
  let whole := s.takeWhile Char.isDigit
  let rest := s.dropWhile Char.isDigit
  let (fraction, rest) := match rest with
    | '.' :: tail => (tail.takeWhile Char.isDigit, tail.dropWhile Char.isDigit)
    | tail => ([], tail)
  if whole.isEmpty && fraction.isEmpty then none
  else (readExponent? rest).map fun exponent =>
    Binary64.ofDecimal negative (Nat.ofDigitChars 10 (whole ++ fraction) 0)
      (exponent - fraction.length)

/-- The floating-point number nearest to the one a text shows. Infinities and the number that is
none are read by name, in any case. -/
def readFloat? (s : List Char) : Option Binary64 := do
  let body := Text.trimWhile isSpace (s.map asciiForm)
  let (negative, magnitude) := splitSign (← withoutUnderscores? false body)
  match String.ofList (magnitude.map Char.toLower) with
  | "nan" => some (.nan 0)
  | "inf" => some (.infinite negative)
  | "infinity" => some (.infinite negative)
  | _ => readDecimal? negative magnitude

end Numeral

end SessionTelemetry
