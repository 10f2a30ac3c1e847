import SessionTelemetry.Number.Binary64

/-!
# The decimal text of a floating-point number

The digits written are the fewest that read back to the same number, and of those the nearest to
it. They are searched on the decimal grids from one digit upwards, with exact integer arithmetic.
How digits are laid out (where positional form ends, how an exponent is written) is a value of
`DecimalStyle`; the texts shown to people and those of the payload differ in it.
-/

namespace SessionTelemetry

structure Decimal where
  digits : Nat
  exponent : Int
  deriving DecidableEq, Repr

namespace Decimal

def compareScaled (d : Decimal) (m : Nat) (e : Int) : Ordering :=
  compare (d.digits * tenTo d.exponent.toNat * twoTo (-e).toNat)
    (m * twoTo e.toNat * tenTo (-d.exponent).toNat)

/-- Whether a decimal lies among the reals that round to `m * 2 ^ e`. They reach half way to both
neighbours, the ends included when `m` is even. Below a power of two the gap is half as wide. -/
def readsBack (d : Decimal) (m : Nat) (e : Int) : Bool :=
  let narrow := m = twoTo 52 ∧ Binary64.minExponent < e
  let low := if narrow then 4 * m - 1 else 4 * m - 2
  let atLow := d.compareScaled low (e - 2)
  let atHigh := d.compareScaled (4 * m + 2) (e - 2)
  let closed := m % 2 = 0
  (atLow == .gt || (closed && atLow == .eq)) && (atHigh == .lt || (closed && atHigh == .eq))

/-- The two neighbours of `m * 2 ^ e` on the grid of spacing `10 ^ exponent`. -/
def neighbours (m : Nat) (e exponent : Int) : Decimal × Decimal :=
  let below :=
    m * twoTo e.toNat * tenTo (-exponent).toNat / (twoTo (-e).toNat * tenTo exponent.toNat)
  (⟨below, exponent⟩, ⟨below + 1, exponent⟩)

/-- The neighbour on the grid that reads back, the nearer one if both do and the even one on a
tie. -/
def onGrid? (m : Nat) (e exponent : Int) : Option Decimal :=
  let (below, above) := neighbours m e exponent
  match below.readsBack m e, above.readsBack m e with
  | false, false => none
  | true, false => some below
  | false, true => some above
  | true, true =>
    match compareScaled ⟨below.digits + above.digits, exponent⟩ (2 * m) e with
    | .gt => some below
    | .lt => some above
    | .eq => some (if below.digits % 2 = 0 then below else above)

/-- The least `k` with `m * 2 ^ e < 10 ^ k`, found by counting up from an estimate below it. -/
def scale (m : Nat) (e : Int) : Int :=
  let estimate := ((m.log2 : Int) + e) * 30103 / 100000 - 1
  let candidates := (List.range 5).map fun (i : Nat) => estimate + i
  (candidates.find? fun k => compareScaled ⟨1, k⟩ m e == .gt).getD (estimate + 5)

def exact (m : Nat) (e : Int) : Decimal :=
  if 0 ≤ e then ⟨m * twoTo e.toNat, 0⟩ else ⟨m * Nat.pow 5 (-e).toNat, e⟩

def strip (d : Decimal) (fuel : Nat) : Decimal :=
  match fuel with
  | 0 => d
  | fuel + 1 =>
    if d.digits ≠ 0 ∧ d.digits % 10 = 0 then strip ⟨d.digits / 10, d.exponent + 1⟩ fuel else d

def shortest (m : Nat) (e : Int) : Decimal :=
  let k := scale m e
  let grids := (List.range 17).map fun (n : Nat) => k - (n + 1)
  let d := (grids.findSome? (onGrid? m e)).getD (exact m e)
  d.strip 20

end Decimal

structure DecimalStyle where
  /-- Exponents from here on are written positionally. -/
  plainFrom : Int
  plainBelow : Int
  exponentWidth : Nat

namespace DecimalStyle

/-- The style of texts for people: positional below `10 ^ 16` and from `10 ^ -4`, exponents of two
digits or more. -/
def plain : DecimalStyle := ⟨-4, 16, 2⟩

/-- The style of payload numbers: positional down to `10 ^ -5`, exponents without padding. -/
def payload : DecimalStyle := ⟨-5, 16, 1⟩

def padded (width : Nat) (digits : List Char) : List Char :=
  List.replicate (width - digits.length) '0' ++ digits

/-- Digits and a point, or a leading digit and an exponent with its sign. A number written
positionally always shows a digit after the point. -/
def layout (style : DecimalStyle) (d : Decimal) : List Char :=
  let digits := Nat.toDigits 10 d.digits
  let leading := d.exponent + digits.length - 1
  if style.plainFrom ≤ leading ∧ leading < style.plainBelow then
    if 0 ≤ d.exponent then digits ++ List.replicate d.exponent.toNat '0' ++ ['.', '0']
    else if 0 ≤ leading then
      digits.take (leading.toNat + 1) ++ '.' :: digits.drop (leading.toNat + 1)
    else '0' :: '.' :: List.replicate (-leading - 1).toNat '0' ++ digits
  else
    let mantissa := match digits with
      | [only] => [only]
      | first :: rest => first :: '.' :: rest
      | [] => []
    mantissa ++ 'e' :: (if leading < 0 then '-' else '+') ::
      padded style.exponentWidth (Nat.toDigits 10 leading.natAbs)

end DecimalStyle

namespace Binary64

def render (style : DecimalStyle) : Binary64 → List Char
  | nan _ => ['n', 'a', 'n']
  | infinite negative => if negative then ['-', 'i', 'n', 'f'] else ['i', 'n', 'f']
  | finite negative m e =>
    let magnitude := style.layout (if m = 0 then ⟨0, 0⟩ else Decimal.shortest m e)
    if negative then '-' :: magnitude else magnitude

/-- The text with a set number of places after the point. The exact value is rounded, a half to the
even last digit. -/
def fixed (places : Nat) : Binary64 → List Char
  | nan _ => ['n', 'a', 'n']
  | infinite negative => if negative then ['-', 'i', 'n', 'f'] else ['i', 'n', 'f']
  | finite negative m e =>
    let units := roundedQuotient (m * twoTo e.toNat * tenTo places) (twoTo (-e).toNat)
    let digits := DecimalStyle.padded (places + 1) (Nat.toDigits 10 units)
    let whole := digits.length - places
    let text := digits.take whole ++ (if places = 0 then [] else '.' :: digits.drop whole)
    if negative then '-' :: text else text

end Binary64

end SessionTelemetry
