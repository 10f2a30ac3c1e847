import SessionTelemetry.Json.Basic
import SessionTelemetry.Number.Numeral

/-!
# Reading JSON documents

The reader takes any JSON text; of two members with one name both are kept. An escape that names
one half of a surrogate pair without the other reads as the replacement character.
-/

namespace SessionTelemetry

namespace Json

def skipSpace (s : List Char) : List Char :=
  s.dropWhile fun c => c = ' ' || c = '\n' || c = '\r' || c = '\t'

def hexValue? (c : Char) : Option Nat :=
  let n := c.toNat
  if 0x30 ≤ n ∧ n ≤ 0x39 then some (n - 0x30)
  else if 0x41 ≤ n ∧ n ≤ 0x46 then some (n - 0x37)
  else if 0x61 ≤ n ∧ n ≤ 0x66 then some (n - 0x57)
  else none

def unit? (a b c d : Char) : Option Nat := do
  return (((← hexValue? a) * 16 + (← hexValue? b)) * 16 + (← hexValue? c)) * 16 + (← hexValue? d)

def replacement : Char := '\ufffd'

/-- What is left of a high surrogate that no low one follows. -/
def unpaired (high : Option Nat) : List Char := if high.isSome then [replacement] else []

def unitChars (high : Option Nat) (unit : Nat) : List Char :=
  if 0xDC00 ≤ unit ∧ unit < 0xE000 then
    match high with
    | some h => [Char.ofNat (0x10000 + (h - 0xD800) * 0x400 + (unit - 0xDC00))]
    | none => [replacement]
  else unpaired high ++ [Char.ofNat unit]

def simpleEscape? (c : Char) : Option Char :=
  if c = '"' ∨ c = '\\' ∨ c = '/' then some c
  else if c = 'n' then some '\n'
  else if c = 'r' then some '\r'
  else if c = 't' then some '\t'
  else if c = 'b' then some (Char.ofNat 8)
  else if c = 'f' then some (Char.ofNat 12)
  else none

def readText (high : Option Nat) : List Char → Option (List Char × List Char)
  | [] => none
  | '"' :: rest => some (unpaired high, rest)
  | '\\' :: 'u' :: a :: b :: c :: d :: rest => do
    let unit ← unit? a b c d
    if 0xD800 ≤ unit ∧ unit < 0xDC00 then
      let (cs, tail) ← readText (some unit) rest
      return (unpaired high ++ cs, tail)
    else
      let (cs, tail) ← readText none rest
      return (unitChars high unit ++ cs, tail)
  | '\\' :: e :: rest => do
    let c ← simpleEscape? e
    let (cs, tail) ← readText none rest
    return (unpaired high ++ c :: cs, tail)
  | c :: rest =>
    if c = '\\' ∨ c.toNat < 0x20 then none
    else do
      let (cs, tail) ← readText none rest
      return (unpaired high ++ c :: cs, tail)

def isNumberChar (c : Char) : Bool :=
  c.isDigit || c = '-' || c = '+' || c = '.' || c = 'e' || c = 'E'

/-- The number with a magnitude: an integer without a leading zero, or a number with a fraction or
an exponent. -/
def signed? (negative : Bool) (magnitude : List Char) : Option Json :=
  let whole := magnitude.takeWhile Char.isDigit
  if whole.isEmpty || (whole.head? = some '0' && 1 < whole.length) then none
  else if magnitude.length = whole.length then
    let n : Int := Nat.ofDigitChars 10 whole 0
    some (int (if negative then -n else n))
  else (Numeral.readDecimal? negative magnitude).map float

def numberOf? : List Char → Option Json
  | '-' :: magnitude => signed? true magnitude
  | magnitude => signed? false magnitude

def literal? (word : List Char) (value : Json) (s : List Char) : Option (Json × List Char) :=
  if word.isPrefixOf s then some (value, s.drop word.length) else none

mutual

/-- Reads one value. The fuel bounds the nesting and the length of what is read. -/
def readValue : Nat → List Char → Option (Json × List Char)
  | 0, _ => none
  | fuel + 1, s =>
    match skipSpace s with
    | '"' :: rest => (readText none rest).map fun (cs, tail) => (text (String.ofList cs), tail)
    | '[' :: rest =>
      match skipSpace rest with
      | ']' :: tail => some (array [], tail)
      | body => (readItems fuel body).map fun (items, tail) => (array items, tail)
    | '{' :: rest =>
      match skipSpace rest with
      | '}' :: tail => some (object [], tail)
      | body => (readMembers fuel body).map fun (members, tail) => (object members, tail)
    | 'n' :: rest => literal? ['u', 'l', 'l'] null rest
    | 't' :: rest => literal? ['r', 'u', 'e'] (bool true) rest
    | 'f' :: rest => literal? ['a', 'l', 's', 'e'] (bool false) rest
    | body => (numberOf? (body.takeWhile isNumberChar)).map fun n =>
        (n, body.dropWhile isNumberChar)

def readItems : Nat → List Char → Option (List Json × List Char)
  | 0, _ => none
  | fuel + 1, s => do
    let (item, rest) ← readValue fuel s
    match skipSpace rest with
    | ',' :: more =>
      let (items, tail) ← readItems fuel more
      return (item :: items, tail)
    | ']' :: tail => return ([item], tail)
    | _ => none

def readMembers : Nat → List Char → Option (List (String × Json) × List Char)
  | 0, _ => none
  | fuel + 1, s =>
    match skipSpace s with
    | '"' :: inside => do
      let (name, afterName) ← readText none inside
      match skipSpace afterName with
      | ':' :: rest =>
        let (value, rest) ← readValue fuel rest
        match skipSpace rest with
        | ',' :: more =>
          let (members, tail) ← readMembers fuel more
          return ((String.ofList name, value) :: members, tail)
        | '}' :: tail => return ([(String.ofList name, value)], tail)
        | _ => none
      | _ => none
    | _ => none

end

def read? (s : List Char) : Option Json :=
  match readValue (s.length + 1) s with
  | some (value, rest) => if (skipSpace rest).isEmpty then some value else none
  | none => none

def member? (j : Json) (name : String) : Option Json :=
  match j with
  | object members => members.lookup name
  | _ => none

end Json

end SessionTelemetry
