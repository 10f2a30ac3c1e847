/-!
# Letters of all scripts in ASCII

A label is written as its ASCII characters and, after a hyphen, where the others are to be inserted.
They are inserted in the order of their code points; each is given as the number of places to pass
since the one before, counting a round through the text for every code point passed over. Numbers
are written in base 36 with the least digit first, and a digit below a threshold ends a number. The
thresholds follow the size of the numbers before.
-/

namespace SessionTelemetry

namespace Punycode

def base : Nat := 36

def firstCode : Nat := 0x80

def firstBias : Nat := 72

def threshold (bias place : Nat) : Nat := min 26 (max 1 (base * (place + 1) - bias))

/-- Halves a number by 35 until it is small; the result grows with the halvings. -/
def biasOf (delta : Nat) : Nat :=
  if 455 < delta then biasOf (delta / 35) + base else base * delta / (delta + 38)
termination_by delta

/-- The bias after a number, which is the first one or a later one, for a text of some length. -/
def adapt (delta : Nat) (isFirst : Bool) (length : Nat) : Nat :=
  let part := if isFirst then delta / 700 else delta / 2
  biasOf (part + part / length)

def digitChar (n : Nat) : Char := Char.ofNat (if n < 26 then 'a'.toNat + n else '0'.toNat + n - 26)

def digitValue? (c : Char) : Option Nat :=
  if c.isLower then some (c.toNat - 'a'.toNat)
  else if c.isUpper then some (c.toNat - 'A'.toNat)
  else if c.isDigit then some (c.toNat - '0'.toNat + 26)
  else none

/-! ## Writing -/

def numberFrom (bias n place : Nat) : Nat → List Char
  | 0 => []
  | fuel + 1 =>
    let t := threshold bias place
    if n < t then [digitChar n]
    else digitChar (t + (n - t) % (base - t)) ::
      numberFrom bias ((n - t) / (base - t)) (place + 1) fuel

def number (bias n : Nat) : List Char := numberFrom bias n 0 (n + 1)

structure Progress where
  code : Nat := firstCode
  bias : Nat := firstBias
  /-- The places passed since the last number. -/
  delta : Nat := 0
  /-- The number of characters that are written. -/
  count : Nat
  isFirst : Bool := true
  written : List Char := []

def Progress.pass (p : Progress) (c : Char) : Progress :=
  if c.toNat < p.code then { p with delta := p.delta + 1 }
  else if c.toNat = p.code then
    { p with
      written := p.written ++ number p.bias p.delta
      bias := adapt p.delta p.isFirst (p.count + 1)
      delta := 0, count := p.count + 1, isFirst := false }
  else p

def Progress.round (text : List Char) (p : Progress) (code : Nat) : Progress :=
  let p := { p with delta := p.delta + (code - p.code) * (p.count + 1), code }
  let p := text.foldl Progress.pass p
  { p with delta := p.delta + 1, code := code + 1 }

/-- The code points to insert, each once, in ascending order. -/
def codes (text : List Char) : List Nat :=
  (((text.map Char.toNat).filter fun n => firstCode ≤ n).mergeSort fun a b => a ≤ b).eraseDups

def encode (text : List Char) : List Char :=
  let plain := text.filter fun c => c.toNat < firstCode
  let p := (codes text).foldl (Progress.round text) { count := plain.length }
  (if plain.isEmpty then [] else plain ++ ['-']) ++ p.written

/-! ## Reading -/

def readNumber? (bias place weight sum : Nat) : List Char → Option (Nat × List Char)
  | [] => none
  | c :: rest => do
    let digit ← digitValue? c
    let sum := sum + digit * weight
    let t := threshold bias place
    if digit < t then return (sum, rest)
    else readNumber? bias (place + 1) (weight * (base - t)) sum rest

def lastCode : Nat := 0x10FFFF

/-- Inserts characters as the numbers say. The next place is counted from the start of the text. A
code point that is no character comes out as the null character. -/
def insertFrom? (code place bias : Nat) (isFirst : Bool) (text digits : List Char) :
    Nat → Option (List Char)
  | 0 => some text
  | fuel + 1 =>
    if digits.isEmpty then some text
    else do
      let (delta, rest) ← readNumber? bias 0 1 0 digits
      let length := text.length + 1
      let code := code + (place + delta) / length
      let place := (place + delta) % length
      if lastCode < code then none
      else
        let text := text.take place ++ Char.ofNat code :: text.drop place
        insertFrom? code (place + 1) (adapt delta isFirst length) false text rest fuel

/-- The text that is written in ASCII, if it is well written. A hyphen with nothing in front
separates nothing, so it is not. -/
def decode? (written : List Char) : Option (List Char) :=
  let digits := (written.reverse.takeWhile (· != '-')).reverse
  let separated := written.take (written.length - digits.length)
  if separated = ['-'] then none
  else insertFrom? firstCode 0 firstBias true separated.dropLast digits digits.length

end Punycode

end SessionTelemetry
