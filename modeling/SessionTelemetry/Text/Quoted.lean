import SessionTelemetry.Text.Printable

/-!
# Quoted texts

A quoted text stands between single quotes, or between double quotes when it holds a single quote
and no double one. The quote in use, the backslash and three control characters are escaped by a
letter; other characters that are not printable are escaped by their code in hexadecimal digits.
-/

namespace SessionTelemetry

namespace Text

def hexPadded (width n : Nat) : List Char :=
  let digits := Nat.toDigits 16 n
  List.replicate (width - digits.length) '0' ++ digits

/-- The quote for a text: the single one unless only it would have to be escaped. -/
def quoteFor (hasSingle hasDouble : Bool) : Char :=
  if hasSingle && !hasDouble then '"' else '\''

def commonEscape? (quote c : Char) : Option (List Char) :=
  if c = quote ∨ c = '\\' then some ['\\', c]
  else if c = '\t' then some ['\\', 't']
  else if c = '\n' then some ['\\', 'n']
  else if c = '\r' then some ['\\', 'r']
  else none

def quotedChar (quote c : Char) : List Char :=
  match commonEscape? quote c with
  | some escape => escape
  | none =>
    if isPrintable c then [c]
    else if c.toNat < 0x100 then '\\' :: 'x' :: hexPadded 2 c.toNat
    else if c.toNat < 0x10000 then '\\' :: 'u' :: hexPadded 4 c.toNat
    else '\\' :: 'U' :: hexPadded 8 c.toNat

def quoted (cs : List Char) : List Char :=
  let quote := quoteFor (cs.contains '\'') (cs.contains '"')
  quote :: cs.flatMap (quotedChar quote) ++ [quote]

def quotedByte (quote : Char) (b : UInt8) : List Char :=
  let c := Char.ofNat b.toNat
  match commonEscape? quote c with
  | some escape => escape
  | none => if 0x20 ≤ b ∧ b < 0x7F then [c] else '\\' :: 'x' :: hexPadded 2 b.toNat

def quotedBytes (bs : List UInt8) : List Char :=
  let quote := quoteFor (bs.contains 0x27) (bs.contains 0x22)
  'b' :: quote :: bs.flatMap (quotedByte quote) ++ [quote]

def ofUtf8? (bs : List UInt8) : Option String := String.fromUTF8? (ByteArray.mk bs.toArray)

def toUtf8 (s : String) : List UInt8 := s.toUTF8.data.toList

end Text

end SessionTelemetry
