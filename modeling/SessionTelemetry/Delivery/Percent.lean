/-!
# Percent encoding

Characters that a part of an address may not hold are written as their UTF-8 bytes, each as a
percent sign and two hexadecimal digits. Escapes that are there already stay as they are.
-/

namespace SessionTelemetry

namespace Percent

def hexDigit (n : Nat) : Char := (Nat.digitChar n).toUpper

def escapedByte (b : UInt8) : List Char :=
  ['%', hexDigit (b.toNat / 16), hexDigit (b.toNat % 16)]

def escaped (c : Char) : List Char :=
  (String.singleton c).toUTF8.data.toList.flatMap escapedByte

def isHexDigit (c : Char) : Bool :=
  c.isDigit || ('a' ≤ c && c ≤ 'f') || ('A' ≤ c && c ≤ 'F')

/-- A text with every character escaped that is neither safe nor part of an escape. -/
def encode (isSafe : Char → Bool) : List Char → List Char
  | '%' :: a :: b :: rest =>
    if isHexDigit a && isHexDigit b then '%' :: a :: b :: encode isSafe rest
    else (if isSafe '%' then ['%'] else escaped '%') ++ encode isSafe (a :: b :: rest)
  | c :: rest => (if isSafe c then [c] else escaped c) ++ encode isSafe rest
  | [] => []

def isUnreserved (c : Char) : Bool := c.isAlphanum || ['-', '.', '_', '~'].contains c

def isVisibleBut (unsafeOnes : List Char) (c : Char) : Bool :=
  0x20 < c.toNat && c.toNat < 0x7F && !unsafeOnes.contains c

def inQuery : Char → Bool := isVisibleBut ['"', '#', '<', '>']

def inPath : Char → Bool := isVisibleBut ['"', '#', '<', '>', '?', '\x60', '\x7b', '\x7d']

def inFragment : Char → Bool := isVisibleBut ['"', '<', '>', '\x60']

def inUser (c : Char) : Bool :=
  inPath c && !(['/', ';', '=', '@', '[', '\\', ']', '^', '|'].contains c)

def inHost (c : Char) : Bool :=
  isUnreserved c || "!$&'()*+,;=\"\x60\x7b\x7d%|\\".toList.contains c

end Percent

end SessionTelemetry
