import SessionTelemetry.Number.Shortest

/-!
# JSON documents and their compact text

Members keep their order. Integers and floats are numbers of two kinds: a float is always written
with a point or an exponent, and one that is not finite is written as null.
-/

namespace SessionTelemetry

inductive Json where
  | null
  | bool (b : Bool)
  | int (n : Int)
  | float (x : Binary64)
  | text (s : String)
  | array (items : List Json)
  | object (members : List (String × Json))
  deriving Inhabited

namespace Json

def hexDigit (n : Nat) : Char := Nat.digitChar (n % 16)

/-- A character inside quotes: quote, backslash and control characters are escaped, all others
stand for themselves. -/
def escaped (c : Char) : List Char :=
  if c = '"' then ['\\', '"']
  else if c = '\\' then ['\\', '\\']
  else if c = '\n' then ['\\', 'n']
  else if c = '\r' then ['\\', 'r']
  else if c = '\t' then ['\\', 't']
  else if c.toNat = 8 then ['\\', 'b']
  else if c.toNat = 12 then ['\\', 'f']
  else if c.toNat < 0x20 then ['\\', 'u', '0', '0', hexDigit (c.toNat / 16), hexDigit c.toNat]
  else [c]

def writeText (cs : List Char) : List Char := '"' :: cs.flatMap escaped ++ ['"']

def writeInt (n : Int) : List Char :=
  if n < 0 then '-' :: Nat.toDigits 10 n.natAbs else Nat.toDigits 10 n.natAbs

def writeFloat (x : Binary64) : List Char :=
  match x with
  | .finite _ _ _ => x.render .payload
  | _ => ['n', 'u', 'l', 'l']

mutual

def write : Json → List Char
  | null => ['n', 'u', 'l', 'l']
  | bool true => ['t', 'r', 'u', 'e']
  | bool false => ['f', 'a', 'l', 's', 'e']
  | int n => writeInt n
  | float x => writeFloat x
  | text s => writeText s.toList
  | array items => '[' :: writeItems items
  | object members => '{' :: writeMembers members

def writeItems : List Json → List Char
  | [] => [']']
  | item :: rest => write item ++ writeFurtherItems rest

def writeFurtherItems : List Json → List Char
  | [] => [']']
  | item :: rest => ',' :: write item ++ writeFurtherItems rest

def writeMembers : List (String × Json) → List Char
  | [] => ['}']
  | (name, value) :: rest =>
    writeText name.toList ++ ':' :: write value ++ writeFurtherMembers rest

def writeFurtherMembers : List (String × Json) → List Char
  | [] => ['}']
  | (name, value) :: rest =>
    ',' :: writeText name.toList ++ ':' :: write value ++ writeFurtherMembers rest

end

def render (j : Json) : String := String.ofList j.write

mutual

def ordered : Json → Json
  | array items => array (orderedItems items)
  | object members => object ((orderedMembers members).mergeSort fun a b => a.1 ≤ b.1)
  | j => j

def orderedItems : List Json → List Json
  | [] => []
  | item :: rest => ordered item :: orderedItems rest

def orderedMembers : List (String × Json) → List (String × Json)
  | [] => []
  | (name, value) :: rest => (name, ordered value) :: orderedMembers rest

end

end Json

end SessionTelemetry
