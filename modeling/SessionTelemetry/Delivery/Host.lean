import SessionTelemetry.Delivery.Percent
import SessionTelemetry.Domain.Name
import SessionTelemetry.Fault
import SessionTelemetry.Text.Case

/-!
# Hosts of addresses

A host is a numeric address of one of two kinds or a name. Whatever looks numeric must be a numeric
address; names are written in small letters, and in ASCII where their letters are from other
scripts.
-/

namespace SessionTelemetry

namespace Host

def split (separator : Char) (s : List Char) : List (List Char) := s.splitOn separator

def isDigits (s : List Char) : Bool := !s.isEmpty && s.all Char.isDigit

def looksNumeric (s : List Char) : Bool :=
  let parts := split '.' s
  parts.length == 4 && parts.all isDigits

def isOctet (s : List Char) : Bool :=
  isDigits s && s.length ≤ 3 && (s.length == 1 || s.head? != some '0') &&
    Nat.ofDigitChars 10 s 0 ≤ 255

def isQuad (s : List Char) : Bool :=
  let parts := split '.' s
  parts.length == 4 && parts.all isOctet

def isGroup (s : List Char) : Bool :=
  !s.isEmpty && s.length ≤ 4 && s.all Percent.isHexDigit

/-- Counts the groups on one side of a gap: all of them, or none where there is only the empty part
before the colon at the end of the address. -/
def sideCount? : List (List Char) → Option Nat
  | [[]] => some 0
  | parts => if parts.all isGroup then some parts.length else none

/-- Eight groups with colons between them; two colons in a row stand for one or more of them, and
four octets may take the place of the last two. -/
def isGroups (s : List Char) : Bool :=
  let parts := split ':' s
  let parts := match parts.getLast? with
    | some last => if isQuad last then parts.dropLast ++ [['0'], ['0']] else parts
    | none => parts
  let inner := (parts.drop 1).dropLast
  match inner.idxOf? [] with
  | none => parts.length == 8 && parts.all isGroup
  | some i =>
    match sideCount? (parts.take (i + 1)), sideCount? (parts.drop (i + 2)) with
    | some near, some far => near + far ≤ 7
    | _, _ => false

def isZoned (s : List Char) : Bool :=
  let zone := s.dropWhile (· != '%')
  isGroups (s.takeWhile (· != '%')) && zone != ['%'] && !(zone.drop 1).contains '%'

def isBracketed (s : List Char) : Bool :=
  s.head? == some '[' && s.getLast? == some ']' && 2 ≤ s.length

def normal (s : List Char) : Except Fault (List Char) :=
  if looksNumeric s then if isQuad s then .ok s else .error .malformedAddress
  else if isBracketed s then
    let inner := (s.drop 1).dropLast
    if isZoned inner then .ok inner else .error .malformedAddress
  else if Label.isAscii s then .ok (Percent.encode Percent.inHost (s.map Char.toLower))
  else match DomainName.toAscii (Text.lowerCase (String.ofList s)).toList with
    | .ok name => .ok name
    | .error _ => .error .malformedAddress

/-- Checks that a host in its normal form can be asked for a request: it must be ASCII, and a name
that begins with a marked label must be a valid one. -/
def checkSendable (host : List Char) : Except Fault Unit :=
  if !Label.isAscii host then .error .hostNotAscii
  else if Label.marker.isPrefixOf host then DomainName.check host
  else .ok ()

end Host

end SessionTelemetry
