import SessionTelemetry.Domain.Context
import SessionTelemetry.Domain.Direction
import SessionTelemetry.Domain.Punycode
import SessionTelemetry.Fault
import SessionTelemetry.Text.Composition

/-!
# Names of hosts in all scripts

A name is a row of labels with dots between them. A label of letters, digits and marks of any script
goes over the wire in ASCII, marked by four characters in front.
-/

namespace SessionTelemetry

namespace Label

/-- What stands in front of a label that is written in ASCII although it is not. -/
def marker : List Char := ['x', 'n', '-', '-']

def maxLength : Nat := 63

def checkFrom (before : List Char) : List Char → Except Fault Unit
  | [] => .ok ()
  | c :: rest => do
    if !isPermitted c then
      if isJoiner c && (before.head?.map isNameless).getD false then throw .malformedLabel
      match fitsBetween? before c rest with
      | none => throw .forbiddenCharacter
      | some fits => if !fits then throw .misplacedCharacter
    checkFrom (c :: before) rest

/-- Whether the hyphens of a label are neither at its ends nor where the marker has them. -/
def hyphensFit (label : List Char) : Bool :=
  (label.drop 2).take 2 != ['-', '-'] && label.head? != some '-' && label.getLast? != some '-'

def check (label : List Char) : Except Fault Unit := do
  let beginsAnew := (label.head?.map fun c => !Text.isMark c).getD false
  if !beginsAnew || !Text.isComposed label || !hyphensFit label then throw .malformedLabel
  checkFrom [] label
  if !directionsAgree label then throw .mixedDirections

def isAscii (s : List Char) : Bool := s.all fun c => c.toNat < 0x80

/-- Checks a label, and what it stands for if it is marked. -/
def checkRead (label : List Char) : Except Fault Unit :=
  if marker.isPrefixOf label then
    let written := label.drop marker.length
    if written.isEmpty || written.getLast? == some '-' then .error .malformedLabel
    else match Punycode.decode? written with
      | some label => check label
      | none => .error .malformedLabel
  else check label

def toAscii (label : List Char) : Except Fault (List Char) := do
  let written ← if isAscii label then do checkRead label; pure label
    else do check label; pure (marker ++ Punycode.encode label)
  if maxLength < written.length then throw .malformedLabel
  return written

end Label

namespace DomainName

def maxLength : Nat := 253

def isDot (c : Char) : Bool := [0x2E, 0x3002, 0xFF0E, 0xFF61].contains c.toNat

def labels (name : List Char) : List (List Char) × Bool :=
  let parts := name.splitOnP isDot
  if parts.getLast? == some [] then (parts.dropLast, true) else (parts, false)

def check (name : List Char) : Except Fault Unit := do
  if maxLength + 1 < name.length then throw .malformedLabel
  (labels name).1.forM Label.checkRead

def toAscii (name : List Char) : Except Fault (List Char) := do
  if maxLength + 1 < name.length then throw .malformedLabel
  let (parts, isRooted) := labels name
  let written ← parts.mapM Label.toAscii
  let text := List.intercalate ['.'] (if isRooted then written ++ [[]] else written)
  if maxLength + isRooted.toNat < text.length then throw .malformedLabel
  return text

end DomainName

end SessionTelemetry
