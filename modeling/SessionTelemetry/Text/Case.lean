import SessionTelemetry.Text.CaseTable

/-!
# Upper and lower case of texts

Most characters map one to one. A capital dotted I has a lower-case form of two characters, a
capital sigma becomes a final sigma at the end of a word, and some characters have upper-case forms
of several characters.
-/

namespace SessionTelemetry

namespace Text

/-- Whether the nearest character that is not ignored has a case. -/
def nextIsCased (cs : List Char) : Bool :=
  match cs.dropWhile caseIgnorableRanges.contains with
  | [] => false
  | c :: _ => casedRanges.contains c

/-- The lower-case form of one character between those before it, nearest first, and those after
it. -/
def lowerChar (before : List Char) (c : Char) (after : List Char) : List Char :=
  if c.toNat < 0x80 then [c.toLower]
  else if c = 'Σ' then [if nextIsCased before && !nextIsCased after then 'ς' else 'σ']
  else if c = 'İ' then ['i', '\u0307']
  else [shifted lowerRuns c]

def lowerFrom (before : List Char) : List Char → List Char
  | [] => []
  | c :: rest => lowerChar before c rest ++ lowerFrom (c :: before) rest

def lowerCase (s : String) : String := String.ofList (lowerFrom [] s.toList)

def upperChar (c : Char) : List Char :=
  if c.toNat < 0x80 then [c.toUpper]
  else match upperSequences.lookup c.toNat with
    | some codes => codes.map Char.ofNat
    | none => [shifted upperRuns c]

def upperCase (s : String) : String := String.ofList (s.toList.flatMap upperChar)

end Text

end SessionTelemetry
