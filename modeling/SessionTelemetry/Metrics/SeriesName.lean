import SessionTelemetry.Fault
import SessionTelemetry.Text.Blank
import SessionTelemetry.Value.Basic

/-!
# Names of exposed series

A metric may have any name; an exposed series has one of ASCII letters, digits and underscores that
does not start with a digit. Every run of other characters becomes one underscore, underscores at
the ends are dropped, and letters are written small.
-/

namespace SessionTelemetry

namespace SeriesName

def isNameChar (c : Char) : Bool := c.isAlphanum || c = '_'

/-- Replaces every run of characters that may not be in a name by an underscore. -/
def collapse (insideRun : Bool) : List Char → List Char
  | [] => []
  | c :: rest =>
    if isNameChar c then c :: collapse false rest
    else if insideRun then collapse true rest
    else '_' :: collapse true rest

/-- What is kept of a name, without underscores at its ends and with small letters. -/
def body (s : List Char) : List Char :=
  (Text.trimWhile (· == '_') (collapse false (Text.trimWhile Text.isBlank s))).map Char.toLower

def ofChars (s : List Char) : List Char :=
  match body s with
  | [] => "unnamed".toList
  | c :: rest => if c.isDigit then '_' :: c :: rest else c :: rest

def ofText (s : String) : String := String.ofList (ofChars s.toList)

/-- The series name of a metric named by any value; only a text will do. -/
def ofValue : Value → Except Fault String
  | .text s => .ok (ofText s)
  | .bytes _ => .error .unsuitable
  | _ => .error .absentMember

end SeriesName

end SessionTelemetry
