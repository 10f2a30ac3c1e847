import SessionTelemetry.Text.Case
import SessionTelemetry.Value.Numeric

/-!
# Named properties

Settings are read from properties, a mapping of names to values such as the environment. Blanks
around a value do not count, and a blank value counts as absent.
-/

namespace SessionTelemetry

/-- Named values; of two with one name the first counts. -/
abbrev Properties := List (String × Value)

namespace Properties

/-- The trimmed text of a property, unless it is absent or blank. -/
def text? (props : Properties) (name : String) : Option String :=
  match props.lookup name with
  | none => none
  | some .null => none
  | some v =>
    let shown := Text.trimmed v.display
    if shown.isEmpty then none else some shown

def textOrNull (props : Properties) (name : String) : Value :=
  match props.text? name with
  | some s => .text s
  | none => .null

def affirmative : List String := ["1", "true", "yes", "on"]

def flag (props : Properties) (name : String) : Bool :=
  affirmative.contains (Text.lowerCase ((props.text? name).getD "false"))

def number (props : Properties) (name : String) (default : Value)
    (read : Value → Except Fault Value) : Except Fault Value :=
  match props.text? name with
  | none => .ok default
  | some shown =>
    match read (.text shown) with
    | .ok n => .ok n
    | .error _ => .error (.unreadableSetting name shown)

end Properties

end SessionTelemetry
