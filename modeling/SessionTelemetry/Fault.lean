import SessionTelemetry.Text.Quoted

/-!
# Faults

Everything that can go wrong is a cause of its own, and the wording of the causes that have one is
in `Fault.message?`. Faults raised by code outside the library (the session model, a publisher, a
client) are carried unchanged; all that matters of them is how the library treats them.
-/

namespace SessionTelemetry

/-- How a fault from outside is treated where the library tells faults apart. -/
inductive Treatment where
  /-- A failure of the operating system, expected where a transport is set up. -/
  | system
  | unsupported
  | absent
  | request
  /-- A value that could not be used although its type was right. -/
  | badValue
  | ordinary
  deriving DecidableEq, Repr

inductive Fault where
  | missingSetting (setting : String)
  | unreadableSetting (setting shown : String)
  | unknownPolicy (setting shown : String)
  | boundBelowOne (setting shown : String)
  | requestFailed (reason : String)
  | refusedStatus (code : Int)
  | undelivered (reason : String)
  | blankPublisherId
  | unknownPublisherId (shown : String)
  | emptyEvent (name : String)
  | noWorkers
  | noQueue
  | notInteger (quoted : String)
  | notNumber (quoted : String)
  | tooManyDigits (count : Nat)
  | unwritableInteger
  | integerOfNan
  | negativeIncrement
  | incompleteAddress (quoted : String)
  | duplicateSeries (names : List String)
  /-- An entry of a run of pairs, by its place, that has another number of parts than two. -/
  | notPair (place parts : Nat)
  | instrumentRefused (kind : String)
  | measurementRefused (operation kind : String)
  | foreign (treatment : Treatment) (label message : String)
  /-- A value of a type that the operation does not take. -/
  | unsuitable
  | absentMember
  | tooShort
  | tooLarge
  | missingEntry
  | unencodable
  | malformedAddress
  | malformedLabel
  | forbiddenCharacter
  | misplacedCharacter
  | mixedDirections
  | hostNotAscii
  | badOptions
  deriving DecidableEq, Repr

namespace Fault

/-- The wording of a fault; the last causes have none of their own. -/
def message? : Fault → Option String
  | missingSetting setting => some s!"Required property not set: {setting}"
  | unreadableSetting setting shown => some s!"Invalid value for {setting}: '{shown}'"
  | unknownPolicy setting shown => some s!"Unknown {setting} policy '{shown}'"
  | boundBelowOne setting shown => some s!"{setting} must be >= 1, got {shown}"
  | requestFailed reason => some s!"Failed to post series payload: {reason}"
  | refusedStatus code => some s!"HTTP response code: {code}"
  | undelivered reason => some reason
  | blankPublisherId => some "Metric publisher id must be non-empty"
  | unknownPublisherId shown => some s!"Unknown metric publisher '{shown}'"
  | emptyEvent name => some s!"Event '{name}' must carry at least one value"
  | noWorkers => some "max_workers must be >= 1"
  | noQueue => some "max_queue_size must be >= 1"
  | notInteger quoted => some s!"invalid literal for int() with base 10: {quoted}"
  | notNumber quoted => some s!"could not convert string to float: {quoted}"
  | tooManyDigits count => some <|
      "Exceeds the limit (4300 digits) for integer string conversion: value has " ++
        s!"{count} digits; use sys.set_int_max_str_digits() to increase the limit"
  | unwritableInteger => some <|
      "Exceeds the limit (4300 digits) for integer string conversion; " ++
        "use sys.set_int_max_str_digits() to increase the limit"
  | integerOfNan => some "cannot convert float NaN to integer"
  | negativeIncrement => some "Counters can only be incremented by non-negative amounts."
  | incompleteAddress quoted => some s!"unknown url type: {quoted}"
  | duplicateSeries names => some <|
      "Duplicated timeseries in CollectorRegistry: \x7b" ++
        ", ".intercalate (names.map fun n => String.ofList (Text.quoted n.toList)) ++ "\x7d"
  | notPair place parts => some <|
      s!"dictionary update sequence element #{place} has length {parts}; 2 is required"
  | instrumentRefused kind => some s!"no {kind}"
  | measurementRefused operation kind => some s!"{operation} {kind}"
  | foreign _ _ message => some message
  | badOptions => some "2"
  | _ => none

def of? {α : Type} : Except Fault α → Option Fault
  | .ok _ => none
  | .error fault => some fault

/-- A result that an obstacle may keep from being reached. -/
def guarding {α : Type} (obstacle? : Option Fault) (result : α) : Except Fault α :=
  match obstacle? with
  | none => .ok result
  | some fault => .error fault

def isSetting : Fault → Bool
  | missingSetting _ => true
  | unreadableSetting _ _ => true
  | unknownPolicy _ _ => true
  | boundBelowOne _ _ => true
  | _ => false

def setting? : Fault → Option String
  | missingSetting setting => some setting
  | unreadableSetting setting _ => some setting
  | unknownPolicy setting _ => some setting
  | boundBelowOne setting _ => some setting
  | _ => none

def isDelivery : Fault → Bool
  | requestFailed _ => true
  | refusedStatus _ => true
  | undelivered _ => true
  | _ => false

def isBadValue : Fault → Bool
  | emptyEvent _ => true
  | noWorkers => true
  | noQueue => true
  | notInteger _ => true
  | notNumber _ => true
  | tooManyDigits _ => true
  | unwritableInteger => true
  | integerOfNan => true
  | negativeIncrement => true
  | duplicateSeries _ => true
  | notPair _ _ => true
  | foreign .badValue _ _ => true
  | _ => false

def isSystem : Fault → Bool
  | foreign .system _ _ => true
  | _ => false

def isUnsupported : Fault → Bool
  | foreign .unsupported _ _ => true
  | _ => false

def isRequest : Fault → Bool
  | foreign .request _ _ => true
  | _ => false

def isAbsent : Fault → Bool
  | absentMember => true
  | foreign .absent _ _ => true
  | _ => false

end Fault

end SessionTelemetry
