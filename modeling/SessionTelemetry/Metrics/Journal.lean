import SessionTelemetry.Metrics.Outcome
import SessionTelemetry.Metrics.Stopwatch
import SessionTelemetry.Record
import SessionTelemetry.Settings.Properties

/-!
# The publisher that writes a log

Every write becomes a record of one logger at one level. A level is given as a number or by name;
nothing is recorded at a level of zero or below.
-/

namespace SessionTelemetry

structure JournalPublisher where
  logger : String := "mediatel.metrics.published"
  level : Int := Record.infoLevel
  transactions : Stopwatch := {}

namespace JournalPublisher

def levelNames : List (String × Int) :=
  [("CRITICAL", 50), ("FATAL", 50), ("ERROR", 40), ("WARN", 30), ("WARNING", 30), ("INFO", 20),
   ("DEBUG", 10), ("NOTSET", 0)]

/-- The level that a value means: a number, or the name of a level in any case. -/
def levelOf : Value → Except Fault Int
  | .text s =>
    let name := Text.upperCase s
    match levelNames.lookup name with
    | some level => .ok level
    | none => (Value.text s!"Level {name}").toInteger
  | v => v.toInteger

def ofConfig (config : Properties) : Except Fault JournalPublisher := do
  let logger ← ((config.lookup "logger_name").getD (.text "mediatel.metrics.published")).shown
  let level ← levelOf ((config.lookup "level").getD (.int Record.infoLevel))
  return { logger, level }

/-- The name under which records of the logger appear; the logger without a name is the root. -/
def recordName (j : JournalPublisher) : String := if j.logger = "" then "root" else j.logger

def note (j : JournalPublisher) (text : Except Fault String) : List Record :=
  if 0 < j.level then [⟨j.recordName, j.level, text, none⟩] else []

def durationText (type id seconds : Value) : Except Fault String := do
  let measured := s!"transaction {← type.shown}[{← id.shown}]"
  let x ← seconds.numberAsFloat
  return s!"{measured} took {String.ofList (x.fixed 3)}s"

def publish (j : JournalPublisher) (moment : Moment) :
    MetricCall → Except Fault Reply × JournalPublisher × List Record
  | .numeric name value =>
    (.ok .ok, j, j.note do return s!"metric {← name.shown}={← value.shown}")
  | .string name value =>
    (.ok .ok, j, j.note do return s!"metric {← name.shown}={← value.quoted}")
  | .incremental name delta =>
    let text := do return s!"metric {← name.shown}+={← (delta.getD (.int 1)).wholeText}"
    (.ok .ok, j, j.note text)
  | .start type id =>
    match j.transactions.start type id moment with
    | .ok w => (.ok .ok, { j with transactions := w }, [])
    | .error fault => (.error fault, j, [])
  | .finish type id =>
    let (stopped, w) := j.transactions.stop type id moment
    let j := { j with transactions := w }
    match stopped with
    | .error fault => (.error fault, j, [])
    | .ok none => (.ok .ok, j, [])
    | .ok (some seconds) => (.ok .ok, j, j.note (durationText type id seconds))

end JournalPublisher

end SessionTelemetry
