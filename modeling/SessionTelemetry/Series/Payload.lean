import SessionTelemetry.Json.Basic
import SessionTelemetry.Series.Event
import SessionTelemetry.Value.Numeric

/-!
# Payloads of the time-series backend

A payload holds one series: its name, its columns and one point per row of the event. The time of
capture is read once per event, so that the points of one event agree on it. The number of cells of
a row is not compared with the number of columns.
-/

namespace SessionTelemetry

inductive Cell where
  | text (s : String)
  | int (n : Int)
  | float (x : Binary64)
  | bool (b : Bool)
  deriving DecidableEq, Repr

namespace Cell

/-- The cell that a value is. Bytes must hold UTF-8 text; containers and null are no cells. -/
def ofValue : Value → Except Fault Cell
  | .text s => .ok (text s)
  | .int n => .ok (int n)
  | .float x => .ok (float x)
  | .bool b => .ok (bool b)
  | .bytes bs =>
    match Text.ofUtf8? bs with
    | some s => .ok (text s)
    | none => .error .unencodable
  | _ => .error .unencodable

def toValue : Cell → Value
  | text s => .text s
  | int n => .int n
  | float x => .float x
  | bool b => .bool b

def toJson : Cell → Json
  | text s => .text s
  | int n => .int n
  | float x => .float x
  | bool b => .bool b

end Cell

def nameOfValue (v : Value) : Except Fault String := do
  match ← Cell.ofValue v with
  | .text s => return s
  | _ => throw .unencodable

/-- The source of capture times: readings given in advance, the last of which is repeated, or a
wall clock that shows seconds. -/
inductive CaptureClock where
  | readings (remaining : List Value) (calls : Nat)
  | wall (seconds : Value)

namespace CaptureClock

def calls : CaptureClock → Nat
  | readings _ n => n
  | wall _ => 0

def read : CaptureClock → Except Fault Value × CaptureClock
  | readings (v :: w :: rest) n => (.ok v, readings (w :: rest) (n + 1))
  | readings [v] n => (.ok v, readings [v] (n + 1))
  | readings [] n => (.ok .null, readings [] (n + 1))
  | wall seconds => (seconds.milliseconds.map .int, wall seconds)

end CaptureClock

structure Payload where
  name : String
  columns : List String
  points : List (List Cell)
  deriving DecidableEq, Repr

namespace Payload

def timeColumn : String := "time"

/-- The payload of an event captured at a time, which is absent when the event has none of its
own. -/
def assemble (e : Event) (columns : List Value) (time : Option Value) :
    Except Fault Payload := do
  let stamp := time.toList.filter fun t => !t.isNull
  let points := (← e.rows).map fun row => stamp ++ row
  return {
    name := ← nameOfValue e.name
    columns := ← columns.mapM nameOfValue
    points := ← points.mapM fun point => point.mapM Cell.ofValue }

/-- The payload of an event. The clock is asked once if the event is stored with its capture time,
after its columns have been read, and not at all otherwise. -/
def ofEvent (clock : CaptureClock) (e : Event) : Except Fault Payload × CaptureClock :=
  match e.columns.elements with
  | .error fault => (.error fault, clock)
  | .ok columns =>
    if e.localTime.truthy then
      let (time, clock) := clock.read
      (do assemble e (.text timeColumn :: columns) (some (← time)), clock)
    else (assemble e columns none, clock)

def toJson (p : Payload) : Json :=
  .array [.object [
    ("name", .text p.name),
    ("columns", .array (p.columns.map .text)),
    ("points", .array (p.points.map fun point => .array (point.map Cell.toJson)))]]

def render (p : Payload) : String := p.toJson.render

end Payload

def Event.encode (clock : CaptureClock) (e : Event) : Except Fault String × CaptureClock :=
  let (payload, clock) := Payload.ofEvent clock e
  (payload.map Payload.render, clock)

end SessionTelemetry
