import SessionTelemetry.Fault
import SessionTelemetry.Value.Display
import SessionTelemetry.Value.Key

/-!
# Events

An event names a measurement and carries one row of cells, or several rows. Which of the two it is
shows in the first of its values: several rows start with a row. `Event.make` renders every cell,
so that an event made by it holds texts, integers and floats only. There is no event with a cell
that cannot be rendered.
-/

namespace SessionTelemetry

namespace Value

def nullWord : String := "null"

/-- The form in which a cell is stored. An absent value and the two flags become words, texts and
numbers stay, everything else becomes its text. -/
def rendered : Value → Value
  | null => text nullWord
  | bool b => text (if b then "true" else "false")
  | text s => text s
  | int n => int n
  | float x => float x
  | v => text v.display

/-- What keeps a cell from being stored. An integer is stored without being written out. -/
def cellObstacle? : Value → Option Fault
  | int _ => none
  | v => v.obstacle?

def render (v : Value) : Except Fault Value := Fault.guarding v.cellObstacle? v.rendered

/-- The entry at position zero; in a dictionary, the entry under the key zero. -/
def first : Value → Except Fault Value
  | list (v :: _) => .ok v
  | tuple (v :: _) => .ok v
  | text s =>
    match s.toList with
    | c :: _ => .ok (ofChar c)
    | [] => .error .missingEntry
  | bytes (b :: _) => .ok (int b.toNat)
  | dict entries =>
    match entries.find? fun e => e.1.sameAs (int 0) with
    | some e => .ok e.2
    | none => .error .missingEntry
  | list [] => .error .missingEntry
  | tuple [] => .error .missingEntry
  | bytes [] => .error .missingEntry
  | _ => .error .unsuitable

end Value

/-- A measurement with its columns and its values. With `localTime` set, the time of capture is
stored before the cells of each row. -/
structure Event where
  name : Value
  columns : Value
  values : Value
  localTime : Value := .bool true

namespace Event

def create (name columns values localTime : Value) : Except Fault Event :=
  if values.truthy then .ok ⟨name, columns, values, localTime⟩
  else do throw (.emptyEvent (← name.shown))

def isMultipoint (e : Event) : Except Fault Bool := do return (← e.values.first).isRow

def rows (e : Event) : Except Fault (List (List Value)) := do
  if ← e.isMultipoint then (← e.values.elements).mapM Value.elements
  else return [← e.values.elements]

def renderedValues (values : Value) : Except Fault Value := do
  let multipoint ← if values.truthy then do pure (← values.first).isRow else pure false
  let items ← values.elements
  if multipoint then
    let rows ← items.mapM fun row => do (← row.elements).mapM Value.render
    return .tuple (rows.map .tuple)
  else return .tuple (← items.mapM Value.render)

/-- An event whose cells are rendered and whose rows can no longer change. -/
def make (name columns values : Value) (localTime : Value := .bool true) : Except Fault Event := do
  let values ← renderedValues values
  create name (.tuple (← columns.elements)) values localTime

end Event

end SessionTelemetry
