import SessionTelemetry.Fault
import SessionTelemetry.Number.Binary64

/-!
# Values of cells, identifiers and metrics

The session model and the callers of the metric interface hand over values of any type; what
happens to one depends on its type. Numbers are integers of any size or binary floating-point
numbers. A reference names an object of the session model, or a collector registry or meter that
several publishers may share. Any other object is foreign.
-/

namespace SessionTelemetry

inductive Value where
  | null
  | bool (b : Bool)
  | int (n : Int)
  | float (x : Binary64)
  | text (s : String)
  | bytes (bs : List UInt8)
  | list (items : List Value)
  | tuple (items : List Value)
  | dict (entries : List (Value × Value))
  | object (name : String)
  | registry (name : String)
  | meter (name : String)
  /-- An object of which only its text and its quoted form are known, if they can be had. -/
  | foreign (name : String) (text quoted : Except Fault String)
  deriving Repr, Inhabited

namespace Value

/-- Whether a flag with this value counts as set. Null, false, zeros and empty values do not. -/
def truthy : Value → Bool
  | null => false
  | bool b => b
  | int n => n != 0
  | float x => !x.isZero
  | text s => !s.isEmpty
  | bytes bs => !bs.isEmpty
  | list items => !items.isEmpty
  | tuple items => !items.isEmpty
  | dict entries => !entries.isEmpty
  | object _ => true
  | registry _ => true
  | meter _ => true
  | foreign _ _ _ => true

def isNull : Value → Bool
  | null => true
  | _ => false

/-- Whether a value is itself a row of cells: a sequence other than text and bytes. -/
def isRow : Value → Bool
  | list _ => true
  | tuple _ => true
  | _ => false

def ofChar (c : Char) : Value := text (String.singleton c)

/-- What a value yields when it is run through: the items of a sequence, the characters of a text,
the numbers of bytes, the keys of a dictionary. Other values yield nothing at all. -/
def elements? : Value → Option (List Value)
  | list items => some items
  | tuple items => some items
  | text s => some (s.toList.map ofChar)
  | bytes bs => some (bs.map fun b => int b.toNat)
  | dict entries => some (entries.map Prod.fst)
  | _ => none

def elements (v : Value) : Except Fault (List Value) :=
  match v.elements? with
  | some items => .ok items
  | none => .error .unsuitable

end Value

end SessionTelemetry
