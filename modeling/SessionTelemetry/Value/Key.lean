import SessionTelemetry.Fault
import SessionTelemetry.Value.Basic

/-!
# Values as keys

Tables are looked up by value. Numbers are the same key when they are equal, whatever their type,
so one, true and the float one agree. A number that is none equals nothing, yet as a key it is found
again. An object is found by its hash code of the moment. A list or a dictionary can be compared but
cannot be a key, nor can a tuple that holds one.
-/

namespace SessionTelemetry

inductive Extent where
  | finite (q : Rat)
  | infinite (negative : Bool)
  | nan (label : Nat)
  deriving DecidableEq, Repr

namespace Extent

def ofFloat : Binary64 → Extent
  | .nan label => nan label
  | .infinite negative => infinite negative
  | x => finite x.toRat

def compare? : Extent → Extent → Option Ordering
  | nan _, _ => none
  | _, nan _ => none
  | infinite a, infinite b => some (Ord.compare b a)
  | infinite a, _ => some (if a then .lt else .gt)
  | _, infinite b => some (if b then .gt else .lt)
  | finite p, finite q => some (if p < q then .lt else if q < p then .gt else .eq)

end Extent

/-- How the hash codes of objects are read; reading one may fail. -/
abbrev HashReader := String → Except Fault Int

/-- A value as a table sees it. The items of a tuple are a chain that ends with `noItems`. -/
inductive Key where
  | null
  | number (x : Extent)
  | text (s : String)
  | bytes (bs : List UInt8)
  | object (name : String) (hash : Int)
  | registry (name : String)
  | meter (name : String)
  | noItems
  | item (first rest : Key)
  deriving DecidableEq, Repr

namespace Value

def extent? : Value → Option Extent
  | bool b => some (.finite (if b then 1 else 0))
  | int n => some (.finite n)
  | float x => some (.ofFloat x)
  | _ => none

mutual

def toKey (hashOf : HashReader) : Value → Except Fault Key
  | null => .ok .null
  | bool b => .ok (.number (.finite (if b then 1 else 0)))
  | int n => .ok (.number (.finite n))
  | float x => .ok (.number (.ofFloat x))
  | text s => .ok (.text s)
  | bytes bs => .ok (.bytes bs)
  | list _ => .error .unsuitable
  | dict _ => .error .unsuitable
  | tuple items => itemsKey hashOf items
  | object name => (hashOf name).map (.object name)
  | registry name => .ok (.registry name)
  | meter name => .ok (.meter name)
  | foreign name _ _ => (hashOf name).map (.object name)

def itemsKey (hashOf : HashReader) : List Value → Except Fault Key
  | [] => .ok .noItems
  | v :: rest => do return .item (← toKey hashOf v) (← itemsKey hashOf rest)

end

mutual

/-- Whether two values agree: numbers by value whatever their type, containers of one kind by their
contents, dictionaries whatever the order of their entries. Inside a container a number that is none
agrees with itself. -/
def agrees (inside : Bool) : Value → Value → Bool
  | null, null => true
  | text s, text t => s == t
  | bytes s, bytes t => s == t
  | list s, list t => itemsAgree s t
  | tuple s, tuple t => itemsAgree s t
  | dict s, dict t => s.length == t.length && entriesAgree s t
  | object a, object b => a == b
  | registry a, registry b => a == b
  | meter a, meter b => a == b
  | foreign a _ _, foreign b _ _ => a == b
  | float (.nan a), float (.nan b) => inside && a == b
  | v, w =>
    match extent? v, extent? w with
    | some p, some q => p.compare? q == some .eq
    | _, _ => false

def itemsAgree : List Value → List Value → Bool
  | [], [] => true
  | v :: vs, w :: ws => agrees true v w && itemsAgree vs ws
  | _, _ => false

def entriesAgree : List (Value × Value) → List (Value × Value) → Bool
  | [], _ => true
  | (k, v) :: rest, entries =>
    entries.any (fun e => agrees true k e.1 && agrees true v e.2) && entriesAgree rest entries

end

def sameAs : Value → Value → Bool := agrees false

end Value

end SessionTelemetry
