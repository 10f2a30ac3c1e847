import SessionTelemetry.Settings.Properties
import SessionTelemetry.Value.Key

/-!
# Configurations

A configuration names values. It is a dictionary or a run of pairs, each of a name and a value, and
one that counts as not set names nothing.
-/

namespace SessionTelemetry

namespace Properties

def pairAt (place : Nat) (entry : Value) : Except Fault (Value × Value) := do
  match ← entry.elements with
  | [key, v] => (key.toKey fun _ => .ok 1).map fun _ => (key, v)
  | parts => throw (.notPair place parts.length)

def entriesOf (config : Value) : Except Fault (List (Value × Value)) :=
  match config with
  | .dict entries => .ok entries
  | config =>
    if config.truthy then do
      (← config.elements).zipIdx.mapM fun (entry, place) => pairAt place entry
    else .ok []

/-- The properties that a configuration names. Of two entries with one name the later counts, and a
key that is no text names nothing. -/
def ofConfig (config : Value) : Except Fault Properties := do
  return (← entriesOf config).reverse.filterMap fun
    | (.text name, v) => some (name, v)
    | _ => none

end Properties

end SessionTelemetry
