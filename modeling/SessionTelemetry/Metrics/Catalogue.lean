import SessionTelemetry.Metrics.Publisher
import SessionTelemetry.Settings.Configuration
import SessionTelemetry.Text.Case

/-!
# The catalogue of publishers

Publishers are created by factories that are registered under identifiers. Neither case nor blanks
around an identifier matter; of several factories under one identifier the last one counts.
-/

namespace SessionTelemetry

structure Catalogue (φ : Type) where
  entries : Table String φ := {}

namespace Catalogue

variable {φ : Type}

def key (id : Value) : String := Text.lowerCase (Text.trimmed id.display)

def register (c : Catalogue φ) (id : Value) (factory : φ) : Except Fault (Catalogue φ) :=
  if key id = "" then .error .blankPublisherId
  else .ok ⟨c.entries.put (key id) factory⟩

def find (c : Catalogue φ) (id : Value) : Except Fault φ :=
  match c.entries.find? (key id) with
  | some factory => .ok factory
  | none => .error (.unknownPublisherId id.display)

def ids (c : Catalogue φ) : List String :=
  (c.entries.entries.map Prod.fst).mergeSort fun a b => a ≤ b

end Catalogue

inductive PublisherMaker where
  | silent
  | memory
  | journal
  | exposition
  | meter
  | standIn (prototype : Except Fault StandIn)

structure PublisherFactory where
  id : Value
  maker : PublisherMaker

namespace PublisherFactory

/-- Makes a publisher for a configuration. Those that need none do not look at it, and one from
outside gets it as it is. -/
def create (f : PublisherFactory) (config : Value) : Except Fault Publisher := do
  match f.maker with
  | .silent => return .silent "null"
  | .memory => return .memory {}
  | .journal => return .journal (← JournalPublisher.ofConfig (← Properties.ofConfig config))
  | .exposition => return .exposition (.ofConfig (← Properties.ofConfig config))
  | .meter => return .meter (.ofConfig (← Properties.ofConfig config))
  | .standIn prototype =>
    let s ← prototype
    return .standIn { s with entries := s.entries ++ [.created config] }

def typeName (f : PublisherFactory) : String :=
  match f.maker, f.create .null with
  | .standIn _, _ => "ScriptedFactory"
  | _, .error _ => "ScriptedFactory"
  | _, .ok p => p.typeName ++ "Factory"

def builtIn : Catalogue PublisherFactory where
  entries := ⟨
    [("null", ⟨.text "null", .silent⟩), ("inmemory", ⟨.text "inmemory", .memory⟩),
     ("logging", ⟨.text "logging", .journal⟩), ("prometheus", ⟨.text "prometheus", .exposition⟩),
     ("otel", ⟨.text "otel", .meter⟩)]⟩

end PublisherFactory

def Catalogue.create (c : Catalogue PublisherFactory) (id config : Value) :
    Except Fault Publisher := do
  (← c.find id).create config

end SessionTelemetry
