import SessionTelemetry.Notify.Signal
import SessionTelemetry.Record

/-!
# Trees of services

A composite passes every signal to its parts in their order. A part that fails is recorded, and the
parts after it get the signal all the same, so a composite never fails itself.

How a single service reacts is left open, as is what the services share.
-/

namespace SessionTelemetry

structure Reaction (ε ℓ : Type) where
  outcome : Except Fault Unit
  service : ℓ
  shared : ε
  records : List Record := []

inductive ServiceTree (ℓ : Type) where
  | leaf (service : ℓ)
  | composite (parts : List (ServiceTree ℓ))

structure Behaviour (ε ℓ : Type) where
  react : ε → ℓ → Signal → Reaction ε ℓ
  title : ℓ → String

namespace ServiceTree

variable {ε ℓ : Type}

def logger : String := "mediatel.services"

def title (b : Behaviour ε ℓ) : ServiceTree ℓ → String
  | leaf service => b.title service
  | composite _ => "CompositeLoggingService"

def failureRecord (signal : Signal) (title : String) : Except Fault Unit → List Record
  | .ok () => []
  | .error fault => [.error logger s!"Error delivering {signal.name} to {title}" (some fault)]

mutual

def deliver (b : Behaviour ε ℓ) (signal : Signal) (shared : ε) :
    ServiceTree ℓ → Reaction ε (ServiceTree ℓ)
  | leaf service =>
    let r := b.react shared service signal
    ⟨r.outcome, leaf r.service, r.shared, r.records⟩
  | composite parts =>
    let (parts, shared, records) := deliverAll b signal shared parts
    ⟨.ok (), composite parts, shared, records⟩

/-- Delivers a signal to the parts of a composite. -/
def deliverAll (b : Behaviour ε ℓ) (signal : Signal) (shared : ε) :
    List (ServiceTree ℓ) → List (ServiceTree ℓ) × ε × List Record
  | [] => ([], shared, [])
  | part :: rest =>
    let r := deliver b signal shared part
    let (later, shared, records) := deliverAll b signal r.shared rest
    (r.service :: later, shared,
      r.records ++ failureRecord signal (part.title b) r.outcome ++ records)

end

mutual

def leaves : ServiceTree ℓ → List ℓ
  | leaf service => [service]
  | composite parts => leavesOfAll parts

def leavesOfAll : List (ServiceTree ℓ) → List ℓ
  | [] => []
  | part :: rest => leaves part ++ leavesOfAll rest

end

/-- The place of a service in a tree: the positions to follow from the root. -/
abbrev Path := List Nat

def Path.text (path : Path) : String := ".".intercalate (path.map fun i => s!"{i}")

/-- The place that a text shows; the empty text shows the root. -/
def Path.ofText? (s : String) : Option Path :=
  if s.isEmpty then some [] else (s.splitOn ".").mapM String.toNat?

mutual

/-- Runs through the single services of a tree from left to right, changing each. -/
def sweep {σ : Type} (change : σ → Path → ℓ → σ × ℓ) (path : Path) (state : σ) :
    ServiceTree ℓ → σ × ServiceTree ℓ
  | leaf service =>
    let (state, service) := change state path service
    (state, leaf service)
  | composite parts =>
    let (state, parts) := sweepAll change path 0 state parts
    (state, composite parts)

def sweepAll {σ : Type} (change : σ → Path → ℓ → σ × ℓ) (path : Path) (position : Nat)
    (state : σ) : List (ServiceTree ℓ) → σ × List (ServiceTree ℓ)
  | [] => (state, [])
  | part :: rest =>
    let (state, part) := sweep change (path ++ [position]) state part
    let (state, rest) := sweepAll change path (position + 1) state rest
    (state, part :: rest)

end

def actAt? {ρ : Type} (act : ServiceTree ℓ → ρ × ServiceTree ℓ) :
    Path → ServiceTree ℓ → Option (ρ × ServiceTree ℓ)
  | [], t => some (act t)
  | position :: rest, composite parts =>
    match parts[position]? with
    | none => none
    | some part =>
      (actAt? act rest part).map fun (result, part) =>
        (result, composite (parts.set position part))
  | _ :: _, leaf _ => none

end ServiceTree

end SessionTelemetry
