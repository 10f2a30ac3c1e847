import SessionTelemetry.Settings.Pool

/-!
# Options of the benchmark

Every option takes a value, which is the next argument or stands after an equals sign. The name of
an option may be cut short. There are no other arguments.
-/

namespace SessionTelemetry

structure BenchmarkOptions where
  events : Int := 500
  workers : Int := 4
  maxQueue : Int := 1024
  overflow : String := OverflowPolicy.dropOldest
  latency : Binary64 := .ofInt 5
  deriving Repr

inductive BenchmarkOption where
  | events
  | workers
  | maxQueue
  | overflow
  | latency
  | help
  deriving DecidableEq, Repr

namespace BenchmarkOption

def name : BenchmarkOption → String
  | events => "num-events"
  | workers => "workers"
  | maxQueue => "max-queue"
  | overflow => "overflow"
  | latency => "latency-ms"
  | help => "help"

def all : List BenchmarkOption := [events, workers, maxQueue, overflow, latency, help]

def beginning (start : List Char) : List BenchmarkOption :=
  all.filter fun o => start.isPrefixOf o.name.toList

def read? (argument : List Char) : Option (BenchmarkOption × Option (List Char)) :=
  match argument with
  | '-' :: '-' :: c :: rest =>
    let shown := (c :: rest).takeWhile (· != '=')
    let value := match (c :: rest).dropWhile (· != '=') with
      | '=' :: value => some value
      | _ => none
    match beginning shown with
    | [only] => some (only, value)
    | _ => none
  | _ => none

/-- Whether an argument is a negative number, and so a value in spite of its dash. A line break at
its end does not matter. -/
def isNegativeNumber : List Char → Bool
  | '-' :: rest =>
    let isDigit := fun c => (Text.digitValue? c).isSome
    let digits := fun s => !s.isEmpty && s.all isDigit
    let shown := if rest.getLast? = some '\n' then rest.dropLast else rest
    match shown.dropWhile isDigit with
    | '.' :: fraction => digits fraction
    | _ => digits shown
  | _ => false

def isValue (argument : List Char) : Bool :=
  match argument with
  | '-' :: second :: _ =>
    isNegativeNumber argument ||
      (argument.contains ' ' && (read? argument).isNone && second != 'h')
  | _ => true

end BenchmarkOption

namespace BenchmarkOptions

def readWith {α : Type} (read : Value → Except Fault α) (shown : List Char) : Except Fault α :=
  match read (.text (String.ofList shown)) with
  | .ok n => .ok n
  | .error _ => .error .badOptions

def set (o : BenchmarkOptions) (option : BenchmarkOption) (shown : List Char) :
    Except Fault BenchmarkOptions :=
  match option with
  | .events => do return { o with events := ← readWith Value.toInteger shown }
  | .workers => do return { o with workers := ← readWith Value.toInteger shown }
  | .maxQueue => do return { o with maxQueue := ← readWith Value.toInteger shown }
  | .latency => do return { o with latency := ← readWith Value.toFloat shown }
  | .overflow =>
    let policy := String.ofList shown
    if policy = OverflowPolicy.dropOldest ∨ policy = OverflowPolicy.dropNewest then
      .ok { o with overflow := policy }
    else .error .badOptions
  | .help => .error .badOptions

def readFrom (o : BenchmarkOptions) : List (List Char) → Except Fault BenchmarkOptions
  | [] => .ok o
  | argument :: rest =>
    match BenchmarkOption.read? argument with
    | none => .error .badOptions
    | some (option, some shown) => do readFrom (← o.set option shown) rest
    | some (option, none) =>
      match rest with
      | [] => .error .badOptions
      | shown :: rest =>
        if BenchmarkOption.isValue shown then do readFrom (← o.set option shown) rest
        else .error .badOptions

def ofArguments (arguments : List String) : Except Fault BenchmarkOptions :=
  readFrom {} (arguments.map String.toList)

end BenchmarkOptions

end SessionTelemetry
