import SessionTelemetry.Fault
import SessionTelemetry.Number.Binary64

/-!
# Collector registries

A registry exposes families of samples. A family claims its own name and the names of its samples;
a registry refuses a family that claims a name already given away. Families are exposed in the
order in which they were registered.
-/

namespace SessionTelemetry

inductive SeriesKind where
  | gauge
  | counter
  | histogram
  deriving DecidableEq, Repr

/-- What a family has collected. A histogram counts its observations by the least bound that is not
below them; the last count is that of observations above all bounds. -/
inductive Collected where
  | gauge (value : Binary64)
  | counter (total : Binary64)
  | histogram (counts : List Nat) (sum : Binary64)
  deriving DecidableEq, Repr

structure Family where
  name : String
  doc : String
  collected : Collected
  deriving DecidableEq, Repr

structure Sample where
  name : String
  bound : Option String
  value : Binary64
  deriving DecidableEq, Repr

structure CollectorRegistry where
  families : List Family := []
  deriving DecidableEq, Repr

namespace SeriesKind

def word : SeriesKind → String
  | gauge => "gauge"
  | counter => "counter"
  | histogram => "histogram"

def endings : SeriesKind → List String
  | gauge => []
  | counter => ["_total", "_created"]
  | histogram => ["_bucket", "_sum", "_count", "_created"]

def claims (kind : SeriesKind) (name : String) : List String :=
  name :: kind.endings.map fun ending => name ++ ending

/-- The name of a family: the stem, if any, and the name of the series. The ending that a counter
gives to its sample is not part of its name. -/
def familyName (kind : SeriesKind) (stem name : String) : String :=
  let full := if stem.isEmpty then name else stem ++ "_" ++ name
  if kind = counter ∧ "_total".toList.isSuffixOf full.toList then
    String.ofList (full.toList.take (full.toList.length - 6))
  else full

end SeriesKind

namespace Collected

def boundThousandths : List Nat :=
  [5, 10, 25, 50, 75, 100, 250, 500, 750, 1000, 2500, 5000, 7500, 10000]

def bounds : List Binary64 := boundThousandths.map fun n => Binary64.ofDecimal false n (-3)

def boundTexts : List String :=
  ["0.005", "0.01", "0.025", "0.05", "0.075", "0.1", "0.25", "0.5", "0.75", "1.0", "2.5", "5.0",
   "7.5", "10.0", "+Inf"]

def kind : Collected → SeriesKind
  | gauge _ => .gauge
  | counter _ => .counter
  | histogram _ _ => .histogram

def empty : SeriesKind → Collected
  | .gauge => gauge .zero
  | .counter => counter .zero
  | .histogram => histogram (List.replicate 15 0) .zero

def countIn (x : Binary64) : List Binary64 → List Nat → List Nat
  | bound :: bounds, n :: counts =>
    if bound.less x then n :: countIn x bounds counts else (n + 1) :: counts
  | [], n :: counts => (n + 1) :: counts
  | _, [] => []

def runningTotals (before : Nat) : List Nat → List Nat
  | [] => []
  | n :: rest => (before + n) :: runningTotals (before + n) rest

def samples (name : String) : Collected → List Sample
  | gauge value => [⟨name, none, value⟩]
  | counter total => [⟨name ++ "_total", none, total⟩]
  | histogram counts sum =>
    let totals := (runningTotals 0 counts).map fun (n : Nat) => Binary64.ofInt n
    let buckets := boundTexts.zip totals |>.map fun (bound, n) =>
      Sample.mk (name ++ "_bucket") (some bound) n
    buckets ++ [⟨name ++ "_count", none, totals.getLastD .zero⟩, ⟨name ++ "_sum", none, sum⟩]

end Collected

namespace Family

def kind (f : Family) : SeriesKind := f.collected.kind

def claims (f : Family) : List String := f.kind.claims f.name

def samples (f : Family) : List Sample := f.collected.samples f.name

end Family

namespace CollectorRegistry

def claimed (r : CollectorRegistry) : List String := r.families.flatMap Family.claims

/-- The names that a new family would claim and that are given away, in code-point order. -/
def clashes (r : CollectorRegistry) (kind : SeriesKind) (name : String) : List String :=
  ((kind.claims name).filter fun n => r.claimed.contains n).mergeSort fun a b => a ≤ b

end CollectorRegistry

/-- A library of collector registries: how it registers a new family, and how it changes what the
family of a name has collected. -/
class Collectors where
  register (r : CollectorRegistry) (kind : SeriesKind) (name doc : String) :
    Except Fault CollectorRegistry
  change (r : CollectorRegistry) (name : String) (f : Collected → Except Fault Collected) :
    Except Fault CollectorRegistry

/-- The library in use. A family is registered at the end. -/
instance : Collectors where
  register r kind name doc :=
    match r.clashes kind name with
    | [] => .ok ⟨r.families ++ [⟨name, doc, .empty kind⟩]⟩
    | names => .error (.duplicateSeries names)
  change r name f := do
    let families ← r.families.mapM fun family =>
      if family.name = name then do return { family with collected := ← f family.collected }
      else pure family
    return ⟨families⟩

namespace CollectorRegistry

variable [Collectors]

def register (r : CollectorRegistry) (kind : SeriesKind) (name doc : String) :
    Except Fault CollectorRegistry :=
  Collectors.register r kind name doc

def change (r : CollectorRegistry) (name : String) (f : Collected → Except Fault Collected) :
    Except Fault CollectorRegistry :=
  Collectors.change r name f

end CollectorRegistry

end SessionTelemetry
