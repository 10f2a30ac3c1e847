import SessionTelemetry.Sorting.Merge

/-!
# Sorting by natural runs

A list is cut into runs that ascend already, or descend and are reversed; short runs are extended by
insertion. Neighbouring runs are merged in an order that depends on their places only: the boundary
of two runs has a power, the depth at which halving the whole list would first separate their
middles, and deep boundaries are merged first. Items that are equal keep their order.

Where items compare with nothing the result is no sorted list, yet it is a definite one.
-/

namespace SessionTelemetry

namespace Sorting

/-- A run with the place where it starts and the power of the boundary at its end. -/
structure Run (α : Type) where
  start : Nat
  items : List α
  power : Nat := 0

/-- The least length of runs: the whole length halved until it is below 64, and one more if anything
was lost in halving. -/
def leastRun (lost : Bool) (length : Nat) : Nat :=
  if length < 64 then length + lost.toNat
  else leastRun (lost || length % 2 == 1) (length / 2)
termination_by length

/-- The depth at which halving a list of `length` items first separates the middles of two
neighbouring runs, given as twice their places. -/
def boundaryPower (length near far : Nat) : Nat → Nat
  | 0 => 0
  | fuel + 1 =>
    if length ≤ near then 1 + boundaryPower length (2 * (near - length)) (2 * (far - length)) fuel
    else if length ≤ far then 1
    else 1 + boundaryPower length (2 * near) (2 * far) fuel

variable {α : Type} (less : α → α → Bool)

def followers (related : α → α → Bool) (first : α) : List α → Nat
  | [] => 0
  | x :: rest => if related first x then 1 + followers related x rest else 0

def insertInto (sorted : List α) (x : α) : List α :=
  let holds := fun (i : Nat) => (sorted[i]?.map fun y => !less x y).getD false
  let place := bisect holds true 0 sorted.length
  sorted.take place ++ x :: sorted.drop place

def splitRun (least : Nat) (items : List α) : List α × List α :=
  match items with
  | x :: y :: rest =>
    let descends := less y x
    let related := if descends then fun a b => less b a else fun a b => !less b a
    let length := 2 + followers related y rest
    let run := items.take length
    let rest := items.drop length
    let missing := least - length
    ((rest.take missing).foldl (insertInto less) (if descends then run.reverse else run),
      rest.drop missing)
  | few => (few, [])

/-- Runs that wait to be merged, the last one first, and what merging has learned. -/
structure Pending (α : Type) where
  runs : List (Run α) := []
  patience : Nat := 7

namespace Pending

def mergeLast (p : Pending α) : Pending α :=
  match p.runs with
  | last :: before :: rest =>
    let merged := mergeRuns less p.patience before.items last.items
    ⟨{ before with items := merged.items } :: rest, merged.patience⟩
  | _ => p

/-- Merges the last runs while the boundary before them is deeper than the one after them. -/
def mergeDeeper (power : Nat) (p : Pending α) : Nat → Pending α
  | 0 => p
  | fuel + 1 =>
    match p.runs with
    | _ :: before :: _ =>
      if power < before.power then mergeDeeper power (p.mergeLast less) fuel else p
    | _ => p

def push (length : Nat) (p : Pending α) (items : List α) : Pending α :=
  match p.runs with
  | [] => { p with runs := [⟨0, items, 0⟩] }
  | last :: _ =>
    let near := 2 * last.start + last.items.length
    let far := near + last.items.length + items.length
    let power := boundaryPower length near far (length + 1)
    let start := last.start + last.items.length
    let p := p.mergeDeeper less power p.runs.length
    match p.runs with
    | top :: rest => { p with runs := ⟨start, items, 0⟩ :: { top with power } :: rest }
    | [] => p

/-- Merges all runs: the last two, unless the one before them is shorter than the last. -/
def mergeAll (p : Pending α) : Nat → Pending α
  | 0 => p
  | fuel + 1 =>
    match p.runs with
    | last :: middle :: before :: rest =>
      if before.items.length < last.items.length then
        let inner := (Pending.mk (middle :: before :: rest) p.patience).mergeLast less
        mergeAll { inner with runs := last :: inner.runs } fuel
      else mergeAll (p.mergeLast less) fuel
    | [_, _] => p.mergeLast less
    | _ => p

end Pending

def collect (length : Nat) (p : Pending α) (items : List α) : Nat → Pending α
  | 0 => p
  | fuel + 1 =>
    if items.isEmpty then p
    else
      let (run, rest) := splitRun less (leastRun false length) items
      collect length (p.push less length run) rest fuel

def ascending (items : List α) : List α :=
  let p := collect less items.length {} items items.length
  ((p.mergeAll less p.runs.length).runs.map Run.items).flatten

end Sorting

end SessionTelemetry
