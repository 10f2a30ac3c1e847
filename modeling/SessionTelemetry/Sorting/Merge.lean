import SessionTelemetry.Sorting.Search

/-!
# Merging two lists

Both lists are used up from their heads. As long as the heads win in turn they are compared one by
one; after a streak of one list the merge gallops: it searches how many items of one list come
before the head of the other. How long a streak has to be is learned: galloping that pays makes it
shorter, galloping that does not makes it longer.
-/

namespace SessionTelemetry

namespace Sorting

/-- The lists that are left to merge, and what is merged already, its last item first. -/
structure Merging (α : Type) where
  merged : List α := []
  first : List α
  second : List α
  /-- The length of a streak that makes the merge gallop. -/
  patience : Nat

structure Merged (α : Type) where
  items : List α
  patience : Nat

abbrev MergeStep (α β : Type) := Except (Merged α) β

structure MergeOrder (α : Type) where
  /-- Whether the head of the second list goes before that of the first. -/
  secondWins : α → α → Bool
  /-- Whether the items run from the largest to the smallest, as they do when lists are merged from
  their ends. -/
  descending : Bool

namespace Merging

variable {α : Type}

/-- The merge is over when a list is used up, and also when one item is left of the first list: it
goes after all of the second. -/
def proceed (m : Merging α) : MergeStep α (Merging α) :=
  let ended := fun (rest : List α) => Except.error ⟨m.merged.reverse ++ rest, m.patience⟩
  match m.first, m.second with
  | first, [] => ended first
  | [], second => ended second
  | [only], second => ended (second ++ [only])
  | _, _ => .ok m

def takeFirst (m : Merging α) (count : Nat) : Merging α :=
  { m with merged := (m.first.take count).reverse ++ m.merged, first := m.first.drop count }

def takeSecond (m : Merging α) (count : Nat) : Merging α :=
  { m with merged := (m.second.take count).reverse ++ m.merged, second := m.second.drop count }

variable (order : MergeOrder α)

/-- Compares heads until one list has won a streak. -/
def compareHeads (streak : Nat) (m : Merging α) (wonFirst wonSecond : Nat) :
    Nat → MergeStep α (Merging α)
  | 0 => .ok m
  | fuel + 1 =>
    match m.first, m.second with
    | x :: _, y :: _ =>
      if order.secondWins x y then do
        let m ← (m.takeSecond 1).proceed
        if streak ≤ wonSecond + 1 then return m
        else compareHeads streak m 0 (wonSecond + 1) fuel
      else do
        let m ← (m.takeFirst 1).proceed
        if streak ≤ wonFirst + 1 then return m
        else compareHeads streak m (wonFirst + 1) 0 fuel
    | _, _ => .ok m

/-- Takes what goes before the head of the second list, then that head. -/
def gallopFirst (m : Merging α) : MergeStep α (Nat × Merging α) :=
  match m.second with
  | [] => .ok (0, m)
  | y :: _ => do
    let count := gallop (fun x => !order.secondWins x y) (!order.descending) m.first
    let m ← (m.takeFirst count).proceed
    return (count, ← (m.takeSecond 1).proceed)

def gallopSecond (m : Merging α) : MergeStep α (Nat × Merging α) :=
  match m.first with
  | [] => .ok (0, m)
  | x :: _ => do
    let count := gallop (fun y => order.secondWins x y) (!order.descending) m.second
    let m ← (m.takeSecond count).proceed
    return (count, ← (m.takeFirst 1).proceed)

/-- Gallops on both lists in turn as long as it pays, that is, as long as one of the two takes seven
items at once. Every further round makes the merge more patient with galloping. -/
def gallopOn (m : Merging α) : Nat → MergeStep α (Merging α)
  | 0 => .ok m
  | fuel + 1 => do
    let (one, m) ← if order.descending then gallopSecond order m else gallopFirst order m
    let (other, m) ← if order.descending then gallopFirst order m else gallopSecond order m
    if 7 ≤ one ∨ 7 ≤ other then
      gallopOn { m with patience := if 1 < m.patience then m.patience - 1 else 1 } fuel
    else return { m with patience := m.patience + 1 }

def loop (m : Merging α) : Nat → MergeStep α Unit
  | 0 => .error ⟨m.merged.reverse ++ m.first ++ m.second, m.patience⟩
  | fuel + 1 => do
    let m ← compareHeads order m.patience m 0 0 fuel
    loop (← gallopOn order m fuel) fuel

def run (m : Merging α) : Merged α :=
  let work := do
    let m ← (m.takeSecond 1).proceed
    loop order m (m.first.length + m.second.length)
  match work with
  | .error merged => merged
  | .ok () => ⟨m.first ++ m.second, m.patience⟩

end Merging

/-- Merges two ascending lists, the first of which stood before the second. Items at both ends that
are in place already stay there; of what is left the shorter list decides from which end to
merge. -/
def mergeRuns {α : Type} (less : α → α → Bool) (patience : Nat) (first second : List α) :
    Merged α :=
  let inPlace : Merged α := ⟨first ++ second, patience⟩
  match second, first.getLast? with
  | head :: _, some last =>
    let before := gallop (fun x => !less head x) true first
    let rest := first.drop before
    let kept := gallop (fun y => !less y last) false second.reverse
    let inner := second.take (second.length - kept)
    if rest.isEmpty || inner.isEmpty then inPlace
    else
      let merged :=
        if rest.length ≤ inner.length then
          Merging.run ⟨fun x y => less y x, false⟩ ⟨[], rest, inner, patience⟩
        else
          let m := Merging.run ⟨less, true⟩ ⟨[], inner.reverse, rest.reverse, patience⟩
          { m with items := m.items.reverse }
      ⟨first.take before ++ merged.items ++ second.drop inner.length, merged.patience⟩
  | _, _ => inPlace

end Sorting

end SessionTelemetry
