/-!
# Searching a list for the end of a beginning

How many items at the head of a list have a property is found with few tests when those that have it
all come first: by halving the places in question, or by strides that double until one lands beyond.
Where items with the property are scattered the answer depends on the places tested, which are
therefore part of the definitions.
-/

namespace SessionTelemetry

namespace Sorting

/-- Halves the places from `low` to `high` until one is left. Of two middle places the upper one is
tested if `roundsUp` is set. -/
def bisect (holds : Nat → Bool) (roundsUp : Bool) (low high : Nat) : Nat :=
  if low < high then
    let gap := if roundsUp then high - low else high - low - 1
    let middle := low + gap / 2
    if holds middle then bisect holds roundsUp (middle + 1) high
    else bisect holds roundsUp low middle
  else high
termination_by high - low
decreasing_by all_goals grind

/-- Doubles the stride while it lands on a place with the property; the result is the last such
place and the one after it. -/
def stride (holds : Nat → Bool) (length last next : Nat) : Nat × Nat :=
  if next < length then
    if holds next then stride holds length next (2 * next + 1) else (last, next)
  else (last, length)
termination_by length - next

def gallop {α : Type} (p : α → Bool) (roundsUp : Bool) (items : List α) : Nat :=
  let holds := fun (i : Nat) => (items[i]?.map p).getD false
  if holds 0 then
    let (last, next) := stride holds items.length 0 1
    bisect holds roundsUp (last + 1) next
  else 0

example : gallop (· < 5) true [1, 2, 3, 4, 5, 6] = 4 ∧ gallop (· < 9) false [1, 2, 3] = 3 := by
  decide +kernel

end Sorting

end SessionTelemetry
