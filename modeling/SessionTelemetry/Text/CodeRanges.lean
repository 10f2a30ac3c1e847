/-!
# Classes of characters as ranges of code points

The tables of this folder follow version 14 of the Unicode character database.
-/

namespace SessionTelemetry

/-- Closed ranges of code points, ascending and apart. -/
abbrev CodeRanges := List (Nat × Nat)

namespace CodeRanges

def contains (ranges : CodeRanges) (c : Char) : Bool :=
  ranges.any fun r => r.1 ≤ c.toNat && c.toNat ≤ r.2

def ascending : CodeRanges → Bool
  | [] => true
  | [r] => r.1 ≤ r.2
  | r :: s :: rest => r.1 ≤ r.2 && r.2 + 1 < s.1 && ascending (s :: rest)

def count (ranges : CodeRanges) : Nat := ranges.foldl (fun n r => n + (r.2 + 1 - r.1)) 0

end CodeRanges

end SessionTelemetry
