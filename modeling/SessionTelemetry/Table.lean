/-!
# Tables

A table keeps its entries in the order in which their keys first came. Writing to a key that is
there changes its entry in place.
-/

namespace SessionTelemetry

structure Table (κ α : Type) where
  entries : List (κ × α) := []

namespace Table

variable {κ α : Type} [DecidableEq κ]

def find? (t : Table κ α) (key : κ) : Option α := t.entries.lookup key

def putIn (key : κ) (a : α) : List (κ × α) → List (κ × α)
  | [] => [(key, a)]
  | e :: rest => if e.1 = key then (key, a) :: rest else e :: putIn key a rest

def put (t : Table κ α) (key : κ) (a : α) : Table κ α := ⟨putIn key a t.entries⟩

def erase (t : Table κ α) (key : κ) : Table κ α :=
  ⟨t.entries.eraseP fun e => e.1 = key⟩

def size (t : Table κ α) : Nat := t.entries.length

end Table

end SessionTelemetry
