import Mathlib.Data.List.Forall2
import SessionTelemetry.Fault

/-!
# Computations that come to a result

`Yields r p` says that `r` is no fault and that its result satisfies `p`. Its lemmas follow the ways
in which computations are put together. The other way round, `exists_of_bind` takes a computation
apart that came to a result. Of computations that nothing but a known obstacle can stop, the first
obstacle counts (`mapM_guarding`). `Settles r p q` leaves both open: a result satisfies `p`, and a
fault `q`.
-/

namespace SessionTelemetry

variable {α β : Type} {r : Except Fault α} {p : α → Prop} {q : β → Prop}

theorem exists_of_bind {f : α → Except Fault β} {b : β} (h : r >>= f = .ok b) :
    ∃ a, r = .ok a ∧ f a = .ok b := by
  cases r with
  | ok a => exact ⟨a, rfl, h⟩
  | error fault => cases h

theorem bind_eq_ok {f : α → Except Fault β} {a : α} {b : β} (h : r = .ok a) (hf : f a = .ok b) :
    r >>= f = .ok b := by
  rw [h]
  exact hf

/-- Results for all items of a list are results item by item. -/
theorem mapM_eq_ok_iff {f : α → Except Fault β} {xs : List α} {ys : List β} :
    xs.mapM f = .ok ys ↔ List.Forall₂ (fun x y => f x = .ok y) xs ys := by
  constructor
  · intro h
    induction xs generalizing ys with
    | nil =>
      cases h
      exact .nil
    | cons x xs ih =>
      rw [List.mapM_cons] at h
      obtain ⟨y, hy, h⟩ := exists_of_bind h
      obtain ⟨rest, hrest, h⟩ := exists_of_bind h
      cases h
      exact .cons hy (ih hrest)
  · intro h
    induction h with
    | nil => rfl
    | cons hfirst _ ih =>
      rw [List.mapM_cons, hfirst, ih]
      rfl

namespace Fault

variable {obstacle? : Option Fault} {a b : α}

theorem guarding_eq_ok_iff : guarding obstacle? a = .ok b ↔ obstacle? = none ∧ a = b := by
  cases obstacle? <;> simp [guarding]

theorem guarding_eq_error_iff {fault : Fault} :
    guarding obstacle? a = .error fault ↔ obstacle? = some fault := by
  cases obstacle? <;> simp [guarding]

theorem guarding_map (obstacle? : Option Fault) (a : α) (f : α → β) :
    (guarding obstacle? a >>= fun b => .ok (f b)) = guarding obstacle? (f a) := by
  cases obstacle? <;> rfl

end Fault

theorem mapM_guarding {γ : Type} {f : α → Except Fault β} {obstacle? : γ → Option Fault} {g : γ → β}
    {xs : List α} {ys : List γ}
    (h : List.Forall₂ (fun x y => f x = Fault.guarding (obstacle? y) (g y)) xs ys) :
    xs.mapM f = Fault.guarding (ys.findSome? obstacle?) (ys.map g) := by
  induction h with
  | nil => rfl
  | @cons x y xs ys hfirst _ ih =>
    rw [List.mapM_cons, hfirst, ih, List.findSome?_cons]
    cases obstacle? y with
    | some fault => rfl
    | none => cases ys.findSome? obstacle? <;> rfl

/-- A computation comes to a result with a property. -/
def Yields (r : Except Fault α) (p : α → Prop) : Prop := ∃ a, r = .ok a ∧ p a

namespace Yields

theorem ok {a : α} (h : p a) : Yields (.ok a) p := ⟨a, rfl, h⟩

theorem pure {a : α} (h : p a) : Yields (Pure.pure a) p := ⟨a, rfl, h⟩

theorem mono {p' : α → Prop} (h : Yields r p) (himp : ∀ a, p a → p' a) : Yields r p' := by
  obtain ⟨a, rfl, ha⟩ := h
  exact .ok (himp a ha)

theorem bind {f : α → Except Fault β} (h : Yields r p) (hf : ∀ a, p a → Yields (f a) q) :
    Yields (r >>= f) q := by
  obtain ⟨a, rfl, ha⟩ := h
  exact hf a ha

theorem ite {c : Prop} [Decidable c] {s : Except Fault α} (hthen : c → Yields r p)
    (helse : ¬ c → Yields s p) : Yields (if c then r else s) p := by
  by_cases hc : c
  · rw [if_pos hc]
    exact hthen hc
  · rw [if_neg hc]
    exact helse hc

end Yields

/-- A computation comes to a result with a property, or to a fault with another one. -/
def Settles (r : Except Fault α) (p : α → Prop) (q : Fault → Prop) : Prop :=
  match r with
  | .ok a => p a
  | .error fault => q fault

namespace Settles

variable {f : α → Except Fault β} {faulty : Fault → Prop}

theorem of_yields (h : Yields r p) : Settles r p faulty := by
  obtain ⟨a, rfl, ha⟩ := h
  exact ha

theorem bind (h : Settles r p faulty) (hf : ∀ a, p a → Settles (f a) q faulty) :
    Settles (r >>= f) q faulty := by
  cases r with
  | ok a => exact hf a h
  | error fault => exact h

theorem mono {weaker : α → Prop} {wider : Fault → Prop} (h : Settles r p faulty)
    (hp : ∀ a, p a → weaker a) (hq : ∀ fault, faulty fault → wider fault) :
    Settles r weaker wider := by
  cases r with
  | ok a => exact hp a h
  | error fault => exact hq fault h

theorem mapM {xs : List α} (h : ∀ x ∈ xs, Settles (f x) q faulty) :
    Settles (xs.mapM f) (fun ys => ∀ y ∈ ys, q y) faulty := by
  induction xs with
  | nil => exact List.forall_mem_nil _
  | cons x rest ih =>
    rw [List.forall_mem_cons] at h
    rw [List.mapM_cons]
    refine h.1.bind fun y hy => (ih h.2).bind fun ys hys => ?_
    exact List.forall_mem_cons.2 ⟨hy, hys⟩

theorem guarding {obstacle? : Option Fault} {a : α} (ha : p a)
    (hobstacle : ∀ fault, obstacle? = some fault → faulty fault) :
    Settles (Fault.guarding obstacle? a) p faulty := by
  cases obstacle? with
  | none => exact ha
  | some fault => exact hobstacle fault rfl

end Settles

end SessionTelemetry
