import Mathlib.Data.List.Forall2
import SessionTelemetry.Proofs.Yields
import SessionTelemetry.Series.Lifecycle

/-!
# Rendering cells

A cell is stored unless its text cannot be written. Rendering is a projection onto texts and
numbers. The cells of a row are rendered up to the first that cannot be stored
(`Value.mapM_render`), and so there is an event of a series just if all of its cells can be stored
(`Schema.event_eq_ok_iff`). The event of a signal has the cells that were given, some of them by
their text.
-/

namespace SessionTelemetry

namespace Value

variable {v : Value} {cells row : List Value}

inductive IsPlain : Value → Prop where
  | text (s : String) : IsPlain (.text s)
  | int (n : Int) : IsPlain (.int n)
  | float (x : Binary64) : IsPlain (.float x)

theorem isPlain_rendered (v : Value) : v.rendered.IsPlain := by
  cases v with
  | int n => exact .int n
  | float x => exact .float x
  | _ => exact .text _

theorem IsPlain.isRow (h : v.IsPlain) : v.isRow = false := by
  cases h <;> rfl

theorem IsPlain.rendered (h : v.IsPlain) : v.rendered = v := by
  cases h <;> rfl

/-- A text or a number is stored as it is. -/
theorem IsPlain.cellObstacle? (h : v.IsPlain) : v.cellObstacle? = none := by
  cases h <;> rfl

theorem rendered_rendered (v : Value) : v.rendered.rendered = v.rendered :=
  v.isPlain_rendered.rendered

theorem mapM_render (cells : List Value) :
    cells.mapM render = Fault.guarding (cells.findSome? cellObstacle?) (cells.map rendered) :=
  mapM_guarding (List.forall₂_same.2 fun _ _ => rfl)

theorem obstacle?_of_cellObstacle? {fault : Fault} (h : v.cellObstacle? = some fault) :
    v.obstacle? = some fault := by
  cases v with
  | int n => cases h
  | _ => exact h

theorem shown_eq_ok_iff {s : String} : v.shown = .ok s ↔ v.obstacle? = none ∧ v.display = s :=
  Fault.guarding_eq_ok_iff

end Value

namespace Schema

variable {s : Schema} {row : List Value} {e : Event}

theorem event_eq (s : Schema) (row : List Value) :
    s.event row =
      Fault.guarding (row.findSome? Value.cellObstacle?) (s.row (row.map Value.rendered)) := by
  rw [event, Value.mapM_render]
  cases row.findSome? Value.cellObstacle? <;> rfl

/-- An event of a series has the rendered cells, all of which can be stored. -/
theorem event_eq_ok_iff :
    s.event row = .ok e ↔
      (∀ v ∈ row, v.cellObstacle? = none) ∧ s.row (row.map Value.rendered) = e := by
  rw [event_eq, Fault.guarding_eq_ok_iff, List.findSome?_eq_none_iff]

end Schema

namespace Event

variable {e : Event} {hash cell v : Value}

theorem hashCode_eq_ok_iff :
    hashCode hash = .ok v ↔ hash.obstacle? = none ∧ .text hash.display = v := by
  rw [hashCode, Value.shown]
  cases hash.obstacle? <;> simp [Fault.guarding, bind, Except.bind, pure, Except.pure]

theorem eq_of_stateName (h : stateName cell = .ok v) : v = cell ∨ v = .text cell.display := by
  unfold stateName at h
  split at h
  · exact .inl (Except.ok.inj h).symm
  · obtain ⟨s, hs, h⟩ := exists_of_bind h
    cases h
    exact .inr (congrArg _ (Value.shown_eq_ok_iff.1 hs).2.symm)

/-- The event of a signal is one row of its series. It has the cells that were given, some of them
by their text. -/
theorem exists_row_of_lifecycle {word : String} {cells : List Value}
    (h : lifecycle word cells = .ok e) :
    ∃ (s : Schema) (row : List Value), s.event row = .ok e ∧ row ≠ [] ∧
      List.Forall₂ (fun cell v => v = cell ∨ v = .text cell.display) cells row := by
  have hsome : lifecycle? word cells = some (.ok e) := by
    unfold lifecycle at h
    split at h
    · next heq => rw [heq, h]
    · cases h
  unfold lifecycle? at hsome
  split at hsome
  -- hash codes are read first, and the two states after them
  all_goals
    first
      | exact ⟨_, _, Option.some.inj hsome, List.cons_ne_nil _ _, by simp⟩
      | obtain ⟨hash, hhash, hsome⟩ := exists_of_bind (Option.some.inj hsome)
        first
          | refine ⟨_, _, hsome, List.cons_ne_nil _ _, ?_⟩
            simp [← (hashCode_eq_ok_iff.1 hhash).2]
          | obtain ⟨oldState, hold, hsome⟩ := exists_of_bind hsome
            obtain ⟨newState, hnew, hsome⟩ := exists_of_bind hsome
            refine ⟨_, _, hsome, List.cons_ne_nil _ _, ?_⟩
            simp [← (hashCode_eq_ok_iff.1 hhash).2, eq_of_stateName hold, eq_of_stateName hnew]
      | cases hsome

end Event

end SessionTelemetry
