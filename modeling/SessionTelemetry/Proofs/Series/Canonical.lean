import SessionTelemetry.Proofs.Series.Cells

/-!
# Canonical events

`Event.make` is given one row of values, none of which is a row itself, or several rows
(`Value.Shaped`), and renders each value, unless one cannot be stored. Rendering keeps the shape, as
no rendered value is a row, and is a projection. So an event tells by its values what it was made
of, and is made again of its own fields. One row makes the event that its series has for these cells
(`Event.make_canonical`).
-/

namespace SessionTelemetry

namespace Value

variable {values v : Value} {multipoint : Bool} {rows : List (List Value)}

/-- Values in one row, none of which is a row itself, or in several rows, which may be empty and of
different lengths. -/
inductive Shaped : Value → Bool → List (List Value) → Prop where
  | row {values : Value} {items : List Value} (hrow : values.isRow = true) (hne : items ≠ [])
      (hitems : values.elements = .ok items) (hcells : ∀ item ∈ items, item.isRow = false) :
      Shaped values false [items]
  | rows {values : Value} {items : List Value} {rows : List (List Value)}
      (hrow : values.isRow = true) (hne : items ≠ []) (hitems : values.elements = .ok items)
      (hrows : List.Forall₂ (fun item row => item.isRow = true ∧ item.elements = .ok row)
        items rows) : Shaped values true rows

def frozen (multipoint : Bool) (rows : List (List Value)) : Value :=
  if multipoint then .tuple (rows.map fun row => .tuple (row.map rendered))
  else .tuple (rows.flatten.map rendered)

theorem truthy_of_elements {items : List Value} (hrow : values.isRow = true) (hne : items ≠ [])
    (hitems : values.elements = .ok items) : values.truthy = true := by
  cases values with
  | list items' | tuple items' =>
    cases hitems
    simpa [truthy] using hne
  | _ => cases hrow

theorem Shaped.truthy (h : values.Shaped multipoint rows) : values.truthy = true := by
  cases h with
  | row hrow hne hitems _ => exact truthy_of_elements hrow hne hitems
  | rows hrow hne hitems _ => exact truthy_of_elements hrow hne hitems

/-- Rendering keeps the shape. -/
theorem Shaped.frozen (h : values.Shaped multipoint rows) :
    (frozen multipoint rows).Shaped multipoint (rows.map (List.map rendered)) := by
  cases h with
  | row hrow hne hitems hcells =>
    refine .row rfl (mt List.map_eq_nil_iff.1 hne) (by simp [Value.frozen, elements, elements?]) ?_
    rw [List.forall_mem_map]
    exact fun v _ => v.isPlain_rendered.isRow
  | rows hrow hne hitems hrows =>
    refine .rows rfl ?_ rfl ?_
    · intro hnil
      rw [List.map_eq_nil_iff.1 hnil] at hrows
      exact hne (List.forall₂_nil_right_iff.1 hrows)
    · rw [List.forall₂_map_left_iff, List.forall₂_map_right_iff, List.forall₂_same]
      exact fun row _ => ⟨rfl, rfl⟩

theorem frozen_map_rendered (multipoint : Bool) (rows : List (List Value)) :
    frozen multipoint (rows.map (List.map rendered)) = frozen multipoint rows := by
  cases multipoint with
  | false => simp [frozen, List.map_flatten, rendered_rendered, Function.comp_def]
  | true => simp [frozen, rendered_rendered, Function.comp_def]

end Value

theorem findSome?_flatten {α β : Type} (f : α → Option β) (rows : List (List α)) :
    rows.flatten.findSome? f = rows.findSome? fun row => row.findSome? f := by
  induction rows with
  | nil => rfl
  | cons row rest ih =>
    rw [List.flatten_cons, List.findSome?_append, ih, List.findSome?_cons]
    cases row.findSome? f <;> rfl

namespace Event

variable {e : Event} {name columns values localTime : Value} {multipoint : Bool}
  {rows : List (List Value)} {given : List Value}

/-- The first value tells whether there are several rows. -/
theorem isRow_first_of_shaped (h : values.Shaped multipoint rows) :
    ∃ v, values.first = .ok v ∧ v.isRow = multipoint := by
  cases h with
  | row hrow hne hitems hcells =>
    obtain ⟨v, rest, rfl⟩ := List.exists_cons_of_ne_nil hne
    exact ⟨v, first_of_elements hrow hitems, hcells v List.mem_cons_self⟩
  | rows hrow hne hitems hrows =>
    obtain ⟨v, rest, rfl⟩ := List.exists_cons_of_ne_nil hne
    cases hrows with
    | cons hv _ => exact ⟨v, first_of_elements hrow hitems, hv.1⟩

theorem isMultipoint_of_shaped (h : e.values.Shaped multipoint rows) :
    e.isMultipoint = .ok multipoint := by
  obtain ⟨v, hfirst, rfl⟩ := isRow_first_of_shaped h
  rw [isMultipoint, hfirst]
  rfl

theorem rows_of_shaped (h : e.values.Shaped multipoint rows) : e.rows = .ok rows := by
  rw [Event.rows, isMultipoint_of_shaped h]
  cases h with
  | row hrow hne hitems hcells =>
    rw [hitems]
    rfl
  | @rows items _ hrow hne hitems hrows =>
    rw [hitems]
    show items.mapM Value.elements = _
    exact mapM_eq_ok_iff.2 (hrows.imp fun _ _ h => h.2)

/-- The cells are rendered row by row, up to the first that cannot be stored. -/
theorem renderedValues_of_shaped (h : values.Shaped multipoint rows) :
    renderedValues values =
      Fault.guarding (rows.flatten.findSome? Value.cellObstacle?) (.frozen multipoint rows) := by
  obtain ⟨v, hfirst, hv⟩ := isRow_first_of_shaped h
  rw [renderedValues, if_pos h.truthy, hfirst]
  cases h with
  | row hrow hne hitems hcells =>
    simp only [bind, Except.bind, pure, Except.pure, hitems, hv, Bool.false_eq_true, if_false,
      Value.mapM_render, Value.frozen, List.flatten_singleton]
    exact Fault.guarding_map _ _ _
  | @rows items _ hrow hne hitems hrows =>
    have hrendered : items.mapM (fun row => do (← row.elements).mapM Value.render) =
        Fault.guarding (rows.flatten.findSome? Value.cellObstacle?)
          (rows.map (List.map Value.rendered)) := by
      rw [findSome?_flatten]
      refine mapM_guarding (hrows.imp fun item row hrow => ?_)
      rw [hrow.2]
      exact Value.mapM_render row
    simp only [bind, Except.bind, pure, Except.pure] at hrendered ⊢
    simp only [hitems, hv, if_true, hrendered, Value.frozen]
    refine (Fault.guarding_map _ _ fun frozen => Value.tuple (List.map .tuple frozen)).trans ?_
    rw [List.map_map]
    rfl

/-- An event is made of the rendered values, in the shape of those that were given. -/
theorem make_of_shaped (hcolumns : columns.elements = .ok given)
    (h : values.Shaped multipoint rows) :
    make name columns values localTime =
      Fault.guarding (rows.flatten.findSome? Value.cellObstacle?)
        ⟨name, .tuple given, .frozen multipoint rows, localTime⟩ := by
  rw [make, renderedValues_of_shaped h, hcolumns]
  cases rows.flatten.findSome? Value.cellObstacle? with
  | none => simp only [Fault.guarding, bind, Except.bind, create, h.frozen.truthy, if_true]
  | some fault => rfl

/-- What is rendered already stays as it is. -/
theorem make_frozen (h : values.Shaped multipoint rows) :
    make name (.tuple given) (.frozen multipoint rows) localTime =
      .ok ⟨name, .tuple given, .frozen multipoint rows, localTime⟩ := by
  have hcolumns : (Value.tuple given).elements = .ok given := rfl
  rw [make_of_shaped hcolumns h.frozen, Value.frozen_map_rendered, Fault.guarding_eq_ok_iff,
    ← List.map_flatten, List.findSome?_eq_none_iff, List.forall_mem_map]
  exact ⟨fun v _ => v.isPlain_rendered.cellObstacle?, rfl⟩

theorem make_schema (s : Schema) {row : List Value}
    (hcolumns : columns.elements = .ok (s.columns.map .text)) (h : values.Shaped false [row]) :
    make (.text s.name) columns values = s.event row := by
  rw [make_of_shaped hcolumns h, Schema.event_eq, Value.frozen, List.flatten_singleton]
  rfl

/-- The event of a signal is made of one row of its cells, hash codes and states by their text. -/
theorem make_lifecycle {word : String} {cells : List Value} (h : lifecycle word cells = .ok e)
    (hflat : ∀ cell ∈ cells, cell.isRow = false) :
    ∃ row, List.Forall₂ (fun cell v => v = cell ∨ v = .text cell.display) cells row ∧
      make e.name e.columns (.list row) = .ok e := by
  obtain ⟨s, row, hevent, hne, hrow⟩ := exists_row_of_lifecycle h
  refine ⟨row, hrow, ?_⟩
  obtain ⟨-, rfl⟩ := Schema.event_eq_ok_iff.1 hevent
  refine (make_schema s rfl (.row rfl hne rfl fun v hv => ?_)).trans hevent
  obtain ⟨cell, hcell, rfl | rfl⟩ := exists_of_mem_right hrow hv
  · exact hflat _ hcell
  · rfl

/-- An empty row, and one of which no cell but the last is stored as it is. -/
def unequalRows : Value :=
  .list [.tuple [], .list [.null, .bool true, .list [.text "a"], .float (.infinite true)]]

theorem shaped_unequalRows : unequalRows.Shaped true
    [[], [.null, .bool true, .list [.text "a"], .float (.infinite true)]] :=
  .rows rfl (List.cons_ne_nil _ _) rfl (.cons ⟨rfl, rfl⟩ (.cons ⟨rfl, rfl⟩ .nil))

end Event

end SessionTelemetry
