import Mathlib.Data.Set.List
import SessionTelemetry.Proofs.Series.Rendering
import SessionTelemetry.Proofs.Series.RoundTrip

/-!
# Cells on their way to the backend

Every cell is rendered when an event is built, to a text or a number. The reader of a payload finds
texts and numbers in their places, with one exception: a float that is not finite is written as null
(`encode_of_built`).
-/

namespace SessionTelemetry

theorem exists_forall₂ {α β : Type} {R : α → β → Prop} {xs : List α} (h : ∀ x ∈ xs, ∃ y, R x y) :
    ∃ ys, List.Forall₂ R xs ys := by
  induction xs with
  | nil => exact ⟨[], .nil⟩
  | cons x xs ih =>
    rw [List.forall_mem_cons] at h
    obtain ⟨y, hy⟩ := h.1
    obtain ⟨ys, hys⟩ := ih h.2
    exact ⟨y :: ys, .cons hy hys⟩

theorem exists_of_mem_right {α β : Type} {R : α → β → Prop} {xs : List α} {ys : List β}
    (h : List.Forall₂ R xs ys) {y : β} (hy : y ∈ ys) : ∃ x ∈ xs, R x y := by
  induction h with
  | nil => cases hy
  | cons hfirst _ ih =>
    rcases List.mem_cons.1 hy with rfl | hrest
    · exact ⟨_, List.mem_cons_self, hfirst⟩
    · obtain ⟨x, hx, hxy⟩ := ih hrest
      exact ⟨x, List.mem_cons_of_mem _ hx, hxy⟩

def Binary64.IsFinite (x : Binary64) : Prop := ∃ negative m e, x = .finite negative m e

inductive Json.IsScalar : Json → Prop where
  | text (s : String) : IsScalar (.text s)
  | int (n : Int) : IsScalar (.int n)
  | float (x : Binary64) : IsScalar (.float x)

/-- What a reader finds in the place of a rendered value: the text or the number that it is, or null
in the place of a float that is not finite. -/
inductive Value.ShownAs : Value → Json → Prop where
  | text (s : String) : ShownAs (.text s) (.text s)
  | int (n : Int) : ShownAs (.int n) (.int n)
  | float {x : Binary64} (h : x.IsFinite) (y : Binary64) : ShownAs (.float x) (.float y)
  | null {x : Binary64} (h : ¬ x.IsFinite) : ShownAs (.float x) .null

theorem Value.ShownAs.isScalar {v : Value} {k : Json} (h : v.ShownAs k)
    (hfinite : ∀ x, v = .float x → x.IsFinite) : k.IsScalar := by
  cases h with
  | text s => exact .text s
  | int n => exact .int n
  | float _ y => exact .float y
  | null h => exact absurd (hfinite _ rfl) h

def seriesDocument (name : String) (columns : List String) (points : List (List Json)) : Json :=
  .array [.object [("name", .text name), ("columns", .array (columns.map .text)),
    ("points", .array (points.map .array))]]

namespace Cell

variable {cell : Cell}

/-- A cell that is no flag is found in its place as its value is shown. -/
theorem exists_readsAs (h : ∀ b, cell ≠ .bool b) :
    ∃ k, cell.toJson.ReadsAs k ∧ cell.toValue.ShownAs k := by
  cases cell with
  | text s => exact ⟨_, Json.readsAs_text s, .text s⟩
  | int n => exact ⟨_, Json.readsAs_int n, .int n⟩
  | bool b => exact absurd rfl (h b)
  | float x =>
    cases x with
    | finite negative m e =>
      obtain ⟨y, hy⟩ := Json.readsAs_finite negative m e
      exact ⟨_, hy, .float ⟨negative, m, e, rfl⟩ y⟩
    | nan | infinite =>
      exact ⟨_, Json.readsAs_null_of_write rfl, .null fun ⟨_, _, _, h⟩ => nomatch h⟩

end Cell

/-- A payload is read cell by cell. -/
theorem Payload.read?_render {p : Payload} {points : List (List Json)}
    (h : List.Forall₂ (List.Forall₂ fun cell k => cell.toJson.ReadsAs k) p.points points) :
    Json.read? p.render.toList = some (seriesDocument p.name p.columns points) := by
  have hcolumns : List.Forall₂ Json.ReadsAs (p.columns.map .text) (p.columns.map .text) :=
    List.forall₂_same.2 (List.forall_mem_map.2 fun column _ => Json.readsAs_text column)
  have hpoints : List.Forall₂ Json.ReadsAs
      (p.points.map fun point => .array (point.map Cell.toJson)) (points.map .array) := by
    rw [List.forall₂_map_left_iff, List.forall₂_map_right_iff]
    exact h.imp fun _ _ hpoint => Json.readsAs_array (List.forall₂_map_left_iff.2 hpoint)
  rw [render, Json.render, String.toList_ofList]
  refine Json.read?_of_readsAs (Json.readsAs_array (.cons (Json.readsAs_object ?_) .nil))
  exact .cons ⟨rfl, Json.readsAs_text _⟩ (.cons ⟨rfl, Json.readsAs_array hcolumns⟩
    (.cons ⟨rfl, Json.readsAs_array hpoints⟩ .nil))

namespace Value

def cell (v : Value) : Cell :=
  match v.rendered with
  | int n => .int n
  | float x => .float x
  | v => .text v.display

theorem rendered_eq (v : Value) : v.rendered = v.cell.toValue := by
  cases v <;> rfl

theorem map_rendered (row : List Value) :
    row.map rendered = (row.map cell).map Cell.toValue := by
  rw [List.map_map]
  exact List.map_congr_left fun v _ => v.rendered_eq

theorem eq_float_of_rendered {v : Value} {x : Binary64} (h : v.rendered = .float x) :
    v = .float x := by
  cases v <;> cases h
  rfl

theorem cell_ne_bool (v : Value) (b : Bool) : v.cell ≠ .bool b := by
  cases v <;> exact fun h => nomatch h

end Value

/-- An event of a series has one row. -/
theorem Schema.tabulates_row (s : Schema) {row : List Value} (h : row ≠ []) :
    (s.row (row.map Value.rendered)).values.Tabulates [row.map Value.cell] :=
  .row rfl (by simpa using h) (congrArg Except.ok (Value.map_rendered row))

namespace Event

variable {e : Event} {clock : CaptureClock} {name columns values localTime : Value} {now : Int}

/-- Values are rendered as one row or as several rows. -/
theorem renderedValues_cases {v : Value} (h : renderedValues values = .ok v) :
    (∃ row : List Value, v = .tuple (row.map Value.rendered)) ∨
      ∃ rows : List (List Value),
        v = .tuple (rows.map fun row => .tuple (row.map Value.rendered)) := by
  have hrest : ∃ multipoint, (do
      let items ← values.elements
      if multipoint = true then
        let rows ← items.mapM fun row => do (← row.elements).mapM Value.render
        return Value.tuple (rows.map .tuple)
      else return .tuple (← items.mapM Value.render) : Except Fault Value) = .ok v := by
    unfold renderedValues at h
    dsimp only at h
    split_ifs at h
    · obtain ⟨first, -, h⟩ := exists_of_bind h
      exact ⟨_, h⟩
    · exact ⟨_, h⟩
  obtain ⟨multipoint, hrest⟩ := hrest
  obtain ⟨items, -, hrest⟩ := exists_of_bind hrest
  have hrow {cells row : List Value} (h : cells.mapM Value.render = .ok row) :
      cells.map Value.rendered = row :=
    (Fault.guarding_eq_ok_iff.1 ((Value.mapM_render cells).symm.trans h)).2
  cases multipoint with
  | false =>
    obtain ⟨rendered, hrendered, hv⟩ := exists_of_bind hrest
    cases hv
    exact .inl ⟨items, congrArg _ (hrow hrendered).symm⟩
  | true =>
    obtain ⟨rendered, hrendered, hv⟩ := exists_of_bind hrest
    have hrows : List.Forall₂ (fun row _ => row ∈ Set.range (List.map Value.rendered) ∧ True)
        rendered items := by
      refine (mapM_eq_ok_iff.1 hrendered).flip.imp fun row item hitem => ⟨?_, trivial⟩
      obtain ⟨cells, -, hcells⟩ := exists_of_bind hitem
      exact ⟨cells, hrow hcells⟩
    have hrange : rendered ∈ Set.range (List.map (List.map Value.rendered)) := by
      rw [Set.range_list_map]
      exact ((List.forall₂_and_left _ _).1 hrows).1
    obtain ⟨rows, rfl⟩ := hrange
    refine .inr ⟨rows, (Except.ok.inj hv).symm.trans ?_⟩
    rw [List.map_map]
    rfl

/-- Rendered values are one row or several rows of cells that are no flags. -/
theorem tabulates_of_renderedValues {v : Value} (h : renderedValues values = .ok v)
    (hv : v.truthy = true) :
    ∃ rows : List (List Value), v.Tabulates (rows.map (List.map Value.cell)) := by
  obtain ⟨row, rfl⟩ | ⟨rows, rfl⟩ := renderedValues_cases h
  · refine ⟨[row], .row rfl ?_ (congrArg Except.ok (Value.map_rendered row))⟩
    intro hnil
    rw [List.map_eq_nil_iff.1 hnil] at hv
    cases hv
  · refine ⟨rows, .rows rfl ?_ rfl ?_⟩
    · intro hnil
      rw [hnil] at hv
      cases hv
    · rw [List.forall₂_map_left_iff, List.forall₂_map_right_iff, List.forall₂_same]
      exact fun row _ => ⟨rfl, congrArg Except.ok (Value.map_rendered row)⟩

/-- An event that was built: from the values of a signal, or made of any values. -/
inductive Built : Event → Prop where
  | lifecycle {word : String} {cells : List Value} {e : Event}
      (h : Event.lifecycle word cells = .ok e) : Built e
  | made {name columns values localTime : Value} {e : Event}
      (h : Event.make name columns values localTime = .ok e) : Built e

theorem Built.exists_tabulates (h : e.Built) :
    ∃ rows : List (List Value), e.values.Tabulates (rows.map (List.map Value.cell)) := by
  cases h with
  | lifecycle h =>
    obtain ⟨s, row, hevent, hne, -⟩ := exists_row_of_lifecycle h
    obtain ⟨-, rfl⟩ := Schema.event_eq_ok_iff.1 hevent
    exact ⟨[row], s.tabulates_row hne⟩
  | made h =>
    obtain ⟨v, hv, h⟩ := exists_of_bind h
    obtain ⟨given, -, h⟩ := exists_of_bind h
    unfold create at h
    split at h
    · next htruthy =>
      cases h
      exact tabulates_of_renderedValues hv htruthy
    · obtain ⟨shown, -, h⟩ := exists_of_bind h
      cases h

theorem names_of_assemble {given : List Value} {time : Option Value} {p : Payload}
    (h : Payload.assemble e given time = .ok p) :
    ∃ name columns, nameOfValue e.name = .ok name ∧ given.mapM nameOfValue = .ok columns := by
  obtain ⟨rows, -, h⟩ := exists_of_bind h
  obtain ⟨name, hname, h⟩ := exists_of_bind h
  obtain ⟨columns, hcolumns, -⟩ := exists_of_bind h
  exact ⟨name, columns, hname, hcolumns⟩

/-- An event that could be encoded has a name and columns. -/
theorem exists_named_of_encode {text : String} (h : (e.encode clock).1 = .ok text) :
    ∃ name columns, e.Named name columns := by
  have hpayload : ∃ p, (Payload.ofEvent clock e).1 = .ok p := by
    rw [encode] at h
    cases hevent : (Payload.ofEvent clock e).1 with
    | ok p => exact ⟨p, rfl⟩
    | error fault =>
      simp only [hevent] at h
      cases h
  obtain ⟨p, hp⟩ := hpayload
  unfold Payload.ofEvent at hp
  cases hgiven : e.columns.elements with
  | error fault =>
    simp only [hgiven] at hp
    cases hp
  | ok given =>
    simp only [hgiven] at hp
    split_ifs at hp
    · obtain ⟨time, -, hp⟩ := exists_of_bind hp
      obtain ⟨name, stored, hname, hstored⟩ := names_of_assemble hp
      rw [List.mapM_cons] at hstored
      obtain ⟨first, -, hstored⟩ := exists_of_bind hstored
      obtain ⟨columns, hcolumns, -⟩ := exists_of_bind hstored
      exact ⟨name, columns, hname, given, hgiven, hcolumns⟩
    · obtain ⟨name, columns, hname, hcolumns⟩ := names_of_assemble hp
      exact ⟨name, columns, hname, given, hgiven, hcolumns⟩

/-- A stored row is found again as it is shown. -/
theorem exists_point (time : Option Int) (row : List Value) :
    ∃ point, List.Forall₂ (fun cell k => cell.toJson.ReadsAs k ∧ cell.toValue.ShownAs k)
      (time.toList.map Cell.int ++ row.map Value.cell) point := by
  refine exists_forall₂ fun cell hcell => Cell.exists_readsAs fun b hbool => ?_
  rcases List.mem_append.1 hcell with htime | hrow
  · obtain ⟨n, -, rfl⟩ := List.mem_map.1 htime
    cases hbool
  · obtain ⟨v, -, rfl⟩ := List.mem_map.1 hrow
    exact v.cell_ne_bool b hbool

/-- The text of an event whose cells are no flags, read cell by cell. -/
theorem exists_read?_encode {name : String} {columns : List String} {rows : List (List Value)}
    (hnamed : e.Named name columns) (hrows : e.values.Tabulates (rows.map (List.map Value.cell)))
    (hclock : clock.read.1 = .ok (.int now)) :
    ∃ text points, (e.encode clock).1 = .ok text ∧
      Json.read? text.toList = some (seriesDocument name
        ((e.stamp now).toList.map (fun _ => "time") ++ columns) points) ∧
      List.Forall₂ (fun row point => List.Forall₂ Value.ShownAs
        ((e.stamp now).toList.map .int ++ row.map Value.rendered) point) rows points := by
  have hstores : e.Stores name columns (rows.map (List.map Value.cell)) :=
    ⟨hnamed, hrows⟩
  obtain ⟨points, hpoints⟩ :=
    exists_forall₂ fun row (_ : row ∈ rows) => exists_point (e.stamp now) row
  refine ⟨_, points, congrArg Prod.fst (encode_of_stores hstores hclock), ?_, ?_⟩
  · rw [← Payload.toJson_stamped]
    refine Payload.read?_render ?_
    rw [Payload.stamped, List.map_map, List.forall₂_map_left_iff]
    exact hpoints.imp fun _ _ hpoint => hpoint.imp fun _ _ h => h.1
  · refine hpoints.imp fun row point hpoint => ?_
    have hvalues : (e.stamp now).toList.map Value.int ++ row.map Value.rendered =
        ((e.stamp now).toList.map Cell.int ++ row.map Value.cell).map Cell.toValue := by
      rw [List.map_append, ← Value.map_rendered, List.map_map]
      rfl
    rw [hvalues, List.forall₂_map_left_iff]
    exact hpoint.imp fun _ _ h => h.2

/-- Points without floats that are not finite hold texts and numbers only. -/
theorem isScalar_of_shownAs {rows : List (List Value)} {points : List (List Json)}
    {time : Option Int} (h : List.Forall₂ (fun row point => List.Forall₂ Value.ShownAs
      (time.toList.map .int ++ row.map Value.rendered) point) rows points)
    (hfinite : ∀ row ∈ rows, ∀ x, .float x ∈ row → x.IsFinite) :
    ∀ point ∈ points, ∀ k ∈ point, k.IsScalar := by
  intro point hpoint k hk
  obtain ⟨row, hrow, hshown⟩ := exists_of_mem_right h hpoint
  obtain ⟨v, hv, hvk⟩ := exists_of_mem_right hshown hk
  refine hvk.isScalar fun x hx => hfinite row hrow x ?_
  rw [hx] at hv
  rcases List.mem_append.1 hv with htime | hcell
  · obtain ⟨n, -, hn⟩ := List.mem_map.1 htime
    cases hn
  · obtain ⟨u, hu, hrendered⟩ := List.mem_map.1 hcell
    rwa [← Value.eq_float_of_rendered hrendered]

theorem named_row (s : Schema) (cells : List Value) : (s.row cells).Named s.name s.columns :=
  ⟨rfl, _, rfl, mapM_nameOfValue s.columns⟩

/-- An event that was built can be encoded if and only if its name and its columns are texts, as
those of a signal are. Whoever reads the text finds in each row, after the time if there is one, the
rendered cells of the event: texts and numbers, and null just for the floats that are not finite. -/
theorem encode_of_built (hbuilt : e.Built) (hclock : clock.read.1 = .ok (.int now)) :
    (∀ word cells, lifecycle word cells = .ok e → ∃ name columns, e.Named name columns) ∧
    ((∃ text, (e.encode clock).1 = .ok text) ↔ ∃ name columns, e.Named name columns) ∧
    ∃ rows : List (List Value), e.rows = .ok (rows.map (List.map Value.rendered)) ∧
      ∀ text, (e.encode clock).1 = .ok text → ∃ name columns points, e.Named name columns ∧
        Json.read? text.toList = some (seriesDocument name
          ((e.stamp now).toList.map (fun _ => "time") ++ columns) points) ∧
        List.Forall₂ (fun row point => List.Forall₂ Value.ShownAs
          ((e.stamp now).toList.map .int ++ row.map Value.rendered) point) rows points ∧
        ((∀ row ∈ rows, ∀ x, .float x ∈ row → x.IsFinite) →
          ∀ point ∈ points, ∀ k ∈ point, k.IsScalar) := by
  obtain ⟨rows, hrows⟩ := hbuilt.exists_tabulates
  refine ⟨fun word cells hword => ?_, ⟨fun ⟨text, htext⟩ => exists_named_of_encode htext, ?_⟩, rows,
    ?_, fun text htext => ?_⟩
  · obtain ⟨s, row, hevent, -⟩ := exists_row_of_lifecycle hword
    obtain ⟨-, rfl⟩ := Schema.event_eq_ok_iff.1 hevent
    exact ⟨_, _, named_row s _⟩
  · rintro ⟨name, columns, hnamed⟩
    obtain ⟨text, -, htext, -⟩ := exists_read?_encode hnamed hrows hclock
    exact ⟨text, htext⟩
  · rw [rows_of_tabulates hrows, List.map_map]
    exact congrArg Except.ok (List.map_congr_left fun row _ => (Value.map_rendered row).symm)
  · obtain ⟨name, columns, hnamed⟩ := exists_named_of_encode htext
    obtain ⟨text', points, htext', hread, hshown⟩ := exists_read?_encode hnamed hrows hclock
    obtain rfl := Except.ok.inj (htext.symm.trans htext')
    exact ⟨name, columns, points, hnamed, hread, hshown, isScalar_of_shownAs hshown⟩

theorem encode_of_built_conferenceCreated :
    ∃ e text, lifecycle "conference_created" [.text "c", .bool true] = .ok e ∧ e.Built ∧
      (e.encode (.readings [.int 5] 0)).1 = .ok text := by
  obtain ⟨e, hword⟩ : ∃ e, lifecycle "conference_created" [.text "c", .bool true] = .ok e :=
    ⟨_, rfl⟩
  have hclock : (CaptureClock.readings [.int 5] 0).read.1 = .ok (.int 5) := rfl
  obtain ⟨hnamed, hencoded, -⟩ := encode_of_built (.lifecycle hword) hclock
  obtain ⟨text, htext⟩ := hencoded.2 (hnamed _ _ hword)
  exact ⟨e, text, hword, .lifecycle hword, htext⟩

/-- The focus of a conference may be a number that is none, which is read as null. -/
theorem encode_nan_null :
    ∃ e text, lifecycle "conference_created" [.text "c", .float (.nan 0)] = .ok e ∧
      (e.encode (.readings [.int 5] 0)).1 = .ok text ∧
      Json.read? text.toList = some (seriesDocument "conference_created"
        ["time", "conference_id", "focus"] [[.int 5, .text "c", .null]]) := by
  let row : List Value := [.text "c", .float (.nan 0)]
  have hrows : (Schema.conferenceCreated.row (row.map Value.rendered)).values.Tabulates
      ([row].map (List.map Value.cell)) :=
    Schema.conferenceCreated.tabulates_row (List.cons_ne_nil _ _)
  have hclock : (CaptureClock.readings [.int 5] 0).read.1 = .ok (.int 5) := rfl
  obtain ⟨text, points, htext, hread, hshown⟩ :=
    exists_read?_encode (named_row Schema.conferenceCreated _) hrows hclock
  refine ⟨_, text, rfl, htext, ?_⟩
  obtain _ | ⟨_ | ⟨⟨⟩, _ | ⟨⟨⟩, _ | ⟨hfocus, ⟨⟩⟩⟩⟩, ⟨⟩⟩ := hshown
  cases hfocus with
  | float hfinite => exact absurd hfinite fun ⟨_, _, _, h⟩ => nomatch h
  | null => exact hread

end Event

end SessionTelemetry
