import SessionTelemetry.Proofs.Json.RoundTrip
import SessionTelemetry.Proofs.Yields
import SessionTelemetry.Series.Payload

/-!
# Reading back events

The text of an event is that of its document (`encode_of_stores`), which holds its name, its
columns and its rows, and nothing else but the time of capture (`document_inj`). All rows carry the
time that was read from the clock, once, where the event is stored with its time. An event without
floats can be read back from its text.
-/

namespace SessionTelemetry

namespace Cell

variable {cell : Cell}

def isExact : Cell → Bool
  | float _ => false
  | _ => true

theorem ofValue_toValue (cell : Cell) : ofValue cell.toValue = .ok cell := by
  cases cell <;> rfl

theorem isRow_toValue (cell : Cell) : cell.toValue.isRow = false := by
  cases cell <;> rfl

theorem toValue_injective : Function.Injective toValue := by
  intro a b h
  have hcell := ofValue_toValue a
  rw [h, ofValue_toValue] at hcell
  exact (Except.ok.inj hcell).symm

theorem toJson_injective : Function.Injective toJson := by
  intro a b h
  cases a <;> cases b <;> cases h <;> rfl

theorem exact_toJson (h : cell.isExact = true) : cell.toJson.Exact := by
  cases cell with
  | text s => exact .text s
  | int n => exact .int n
  | float x => cases h
  | bool b => exact .bool b

end Cell

inductive Value.Tabulates : Value → List (List Cell) → Prop where
  | row {values : Value} {row : List Cell} (hrow : values.isRow = true) (hne : row ≠ [])
      (hcells : values.elements = .ok (row.map Cell.toValue)) : Tabulates values [row]
  | rows {values : Value} {items : List Value} {rows : List (List Cell)}
      (hrow : values.isRow = true) (hne : items ≠ []) (hitems : values.elements = .ok items)
      (hcells : List.Forall₂
        (fun item row => item.isRow = true ∧ item.elements = .ok (row.map Cell.toValue))
        items rows) : Tabulates values rows

theorem mapM_nameOfValue (columns : List String) :
    (columns.map Value.text).mapM nameOfValue = .ok columns := by
  rw [mapM_eq_ok_iff, List.forall₂_map_left_iff, List.forall₂_same]
  intro column _
  rfl

namespace Event

structure Named (e : Event) (name : String) (columns : List String) : Prop where
  name_eq : nameOfValue e.name = .ok name
  columns_eq : ∃ given, e.columns.elements = .ok given ∧ given.mapM nameOfValue = .ok columns

/-- An event whose name and columns can be stored, with rows of cells. -/
structure Stores (e : Event) (name : String) (columns : List String)
    (rows : List (List Cell)) : Prop extends e.Named name columns where
  tabulates : e.values.Tabulates rows

/-- An event with texts for its name and its columns, and with rows of cells, none of which is a
float. -/
structure Holds (e : Event) (name : String) (columns : List String)
    (rows : List (List Cell)) : Prop extends e.Stores name columns rows where
  name_text : e.name = .text name
  columns_text : e.columns.elements = .ok (columns.map .text)
  exact : ∀ row ∈ rows, ∀ cell ∈ row, cell.isExact = true
  name_eq := congrArg nameOfValue name_text
  columns_eq := ⟨_, columns_text, mapM_nameOfValue columns⟩

end Event

def document (time : Option Int) (name : String) (columns : List String)
    (rows : List (List Cell)) : Json :=
  .array [.object [
    ("name", .text name),
    ("columns", .array ((time.toList.map fun _ => .text "time") ++ columns.map .text)),
    ("points", .array (rows.map fun row =>
      .array (time.toList.map .int ++ row.map Cell.toJson)))]]

namespace Event

variable {e : Event} {clock : CaptureClock} {name : String} {columns : List String}
  {rows : List (List Cell)} {now : Int}

theorem first_of_elements {values v : Value} {rest : List Value} (hrow : values.isRow = true)
    (h : values.elements = .ok (v :: rest)) : values.first = .ok v := by
  cases values with
  | list items =>
    cases h
    rfl
  | tuple items =>
    cases h
    rfl
  | _ => cases hrow

theorem rows_of_tabulates (h : e.values.Tabulates rows) :
    e.rows = .ok (rows.map fun row => row.map Cell.toValue) := by
  cases h with
  | @row row hrow hne hcells =>
    obtain ⟨cell, rest, rfl⟩ := List.exists_cons_of_ne_nil hne
    have hfirst : e.values.first = .ok cell.toValue := first_of_elements hrow hcells
    have hflat : e.isMultipoint = .ok false := by
      rw [isMultipoint, hfirst, ← Cell.isRow_toValue cell]
      rfl
    rw [rows, hflat, hcells]
    rfl
  | @rows items _ hrow hne hitems hcells =>
    obtain ⟨item, rest, rfl⟩ := List.exists_cons_of_ne_nil hne
    have hfirst : e.values.first = .ok item := first_of_elements hrow hitems
    have hmulti : e.isMultipoint = .ok true := by
      cases hcells with
      | cons hitem _ =>
        rw [isMultipoint, hfirst, ← hitem.1]
        rfl
    rw [Event.rows, hmulti, hitems]
    show (item :: rest).mapM Value.elements = _
    rw [mapM_eq_ok_iff]
    exact List.forall₂_map_right_iff.2 (hcells.imp fun _ _ h => h.2)

theorem mapM_ofValue (point : List Cell) :
    (point.map Cell.toValue).mapM Cell.ofValue = .ok point := by
  rw [mapM_eq_ok_iff, List.forall₂_map_left_iff, List.forall₂_same]
  intro cell _
  exact Cell.ofValue_toValue cell

end Event

/-- What is stored of an event: its name, its columns and its rows, all of them after the time of
capture if there is one. -/
def Payload.stamped (time : Option Int) (name : String) (columns : List String)
    (rows : List (List Cell)) : Payload where
  name := name
  columns := (time.toList.map fun _ => timeColumn) ++ columns
  points := rows.map fun row => time.toList.map .int ++ row

theorem Payload.toJson_stamped (time : Option Int) (name : String) (columns : List String)
    (rows : List (List Cell)) :
    (Payload.stamped time name columns rows).toJson = document time name columns rows := by
  have hpoint (row : List Cell) : (time.toList.map Cell.int ++ row).map Cell.toJson =
      time.toList.map Json.int ++ row.map Cell.toJson := by
    rw [List.map_append, List.map_map]
    rfl
  simp only [toJson, stamped, document, List.map_append, List.map_map, Function.comp_def, hpoint]
  rfl

namespace Event

variable {e : Event} {clock : CaptureClock} {name : String} {columns : List String}
  {rows : List (List Cell)} {now : Int}

/-- What is stored of an event does not depend on where its time comes from. -/
theorem assemble_of_stores (he : e.Stores name columns rows) {given : List Value}
    (time : Option Int) (hgiven : given.mapM nameOfValue =
      .ok ((time.toList.map fun _ => Payload.timeColumn) ++ columns)) :
    Payload.assemble e given (time.map .int) = .ok (.stamped time name columns rows) := by
  have hstamp : ((time.map Value.int).toList.filter fun t => !t.isNull) =
      (time.toList.map Cell.int).map Cell.toValue := by
    cases time <;> rfl
  have hpoints : ((rows.map fun row => row.map Cell.toValue).map fun row =>
      (time.toList.map Cell.int).map Cell.toValue ++ row).mapM
        (fun point => point.mapM Cell.ofValue) =
      .ok (rows.map fun row => time.toList.map Cell.int ++ row) := by
    rw [mapM_eq_ok_iff, List.map_map, List.forall₂_map_left_iff, List.forall₂_map_right_iff,
      List.forall₂_same]
    intro row _
    rw [Function.comp_apply, ← List.map_append]
    exact mapM_ofValue _
  rw [Payload.assemble, hstamp, rows_of_tabulates he.tabulates, he.name_eq]
  simp only [hgiven, hpoints, bind, Except.bind]
  rfl

def stamp (e : Event) (now : Int) : Option Int := if e.localTime.truthy then some now else none

def asked (e : Event) (clock : CaptureClock) : CaptureClock :=
  if e.localTime.truthy then clock.read.2 else clock

theorem ofEvent_of_stores (he : e.Stores name columns rows)
    (hclock : clock.read.1 = .ok (.int now)) :
    Payload.ofEvent clock e = (.ok (.stamped (e.stamp now) name columns rows), e.asked clock) := by
  obtain ⟨given, hcolumns, hgiven⟩ := he.columns_eq
  unfold Payload.ofEvent stamp asked
  rw [hcolumns]
  by_cases hlocal : e.localTime.truthy = true
  · have htimed : (Value.text Payload.timeColumn :: given).mapM nameOfValue =
        .ok (Payload.timeColumn :: columns) := by
      rw [List.mapM_cons, hgiven]
      rfl
    simp only [hlocal, if_true, hclock]
    exact congrArg₂ Prod.mk (assemble_of_stores he (some now) htimed) rfl
  · simp only [hlocal]
    exact congrArg₂ Prod.mk (assemble_of_stores he none hgiven) rfl

theorem encode_of_stores (he : e.Stores name columns rows)
    (hclock : clock.read.1 = .ok (.int now)) :
    e.encode clock = (.ok (document (e.stamp now) name columns rows).render, e.asked clock) := by
  rw [encode, ofEvent_of_stores he hclock, ← Payload.toJson_stamped]
  rfl

theorem exact_document (time : Option Int) (name : String) (columns : List String)
    (h : ∀ row ∈ rows, ∀ cell ∈ row, cell.isExact = true) :
    (document time name columns rows).Exact := by
  have htexts : ∀ column ∈ (time.toList.map fun _ => Json.text "time") ++ columns.map .text,
      column.Exact := by
    rw [List.forall_mem_append, List.forall_mem_map, List.forall_mem_map]
    exact ⟨fun _ _ => .text _, fun _ _ => .text _⟩
  have hpoint : ∀ row ∈ rows, (Json.array (time.toList.map .int ++ row.map Cell.toJson)).Exact := by
    intro row hrow
    apply Json.Exact.array
    rw [List.forall_mem_append, List.forall_mem_map, List.forall_mem_map]
    exact ⟨fun _ _ => .int _, fun cell hcell => Cell.exact_toJson (h row hrow cell hcell)⟩
  have hmembers : ∀ member ∈ [("name", Json.text name),
      ("columns", .array ((time.toList.map fun _ => .text "time") ++ columns.map .text)),
      ("points", .array (rows.map fun row =>
        .array (time.toList.map .int ++ row.map Cell.toJson)))], member.2.Exact := by
    intro member hmem
    simp only [List.mem_cons, List.not_mem_nil, or_false] at hmem
    rcases hmem with rfl | rfl | rfl
    · exact .text name
    · exact .array htexts
    · exact .array (List.forall_mem_map.2 hpoint)
  apply Json.Exact.array
  intro series hmem
  rw [List.mem_singleton.1 hmem]
  exact .object hmembers

theorem document_inj {time : Option Int} {others : List String} {title : String}
    {lines : List (List Cell)} :
    document time name columns rows = document time title others lines ↔
      name = title ∧ columns = others ∧ rows = lines := by
  constructor
  · intro h
    simp only [document, Json.array.injEq, Json.object.injEq, List.cons.injEq, Prod.mk.injEq,
      Json.text.injEq, true_and, and_true, List.append_cancel_left_eq] at h
    obtain ⟨hname, hcolumns, hpoints⟩ := h
    have htext : Function.Injective Json.text := fun _ _ => Json.text.inj
    refine ⟨hname, htext.list_map hcolumns, ?_⟩
    refine Function.Injective.list_map ?_ hpoints
    intro row line hrow
    exact Cell.toJson_injective.list_map (List.append_cancel_left (Json.array.inj hrow))
  · rintro ⟨rfl, rfl, rfl⟩
    rfl

/-- The clock given in advance is asked once for an event that is stored with its time. -/
theorem calls_asked (given : List Value) (n : Nat) :
    (e.asked (.readings given n)).calls = n + if e.localTime.truthy then 1 else 0 := by
  unfold asked
  by_cases hlocal : e.localTime.truthy = true
  · rw [if_pos hlocal, if_pos hlocal]
    rcases given with _ | ⟨v, _ | ⟨w, rest⟩⟩ <;> rfl
  · rw [if_neg hlocal, if_neg hlocal]
    rfl

/-- An event without floats is always encoded, and its text is read back as its document, which
holds its name, its columns and its rows in order, all of them after one and the same time exactly
where it is stored with its time. The clock is asked once in this case and not at all otherwise. So
two events that are stored with the same time, or both with none, have the same text if and only if
they have the same name, columns and rows. -/
theorem encode_faithful (he : e.Holds name columns rows) (hclock : clock.read.1 = .ok (.int now)) :
    e.rows = .ok (rows.map fun row => row.map Cell.toValue) ∧
    (Payload.ofEvent clock e).1.map Payload.toJson =
      .ok (document (if e.localTime.truthy then some now else none) name columns rows) ∧
    (∃ text, (e.encode clock).1 = .ok text ∧ Json.read? text.toList =
      some (document (if e.localTime.truthy then some now else none) name columns rows)) ∧
    (e.encode clock).2 = (if e.localTime.truthy then clock.read.2 else clock) ∧
    (∀ given n, clock = .readings given n →
      (e.encode clock).2.calls = n + if e.localTime.truthy then 1 else 0) ∧
    ∀ (other : Event) (otherClock : CaptureClock) (title : String) (others : List String)
      (lines : List (List Cell)), other.Holds title others lines →
      otherClock.read.1 = .ok (.int now) → other.localTime.truthy = e.localTime.truthy →
      ((other.encode otherClock).1 = (e.encode clock).1 ↔
        other.name = e.name ∧ other.columns.elements = e.columns.elements ∧
          other.rows = e.rows) := by
  have hrows := rows_of_tabulates he.tabulates
  have hexact := exact_document (e.stamp now) name columns he.exact
  refine ⟨hrows, ?_, ?_, ?_, ?_, ?_⟩
  · rw [ofEvent_of_stores he.toStores hclock]
    exact congrArg Except.ok (Payload.toJson_stamped ..)
  · refine ⟨(document (e.stamp now) name columns rows).render, ?_, ?_⟩
    · rw [encode_of_stores he.toStores hclock]
    · rw [Json.render, String.toList_ofList]
      exact Json.read?_write hexact
  · rw [encode_of_stores he.toStores hclock, asked]
  · rintro given n rfl
    rw [encode_of_stores he.toStores hclock]
    exact calls_asked given n
  · intro other otherClock title others lines ho hoclock hlocal
    have hstamp : other.stamp now = e.stamp now := by rw [stamp, stamp, hlocal]
    have htexts : (other.encode otherClock).1 = (e.encode clock).1 ↔
        document (e.stamp now) title others lines = document (e.stamp now) name columns rows := by
      rw [encode_of_stores ho.toStores hoclock, encode_of_stores he.toStores hclock, hstamp,
        Except.ok.injEq]
      constructor
      · intro h
        apply Json.write_injective (exact_document _ _ _ ho.exact) hexact
        exact String.ofList_injective h
      · intro h
        rw [h]
    have htext : Function.Injective Value.text := fun _ _ => Value.text.inj
    have hcell : Function.Injective (List.map Cell.toValue) := Cell.toValue_injective.list_map
    rw [htexts, document_inj, ho.name_text, he.name_text, ho.columns_text, he.columns_text,
      rows_of_tabulates ho.tabulates, hrows, Value.text.injEq, Except.ok.injEq, Except.ok.injEq,
      htext.list_map.eq_iff, hcell.list_map.eq_iff]

def twoRows : Event where
  name := .text "a\"b"
  columns := .tuple [.text "x\n"]
  values := .list [.tuple [.int (-5)], .list [.text "\u00e9", .bool true]]

theorem holds_twoRows :
    twoRows.Holds "a\"b" ["x\n"] [[.int (-5)], [.text "\u00e9", .bool true]] where
  name_text := rfl
  columns_text := rfl
  tabulates := .rows rfl (List.cons_ne_nil _ _) rfl (.cons ⟨rfl, rfl⟩ (.cons ⟨rfl, rfl⟩ .nil))
  exact := by decide

theorem encode_faithful_twoRows :
    (∃ text, (twoRows.encode (.readings [.int 7, .int 8] 0)).1 = .ok text ∧
      Json.read? text.toList =
        some (document (some 7) "a\"b" ["x\n"] [[.int (-5)], [.text "\u00e9", .bool true]])) ∧
    (twoRows.encode (.readings [.int 7, .int 8] 0)).2.calls = 1 := by
  have hclock : (CaptureClock.readings [.int 7, .int 8] 0).read.1 = .ok (.int 7) := rfl
  obtain ⟨-, -, htext, -, hcalls, -⟩ := encode_faithful holds_twoRows hclock
  exact ⟨htext, hcalls _ 0 rfl⟩

end Event

end SessionTelemetry
