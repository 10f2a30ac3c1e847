import SessionTelemetry.Metrics.Catalogue
import SessionTelemetry.Proofs.Table
import SessionTelemetry.Proofs.Text.Spelling

/-!
# The catalogue over a run of calls

Whatever is asked of the catalogue, what it holds depends only on the factories that were
registered, in their order (`Catalogue.Reflects`): under each key the last one counts. Registering
is the only call that changes anything, and only if the identifier is not blank.
-/

namespace SessionTelemetry

namespace Catalogue

inductive Call where
  | register (factory : PublisherFactory)
  | find (id : Value)
  | create (id config : Value)
  | list

inductive Answer where
  | registered (r : Except Fault Unit)
  | found (r : Except Fault PublisherFactory)
  | created (r : Except Fault Publisher)
  | listed (ids : List String)

variable {c : Catalogue PublisherFactory} {factory : PublisherFactory} {id : Value} {k s : String}
  {entries : List (String × PublisherFactory)} {call : Call} {calls : List Call}

def take (c : Catalogue PublisherFactory) : Call → Answer × Catalogue PublisherFactory
  | .register factory =>
    match c.register factory.id factory with
    | .ok after => (.registered (.ok ()), after)
    | .error fault => (.registered (.error fault), c)
  | .find id => (.found (c.find id), c)
  | .create id config => (.created (c.create id config), c)
  | .list => (.listed c.ids, c)

def after (c : Catalogue PublisherFactory) (calls : List Call) : Catalogue PublisherFactory :=
  calls.foldl (fun c call => (c.take call).2) c

/-- What a call registers, by its key. -/
def Call.registers? : Call → Option (String × PublisherFactory)
  | .register factory =>
    if Text.AllBlank factory.id.display then none else some (key factory.id, factory)
  | _ => none

def registered (calls : List Call) : List (String × PublisherFactory) :=
  calls.filterMap Call.registers?

def Latest (entries : List (String × PublisherFactory)) (k : String) (factory : PublisherFactory) :
    Prop :=
  ∃ earlier later, entries = earlier ++ (k, factory) :: later ∧ ∀ e ∈ later, e.1 ≠ k

structure Reflects (c : Catalogue PublisherFactory) (entries : List (String × PublisherFactory)) :
    Prop where
  distinct : c.entries.Distinct
  finds : ∀ k, c.entries.find? k = entries.reverse.lookup k

section Steps

theorem registers?_of_allBlank (h : Text.AllBlank factory.id.display) :
    (Call.register factory).registers? = none := if_pos h

theorem registers?_of_not_allBlank (h : ¬ Text.AllBlank factory.id.display) :
    (Call.register factory).registers? = some (key factory.id, factory) := if_neg h

theorem key_eq_empty_iff : key id = "" ↔ Text.AllBlank id.display := Text.normal_eq_empty_iff

theorem take_register (c : Catalogue PublisherFactory) (factory : PublisherFactory) :
    c.take (.register factory) =
      if Text.AllBlank factory.id.display then (.registered (.error .blankPublisherId), c)
      else (.registered (.ok ()), ⟨c.entries.put (key factory.id) factory⟩) := by
  rw [take, register]
  simp only [key_eq_empty_iff]
  split_ifs <;> rfl

theorem take_eq (c : Catalogue PublisherFactory) (call : Call) :
    (c.take call).2 = match call.registers? with
      | some (k, factory) => ⟨c.entries.put k factory⟩
      | none => c := by
  cases call with
  | register factory =>
    rw [take_register, Call.registers?]
    split_ifs <;> rfl
  | find id => rfl
  | create id config => rfl
  | list => rfl

theorem Reflects.put (h : Reflects c entries) (k : String) (factory : PublisherFactory) :
    Reflects ⟨c.entries.put k factory⟩ (entries ++ [(k, factory)]) where
  distinct := Table.distinct_put h.distinct
  finds other := by
    rw [Table.find?_put, h.finds, List.reverse_append, List.reverse_singleton,
      List.singleton_append, List.lookup_cons]
    split_ifs with hkey
    · rw [hkey, beq_self_eq_true]
    · rw [beq_false_of_ne hkey]

theorem Reflects.take (h : Reflects c entries) (call : Call) :
    Reflects (c.take call).2 (entries ++ call.registers?.toList) := by
  rw [take_eq]
  cases call.registers? with
  | none =>
    rw [Option.toList_none, List.append_nil]
    exact h
  | some entry => exact h.put entry.1 entry.2

theorem Reflects.after (h : Reflects c entries) (calls : List Call) :
    Reflects (c.after calls) (entries ++ registered calls) := by
  -- what is reflected grows with each call, so both are left open
  induction calls generalizing c entries with
  | nil =>
    rw [registered, List.filterMap_nil, List.append_nil]
    exact h
  | cons call rest ih =>
    have hrest := ih (h.take call)
    rw [List.append_assoc] at hrest
    rw [registered, List.filterMap_cons]
    cases hentry : call.registers? with
    | none => rwa [hentry] at hrest
    | some entry => rwa [hentry] at hrest

end Steps

section Contents

theorem lookup_reverse_eq_some_iff : entries.reverse.lookup k = some factory ↔
    Latest entries k factory := by
  rw [List.lookup_eq_some_iff]
  constructor
  · rintro ⟨later, earlier, heq, hlater⟩
    refine ⟨earlier.reverse, later.reverse, ?_, fun e he => ?_⟩
    · rw [← List.reverse_reverse entries, heq, List.reverse_append, List.reverse_cons,
        List.append_assoc, List.singleton_append]
    · exact (bne_iff_ne.1 (hlater e (List.mem_reverse.1 he))).symm
  · rintro ⟨earlier, later, rfl, hlater⟩
    refine ⟨later.reverse, earlier.reverse, ?_, fun e he => ?_⟩
    · rw [List.reverse_append, List.reverse_cons, List.append_assoc, List.singleton_append]
    · exact bne_iff_ne.2 (hlater e (List.mem_reverse.1 he)).symm

theorem lookup_reverse_eq_none_iff : entries.reverse.lookup k = none ↔
    ∀ e ∈ entries, e.1 ≠ k := by
  simp only [List.lookup_eq_none_iff, List.mem_reverse, bne_iff_ne, ne_comm]

theorem Reflects.find_eq_ok_iff (h : Reflects c entries) :
    c.find id = .ok factory ↔ Latest entries (key id) factory := by
  rw [← lookup_reverse_eq_some_iff, ← h.finds, find]
  cases c.entries.find? (key id) <;> simp

theorem Reflects.find_eq_error_iff (h : Reflects c entries) :
    c.find id = .error (.unknownPublisherId id.display) ↔ ∀ e ∈ entries, e.1 ≠ key id := by
  rw [← lookup_reverse_eq_none_iff, ← h.finds, find]
  cases c.entries.find? (key id) <;> simp

theorem Reflects.mem_ids_iff (h : Reflects c entries) :
    k ∈ c.ids ↔ k ∈ entries.map Prod.fst := by
  rw [ids, List.mem_mergeSort, ← not_iff_not, ← Table.find?_eq_none_iff, h.finds,
    lookup_reverse_eq_none_iff, List.mem_map]
  simp only [not_exists, not_and, ne_eq]

theorem Reflects.pairwise_ids (h : Reflects c entries) : c.ids.Pairwise (· < ·) :=
  Text.pairwise_lt_mergeSort h.distinct

/-- Where only ASCII identifiers were registered, each key stands for all of its spellings. -/
theorem Reflects.find_of_spells (h : Reflects c entries)
    (hascii : ∀ e ∈ entries, Text.IsAscii e.2.id.display ∧ e.1 = key e.2.id) (hk : k ∈ c.ids) :
    ∃ factory, Latest entries k factory ∧
      ∀ s, Text.Spells s k → c.find (.text s) = .ok factory := by
  rw [h.mem_ids_iff] at hk
  obtain ⟨e, he, rfl⟩ := List.mem_map.1 hk
  obtain ⟨factory, hfactory⟩ : ∃ factory, entries.reverse.lookup e.1 = some factory := by
    refine Option.ne_none_iff_exists'.1 fun hnone => ?_
    exact lookup_reverse_eq_none_iff.1 hnone e he rfl
  rw [lookup_reverse_eq_some_iff] at hfactory
  refine ⟨factory, hfactory, fun s hs => h.find_eq_ok_iff.2 ?_⟩
  obtain ⟨hid, hkey⟩ := hascii e he
  have hnormal : e.1 = Text.normal e.2.id.display := hkey
  have hspelled : key (.text s) = e.1 := by
    rw [hnormal] at hs ⊢
    exact (Text.normal_of_spells (Text.isAscii_normal hid) hs).trans (Text.normal_normal hid)
  rw [hspelled]
  exact hfactory

theorem mem_registered (h : (k, factory) ∈ registered calls) :
    .register factory ∈ calls ∧ k = key factory.id := by
  obtain ⟨call, hcall, hentry⟩ := List.mem_filterMap.1 h
  cases call with
  | register other =>
    rw [Call.registers?, Option.ite_none_left_eq_some, Option.some.injEq, Prod.mk.injEq] at hentry
    obtain ⟨-, rfl, rfl⟩ := hentry
    exact ⟨hcall, rfl⟩
  | find id => cases hentry
  | create id config => cases hentry
  | list => cases hentry

theorem registered_append (calls later : List Call) :
    registered (calls ++ later) = registered calls ++ registered later :=
  List.filterMap_append

end Contents

end Catalogue

namespace PublisherFactory

open Catalogue

def standard : List PublisherFactory :=
  [⟨.text "null", .silent⟩, ⟨.text "inmemory", .memory⟩, ⟨.text "logging", .journal⟩,
   ⟨.text "prometheus", .exposition⟩, ⟨.text "otel", .meter⟩]

theorem after_standard : Catalogue.after {} (standard.map .register) = builtIn := rfl

theorem isAscii_standard : ∀ factory ∈ standard, Text.IsAscii factory.id.display := by decide

theorem reflects_empty : Reflects {} [] := ⟨List.nodup_nil, fun _ => rfl⟩

theorem reflects_builtIn : Reflects builtIn (registered (standard.map .register)) :=
  after_standard ▸ reflects_empty.after _

/-- After any calls, the catalogue finds the factory that was last registered with an identifier of
the same normal form, and lists all normal forms of registered identifiers. -/
theorem builtIn_after (calls : List Call) :
    let c := builtIn.after calls
    let entries := registered (standard.map .register ++ calls)
    (∀ id, (∀ factory, c.find id = .ok factory ↔ Latest entries (key id) factory) ∧
      (c.find id = .error (.unknownPublisherId id.display) ↔ ∀ e ∈ entries, e.1 ≠ key id)) ∧
    c.ids.Pairwise (· < ·) ∧ (∀ k, k ∈ c.ids ↔ k ∈ entries.map Prod.fst) ∧
    ((∀ factory, .register factory ∈ calls → Text.IsAscii factory.id.display) →
      ∀ k ∈ c.ids, ∃ factory, Latest entries k factory ∧
        ∀ s, Text.Spells s k → c.find (.text s) = .ok factory) ∧
    (∀ factory, (c.take (.register factory)).1 = .registered
      (if Text.AllBlank factory.id.display then .error .blankPublisherId else .ok ())) ∧
    (∀ call, call.registers? = none → (c.take call).2 = c) := by
  intro c entries
  have hreflects : Reflects c entries := by
    rw [show entries = _ from registered_append _ calls]
    exact reflects_builtIn.after calls
  refine ⟨fun id => ⟨fun factory => hreflects.find_eq_ok_iff, hreflects.find_eq_error_iff⟩,
    hreflects.pairwise_ids, fun k => hreflects.mem_ids_iff, fun hascii k hk => ?_, ?_, ?_⟩
  · refine hreflects.find_of_spells (fun e he => ?_) hk
    obtain ⟨hcall, hkey⟩ := mem_registered he
    refine ⟨?_, hkey⟩
    rcases List.mem_append.1 hcall with hstandard | hlater
    · obtain ⟨factory, hmem, hfactory⟩ := List.mem_map.1 hstandard
      exact Call.register.inj hfactory ▸ isAscii_standard factory hmem
    · exact hascii e.2 hlater
  · intro factory
    rw [take_register]
    split_ifs <;> rfl
  · intro call hcall
    rw [take_eq, hcall]

theorem builtIn_after_twoSpellings :
    let latest : PublisherFactory := ⟨.text "CUSTOM\t", .memory⟩
    let calls : List Call := [.register ⟨.text " Custom", .silent⟩,
      .create (.text "custom") .null, .register latest, .register ⟨.text "  ", .journal⟩, .list]
    let c := builtIn.after calls
    (∀ factory, .register factory ∈ calls → Text.IsAscii factory.id.display) ∧
      c.find (.text "cUSTOM ") = .ok latest ∧
      (∃ factory, Latest (registered (standard.map .register ++ calls)) "custom" factory ∧
        ∀ s, Text.Spells s "custom" → c.find (.text s) = .ok factory) ∧
      (c.take (.register ⟨.text "\n", .meter⟩)).2 = c := by
  intro latest calls c
  have hascii : ∀ factory, .register factory ∈ calls → Text.IsAscii factory.id.display := by
    intro factory hmem
    simp only [calls, List.mem_cons, Call.register.injEq, reduceCtorEq, List.not_mem_nil,
      false_or, or_false] at hmem
    rcases hmem with rfl | rfl | rfl <;> decide
  have hkey : key latest.id = "custom" := by decide
  have hasked : key (.text "cUSTOM ") = "custom" := by decide
  have hlatest : (Call.register latest).registers? = some ("custom", latest) := by
    rw [← hkey]
    exact registers?_of_not_allBlank (by decide)
  have hblank : (Call.register ⟨.text "  ", .journal⟩).registers? = none :=
    registers?_of_allBlank (by decide)
  have hentries : registered calls = registered (calls.take 2) ++ [("custom", latest)] := by
    simp only [calls, registered, List.take, List.filterMap_cons, hlatest, hblank]
    rfl
  obtain ⟨hfind, -, hlisted, hspelled, -, hunchanged⟩ := builtIn_after calls
  rw [registered_append, hentries, ← List.append_assoc] at hfind hlisted
  refine ⟨hascii, ((hfind _).1 latest).2 ?_, hspelled hascii _ ((hlisted _).2 ?_),
    hunchanged _ (registers?_of_allBlank (by decide))⟩
  · rw [hasked]
    exact ⟨_, [], rfl, fun e he => absurd he List.not_mem_nil⟩
  · exact List.mem_map_of_mem (List.mem_append_right _ (List.mem_singleton_self _))

end PublisherFactory

end SessionTelemetry
