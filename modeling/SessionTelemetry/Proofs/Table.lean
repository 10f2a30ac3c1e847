import Mathlib.Data.List.Nodup
import SessionTelemetry.Table

/-!
# Laws of tables

An entry is found under the key that it was put under, and no other key is affected. Where the keys
are distinct, an erased key is gone.
-/

namespace SessionTelemetry

namespace Table

variable {κ α : Type} [DecidableEq κ] {t : Table κ α} {key other : κ} {a : α}
  {entries : List (κ × α)} {e : κ × α}

def Distinct (t : Table κ α) : Prop := (t.entries.map Prod.fst).Nodup

theorem lookup_putIn_self : (putIn key a entries).lookup key = some a := by
  induction entries with
  | nil => simp [putIn]
  | cons e rest ih =>
    rw [putIn]
    split_ifs with h
    · simp
    · rwa [List.lookup_cons, beq_false_of_ne fun heq => h heq.symm]

theorem lookup_putIn_of_ne (hne : other ≠ key) :
    (putIn key a entries).lookup other = entries.lookup other := by
  induction entries with
  | nil => simp [putIn, hne]
  | cons e rest ih =>
    rw [putIn]
    split_ifs with h
    · rw [List.lookup_cons, List.lookup_cons, beq_false_of_ne hne, h, beq_false_of_ne hne]
    · rw [List.lookup_cons, List.lookup_cons, ih]

theorem find?_put :
    (t.put key a).find? other = if other = key then some a else t.find? other := by
  split_ifs with h
  · subst h
    exact lookup_putIn_self
  · exact lookup_putIn_of_ne h

theorem mem_putIn (h : e ∈ putIn key a entries) : e = (key, a) ∨ e ∈ entries := by
  induction entries with
  | nil => exact .inl (List.mem_singleton.1 h)
  | cons first rest ih =>
    rw [putIn] at h
    split_ifs at h
    · exact (List.mem_cons.1 h).imp_right (List.mem_cons_of_mem _)
    · rcases List.mem_cons.1 h with rfl | hrest
      · exact .inr List.mem_cons_self
      · exact (ih hrest).imp_right (List.mem_cons_of_mem _)

theorem putIn_of_not_mem (h : key ∉ entries.map Prod.fst) :
    putIn key a entries = entries ++ [(key, a)] := by
  induction entries with
  | nil => rfl
  | cons e rest ih =>
    rw [List.map_cons, List.mem_cons, not_or] at h
    rw [putIn, if_neg (Ne.symm h.1), ih h.2, List.cons_append]

/-- A new key comes last. -/
theorem entries_put_of_not_mem (h : key ∉ t.entries.map Prod.fst) :
    (t.put key a).entries = t.entries ++ [(key, a)] :=
  putIn_of_not_mem h

theorem mem_entries_put (h : e ∈ (t.put key a).entries) : e = (key, a) ∨ e ∈ t.entries :=
  mem_putIn h

theorem mem_entries_erase (h : e ∈ (t.erase key).entries) : e ∈ t.entries :=
  List.mem_of_mem_eraseP h

theorem mem_entries_of_find? (h : t.find? key = some a) : (key, a) ∈ t.entries := by
  obtain ⟨before, after, heq, -⟩ := List.lookup_eq_some_iff.1 h
  exact heq ▸ List.mem_append_right _ List.mem_cons_self

theorem find?_eq_some_iff (h : t.Distinct) : t.find? key = some a ↔ (key, a) ∈ t.entries := by
  refine ⟨mem_entries_of_find?, fun hmem => ?_⟩
  obtain ⟨before, after, heq⟩ := List.append_of_mem hmem
  refine List.lookup_eq_some_iff.2 ⟨before, after, heq, fun e he => bne_iff_ne.2 fun hkey => ?_⟩
  rw [Distinct, heq, List.map_append, List.map_cons] at h
  exact (List.nodup_append.1 h).2.2 key (hkey ▸ List.mem_map_of_mem he) key List.mem_cons_self rfl

theorem find?_eq_none_iff : t.find? key = none ↔ key ∉ t.entries.map Prod.fst := by
  rw [find?, List.lookup_eq_none_iff, List.mem_map, not_exists]
  refine forall_congr' fun e => ?_
  rw [bne_iff_ne, not_and]
  exact imp_congr_right fun _ => ne_comm

theorem erase_eq_self (h : t.find? key = none) : t.erase key = t := by
  rw [find?_eq_none_iff] at h
  have hnot : ∀ e ∈ t.entries, ¬ decide (e.1 = key) = true := fun e he hkey =>
    h (of_decide_eq_true hkey ▸ List.mem_map_of_mem he)
  rw [erase, List.eraseP_of_forall_not hnot]

/-- The order of the entries does not matter to what is found. -/
theorem find?_of_perm {u : Table κ α} (h : t.Distinct) (perm : t.entries.Perm u.entries) :
    t.find? key = u.find? key := by
  have hu : u.Distinct := (perm.map Prod.fst).nodup_iff.1 h
  refine Option.ext fun a => ?_
  rw [find?_eq_some_iff h, find?_eq_some_iff hu, perm.mem_iff]

theorem distinct_put (h : t.Distinct) : (t.put key a).Distinct := by
  obtain ⟨entries⟩ := t
  unfold Distinct put at *
  dsimp only at *
  induction entries with
  | nil => simp [putIn]
  | cons e rest ih =>
    rw [List.map_cons, List.nodup_cons] at h
    rw [putIn]
    split_ifs with hkey
    · rw [List.map_cons, List.nodup_cons, ← hkey]
      exact h
    · rw [List.map_cons, List.nodup_cons]
      refine ⟨fun hmem => ?_, ih h.2⟩
      obtain ⟨e', he', heq⟩ := List.mem_map.1 hmem
      rcases mem_putIn he' with rfl | hrest
      · exact hkey heq.symm
      · exact h.1 (heq ▸ List.mem_map_of_mem hrest)

theorem distinct_erase (h : t.Distinct) : (t.erase key).Distinct :=
  h.sublist (List.eraseP_sublist.map Prod.fst)

theorem find?_erase (h : t.Distinct) :
    (t.erase key).find? other = if other = key then none else t.find? other := by
  obtain ⟨entries⟩ := t
  unfold Distinct at h
  unfold erase find?
  dsimp only at *
  induction entries with
  | nil => simp
  | cons e rest ih =>
    rw [List.map_cons, List.nodup_cons] at h
    by_cases hkey : e.1 = key
    · rw [List.eraseP_cons_of_pos (by simpa using hkey)]
      subst hkey
      split_ifs with hother
      · subst hother
        exact List.lookup_eq_none_iff.2 fun e' he' => bne_iff_ne.2 fun heq =>
          h.1 (heq ▸ List.mem_map_of_mem he')
      · rw [List.lookup_cons, beq_false_of_ne hother]
    · rw [List.eraseP_cons_of_neg (by simpa using hkey), List.lookup_cons, List.lookup_cons, ih h.2]
      by_cases hother : other = e.1
      · simp [hother, hkey]
      · simp [beq_false_of_ne hother]

end Table

end SessionTelemetry
