import Mathlib.Data.List.Forall2
import SessionTelemetry.Proofs.Number.Notation

/-!
# Reading back documents

The compact text of a document is read item by item and member by member (`ReadsAs`). Nothing
changes but its floats, which are rounded to their text or, if they are not finite, become null; so
a document without floats is read back from its text (`read?_write`), and two such documents have
the same text only if they are the same. What is written of a value says where it ends, except for
a number, which must not be followed by a further character of one.
-/

namespace SessionTelemetry

namespace Json

variable {j : Json}

inductive Exact : Json → Prop where
  | null : Exact null
  | bool (b : Bool) : Exact (bool b)
  | int (n : Int) : Exact (int n)
  | text (s : String) : Exact (text s)
  | array {items : List Json} (h : ∀ item ∈ items, Exact item) : Exact (array items)
  | object {members : List (String × Json)} (h : ∀ member ∈ members, Exact member.2) :
      Exact (object members)

/-- Enough fuel reads a value from the text of another, and leaves what follows. -/
def ReadsAs (j k : Json) : Prop :=
  ∀ fuel rest, EndsNumber rest → (write j).length ≤ fuel →
    readValue fuel (write j ++ rest) = some (k, rest)

theorem readsAs_null_of_write (h : write j = ['n', 'u', 'l', 'l']) : ReadsAs j null := by
  intro fuel rest _ hle
  rw [h] at hle ⊢
  cases fuel with
  | zero => simp at hle
  | succ fuel => simp [readValue, skipSpace_cons, literal?]

theorem readsAs_null : ReadsAs null null := readsAs_null_of_write rfl

theorem readsAs_bool (b : Bool) : ReadsAs (bool b) (bool b) := by
  intro fuel rest _ hle
  cases fuel with
  | zero => cases b <;> simp [write] at hle
  | succ fuel => cases b <;> simp [write, readValue, skipSpace_cons, literal?]

theorem readsAs_text (s : String) : ReadsAs (text s) (text s) := by
  intro fuel rest _ hle
  cases fuel with
  | zero => simp [write, writeText] at hle
  | succ fuel =>
    rw [write, writeText_append, readValue, skipSpace_cons (by decide)]
    simp only [readText_flatMap_escaped, Option.map_some, String.ofList_toList]

theorem readsAs_number {k : Json} (htext : IsNumberText (write j))
    (hnumber : numberOf? (write j) = some k) : ReadsAs j k := by
  intro fuel rest hends hle
  cases fuel with
  | zero => exact absurd (List.length_eq_zero_iff.1 (Nat.le_zero.1 hle)) htext.ne_nil
  | succ fuel => exact readValue_number htext hnumber fuel hends

theorem readsAs_int (n : Int) : ReadsAs (int n) (int n) :=
  readsAs_number (isNumberText_writeInt n) (numberOf?_writeInt n)

theorem readsAs_finite (negative : Bool) (m : Nat) (e : Int) :
    ∃ y, ReadsAs (float (.finite negative m e)) (float y) := by
  obtain ⟨htext, y, hy⟩ := numberOf?_writeFloat negative m e
  exact ⟨y, readsAs_number htext hy⟩

/-! ## Arrays and objects -/

/-- No value starts with a blank or with the end of an array. -/
theorem exists_write_eq_cons (j : Json) :
    ∃ c cs, write j = c :: cs ∧ c ∉ [' ', '\n', '\r', '\t', ']'] := by
  have hnumber {s : List Char} (hs : IsNumberText s) :
      ∃ c cs, s = c :: cs ∧ c ∉ [' ', '\n', '\r', '\t', ']'] := by
    obtain ⟨c, cs, hcons, hc⟩ := hs.exists_eq_cons
    exact ⟨c, cs, hcons, not_mem_of_isNumberChar hc (by decide)⟩
  cases j with
  | null => exact ⟨'n', _, rfl, by decide⟩
  | bool b => cases b <;> exact ⟨_, _, rfl, by decide⟩
  | int n => exact hnumber (isNumberText_writeInt n)
  | float x =>
    cases x with
    | finite negative m e => exact hnumber (numberOf?_writeFloat negative m e).1
    | nan | infinite => exact ⟨'n', _, rfl, by decide⟩
  | text s => exact ⟨'"', _, rfl, by decide⟩
  | array => exact ⟨'[', _, rfl, by decide⟩
  | object => exact ⟨'{', _, rfl, by decide⟩

theorem skipSpace_write (j : Json) (rest : List Char) :
    skipSpace (write j ++ rest) = write j ++ rest := by
  obtain ⟨c, cs, hcons, hc⟩ := exists_write_eq_cons j
  rw [hcons, List.cons_append]
  apply skipSpace_cons
  simp only [List.mem_cons, List.not_mem_nil, or_false, not_or] at hc ⊢
  exact ⟨hc.1, hc.2.1, hc.2.2.1, hc.2.2.2.1⟩

theorem write_append_ne (j : Json) (rest tail : List Char) : write j ++ rest ≠ ']' :: tail := by
  intro heq
  obtain ⟨c, cs, hcons, hc⟩ := exists_write_eq_cons j
  rw [hcons, List.cons_append] at heq
  rw [(List.cons.inj heq).1] at hc
  exact hc (by decide)

theorem writeFurtherItems_cons (item : Json) (others : List Json) :
    writeFurtherItems (item :: others) = ',' :: writeItems (item :: others) := rfl

/-- The items of an array are read one after the other. -/
theorem readItems_write {items ks : List Json} (h : List.Forall₂ ReadsAs items ks)
    (hne : items ≠ []) (fuel : Nat) (rest : List Char) (hle : (writeItems items).length ≤ fuel) :
    readItems fuel (writeItems items ++ rest) = some (ks, rest) := by
  induction h generalizing fuel with
  | nil => exact absurd rfl hne
  | @cons item k others ks hitem hothers ih =>
    cases fuel with
    | zero =>
      cases others <;>
        simp [writeItems, writeFurtherItems] at hle
    | succ fuel =>
      cases hothers with
      | nil =>
        rw [writeItems, writeFurtherItems, List.length_append, List.length_singleton] at hle
        have hread := hitem fuel (']' :: rest) (endsNumber_cons (by decide) rest) (by omega)
        rw [writeItems, writeFurtherItems, List.append_assoc, List.singleton_append, readItems,
          hread]
        simp [skipSpace_cons]
      | @cons next _ others =>
        rw [writeItems, writeFurtherItems_cons, List.length_append, List.length_cons] at hle
        have hread := hitem fuel (',' :: writeItems (next :: others) ++ rest)
          (endsNumber_cons (by decide) _) (by omega)
        have hrest := ih (List.cons_ne_nil _ _) fuel (by omega)
        rw [writeItems, writeFurtherItems_cons, List.append_assoc, readItems, hread]
        simp [skipSpace_cons, hrest]

theorem readsAs_array {items ks : List Json} (h : List.Forall₂ ReadsAs items ks) :
    ReadsAs (array items) (array ks) := by
  intro fuel rest _ hle
  rw [write, List.length_cons] at hle
  cases fuel with
  | zero => omega
  | succ fuel =>
    rw [write, List.cons_append, readValue, skipSpace_cons (by decide)]
    cases h with
    | nil => simp [writeItems, skipSpace_cons]
    | @cons item k others ks hitem hothers =>
      have hread := readItems_write (.cons hitem hothers) (List.cons_ne_nil _ _) fuel rest
        (by omega)
      simp only [writeItems, List.append_assoc, skipSpace_write] at hread ⊢
      split
      · next heq => exact absurd heq (write_append_ne item _ _)
      · rw [hread]
        rfl

theorem writeFurtherMembers_cons (name : String) (value : Json)
    (others : List (String × Json)) :
    writeFurtherMembers ((name, value) :: others) = ',' :: writeMembers ((name, value) :: others) :=
  rfl

theorem writeMembers_append (name : String) (value : Json) (others : List (String × Json))
    (rest : List Char) :
    writeMembers ((name, value) :: others) ++ rest =
      '"' :: (name.toList.flatMap escaped ++
        '"' :: ':' :: (write value ++ (writeFurtherMembers others ++ rest))) := by
  simp only [writeMembers, writeText, List.cons_append, List.append_assoc, List.nil_append]

def MemberReadsAs (member other : String × Json) : Prop :=
  member.1 = other.1 ∧ ReadsAs member.2 other.2

/-- The members of an object are read one after the other. -/
theorem readMembers_write {members ks : List (String × Json)}
    (h : List.Forall₂ MemberReadsAs members ks) (hne : members ≠ []) (fuel : Nat)
    (rest : List Char) (hle : (writeMembers members).length ≤ fuel) :
    readMembers fuel (writeMembers members ++ rest) = some (ks, rest) := by
  induction h generalizing fuel with
  | nil => exact absurd rfl hne
  | @cons member k others ks hmember hothers ih =>
    obtain ⟨name, value⟩ := member
    obtain ⟨_, k⟩ := k
    obtain ⟨rfl, hvalue : ReadsAs value k⟩ := hmember
    cases fuel with
    | zero =>
      cases others <;> simp [writeMembers, writeFurtherMembers, writeText] at hle
    | succ fuel =>
      cases hothers with
      | nil =>
        rw [writeMembers, writeFurtherMembers, List.length_append, List.length_singleton,
          List.length_append, List.length_cons] at hle
        have hread := hvalue fuel ('}' :: rest) (endsNumber_cons (by decide) rest) (by omega)
        rw [writeMembers_append, writeFurtherMembers, List.singleton_append, readMembers,
          skipSpace_cons (by decide)]
        simp [readText_flatMap_escaped, skipSpace_cons, hread]
      | @cons next _ others =>
        obtain ⟨nextName, nextValue⟩ := next
        rw [writeMembers, writeFurtherMembers_cons, List.length_append, List.length_append,
          List.length_cons, List.length_cons] at hle
        have hread := hvalue fuel
          (',' :: (writeMembers ((nextName, nextValue) :: others) ++ rest))
          (endsNumber_cons (by decide) _) (by omega)
        have hrest := ih (List.cons_ne_nil _ _) fuel (by omega)
        rw [writeMembers_append, writeFurtherMembers_cons, readMembers, skipSpace_cons (by decide)]
        simp [readText_flatMap_escaped, skipSpace_cons, hread, hrest]

theorem readsAs_object {members ks : List (String × Json)}
    (h : List.Forall₂ MemberReadsAs members ks) : ReadsAs (object members) (object ks) := by
  intro fuel rest _ hle
  rw [write, List.length_cons] at hle
  cases fuel with
  | zero => omega
  | succ fuel =>
    rw [write, List.cons_append, readValue, skipSpace_cons (by decide)]
    cases h with
    | nil => simp [writeMembers, skipSpace_cons]
    | @cons member k others ks hmember hothers =>
      have hread :=
        readMembers_write (.cons hmember hothers) (List.cons_ne_nil _ _) fuel rest (by omega)
      obtain ⟨name, value⟩ := member
      rw [writeMembers_append] at hread ⊢
      simp only [skipSpace_cons (show '"' ∉ [' ', '\n', '\r', '\t'] by decide)]
      split
      · next heq => simp at heq
      · rw [hread]
        rfl

theorem read?_of_readsAs {k : Json} (h : ReadsAs j k) : read? (write j) = some k := by
  have hread := h ((write j).length + 1) [] (by simp [EndsNumber]) (by omega)
  rw [List.append_nil] at hread
  simp [read?, hread, skipSpace]

theorem readsAs_of_exact (h : Exact j) : ReadsAs j j := by
  induction h with
  | null => exact readsAs_null
  | bool b => exact readsAs_bool b
  | int n => exact readsAs_int n
  | text s => exact readsAs_text s
  | array _ ih => exact readsAs_array (List.forall₂_same.2 ih)
  | object _ ih =>
    exact readsAs_object (List.forall₂_same.2 fun member hmem => ⟨rfl, ih member hmem⟩)

/-- A document without floats is read back from its text. -/
theorem read?_write (h : Exact j) : read? (write j) = some j :=
  read?_of_readsAs (readsAs_of_exact h)

/-- Documents without floats have the same text only if they are the same. -/
theorem write_injective {k : Json} (hj : Exact j) (hk : Exact k) (h : write j = write k) :
    j = k := by
  have hread := read?_write hj
  rw [h, read?_write hk] at hread
  exact (Option.some.inj hread).symm

end Json

end SessionTelemetry
