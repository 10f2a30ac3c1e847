import Mathlib.Data.Set.Card
import SessionTelemetry.Proofs.Session.Census

/-!
# The live tree

Below a bridge lie the entries of its lists, and theirs. A position says which entry to take of each
list on the way down; it is live if every entry on the way is. Where the lists and the flags that a
count comes upon can be read, the count is the number of live positions (`countBelow_eq_ok_iff`).
An entry that expires takes with it just the positions through it (`positions_expire`).
-/

namespace SessionTelemetry

namespace SessionGraph

variable {g : SessionGraph} {count : Value → Except Fault Nat} {path pre post : List Attribute}
  {a : Attribute} {v w entry : Value} {entries rest : List Value} {live : Bool} {n : Nat}
  {p q : List Nat} {o : String} {flag : Value}

inductive Lists (g : SessionGraph) (v : Value) (a : Attribute) : List Value → Prop where
  | unset {w : Value} (h : g.get v a = .ok w) (hunset : w.truthy = false) : Lists g v a []
  | set {w : Value} {entries : List Value} (h : g.get v a = .ok w) (hset : w.truthy = true)
      (hentries : w.elements? = some entries) : Lists g v a entries

theorem entries_eq_ok_iff : g.entries v a = .ok entries ↔ g.Lists v a entries := by
  constructor
  · intro h
    obtain ⟨w, hw, h⟩ := exists_of_bind h
    split at h
    case isTrue hset =>
      refine .set hw hset ?_
      unfold Value.elements at h
      split at h
      case h_1 items hitems => exact hitems.trans (congrArg some (Except.ok.inj h))
      case h_2 => cases h
    case isFalse hunset =>
      cases h
      exact .unset hw (Bool.not_eq_true _ ▸ hunset)
  · intro h
    cases h with
    | unset h hunset => exact bind_eq_ok h (if_neg (Bool.eq_false_iff.mp hunset))
    | set h hset hentries =>
      exact bind_eq_ok h ((if_pos hset).trans (Value.elements_eq_ok hentries))

theorem Lists.unique {entries' : List Value} (h : g.Lists v a entries)
    (h' : g.Lists v a entries') : entries = entries' :=
  Except.ok.inj ((entries_eq_ok_iff.mpr h).symm.trans (entries_eq_ok_iff.mpr h'))

theorem isLive_eq_ok_iff : g.isLive entry = .ok live ↔ g.Alive entry live := by
  refine ⟨fun h => ?_, isLive_of_alive⟩
  cases entry with
  | null =>
    cases h
    exact .absent
  | object name =>
    obtain ⟨flag, hflag, h⟩ := exists_of_bind h
    cases h
    exact .present hflag
  | _ => cases h

theorem Alive.unique {live' : Bool} (h : g.Alive entry live) (h' : g.Alive entry live') :
    live = live' :=
  Except.ok.inj ((isLive_of_alive h).symm.trans (isLive_of_alive h'))

def share (g : SessionGraph) (count : Value → Except Fault Nat) (entry : Value) :
    Except Fault Nat := do
  if ← g.isLive entry then count entry else return 0

theorem share_of_idle (h : g.Alive entry false) : g.share count entry = .ok 0 :=
  bind_eq_ok (isLive_of_alive h) rfl

theorem share_of_live (h : g.Alive entry true) : g.share count entry = count entry := by
  rw [share, isLive_of_alive h]
  rfl

theorem alive_of_share (h : g.share count entry = .ok n) : ∃ live, g.Alive entry live := by
  obtain ⟨live, hlive, -⟩ := exists_of_bind h
  exact ⟨live, isLive_eq_ok_iff.mp hlive⟩

theorem sumLive_cons : g.sumLive count (entry :: rest) = (do
    let here ← g.share count entry
    return here + (← g.sumLive count rest)) := by
  rw [sumLive, share]
  cases g.isLive entry with
  | error fault => rfl
  | ok live => cases live <;> rfl

theorem add_eq_ok_iff {r r' : Except Fault Nat} :
    (do let m ← r; return m + (← r')) = .ok n ↔
      ∃ here below, r = .ok here ∧ r' = .ok below ∧ n = here + below := by
  constructor
  · intro h
    obtain ⟨here, hhere, h⟩ := exists_of_bind h
    obtain ⟨below, hbelow, h⟩ := exists_of_bind h
    cases h
    exact ⟨here, below, hhere, hbelow, rfl⟩
  · rintro ⟨here, below, hhere, hbelow, rfl⟩
    exact bind_eq_ok hhere (bind_eq_ok hbelow rfl)

/-- The number of ends of the paths of live entries that lead down from a value. -/
def countBelow (g : SessionGraph) : List Attribute → Value → Except Fault Nat
  | [], _ => .ok 1
  | a :: path, v => do g.sumLive (g.countBelow path) (← g.entries v a)

def conferencePath : List Attribute := [.conferences]

def channelPath : List Attribute := [.conferences, .contents, .channels]

theorem liveConferences_eq (g : SessionGraph) (bridge : Value) :
    g.liveConferences bridge = g.countBelow conferencePath bridge := rfl

theorem liveChannels_eq (g : SessionGraph) (bridge : Value) :
    g.liveChannels bridge = g.countBelow channelPath bridge := rfl

/-- Live entries at these places of the lists of a path lead from a value to another. -/
inductive Leads (g : SessionGraph) : List Attribute → Value → List Nat → Value → Prop where
  | here {v : Value} : Leads g [] v [] v
  | down {a : Attribute} {path : List Attribute} {v w entry : Value} {entries : List Value}
      {i : Nat} {p : List Nat} (hlists : g.Lists v a entries) (hentry : entries[i]? = some entry)
      (halive : g.Alive entry true) (h : Leads g path entry p w) :
      Leads g (a :: path) v (i :: p) w

def positions (g : SessionGraph) (path : List Attribute) (v : Value) : Set (List Nat) :=
  {p | ∃ w, g.Leads path v p w}

/-- Everything on a path that lies below nothing but live entries can be read. -/
def Readable (g : SessionGraph) : List Attribute → Value → Prop
  | [], _ => True
  | a :: path, v => ∃ entries, g.Lists v a entries ∧
      ∀ entry ∈ entries, ∃ live, g.Alive entry live ∧ (live = true → g.Readable path entry)

/-! ### Counting positions -/

theorem positions_nil : g.positions [] v = {[]} := by
  ext p
  constructor
  · rintro ⟨w, ⟨⟩⟩
    rfl
  · rintro rfl
    exact ⟨v, .here⟩

def positionsFrom (g : SessionGraph) (path : List Attribute) (entry : Value) : Set (List Nat) :=
  {q | g.Alive entry true ∧ q ∈ g.positions path entry}

theorem positionsFrom_of_alive (h : g.Alive entry true) :
    g.positionsFrom path entry = g.positions path entry := by
  ext q
  exact and_iff_right h

theorem positionsFrom_of_idle (h : g.Alive entry false) : g.positionsFrom path entry = ∅ := by
  rw [Set.eq_empty_iff_forall_notMem]
  rintro q ⟨halive, -⟩
  cases halive.unique h

def positionsIn (g : SessionGraph) (path : List Attribute) (entries : List Value) :
    Set (List Nat) :=
  {p | ∃ i entry q, p = i :: q ∧ entries[i]? = some entry ∧ q ∈ g.positionsFrom path entry}

theorem positions_cons (h : g.Lists v a entries) :
    g.positions (a :: path) v = g.positionsIn path entries := by
  ext p
  constructor
  · rintro ⟨w, hleads⟩
    cases hleads with
    | down hlists hentry halive hbelow =>
      rw [hlists.unique h] at hentry
      exact ⟨_, _, _, rfl, hentry, halive, w, hbelow⟩
  · rintro ⟨i, entry, q, rfl, hentry, halive, w, hbelow⟩
    exact ⟨w, .down h hentry halive hbelow⟩

theorem positionsIn_nil : g.positionsIn path [] = ∅ := by
  rw [Set.eq_empty_iff_forall_notMem]
  rintro p ⟨i, entry, q, -, hentry, -⟩
  cases hentry

theorem positionsIn_cons :
    g.positionsIn path (entry :: rest) =
      List.cons 0 '' g.positionsFrom path entry ∪
        List.modifyHead Nat.succ '' g.positionsIn path rest := by
  ext p
  constructor
  · rintro ⟨i, below, q, rfl, hentry, hq⟩
    cases i with
    | zero =>
      cases hentry
      exact .inl ⟨q, hq, rfl⟩
    | succ i => exact .inr ⟨i :: q, ⟨i, below, q, rfl, hentry, hq⟩, rfl⟩
  · rintro (⟨q, hq, rfl⟩ | ⟨-, ⟨i, below, q, rfl, hentry, hq⟩, rfl⟩)
    · exact ⟨0, entry, q, rfl, rfl, hq⟩
    · exact ⟨i + 1, below, q, rfl, hentry, hq⟩

theorem modifyHead_succ_injective : Function.Injective (List.modifyHead Nat.succ) := by
  rintro (_ | ⟨i, p⟩) (_ | ⟨j, q⟩) h <;> simp_all

theorem encard_positionsIn_cons :
    (g.positionsIn path (entry :: rest)).encard =
      (g.positionsFrom path entry).encard + (g.positionsIn path rest).encard := by
  have hdisjoint : Disjoint (List.cons 0 '' g.positionsFrom path entry)
      (List.modifyHead Nat.succ '' g.positionsIn path rest) := by
    rw [Set.disjoint_left]
    rintro - ⟨q, -, rfl⟩ ⟨-, ⟨i, below, q', rfl, -, -⟩, h⟩
    cases h
  rw [positionsIn_cons, Set.encard_union_eq hdisjoint, List.cons_injective.encard_image,
    modifyHead_succ_injective.encard_image]

section Counted

variable (hcount : ∀ entry n,
  count entry = .ok n ↔ g.Readable path entry ∧ (g.positions path entry).encard = n)

include hcount

theorem share_eq_ok_iff :
    g.share count entry = .ok n ↔
      (∃ live, g.Alive entry live ∧ (live = true → g.Readable path entry)) ∧
        (g.positionsFrom path entry).encard = n := by
  constructor
  · intro hshare
    obtain ⟨live, h⟩ := alive_of_share hshare
    cases live with
    | false =>
      rw [share_of_idle h] at hshare
      cases hshare
      rw [positionsFrom_of_idle h, Set.encard_empty]
      exact ⟨⟨false, h, nofun⟩, rfl⟩
    | true =>
      rw [share_of_live h, hcount] at hshare
      rw [positionsFrom_of_alive h]
      exact ⟨⟨true, h, fun _ => hshare.1⟩, hshare.2⟩
  · rintro ⟨⟨live, h, hreadable⟩, hcard⟩
    cases live with
    | false =>
      rw [positionsFrom_of_idle h, Set.encard_empty] at hcard
      obtain rfl : n = 0 := by exact_mod_cast hcard.symm
      exact share_of_idle h
    | true =>
      rw [positionsFrom_of_alive h] at hcard
      rw [share_of_live h, hcount]
      exact ⟨hreadable rfl, hcard⟩

theorem sumLive_eq_ok_iff :
    g.sumLive count entries = .ok n ↔
      (∀ entry ∈ entries, ∃ live, g.Alive entry live ∧ (live = true → g.Readable path entry)) ∧
        (g.positionsIn path entries).encard = n := by
  induction entries generalizing n with
  | nil =>
    rw [positionsIn_nil, Set.encard_empty, sumLive, Except.ok.injEq]
    constructor
    · rintro rfl
      exact ⟨List.forall_mem_nil _, rfl⟩
    · rintro ⟨-, h⟩
      exact_mod_cast h
  | cons entry rest ih =>
    rw [sumLive_cons, add_eq_ok_iff, List.forall_mem_cons, encard_positionsIn_cons]
    constructor
    · rintro ⟨here, below, hshare, hbelow, rfl⟩
      obtain ⟨hentry, hhere⟩ := (share_eq_ok_iff hcount).mp hshare
      obtain ⟨hrest, hbelow⟩ := ih.mp hbelow
      exact ⟨⟨hentry, hrest⟩, by rw [hhere, hbelow, Nat.cast_add]⟩
    · rintro ⟨⟨hentry, hrest⟩, hcard⟩
      obtain ⟨here, below, hhere, hbelow, rfl⟩ := WithTop.add_eq_coe.mp hcard
      exact ⟨here, below, (share_eq_ok_iff hcount).mpr ⟨hentry, hhere.symm⟩,
        ih.mpr ⟨hrest, hbelow.symm⟩, rfl⟩

end Counted

/-- A count comes to a result where all that it comes upon can be read, and then to the number of
live positions. -/
theorem countBelow_eq_ok_iff :
    g.countBelow path v = .ok n ↔ g.Readable path v ∧ (g.positions path v).encard = n := by
  induction path generalizing v n with
  | nil =>
    rw [positions_nil, Set.encard_singleton, countBelow, Except.ok.injEq]
    constructor
    · rintro rfl
      exact ⟨trivial, rfl⟩
    · rintro ⟨-, h⟩
      exact_mod_cast h
  | cons a path ih =>
    constructor
    · intro h
      obtain ⟨entries, hentries, h⟩ := exists_of_bind h
      rw [entries_eq_ok_iff] at hentries
      obtain ⟨hreadable, hcard⟩ := (sumLive_eq_ok_iff fun _ _ => ih).mp h
      rw [positions_cons hentries]
      exact ⟨⟨entries, hentries, hreadable⟩, hcard⟩
    · rintro ⟨⟨entries, hentries, hreadable⟩, hcard⟩
      rw [positions_cons hentries] at hcard
      exact bind_eq_ok (entries_eq_ok_iff.mpr hentries)
        ((sumLive_eq_ok_iff fun _ _ => ih).mpr ⟨hreadable, hcard⟩)

theorem exists_sumLive (h : ∀ entry ∈ entries, ∃ n, g.share count entry = .ok n) :
    ∃ n, g.sumLive count entries = .ok n := by
  induction entries with
  | nil => exact ⟨0, rfl⟩
  | cons entry rest ih =>
    rw [List.forall_mem_cons] at h
    obtain ⟨here, hhere⟩ := h.1
    obtain ⟨below, hbelow⟩ := ih h.2
    exact ⟨_, sumLive_cons.trans (add_eq_ok_iff.mpr ⟨here, below, hhere, hbelow, rfl⟩)⟩

theorem exists_countBelow (h : g.Readable path v) : ∃ n, g.countBelow path v = .ok n := by
  induction path generalizing v with
  | nil => exact ⟨1, rfl⟩
  | cons a path ih =>
    obtain ⟨entries, hentries, hreadable⟩ := h
    have hshare : ∀ entry ∈ entries, ∃ n, g.share (g.countBelow path) entry = .ok n := by
      intro entry hentry
      obtain ⟨live, halive, hbelow⟩ := hreadable entry hentry
      cases live with
      | false => exact ⟨0, share_of_idle halive⟩
      | true =>
        rw [share_of_live halive]
        exact ih (hbelow rfl)
    obtain ⟨n, hn⟩ := exists_sumLive hshare
    exact ⟨n, bind_eq_ok (entries_eq_ok_iff.mpr hentries) hn⟩

/-! ### Ways down -/

theorem leads_nil_iff : g.Leads [] v p w ↔ p = [] ∧ v = w := by
  constructor
  · rintro ⟨⟩
    exact ⟨rfl, rfl⟩
  · rintro ⟨rfl, rfl⟩
    exact .here

theorem leads_cons_iff (h : g.Lists v a entries) :
    g.Leads (a :: path) v p w ↔ ∃ i entry q, p = i :: q ∧ entries[i]? = some entry ∧
      g.Alive entry true ∧ g.Leads path entry q w := by
  constructor
  · intro hleads
    cases hleads with
    | down hlists hentry halive hbelow =>
      rw [hlists.unique h] at hentry
      exact ⟨_, _, _, rfl, hentry, halive, hbelow⟩
  · rintro ⟨i, entry, q, rfl, hentry, halive, hbelow⟩
    exact .down h hentry halive hbelow

theorem Leads.length_eq (h : g.Leads path v p w) : p.length = path.length := by
  induction h with
  | here => rfl
  | down _ _ _ _ ih => rw [List.length_cons, List.length_cons, ih]

theorem Leads.trans {u : Value} (h : g.Leads pre v p u) (h' : g.Leads post u q w) :
    g.Leads (pre ++ post) v (p ++ q) w := by
  induction h with
  | here => exact h'
  | down hlists hentry halive _ ih => exact .down hlists hentry halive (ih h')

/-- What a longer way leads to is reached from where its first part leads to. -/
theorem Leads.drop {u : Value} (h : g.Leads pre v p u) (h' : g.Leads (pre ++ post) v (p ++ q) w) :
    g.Leads post u q w := by
  induction h with
  | here => exact h'
  | down hlists hentry _ _ ih =>
    obtain ⟨i, entry, p', hp, hentry', -, hbelow⟩ := (leads_cons_iff hlists).mp h'
    obtain ⟨rfl, rfl⟩ := List.cons.inj hp
    obtain rfl := Option.some.inj (hentry.symm.trans hentry')
    exact ih hbelow

theorem Leads.readable (h : g.Leads pre v p w) (hreadable : g.Readable (pre ++ post) v) :
    g.Readable post w := by
  induction h with
  | here => exact hreadable
  | down hlists hentry halive _ ih =>
    obtain ⟨entries, hentries, hbelow⟩ := hreadable
    rw [hentries.unique hlists] at hbelow
    obtain ⟨live, hlive, hbelow⟩ := hbelow _ (List.mem_of_getElem? hentry)
    exact ih (hbelow (hlive.unique halive))

theorem Readable.start (h : g.Readable path v) (hpre : pre <+: path) : g.Readable pre v := by
  induction pre generalizing path v with
  | nil => trivial
  | cons a pre ih =>
    obtain ⟨post, rfl⟩ := hpre
    obtain ⟨entries, hentries, hbelow⟩ := h
    refine ⟨entries, hentries, fun entry hentry => ?_⟩
    obtain ⟨live, hlive, hbelow⟩ := hbelow entry hentry
    exact ⟨live, hlive, fun hset => ih (hbelow hset) (List.prefix_append pre post)⟩

/-- The positions through a place are those below what stands there. -/
theorem positions_through (h : g.Leads pre v p w) :
    g.positions (pre ++ post) v ∩ {r | p <+: r} = (p ++ ·) '' g.positions post w := by
  ext r
  constructor
  · rintro ⟨⟨u, hleads⟩, q, rfl⟩
    exact ⟨q, ⟨u, h.drop hleads⟩, rfl⟩
  · rintro ⟨q, ⟨u, hleads⟩, rfl⟩
    exact ⟨⟨u, h.trans hleads⟩, List.prefix_append p q⟩

theorem encard_positions_through (h : g.Leads pre v p w) :
    (g.positions (pre ++ post) v ∩ {r | p <+: r}).encard = (g.positions post w).encard := by
  rw [positions_through h, (List.append_right_injective p).encard_image]

/-! ### An entry expires -/

theorem get_set_of_ne {b : Attribute} {outcome : Except Fault Value}
    (h : v = .object o → b ≠ a) : (g.set o a outcome).get v b = g.get v b := by
  cases v with
  | object name =>
    refine if_neg fun hboth => h ?_ hboth.2
    rw [hboth.1]
  | _ => rfl

theorem get_set_self {outcome : Except Fault Value} :
    (g.set o a outcome).get (.object o) a = outcome := if_pos ⟨rfl, rfl⟩

theorem lists_iff_of_get_eq {g' : SessionGraph} (h : g'.get v a = g.get v a) :
    g'.Lists v a entries ↔ g.Lists v a entries := by
  rw [← entries_eq_ok_iff, ← entries_eq_ok_iff, SessionGraph.entries, SessionGraph.entries, h]

theorem alive_iff_of_get_eq {g' : SessionGraph}
    (h : g'.get entry .isExpired = g.get entry .isExpired) :
    g'.Alive entry live ↔ g.Alive entry live := by
  rw [← isLive_eq_ok_iff, ← isLive_eq_ok_iff, isLive, isLive, h]

/-- Of the live places on a path, only one holds an object. -/
def OccursOnce (g : SessionGraph) (path : List Attribute) (v : Value) (o : String)
    (p : List Nat) : Prop :=
  ∀ pre q, pre ≠ [] → pre <+: path → g.Leads pre v q (.object o) → q = p

section Expire

variable (hflag : flag.truthy = true)

include hflag

theorem alive_expire_self : (g.set o .isExpired (.ok flag)).Alive (.object o) false := by
  have hget : (g.set o .isExpired (.ok flag)).get (.object o) .isExpired = .ok flag := get_set_self
  simpa [hflag] using Alive.present hget

theorem alive_expire_iff :
    (g.set o .isExpired (.ok flag)).Alive entry true ↔
      g.Alive entry true ∧ entry ≠ .object o := by
  by_cases hentry : entry = .object o
  · subst hentry
    refine ⟨fun h => ?_, fun h => absurd rfl h.2⟩
    cases h.unique (alive_expire_self hflag)
  · rw [alive_iff_of_get_eq (get_set_of_ne fun h => absurd h hentry), and_iff_left hentry]

/-- An entry that expires cuts off just the ways through it. -/
theorem leads_expire_iff (hpath : .isExpired ∉ path) :
    (g.set o .isExpired (.ok flag)).Leads path v p w ↔ g.Leads path v p w ∧
      ∀ pre q, pre ≠ [] → pre <+: path → q <+: p → ¬ g.Leads pre v q (.object o) := by
  induction path generalizing v p with
  | nil =>
    rw [leads_nil_iff, leads_nil_iff]
    exact (and_iff_left fun pre q hne hpre => absurd (List.prefix_nil.mp hpre) hne).symm
  | cons a path ih =>
    rw [List.mem_cons, not_or] at hpath
    have hget : (g.set o .isExpired (.ok flag)).get v a = g.get v a :=
      get_set_of_ne fun _ => Ne.symm hpath.1
    constructor
    · intro h
      cases h with
      | down hlists hentry halive h =>
        rw [lists_iff_of_get_eq hget] at hlists
        obtain ⟨halive, hne⟩ := (alive_expire_iff hflag).mp halive
        obtain ⟨h, havoids⟩ := (ih hpath.2).mp h
        refine ⟨.down hlists hentry halive h, fun pre q hne' hpre hq hleads => ?_⟩
        cases hleads with
        | here => exact hne' rfl
        | @down _ pre _ _ _ _ _ q hlists' hentry' halive' hleads =>
          obtain ⟨rfl, hbelow⟩ := List.cons_prefix_cons.mp hq
          obtain ⟨rfl, htail⟩ := List.cons_prefix_cons.mp hpre
          rw [hlists'.unique hlists, hentry] at hentry'
          cases hentry'
          cases pre with
          | nil => exact hne (leads_nil_iff.mp hleads).2
          | cons b pre => exact havoids _ q (List.cons_ne_nil b pre) htail hbelow hleads
    · rintro ⟨h, havoids⟩
      cases h with
      | @down _ _ _ _ entry _ i p hlists hentry halive h =>
        have hne : entry ≠ .object o := by
          rintro rfl
          exact havoids [a] [i] (List.cons_ne_nil a []) (List.prefix_append [a] path)
            (List.prefix_append [i] p) (.down hlists hentry halive .here)
        refine .down ((lists_iff_of_get_eq hget).mpr hlists) hentry
          ((alive_expire_iff hflag).mpr ⟨halive, hne⟩)
          ((ih hpath.2).mpr ⟨h, fun pre q _ hpre hq hleads => ?_⟩)
        exact havoids (a :: pre) (i :: q) (List.cons_ne_nil a pre)
          (List.cons_prefix_cons.mpr ⟨rfl, hpre⟩) (List.cons_prefix_cons.mpr ⟨rfl, hq⟩)
          (.down hlists hentry halive hleads)

theorem readable_expire (hpath : .isExpired ∉ path) (h : g.Readable path v) :
    (g.set o .isExpired (.ok flag)).Readable path v := by
  induction path generalizing v with
  | nil => trivial
  | cons a path ih =>
    rw [List.mem_cons, not_or] at hpath
    obtain ⟨entries, hentries, hbelow⟩ := h
    rw [← lists_iff_of_get_eq (get_set_of_ne fun _ => Ne.symm hpath.1)] at hentries
    refine ⟨entries, hentries, fun entry hentry => ?_⟩
    by_cases heq : entry = .object o
    · subst heq
      exact ⟨false, alive_expire_self hflag, nofun⟩
    · obtain ⟨live, hlive, hbelow⟩ := hbelow entry hentry
      rw [← alive_iff_of_get_eq (get_set_of_ne fun h => absurd h heq)] at hlive
      exact ⟨live, hlive, fun hset => ih hpath.2 (hbelow hset)⟩

variable {whole : List Attribute} (hwhole : .isExpired ∉ whole) (hpre : pre <+: whole)
  (hne : pre ≠ []) (hpath : path <+: whole) (hleads : g.Leads pre v p (.object o))
  (honce : g.OccursOnce whole v o p)

include hwhole hpre hne hpath hleads honce

theorem positions_expire :
    (g.set o .isExpired (.ok flag)).positions path v = g.positions path v \ {r | p <+: r} := by
  have hunread : .isExpired ∉ path := fun h => hwhole (hpath.subset h)
  ext r
  constructor
  · rintro ⟨w, h⟩
    obtain ⟨h, havoids⟩ := (leads_expire_iff hflag hunread).mp h
    refine ⟨⟨w, h⟩, fun hthrough => ?_⟩
    -- the way to the entry is then a part of the path
    have hlength : pre.length ≤ path.length := by
      rw [← hleads.length_eq, ← h.length_eq]
      exact hthrough.length_le
    exact havoids pre p hne (List.prefix_of_prefix_length_le hpre hpath hlength) hthrough hleads
  · rintro ⟨⟨w, h⟩, hthrough⟩
    refine ⟨w, (leads_expire_iff hflag hunread).mpr ⟨h, fun pre' q hne' hpre' hq hleads' => ?_⟩⟩
    rw [honce pre' q hne' (hpre'.trans hpath) hleads'] at hq
    exact hthrough hq

/-- The count falls by the number of live positions through the entry. -/
theorem countBelow_expire (hreadable : g.Readable path v) :
    ∃ k m : Nat, (g.positions path v ∩ {r | p <+: r}).encard = k ∧
      g.countBelow path v = .ok (m + k) ∧
      (g.set o .isExpired (.ok flag)).countBelow path v = .ok m := by
  have hunread : .isExpired ∉ path := fun h => hwhole (hpath.subset h)
  obtain ⟨n, hn⟩ := exists_countBelow hreadable
  have hcard := (countBelow_eq_ok_iff.mp hn).2
  rw [← Set.encard_sdiff_add_encard_inter (g.positions path v) {r | p <+: r}] at hcard
  obtain ⟨m, k, hm, hk, rfl⟩ := WithTop.add_eq_coe.mp hcard
  refine ⟨k, m, hk.symm, hn, countBelow_eq_ok_iff.mpr ⟨?_, ?_⟩⟩
  · exact readable_expire hflag hunread hreadable
  · rw [positions_expire hflag hwhole hpre hne hpath hleads honce]
    exact hm.symm

end Expire

end SessionGraph

end SessionTelemetry
