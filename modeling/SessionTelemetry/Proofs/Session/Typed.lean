import SessionTelemetry.Proofs.Session.HashCodes
import SessionTelemetry.Session.Objects

/-!
# Session models that can be read

In a typed session model every object has the attributes of its kind, and each of them can be read
and holds what its name says (`Attribute.Fits`). Only a channel may fail to give its transport, and
not every channel has a last-N value. So nothing keeps telemetry from putting together what it wants
from a typed model, but for values that cannot be written (`SessionGraph.Unwritten`).
-/

namespace SessionTelemetry

inductive Value.Refers (p : String → Prop) : Value → Prop where
  | null : Refers p .null
  | object {name : String} (h : p name) : Refers p (.object name)

def Value.Lists (p : Value → Prop) (v : Value) : Prop :=
  v.truthy = true → ∃ items, v.elements? = some items ∧ ∀ item ∈ items, p item

theorem Value.lists_singleton {p : Value → Prop} {v : Value} (h : p v) :
    (Value.list [v]).Lists p :=
  fun _ => ⟨[v], rfl, List.forall_mem_singleton.2 h⟩

theorem Value.elements_eq_ok {v : Value} {items : List Value} (h : v.elements? = some items) :
    v.elements = .ok items := by
  rw [elements, h]

theorem Value.isNull_iff {v : Value} : v.isNull = true ↔ v = .null := by
  cases v <;> simp [isNull]

/-- What an attribute may hold, where `is kind name` says which objects there are: a reference, a
list of references, a list of components that are all there, or anything. -/
def Attribute.Fits (is : ObjectKind → String → Prop) (a : Attribute) (v : Value) : Prop :=
  match a with
  | videobridge => v.Refers (is .videobridge)
  | conference => v.Refers (is .conference)
  | content => v.Refers (is .content)
  | endpoint => v.Refers (is .endpoint)
  | agent => v.Refers (is .agent)
  | iceStream => v.Refers (is .stream)
  | selectedPair => v.Refers (is .pair)
  | transportManager => v.Refers (is .transport)
  | conferences => v.Lists (Value.Refers (is .conference))
  | contents => v.Lists (Value.Refers (is .content))
  | channels => v.Lists (Value.Refers (is .channel))
  | components => ∃ items, v.elements? = some items ∧
      ∀ item ∈ items, ∃ name, item = .object name ∧ is .component name
  | _ => True

/-- The attributes of a kind that its objects always have: all but the transport of a channel,
which may fail, and the hash code of a transport, which is more than an attribute. -/
def ObjectKind.plain (kind : ObjectKind) : List Attribute :=
  (kind.attributes.map Prod.fst).filter fun a => a ∉ [.transportManager, .hash, .lastN]

namespace SessionGraph

section Reading

variable {g : SessionGraph} {v w : Value} {a : Attribute}

theorem isNull_of_get (h : g.get v a = .ok w) : v.isNull = false := by
  cases v with
  | null => cases h
  | _ => rfl

theorem getOrNull_of_get (h : g.get v a = .ok w) : g.getOrNull v a = .ok w := by
  rw [getOrNull, isNull_of_get h, if_neg Bool.false_ne_true, h]

theorem ne_null_of_get (h : g.get v a = .ok w) : v ≠ .null := by
  rintro rfl
  cases h

theorem ne_null_of_getOrNull (h : g.getOrNull v a = .ok w) (hw : w ≠ .null) : v ≠ .null := by
  rintro rfl
  exact hw (Except.ok.inj h).symm

theorem get_of_getOrNull (h : g.getOrNull v a = .ok w) (hv : v ≠ .null) : g.get v a = .ok w := by
  rwa [getOrNull, if_neg (mt Value.isNull_iff.1 hv)] at h

end Reading

def Holds (g : SessionGraph) (v : Value) : Prop := ∃ name a, g.read name a = .ok v

def Unwritten (g : SessionGraph) (fault : Fault) : Prop := ∃ v, g.Holds v ∧ v.obstacle? = some fault

theorem holds_of_get {g : SessionGraph} {v w : Value} {a : Attribute} (h : g.get v a = .ok w) :
    g.Holds w := by
  cases v with
  | object name => exact ⟨name, a, h⟩
  | _ => cases h

/-- The objects of a session model have the attributes of their kinds. -/
structure Typed (g : SessionGraph) (is : ObjectKind → String → Prop) : Prop where
  plain : ∀ {kind name a}, is kind name → a ∈ kind.plain → Yields (g.read name a) (a.Fits is)
  transport : ∀ {name}, is .channel name →
    Yields (g.read name .transportManager) (Attribute.transportManager.Fits is) ∨
    ∃ fault, g.read name .transportManager = .error fault ∧ fault.isSystem = true
  lastN : ∀ {name}, is .channel name → Yields (g.read name .lastN) (fun _ => True) ∨
    ∃ fault, g.read name .lastN = .error fault ∧ fault.isAbsent = true
  hash : ∀ {name}, is .transport name → Yields (g.hashOf name) fun _ => True

namespace Typed

variable {g : SessionGraph} {is : ObjectKind → String → Prop} {kind : ObjectKind} {a : Attribute}
  {name : String} {v : Value}

theorem get (types : g.Typed is) (h : is kind name) (ha : a ∈ kind.plain := by decide) :
    Yields (g.get (.object name) a) (a.Fits is) :=
  types.plain h ha

/-- Through a reference, what fits a null is read as well. -/
theorem getOrNull (types : g.Typed is) (h : v.Refers (is kind)) (hnull : a.Fits is .null)
    (ha : a ∈ kind.plain := by decide) : Yields (g.getOrNull v a) (a.Fits is) := by
  cases h with
  | null => exact .ok hnull
  | object h => exact types.plain h ha

/-- The hash code of a transport can be read and written. -/
theorem hashCode (types : g.Typed is) (h : is .transport name) :
    Yields (g.hashCode (.object name)) fun hash => hash.obstacle? = none := by
  obtain ⟨code, hcode, -⟩ := types.hash h
  have hhash : (Value.object name).hashCode g.hashOf = .ok code := hcode
  rw [SessionGraph.hashCode, hhash]
  exact .pure (obstacle?_hashCode hhash)

/-- An attribute is read, and what it holds may keep from being written. -/
theorem get_shown (types : g.Typed is) (h : is kind name) (ha : a ∈ kind.plain := by decide) :
    Settles (g.get (.object name) a)
      (fun v => Settles v.shown (fun _ => True) g.Unwritten) g.Unwritten := by
  obtain ⟨v, hread, -⟩ := types.get h ha
  rw [hread]
  exact .guarding trivial fun fault hfault => ⟨v, holds_of_get hread, hfault⟩

/-- The pairs of a stream can be put together, as all its components are there, if their addresses
can be written. -/
theorem selectedPairs (types : g.Typed is) (h : is .stream name) :
    Settles (g.selectedPairs (.object name)) (fun _ => True) g.Unwritten := by
  refine (Settles.of_yields (types.get (a := .components) h)).bind ?_
  rintro v ⟨items, hitems, hall⟩
  rw [Value.elements_eq_ok hitems]
  refine (Settles.mapM (q := fun _ => True) fun item hitem => ?_).bind fun _ _ => trivial
  obtain ⟨component, rfl, hcomponent⟩ := hall item hitem
  refine (Settles.of_yields (types.get (a := .selectedPair) hcomponent)).bind ?_
  rintro pair (_ | hpair)
  · exact trivial
  · exact (types.get_shown (a := .localAddress) hpair).bind fun _ hnear => hnear.bind fun _ _ =>
      (types.get_shown (a := .remoteAddress) hpair).bind fun _ hfar => hfar.bind fun _ _ => trivial

end Typed

end SessionGraph

/-- What the attributes of a kind start from fits. -/
theorem ObjectKind.fits_standard (is : ObjectKind → String → Prop) (kind : ObjectKind) :
    ∀ entry ∈ kind.attributes, entry.1.Fits is entry.2 := by
  have hlist (p : Value → Prop) : (Value.list []).Lists p := fun h => by cases h
  have hnone : ∃ items, (Value.list []).elements? = some items ∧
      ∀ item ∈ items, ∃ name, item = .object name ∧ is .component name :=
    ⟨[], rfl, List.forall_mem_nil _⟩
  cases kind <;>
    simp [attributes, channelAttributes, Attribute.Fits, Value.Refers.null, hlist, hnone]

theorem SessionObject.lookup_of_forall {entries : SessionObject} {a : Attribute} {p : Value → Prop}
    (hmem : a ∈ entries.map Prod.fst) (h : ∀ entry ∈ entries, entry.1 = a → Yields entry.2 p) :
    ∃ v, entries.lookup a = some (.ok v) ∧ p v := by
  induction entries with
  | nil => cases hmem
  | cons entry rest ih =>
    obtain ⟨b, outcome⟩ := entry
    rw [List.forall_mem_cons] at h
    -- the first entry for the attribute is the one that is read
    by_cases hb : b = a
    · subst hb
      obtain ⟨v, rfl, hp⟩ : Yields outcome p := h.1 rfl
      exact ⟨v, List.lookup_cons_self, hp⟩
    · have hrest : a ∈ rest.map Prod.fst := by
        rw [List.map_cons, List.mem_cons] at hmem
        exact hmem.resolve_left (Ne.symm hb)
      obtain ⟨v, hv, hp⟩ := ih hrest h.2
      refine ⟨v, ?_, hp⟩
      rw [List.lookup_cons, beq_false_of_ne (Ne.symm hb)]
      exact hv

/-- An object that is made with attributes which fit has attributes which fit. -/
theorem SessionObject.lookup_make {is : ObjectKind → String → Prop} {kind : ObjectKind}
    {given : SessionObject} {a : Attribute}
    (hgiven : ∀ entry ∈ given, entry.1 = a → Yields entry.2 (a.Fits is)) (ha : a ∈ kind.plain) :
    ∃ v, (make kind given []).lookup a = some (.ok v) ∧ a.Fits is v := by
  have hmake : make kind given [] =
      given ++ kind.attributes.map fun entry => (entry.1, .ok entry.2) := by
    rw [make]
    exact List.filter_eq_self.2 fun _ _ => rfl
  have hstandard : a ∈ kind.attributes.map Prod.fst := (List.mem_filter.1 ha).1
  rw [hmake]
  apply lookup_of_forall
  · rw [List.map_append, List.map_map]
    exact List.mem_append_right _ hstandard
  · rw [List.forall_mem_append, List.forall_mem_map]
    refine ⟨hgiven, ?_⟩
    rintro entry hentry rfl
    exact .ok (kind.fits_standard is entry hentry)

namespace SessionGraph

theorem yields_read_of_make {objects : List (String × SessionObject)} {name : String}
    {is : ObjectKind → String → Prop} {kind : ObjectKind} {given : SessionObject} {a : Attribute}
    (hmade : objects.lookup name = some (.make kind given []))
    (hgiven : ∀ entry ∈ given, entry.1 = a → Yields entry.2 (a.Fits is)) (ha : a ∈ kind.plain) :
    Yields ((ofObjects objects).read name a) (a.Fits is) := by
  obtain ⟨v, hv, hfits⟩ := SessionObject.lookup_make hgiven ha
  refine ⟨v, ?_, hfits⟩
  simp only [ofObjects, hmade, Option.bind_some, hv]

/-- What is held is an attribute of an object. -/
theorem obstacle?_of_holds {objects : List (String × SessionObject)} {v : Value}
    (h : ∀ object ∈ objects, ∀ entry ∈ object.2, entry.2.toOption.bind Value.obstacle? = none)
    (hv : (ofObjects objects).Holds v) : v.obstacle? = none := by
  obtain ⟨name, a, hread⟩ := hv
  simp only [ofObjects] at hread
  split at hread
  · rename_i outcome hfound
    obtain ⟨object, hobject, houtcome⟩ := Option.bind_eq_some_iff.1 hfound
    obtain ⟨_, _, hobjects, -⟩ := List.lookup_eq_some_iff.1 hobject
    obtain ⟨_, _, hentries, -⟩ := List.lookup_eq_some_iff.1 houtcome
    have hentry := h (name, object) (by simp [hobjects]) (a, outcome) (by simp [hentries])
    rw [hread] at hentry
    exact hentry
  · cases hread

def unreachable : SessionGraph := .ofObjects
  [("bridge", .make .videobridge [(.conferences, .ok (.list [.object "conference"]))] []),
   ("conference", .make .conference
      [(.videobridge, .ok (.object "bridge")), (.contents, .ok (.list [.object "content"]))] []),
   ("content", .make .content
      [(.conference, .ok (.object "conference")), (.channels, .ok (.list [.object "channel"]))] []),
   ("channel", .make .channel
      [(.content, .ok (.object "content")),
        (.transportManager, .error (.foreign .system "OSError" "unreachable"))] [])]

def unreachableKinds (kind : ObjectKind) (name : String) : Prop :=
  (kind, name) ∈ [(ObjectKind.videobridge, "bridge"), (.conference, "conference"),
    (.content, "content"), (.channel, "channel")]

theorem typed_unreachable : unreachable.Typed unreachableKinds where
  plain := by
    intro kind name a h ha
    simp only [unreachableKinds, List.mem_cons, List.not_mem_nil, or_false, Prod.mk.injEq] at h
    rcases h with ⟨rfl, rfl⟩ | ⟨rfl, rfl⟩ | ⟨rfl, rfl⟩ | ⟨rfl, rfl⟩
    · refine yields_read_of_make rfl ?_ ha
      rw [List.forall_mem_singleton]
      rintro rfl
      exact .ok (Value.lists_singleton (.object (by simp [unreachableKinds])))
    · refine yields_read_of_make rfl ?_ ha
      rw [List.forall_mem_cons, List.forall_mem_singleton]
      refine ⟨?_, ?_⟩ <;> rintro rfl
      · exact .ok (.object (by simp [unreachableKinds]))
      · exact .ok (Value.lists_singleton (.object (by simp [unreachableKinds])))
    · refine yields_read_of_make rfl ?_ ha
      rw [List.forall_mem_cons, List.forall_mem_singleton]
      refine ⟨?_, ?_⟩ <;> rintro rfl
      · exact .ok (.object (by simp [unreachableKinds]))
      · exact .ok (Value.lists_singleton (.object (by simp [unreachableKinds])))
    · refine yields_read_of_make rfl ?_ ha
      rw [List.forall_mem_cons, List.forall_mem_singleton]
      refine ⟨?_, ?_⟩ <;> rintro rfl
      · exact .ok (.object (by simp [unreachableKinds]))
      · exact absurd ha (by decide)
  transport := by
    intro name h
    obtain rfl : name = "channel" := by simpa [unreachableKinds] using h
    exact .inr ⟨_, rfl, rfl⟩
  lastN := by
    intro name h
    obtain rfl : name = "channel" := by simpa [unreachableKinds] using h
    exact .inr ⟨_, rfl, rfl⟩
  hash := by
    intro name h
    simp [unreachableKinds] at h

end SessionGraph

end SessionTelemetry
