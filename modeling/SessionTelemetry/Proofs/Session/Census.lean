import Mathlib.Data.List.Forall2
import SessionTelemetry.Proofs.Session.Typed
import SessionTelemetry.Session.Census

/-!
# Live counts exist

In a typed session model the live conferences and channels of every bridge can be counted: lists
that are absent have no entries, and entries that are absent do not count. Where the flags of the
conferences of a bridge can be read, as many are live as have a flag that is not set
(`liveConferences_of_alive`).
-/

namespace SessionTelemetry

namespace SessionGraph

variable {g : SessionGraph} {bridge conferences : Value} {entries : List Value} {lives : List Bool}

/-- Whether an entry is live: it is there, and its flag of expiry can be read and is not set. -/
inductive Alive (g : SessionGraph) : Value → Bool → Prop where
  | absent : Alive g .null false
  | present {entry flag : Value} (h : g.get entry .isExpired = .ok flag) :
      Alive g entry (!flag.truthy)

theorem isLive_of_alive {entry : Value} {live : Bool} (h : g.Alive entry live) :
    g.isLive entry = .ok live := by
  cases h with
  | absent => rfl
  | present h =>
    -- only objects have flags
    cases entry with
    | object name => simp [isLive, Value.isNull, h, bind, Except.bind, pure, Except.pure]
    | _ => cases h

theorem sumLive_of_alive (h : List.Forall₂ g.Alive entries lives) :
    g.sumLive (fun _ => .ok 1) entries = .ok (lives.count true) := by
  induction h with
  | nil => rfl
  | @cons entry live rest lives halive _ ih =>
    rw [sumLive, isLive_of_alive halive, ih]
    cases live <;> simp [bind, Except.bind, pure, Except.pure, Nat.add_comm]

theorem liveConferences_of_alive (h : g.get bridge .conferences = .ok conferences)
    (hentries : conferences.truthy = true → conferences.elements? = some entries)
    (hnone : conferences.truthy = false → entries = [])
    (hlives : List.Forall₂ g.Alive entries lives) :
    g.liveConferences bridge = .ok (lives.count true) := by
  have hread : g.entries bridge .conferences = .ok entries := by
    simp only [SessionGraph.entries, h, bind, Except.bind]
    cases hset : conferences.truthy with
    | true => exact Value.elements_eq_ok (hentries hset)
    | false => rw [hnone hset]; rfl
  rw [liveConferences, hread]
  exact sumLive_of_alive hlives

end SessionGraph

namespace SessionGraph.Typed

variable {g : SessionGraph} {is : ObjectKind → String → Prop} {kind : ObjectKind} {a : Attribute}
  {name : String} {count : Value → Except Fault Nat}

theorem yields_entries (types : g.Typed is) {p : Value → Prop} (h : is kind name)
    (hfits : ∀ v, a.Fits is v → v.Lists p) (ha : a ∈ kind.plain := by decide) :
    Yields (g.entries (.object name) a) fun entries => ∀ entry ∈ entries, p entry := by
  refine (types.get h ha).bind fun v hv => ?_
  by_cases hset : v.truthy = true
  · obtain ⟨items, hitems, hall⟩ := hfits v hv hset
    rw [if_pos hset, Value.elements_eq_ok hitems]
    exact .ok hall
  · rw [if_neg hset]
    exact .pure (List.forall_mem_nil _)

/-- Only an entry that is there is live. -/
theorem yields_isLive (types : g.Typed is) {entry : Value} (h : entry.Refers (is kind))
    (hexpired : .isExpired ∈ kind.plain) :
    Yields (g.isLive entry) fun live =>
      live = true → ∃ name, entry = .object name ∧ is kind name := by
  cases h with
  | null => exact .pure fun hlive => by cases hlive
  | object h => exact (types.get h hexpired).bind fun _ _ => .pure fun _ => ⟨_, rfl, h⟩

theorem yields_sumLive (types : g.Typed is) {entries : List Value}
    (hcount : ∀ name, is kind name → Yields (count (.object name)) fun _ => True)
    (h : ∀ entry ∈ entries, entry.Refers (is kind))
    (hexpired : .isExpired ∈ kind.plain := by decide) :
    Yields (g.sumLive count entries) fun _ => True := by
  induction entries with
  | nil => exact .ok trivial
  | cons entry rest ih =>
    rw [List.forall_mem_cons] at h
    refine (types.yields_isLive h.1 hexpired).bind fun live hlive => ?_
    -- an entry that is not live adds nothing, and its count is not asked for
    have hsum (here : Nat) :
        Yields (do return here + (← g.sumLive count rest)) fun _ => True :=
      (ih h.2).bind fun _ _ => .pure trivial
    refine .ite (fun hset => ?_) fun _ => hsum 0
    obtain ⟨name, rfl, hname⟩ := hlive hset
    exact (hcount name hname).bind fun here _ => hsum here

theorem yields_liveConferences (types : g.Typed is) (h : is .videobridge name) :
    Yields (g.liveConferences (.object name)) fun _ => True :=
  (types.yields_entries (a := .conferences) h fun _ hv => hv).bind fun _ hentries =>
    types.yields_sumLive (fun _ _ => .ok trivial) hentries

theorem yields_liveChannels (types : g.Typed is) (h : is .videobridge name) :
    Yields (g.liveChannels (.object name)) fun _ => True := by
  refine (types.yields_entries (a := .conferences) h fun _ hv => hv).bind fun _ hconferences =>
    types.yields_sumLive (fun conference hconference => ?_) hconferences
  refine (types.yields_entries (a := .contents) hconference fun _ hv => hv).bind
    fun _ hcontents => types.yields_sumLive (fun content hcontent => ?_) hcontents
  exact (types.yields_entries (a := .channels) hcontent fun _ hv => hv).bind fun _ hchannels =>
    types.yields_sumLive (fun _ _ => .ok trivial) hchannels

end SessionGraph.Typed

end SessionTelemetry
