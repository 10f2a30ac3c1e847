import SessionTelemetry.Proofs.Notify.Chains

/-!
# What the events of signals show

Each signal that is stored has one series, and a field of the session model for each of its columns
(`Signal.lineup?`). A signal has an event just if all of its fields can be read and what they hold
can be stored, and this event shows what they hold (`ofSignal_eq_event_iff`).
-/

namespace SessionTelemetry

/-- What a column shows of the object that a signal is about. -/
inductive Field where
  | read (path : List Attribute) (a : Attribute)
  | hash (path : List Attribute)
  | endpointId
  | lastN
  | selectedPairs
  | state (v : Value)

inductive Field.Reads (g : SessionGraph) (target : Value) : Field → Value → Prop where
  | read {path a o v} (hobject : g.follow target path = .ok o) (hread : g.get o a = .ok v) :
      Reads g target (read path a) v
  | hash {path o} {n : Int} (hobject : g.follow target path = .ok o) (hthere : o ≠ .null)
      (hhash : o.hashCode g.hashOf = .ok n) : Reads g target (hash path) (.text (toString n))
  | endpoint {endpoint v} (hendpoint : g.get target .endpoint = .ok endpoint)
      (hthere : endpoint ≠ .null) (hread : g.get endpoint .id = .ok v) : Reads g target endpointId v
  | noEndpoint (hendpoint : g.get target .endpoint = .ok .null) :
      Reads g target endpointId (.text "")
  | lastN {n} (hread : g.get target .lastN = .ok n) : Reads g target lastN n
  | noLastN {fault} (hread : g.get target .lastN = .error fault) (habsent : fault.isAbsent = true) :
      Reads g target lastN (.int (-1))
  | selectedPairs {stream s} (hstream : g.follow target [.iceStream] = .ok stream)
      (hpairs : g.selectedPairs stream = .ok s) : Reads g target selectedPairs (.text s)
  | state {v} (hthere : v ≠ .null) (hwritten : v.obstacle? = none) :
      Reads g target (state v) (.text v.display)
  | noState : Reads g target (state .null) .null

/-- A field holds one value at most. -/
theorem Field.Reads.unique {g : SessionGraph} {target v w : Value} {field : Field}
    (h : field.Reads g target v) (h' : field.Reads g target w) : v = w := by
  cases h with
  | read hobject hread =>
    cases h' with
    | read hobject' hread' =>
      obtain rfl := Except.ok.inj (hobject.symm.trans hobject')
      exact Except.ok.inj (hread.symm.trans hread')
  | hash hobject _ hhash =>
    cases h' with
    | hash hobject' _ hhash' =>
      obtain rfl := Except.ok.inj (hobject.symm.trans hobject')
      obtain rfl := Except.ok.inj (hhash.symm.trans hhash')
      rfl
  | endpoint hendpoint hthere hread =>
    cases h' with
    | endpoint hendpoint' _ hread' =>
      obtain rfl := Except.ok.inj (hendpoint.symm.trans hendpoint')
      exact Except.ok.inj (hread.symm.trans hread')
    | noEndpoint hendpoint' =>
      exact absurd (Except.ok.inj (hendpoint.symm.trans hendpoint')) hthere
  | noEndpoint hendpoint =>
    cases h' with
    | endpoint hendpoint' hthere _ =>
      exact absurd (Except.ok.inj (hendpoint'.symm.trans hendpoint)) hthere
    | noEndpoint _ => rfl
  | lastN hread =>
    cases h' with
    | lastN hread' => exact Except.ok.inj (hread.symm.trans hread')
    | noLastN hread' _ => cases hread.symm.trans hread'
  | noLastN hread _ =>
    cases h' with
    | lastN hread' => cases hread.symm.trans hread'
    | noLastN _ _ => rfl
  | selectedPairs hstream hpairs =>
    cases h' with
    | selectedPairs hstream' hpairs' =>
      obtain rfl := Except.ok.inj (hstream.symm.trans hstream')
      obtain rfl := Except.ok.inj (hpairs.symm.trans hpairs')
      rfl
  | state hthere _ =>
    cases h' with
    | state _ _ => rfl
    | noState => exact absurd rfl hthere
  | noState =>
    cases h' with
    | state hthere _ => exact absurd rfl hthere
    | noState => rfl

/-- The object that a signal is about, the name of its series, and its columns with what they
show. -/
structure Lineup where
  target : Value
  name : String
  fields : List (String × Field)

namespace Lineup

def schema (l : Lineup) : Schema := ⟨l.name, l.fields.map Prod.fst⟩

def Holds (l : Lineup) (g : SessionGraph) (values : List Value) : Prop :=
  List.Forall₂ (fun field v => field.2.Reads g l.target v) l.fields values

structure Reads (l : Lineup) (g : SessionGraph) (values : List Value) : Prop where
  holds : l.Holds g values
  stored : ∀ v ∈ values, v.cellObstacle? = none

theorem Reads.unique {l : Lineup} {g : SessionGraph} {values values' : List Value}
    (h : l.Reads g values) (h' : l.Reads g values') : values = values' := by
  have hfield : Relator.RightUnique fun (field : String × Field) v =>
      field.2.Reads g l.target v := fun _ _ _ hv hw => hv.unique hw
  exact hfield.forall₂ h.holds h'.holds

end Lineup

namespace Signal

def contentFields : List (String × Field) :=
  [("name", .read [] .title), ("conference_id", .read [.conference] .id)]

def channelFields : List (String × Field) :=
  [("channel_id", .read [] .id), ("content_name", .read [.content] .title),
    ("conference_id", .read [.content, .conference] .id), ("endpoint_id", .endpointId),
    ("lastn", .lastN)]

def transportChannelFields : List (String × Field) :=
  [("hash_code", .hash [.transportManager]),
    ("conference_id", .read [.content, .conference] .id), ("channel_id", .read [] .id)]

/-- The lineup of a signal, unless nothing is stored of it or it sends a prepared event. The series
of a change of a display name is named for what it shows. -/
def lineup? : Signal → Option Lineup
  | event _ => none
  | conferenceCreated v => some ⟨v, "conference_created",
      [("conference_id", .read [] .id), ("focus", .read [] .focus)]⟩
  | conferenceExpired v => some ⟨v, "conference_expired", [("conference_id", .read [] .id)]⟩
  | endpointCreated v => some ⟨v, "endpoint_created",
      [("conference_id", .read [.conference] .id), ("endpoint_id", .read [] .id)]⟩
  | endpointDisplayNameChanged v => some ⟨v, "endpoint_display_name",
      [("conference_id", .read [.conference] .id), ("endpoint_id", .read [] .id),
        ("display_name", .read [] .displayName)]⟩
  | contentCreated v => some ⟨v, "content_created", contentFields⟩
  | contentExpired v => some ⟨v, "content_expired", contentFields⟩
  | transportChannelAdded v => some ⟨v, "transport_channel_added", transportChannelFields⟩
  | transportChannelRemoved v => some ⟨v, "transport_channel_removed", transportChannelFields⟩
  | transportStateChanged v oldState newState => some ⟨v, "transport_state_changed",
      [("hash_code", .hash []), ("conference_id", .read [.conference] .id),
        ("old_state", .state oldState), ("new_state", .state newState)]⟩
  | transportCreated v => some ⟨v, "transport_created",
      [("hash_code", .hash []), ("conference_id", .read [.conference] .id),
        ("num_components", .read [] .numComponents), ("ufrag", .read [.agent] .localUfrag),
        ("is_controlling", .read [] .isControlling)]⟩
  | transportConnected v => some ⟨v, "transport_connected",
      [("hash_code", .hash []), ("conference_id", .read [.conference] .id),
        ("selected_pairs", .selectedPairs)]⟩
  | channelCreated v => some ⟨v, "channel_created", channelFields⟩
  | channelExpired v => some ⟨v, "channel_expired", channelFields⟩
  | channelStartedStreaming _ => none

theorem fields_ne_nil {signal : Signal} {l : Lineup} (h : signal.lineup? = some l) :
    l.fields ≠ [] := by
  cases signal <;> cases h <;> exact List.cons_ne_nil _ _

end Signal

namespace SeriesAnswer

variable {g : SessionGraph} {signal : Signal} {target v w : Value} {e : Event}

section Parts

variable {refs : References} {answer : Except Fault SeriesAnswer}

theorem unlessMissing_eq_event_iff : unlessMissing signal refs answer = .ok (.event e) ↔
    (∀ ref ∈ refs, ref.2 ≠ .null) ∧ answer = .ok (.event e) := by
  have hskip : refs.skip? signal.words = none ↔ ∀ ref ∈ refs, ref.2 ≠ .null := by
    simp [References.skip?, References.firstMissing?, Value.isNull_iff]
  unfold unlessMissing
  cases h : refs.skip? signal.words with
  | some record =>
    constructor
    · intro hdropped
      cases hdropped
    · rintro ⟨hpresent, -⟩
      rw [hskip.2 hpresent] at h
      cases h
  | none => exact (and_iff_right (hskip.1 h)).symm

theorem map_event_eq_iff {build : Except Fault Event} :
    build.map event = .ok (.event e) ↔ build = .ok e := by
  cases build <;> simp [Except.map]

theorem follow_one (v : Value) (a : Attribute) : g.follow v [a] = g.getOrNull v a := by
  rw [SessionGraph.follow, List.foldlM_cons]
  exact bind_pure _

theorem follow_two {a b : Attribute} (h : g.getOrNull v a = .ok w) :
    g.follow v [a, b] = g.getOrNull w b := by
  rw [← follow_one, SessionGraph.follow, List.foldlM_cons, h]
  rfl

theorem exists_of_follow_two {a b : Attribute} {u : Value} (h : g.follow v [a, b] = .ok u) :
    ∃ w, g.getOrNull v a = .ok w ∧ g.getOrNull w b = .ok u := by
  rw [SessionGraph.follow, List.foldlM_cons] at h
  obtain ⟨w, hw, h⟩ := exists_of_bind h
  exact ⟨w, hw, (follow_one w b).symm.trans h⟩

end Parts

section Fields

theorem display_int (n : Int) : (Value.int n).display = toString n := by
  show String.ofList (Value.intText n) = toString n
  cases n with
  | ofNat m =>
    rw [Value.intText, if_neg (by simp)]
    rfl
  | negSucc m =>
    rw [Value.intText, if_pos (Int.negSucc_lt_zero m)]
    show String.ofList ('-' :: Nat.toDigits 10 (m + 1)) =
      "-" ++ String.ofList (Nat.toDigits 10 (m + 1))
    rw [← String.toList_inj]
    simp

/-- A hash code is always written. -/
theorem reads_hash_iff {path : List Attribute} :
    (Field.hash path).Reads g target v ↔ ∃ o hash, g.follow target path = .ok o ∧ o ≠ .null ∧
      g.hashCode o = .ok hash ∧ Event.hashCode hash = .ok v := by
  constructor
  · intro h
    cases h with
    | @hash _ o n hobject hthere hhash =>
      refine ⟨o, .int n, hobject, hthere, bind_eq_ok hhash rfl, ?_⟩
      exact Event.hashCode_eq_ok_iff.2
        ⟨SessionGraph.obstacle?_hashCode hhash, congrArg Value.text (display_int n)⟩
  · rintro ⟨o, hash, hobject, hthere, hcode, hshown⟩
    obtain ⟨n, hn, hint⟩ := exists_of_bind hcode
    cases hint
    obtain ⟨-, rfl⟩ := Event.hashCode_eq_ok_iff.1 hshown
    rw [display_int]
    exact .hash hobject hthere hn

theorem reads_state_iff : (Field.state v).Reads g target w ↔ Event.stateName v = .ok w := by
  by_cases hv : v = .null
  · subst hv
    constructor
    · intro h
      cases h with
      | state hthere _ => exact absurd rfl hthere
      | noState => rfl
    · intro h
      cases h
      exact .noState
  · have hname : Event.stateName v = .text <$> v.shown := by
      cases v with
      | null => exact absurd rfl hv
      | _ => rfl
    rw [hname]
    constructor
    · intro h
      cases h with
      | state _ hwritten =>
        rw [Value.shown, hwritten]
        rfl
      | noState => exact absurd rfl hv
    · intro h
      obtain ⟨s, hs, h⟩ := exists_of_bind h
      cases h
      obtain ⟨hwritten, rfl⟩ := Value.shown_eq_ok_iff.1 hs
      exact .state hv hwritten

theorem reads_endpointId_iff :
    Field.endpointId.Reads g target v ↔ endpointIdOf g target = .ok v := by
  constructor
  · intro h
    cases h with
    | endpoint hendpoint hthere hread =>
      exact bind_eq_ok hendpoint ((if_neg (mt Value.isNull_iff.1 hthere)).trans hread)
    | noEndpoint hendpoint => exact bind_eq_ok hendpoint rfl
  · intro h
    obtain ⟨endpoint, hendpoint, h⟩ := exists_of_bind h
    split_ifs at h with hnull
    · obtain rfl := Value.isNull_iff.1 hnull
      cases h
      exact .noEndpoint hendpoint
    · exact .endpoint hendpoint (mt Value.isNull_iff.2 hnull) h

theorem reads_lastN_iff : Field.lastN.Reads g target v ↔ lastNOf g target = .ok v := by
  constructor
  · intro h
    cases h with
    | lastN hread => rw [lastNOf, hread]
    | noLastN hread habsent => simp only [lastNOf, hread, habsent, if_true]
  · intro h
    unfold lastNOf at h
    split at h
    · next n hread =>
      cases h
      exact .lastN hread
    · next fault hread =>
      split_ifs at h with habsent
      cases h
      exact .noLastN hread habsent

theorem ne_null_of_selectedPairs {s : String} (h : g.selectedPairs v = .ok s) : v ≠ .null := by
  obtain ⟨components, hcomponents, -⟩ := exists_of_bind h
  exact SessionGraph.ne_null_of_get hcomponents

end Fields

section Handlers

theorem withConference_eq_event_iff {refs : Value → References}
    {build : Value → Except Fault Event} :
    (do
      let conference ← g.getOrNull v .conference
      unlessMissing signal (refs conference) ((build conference).map event)) = .ok (.event e) ↔
    ∃ conference, g.follow v [.conference] = .ok conference ∧
      (∀ ref ∈ refs conference, ref.2 ≠ .null) ∧ build conference = .ok e := by
  rw [follow_one]
  constructor
  · intro h
    obtain ⟨conference, hread, h⟩ := exists_of_bind h
    obtain ⟨hpresent, h⟩ := unlessMissing_eq_event_iff.1 h
    exact ⟨conference, hread, hpresent, map_event_eq_iff.1 h⟩
  · rintro ⟨conference, hread, hpresent, h⟩
    exact bind_eq_ok hread (unlessMissing_eq_event_iff.2 ⟨hpresent, map_event_eq_iff.2 h⟩)

theorem withConferenceAnd_eq_event_iff {a : Attribute} {name : String}
    {answer : Value → Value → Except Fault SeriesAnswer} :
    (do
      let conference ← g.getOrNull v .conference
      let more ← g.getOrNull v a
      unlessMissing signal
        [("transport_manager", v), ("conference", conference), (name, more)]
        (answer conference more)) = .ok (.event e) ↔
    ∃ conference more, g.follow v [.conference] = .ok conference ∧ g.follow v [a] = .ok more ∧
      v ≠ .null ∧ conference ≠ .null ∧ more ≠ .null ∧
      answer conference more = .ok (.event e) := by
  simp only [follow_one]
  constructor
  · intro h
    obtain ⟨conference, hconference, h⟩ := exists_of_bind h
    obtain ⟨more, hmore, h⟩ := exists_of_bind h
    obtain ⟨hpresent, h⟩ := unlessMissing_eq_event_iff.1 h
    simp only [List.forall_mem_cons] at hpresent
    exact ⟨conference, more, hconference, hmore, hpresent.1, hpresent.2.1, hpresent.2.2.1, h⟩
  · rintro ⟨conference, more, hconference, hmore, hthere, hconferenceThere, hmoreThere, h⟩
    refine bind_eq_ok hconference (bind_eq_ok hmore (unlessMissing_eq_event_iff.2 ⟨?_, h⟩))
    simp only [List.forall_mem_cons]
    exact ⟨hthere, hconferenceThere, hmoreThere, List.forall_mem_nil _⟩

theorem forall_present {a b : Attribute} {name other : String} {u x y : Value}
    (h : g.get v a = .ok x) (h' : g.get u b = .ok y) :
    ∀ ref ∈ [(name, v), (other, u)], ref.2 ≠ .null := by
  rw [List.forall_mem_cons, List.forall_mem_singleton]
  exact ⟨SessionGraph.ne_null_of_get h, SessionGraph.ne_null_of_get h'⟩

theorem ofChannel_eq_event_iff {answer : Value → Value → Except Fault SeriesAnswer} :
    ofChannel g signal v answer = .ok (.event e) ↔
    ∃ content conference, g.follow v [.content] = .ok content ∧
      g.follow v [.content, .conference] = .ok conference ∧ conference ≠ .null ∧
      answer content conference = .ok (.event e) := by
  constructor
  · intro h
    obtain ⟨content, hcontent, h⟩ := exists_of_bind h
    obtain ⟨conference, hconference, h⟩ := exists_of_bind h
    obtain ⟨hpresent, h⟩ := unlessMissing_eq_event_iff.1 h
    simp only [List.forall_mem_cons] at hpresent
    exact ⟨content, conference, (follow_one ..).trans hcontent,
      (follow_two hcontent).trans hconference, hpresent.2.2.1, h⟩
  · rintro ⟨content, conference, hcontent, hconference, hthere, h⟩
    rw [follow_one] at hcontent
    rw [follow_two hcontent] at hconference
    have hcontentThere := SessionGraph.ne_null_of_getOrNull hconference hthere
    have hchannelThere := SessionGraph.ne_null_of_getOrNull hcontent hcontentThere
    refine bind_eq_ok hcontent (bind_eq_ok hconference (unlessMissing_eq_event_iff.2 ⟨?_, h⟩))
    simp only [List.forall_mem_cons]
    exact ⟨hchannelThere, hcontentThere, hthere, List.forall_mem_nil _⟩

theorem ofChannelTransport_eq_event_iff {build : Value → Value → Except Fault Event} :
    ofChannelTransport g signal v build = .ok (.event e) ↔
    ∃ transport conference, g.follow v [.transportManager] = .ok transport ∧
      g.follow v [.content, .conference] = .ok conference ∧ transport ≠ .null ∧
      conference ≠ .null ∧ build transport conference = .ok e := by
  unfold ofChannelTransport
  rw [ofChannel_eq_event_iff]
  constructor
  · rintro ⟨content, conference, -, hconference, hthere, h⟩
    split at h
    · split_ifs at h
      cases h
    · next transport hread =>
      obtain ⟨hpresent, h⟩ := unlessMissing_eq_event_iff.1 h
      exact ⟨transport, conference,
        (follow_one ..).trans (SessionGraph.getOrNull_of_get hread), hconference,
        hpresent _ List.mem_cons_self, hthere, map_event_eq_iff.1 h⟩
  · rintro ⟨transport, conference, htransport, hconference, htransportThere, hthere, h⟩
    rw [follow_one] at htransport
    obtain ⟨content, hcontent, -⟩ := exists_of_follow_two hconference
    have hread := SessionGraph.get_of_getOrNull htransport
      (SessionGraph.ne_null_of_getOrNull htransport htransportThere)
    refine ⟨content, conference, (follow_one ..).trans hcontent, hconference, hthere, ?_⟩
    simp only [hread]
    exact unlessMissing_eq_event_iff.2 ⟨List.forall_mem_singleton.2 htransportThere,
      map_event_eq_iff.2 h⟩

end Handlers

/-- An event has the name and the columns of a lineup, and shows what its fields hold. -/
def Shows (g : SessionGraph) (l : Lineup) (e : Event) : Prop :=
  ∃ values, l.Holds g values ∧ l.schema.event values = .ok e

theorem shows_iff {l : Lineup} : Shows g l e ↔
    ∃ values, l.Reads g values ∧ e = l.schema.row (values.map Value.rendered) := by
  constructor
  · rintro ⟨values, hholds, he⟩
    obtain ⟨hstored, rfl⟩ := Schema.event_eq_ok_iff.1 he
    exact ⟨values, ⟨hholds, hstored⟩, rfl⟩
  · rintro ⟨values, hreads, rfl⟩
    exact ⟨values, hreads.holds, Schema.event_eq_ok_iff.2 ⟨hreads.stored, rfl⟩⟩

theorem content_eq_iff {name : String} {build : Value → Value → Except Fault Event}
    (hbuild : ∀ a b, build a b =
      (Lineup.mk v name Signal.contentFields).schema.event [a, b]) :
    (ofContent g signal v fun conference => do
      build (← g.get v .title) (← g.get conference .id)) = .ok (.event e) ↔
    Shows g ⟨v, name, Signal.contentFields⟩ e := by
  refine withConference_eq_event_iff.trans ?_
  constructor
  · rintro ⟨conference, hconference, -, h⟩
    obtain ⟨title, htitle, h⟩ := exists_of_bind h
    obtain ⟨conferenceId, hconferenceId, h⟩ := exists_of_bind h
    exact ⟨_, .cons (.read rfl htitle) (.cons (.read hconference hconferenceId) .nil),
      (hbuild ..).symm.trans h⟩
  · rintro ⟨values, _ | ⟨⟨⟨⟩, htitle⟩, _ | ⟨⟨hconference, hconferenceId⟩, ⟨⟩⟩⟩, he⟩
    refine ⟨_, hconference, forall_present htitle hconferenceId, ?_⟩
    exact bind_eq_ok htitle (bind_eq_ok hconferenceId ((hbuild ..).trans he))

theorem channel_eq_iff {name : String}
    {build : Value → Value → Value → Value → Value → Except Fault Event}
    (hbuild : ∀ a b c d x, build a b c d x =
      (Lineup.mk v name Signal.channelFields).schema.event [a, b, c, d, x]) :
    (ofChannel g signal v fun content conference =>
      (channelEvent g v content conference build).map event) = .ok (.event e) ↔
    Shows g ⟨v, name, Signal.channelFields⟩ e := by
  rw [ofChannel_eq_event_iff]
  constructor
  · rintro ⟨content, conference, hcontent, hconference, -, h⟩
    have h := map_event_eq_iff.1 h
    obtain ⟨endpointId, hendpoint, h⟩ := exists_of_bind h
    obtain ⟨lastN, hlastN, h⟩ := exists_of_bind h
    obtain ⟨id, hid, h⟩ := exists_of_bind h
    obtain ⟨title, htitle, h⟩ := exists_of_bind h
    obtain ⟨conferenceId, hconferenceId, h⟩ := exists_of_bind h
    exact ⟨_, .cons (.read rfl hid) (.cons (.read hcontent htitle)
      (.cons (.read hconference hconferenceId) (.cons (reads_endpointId_iff.2 hendpoint)
        (.cons (reads_lastN_iff.2 hlastN) .nil)))), (hbuild ..).symm.trans h⟩
  · rintro ⟨values, _ | ⟨⟨⟨⟩, hid⟩, _ | ⟨⟨hcontent, htitle⟩, _ | ⟨⟨hconference, hconferenceId⟩,
      _ | ⟨hendpoint, _ | ⟨hlastN, ⟨⟩⟩⟩⟩⟩⟩, he⟩
    refine ⟨_, _, hcontent, hconference, SessionGraph.ne_null_of_get hconferenceId,
      map_event_eq_iff.2 ?_⟩
    exact bind_eq_ok (reads_endpointId_iff.1 hendpoint) (bind_eq_ok (reads_lastN_iff.1 hlastN)
      (bind_eq_ok hid (bind_eq_ok htitle (bind_eq_ok hconferenceId ((hbuild ..).trans he)))))

theorem transportChannel_eq_iff {name : String}
    {build : Value → Value → Value → Except Fault Event}
    (hbuild : ∀ a b c, build a b c = Event.hashCode a >>= fun code =>
      (Lineup.mk v name Signal.transportChannelFields).schema.event [code, b, c]) :
    (ofChannelTransport g signal v fun transport conference => do
      build (← g.hashCode transport) (← g.get conference .id) (← g.get v .id)) =
        .ok (.event e) ↔
    Shows g ⟨v, name, Signal.transportChannelFields⟩ e := by
  rw [ofChannelTransport_eq_event_iff]
  constructor
  · rintro ⟨transport, conference, htransport, hconference, hthere, -, h⟩
    obtain ⟨hash, hhash, h⟩ := exists_of_bind h
    obtain ⟨conferenceId, hconferenceId, h⟩ := exists_of_bind h
    obtain ⟨id, hid, h⟩ := exists_of_bind h
    rw [hbuild] at h
    obtain ⟨code, hcode, h⟩ := exists_of_bind h
    exact ⟨_, .cons (reads_hash_iff.2 ⟨_, _, htransport, hthere, hhash, hcode⟩)
      (.cons (.read hconference hconferenceId) (.cons (.read rfl hid) .nil)), h⟩
  · rintro ⟨values, _ | ⟨hread, _ | ⟨⟨hconference, hconferenceId⟩, _ | ⟨⟨⟨⟩, hid⟩, ⟨⟩⟩⟩⟩, he⟩
    obtain ⟨transport, hash, htransport, hthere, hhash, hcode⟩ := reads_hash_iff.1 hread
    refine ⟨_, _, htransport, hconference, hthere, SessionGraph.ne_null_of_get hconferenceId, ?_⟩
    exact bind_eq_ok hhash (bind_eq_ok hconferenceId (bind_eq_ok hid
      ((hbuild ..).trans (bind_eq_ok hcode he))))

theorem transportStateChanged_eq_iff {l : Lineup} {oldState newState : Value}
    (hl : (Signal.transportStateChanged v oldState newState).lineup? = some l) :
    ofSignal g (.transportStateChanged v oldState newState) = .ok (.event e) ↔ Shows g l e := by
  cases hl
  constructor
  · intro h
    obtain ⟨conference, hconference, h⟩ := exists_of_bind h
    obtain ⟨hpresent, h⟩ := unlessMissing_eq_event_iff.1 h
    obtain ⟨hash, hhash, h⟩ := exists_of_bind h
    obtain ⟨conferenceId, hconferenceId, h⟩ := exists_of_bind h
    obtain ⟨_, hbuilt, ⟨⟩⟩ := exists_of_bind h
    obtain ⟨code, hcode, hbuilt⟩ := exists_of_bind hbuilt
    obtain ⟨before, hbefore, hbuilt⟩ := exists_of_bind hbuilt
    obtain ⟨after, hafter, hbuilt⟩ := exists_of_bind hbuilt
    exact ⟨_, .cons (reads_hash_iff.2 ⟨_, _, rfl, hpresent _ List.mem_cons_self, hhash, hcode⟩)
      (.cons (.read ((follow_one ..).trans hconference) hconferenceId)
        (.cons (reads_state_iff.2 hbefore) (.cons (reads_state_iff.2 hafter) .nil))), hbuilt⟩
  · rintro ⟨values, _ | ⟨hread, _ | ⟨⟨hconference, hconferenceId⟩, _ | ⟨hold,
      _ | ⟨hnew, ⟨⟩⟩⟩⟩⟩, he⟩
    obtain ⟨_, hash, ⟨⟩, hthere, hhash, hcode⟩ := reads_hash_iff.1 hread
    have hbuilt : Event.transportStateChanged hash _ oldState newState = .ok e := bind_eq_ok hcode
      (bind_eq_ok (reads_state_iff.1 hold) (bind_eq_ok (reads_state_iff.1 hnew) he))
    refine bind_eq_ok ((follow_one ..).symm.trans hconference) (unlessMissing_eq_event_iff.2
      ⟨?_, bind_eq_ok hhash (bind_eq_ok hconferenceId (bind_eq_ok hbuilt rfl))⟩)
    simp only [List.forall_mem_cons]
    exact ⟨hthere, SessionGraph.ne_null_of_get hconferenceId, List.forall_mem_nil _⟩

theorem transportCreated_eq_iff {l : Lineup}
    (hl : (Signal.transportCreated v).lineup? = some l) :
    ofSignal g (.transportCreated v) = .ok (.event e) ↔ Shows g l e := by
  cases hl
  refine withConferenceAnd_eq_event_iff.trans ?_
  constructor
  · rintro ⟨conference, agent, hconference, hagent, hthere, -, -, h⟩
    obtain ⟨hash, hhash, h⟩ := exists_of_bind h
    obtain ⟨conferenceId, hconferenceId, h⟩ := exists_of_bind h
    obtain ⟨numComponents, hnumComponents, h⟩ := exists_of_bind h
    obtain ⟨ufrag, hufrag, h⟩ := exists_of_bind h
    obtain ⟨isControlling, hisControlling, h⟩ := exists_of_bind h
    obtain ⟨_, hbuilt, ⟨⟩⟩ := exists_of_bind h
    obtain ⟨code, hcode, hbuilt⟩ := exists_of_bind hbuilt
    exact ⟨_, .cons (reads_hash_iff.2 ⟨_, _, rfl, hthere, hhash, hcode⟩)
      (.cons (.read hconference hconferenceId) (.cons (.read rfl hnumComponents)
        (.cons (.read hagent hufrag) (.cons (.read rfl hisControlling) .nil)))), hbuilt⟩
  · rintro ⟨values, _ | ⟨hread, _ | ⟨⟨hconference, hconferenceId⟩,
      _ | ⟨⟨⟨⟩, hnumComponents⟩, _ | ⟨⟨hagent, hufrag⟩, _ | ⟨⟨⟨⟩, hisControlling⟩, ⟨⟩⟩⟩⟩⟩⟩, he⟩
    obtain ⟨_, hash, ⟨⟩, hthere, hhash, hcode⟩ := reads_hash_iff.1 hread
    have hbuilt : Event.transportCreated hash _ _ _ _ = .ok e := bind_eq_ok hcode he
    exact ⟨_, _, hconference, hagent, hthere, SessionGraph.ne_null_of_get hconferenceId,
      SessionGraph.ne_null_of_get hufrag,
      bind_eq_ok hhash (bind_eq_ok hconferenceId (bind_eq_ok hnumComponents
        (bind_eq_ok hufrag (bind_eq_ok hisControlling (bind_eq_ok hbuilt rfl)))))⟩

theorem transportConnected_eq_iff {l : Lineup}
    (hl : (Signal.transportConnected v).lineup? = some l) :
    ofSignal g (.transportConnected v) = .ok (.event e) ↔ Shows g l e := by
  cases hl
  refine withConferenceAnd_eq_event_iff.trans ?_
  constructor
  · rintro ⟨conference, stream, hconference, hstream, hthere, -, -, h⟩
    obtain ⟨hash, hhash, h⟩ := exists_of_bind h
    obtain ⟨conferenceId, hconferenceId, h⟩ := exists_of_bind h
    obtain ⟨pairs, hpairs, h⟩ := exists_of_bind h
    obtain ⟨_, hbuilt, ⟨⟩⟩ := exists_of_bind h
    obtain ⟨code, hcode, hbuilt⟩ := exists_of_bind hbuilt
    exact ⟨_, .cons (reads_hash_iff.2 ⟨_, _, rfl, hthere, hhash, hcode⟩)
      (.cons (.read hconference hconferenceId) (.cons (.selectedPairs hstream hpairs) .nil)),
      hbuilt⟩
  · rintro ⟨values, _ | ⟨hread, _ | ⟨⟨hconference, hconferenceId⟩, _ | ⟨hpairs, ⟨⟩⟩⟩⟩, he⟩
    obtain ⟨_, hash, ⟨⟩, hthere, hhash, hcode⟩ := reads_hash_iff.1 hread
    cases hpairs with
    | selectedPairs hstream hpairs =>
      have hbuilt : Event.transportConnected hash _ _ = .ok e := bind_eq_ok hcode he
      exact ⟨_, _, hconference, hstream, hthere, SessionGraph.ne_null_of_get hconferenceId,
        ne_null_of_selectedPairs hpairs,
        bind_eq_ok hhash (bind_eq_ok hconferenceId (bind_eq_ok hpairs (bind_eq_ok hbuilt rfl)))⟩

/-- A signal with a lineup has an event just if all fields can be read and what they hold can be
stored, and this event shows what they hold. -/
theorem ofSignal_eq_event_iff {l : Lineup} (hl : signal.lineup? = some l) :
    ofSignal g signal = .ok (.event e) ↔ Shows g l e := by
  -- one way the handler is taken apart read by read; the other way the fields that are read show
  -- that no reference of the handler is null
  cases signal with
  | event | channelStartedStreaming => cases hl
  | conferenceCreated v =>
    cases hl
    refine unlessMissing_eq_event_iff.trans ?_
    rw [map_event_eq_iff, List.forall_mem_singleton]
    constructor
    · rintro ⟨-, h⟩
      obtain ⟨id, hid, h⟩ := exists_of_bind h
      obtain ⟨focus, hfocus, h⟩ := exists_of_bind h
      exact ⟨_, .cons (.read rfl hid) (.cons (.read rfl hfocus) .nil), h⟩
    · rintro ⟨values, _ | ⟨⟨⟨⟩, hid⟩, _ | ⟨⟨⟨⟩, hfocus⟩, ⟨⟩⟩⟩, he⟩
      exact ⟨SessionGraph.ne_null_of_get hid, bind_eq_ok hid (bind_eq_ok hfocus he)⟩
  | conferenceExpired v =>
    cases hl
    refine unlessMissing_eq_event_iff.trans ?_
    rw [map_event_eq_iff, List.forall_mem_singleton]
    constructor
    · rintro ⟨-, h⟩
      obtain ⟨id, hid, h⟩ := exists_of_bind h
      exact ⟨_, .cons (.read rfl hid) .nil, h⟩
    · rintro ⟨values, _ | ⟨⟨⟨⟩, hid⟩, ⟨⟩⟩, he⟩
      exact ⟨SessionGraph.ne_null_of_get hid, bind_eq_ok hid he⟩
  | endpointCreated v =>
    cases hl
    refine withConference_eq_event_iff.trans ?_
    constructor
    · rintro ⟨conference, hconference, -, h⟩
      obtain ⟨conferenceId, hconferenceId, h⟩ := exists_of_bind h
      obtain ⟨id, hid, h⟩ := exists_of_bind h
      exact ⟨_, .cons (.read hconference hconferenceId) (.cons (.read rfl hid) .nil), h⟩
    · rintro ⟨values, _ | ⟨⟨hconference, hconferenceId⟩, _ | ⟨⟨⟨⟩, hid⟩, ⟨⟩⟩⟩, he⟩
      exact ⟨_, hconference, forall_present hid hconferenceId,
        bind_eq_ok hconferenceId (bind_eq_ok hid he)⟩
  | endpointDisplayNameChanged v =>
    cases hl
    refine withConference_eq_event_iff.trans ?_
    constructor
    · rintro ⟨conference, hconference, -, h⟩
      obtain ⟨conferenceId, hconferenceId, h⟩ := exists_of_bind h
      obtain ⟨id, hid, h⟩ := exists_of_bind h
      obtain ⟨displayName, hdisplayName, h⟩ := exists_of_bind h
      exact ⟨_, .cons (.read hconference hconferenceId) (.cons (.read rfl hid)
        (.cons (.read rfl hdisplayName) .nil)), h⟩
    · rintro ⟨values, _ | ⟨⟨hconference, hconferenceId⟩, _ | ⟨⟨⟨⟩, hid⟩,
        _ | ⟨⟨⟨⟩, hdisplayName⟩, ⟨⟩⟩⟩⟩, he⟩
      exact ⟨_, hconference, forall_present hid hconferenceId,
        bind_eq_ok hconferenceId (bind_eq_ok hid (bind_eq_ok hdisplayName he))⟩
  | contentCreated v =>
    cases hl
    exact content_eq_iff fun _ _ => rfl
  | contentExpired v =>
    cases hl
    exact content_eq_iff fun _ _ => rfl
  | transportChannelAdded v =>
    cases hl
    exact transportChannel_eq_iff fun _ _ _ => rfl
  | transportChannelRemoved v =>
    cases hl
    exact transportChannel_eq_iff fun _ _ _ => rfl
  | transportStateChanged v oldState newState => exact transportStateChanged_eq_iff hl
  | transportCreated v => exact transportCreated_eq_iff hl
  | transportConnected v => exact transportConnected_eq_iff hl
  | channelCreated v =>
    cases hl
    exact channel_eq_iff fun _ _ _ _ _ => rfl
  | channelExpired v =>
    cases hl
    exact channel_eq_iff fun _ _ _ _ _ => rfl

end SeriesAnswer

end SessionTelemetry
