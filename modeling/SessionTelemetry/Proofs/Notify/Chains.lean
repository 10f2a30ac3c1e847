import SessionTelemetry.Notify.SeriesSink
import SessionTelemetry.Proofs.Dispatch.Run
import SessionTelemetry.Proofs.Series.Cells
import SessionTelemetry.Proofs.Session.Typed

/-!
# Chains of references

A signal needs the object that it is about and some of the objects above and below this one. In a
typed session model the first of these references that is not there decides what becomes of the
signal (`SeriesAnswer.Meets`): it is recorded and nothing else happens. Where all are there, the
event of the signal is one payload, unless a value of the event cannot be written.
-/

namespace SessionTelemetry

/-- The object that a signal is about, its kind, and the references that the signal needs, each
with its name and with the attributes that lead to it. -/
structure Chain where
  kind : ObjectKind
  target : Value
  links : List (String × List Attribute)

def Signal.chain? : Signal → Option Chain
  | event _ => none
  | conferenceCreated v => some ⟨.conference, v, [("conference", [])]⟩
  | conferenceExpired v => some ⟨.conference, v, [("conference", [])]⟩
  | endpointCreated v => some ⟨.endpoint, v, [("endpoint", []), ("conference", [.conference])]⟩
  | endpointDisplayNameChanged v =>
    some ⟨.endpoint, v, [("endpoint", []), ("conference", [.conference])]⟩
  | contentCreated v => some ⟨.content, v, [("content", []), ("conference", [.conference])]⟩
  | contentExpired v => some ⟨.content, v, [("content", []), ("conference", [.conference])]⟩
  | transportChannelAdded v =>
    some ⟨.channel, v, [("channel", []), ("content", [.content]),
      ("conference", [.content, .conference]), ("transport_manager", [.transportManager])]⟩
  | transportChannelRemoved v =>
    some ⟨.channel, v, [("channel", []), ("content", [.content]),
      ("conference", [.content, .conference]), ("transport_manager", [.transportManager])]⟩
  | transportStateChanged v _ _ =>
    some ⟨.transport, v, [("transport_manager", []), ("conference", [.conference])]⟩
  | transportCreated v =>
    some ⟨.transport, v,
      [("transport_manager", []), ("conference", [.conference]), ("agent", [.agent])]⟩
  | transportConnected v =>
    some ⟨.transport, v,
      [("transport_manager", []), ("conference", [.conference]), ("ice_stream", [.iceStream])]⟩
  | channelCreated v =>
    some ⟨.channel, v, [("channel", []), ("content", [.content]),
      ("conference", [.content, .conference])]⟩
  | channelExpired v =>
    some ⟨.channel, v, [("channel", []), ("content", [.content]),
      ("conference", [.content, .conference])]⟩
  | channelStartedStreaming _ => none

namespace SessionGraph

/-- Reads one attribute after the other. Below null there is only null. -/
def follow (g : SessionGraph) (v : Value) (path : List Attribute) : Except Fault Value :=
  path.foldlM g.getOrNull v

def Present (g : SessionGraph) (target : Value) (link : String × List Attribute) : Prop :=
  ∃ v, g.follow target link.2 = .ok v ∧ v ≠ .null

end SessionGraph

theorem Value.Refers.exists_object {p : String → Prop} {v : Value} (h : v.Refers p)
    (hv : v ≠ .null) : ∃ name, v = .object name ∧ p name := by
  cases h with
  | null => exact absurd rfl hv
  | object h => exact ⟨_, rfl, h⟩

/-- An event of a series has one row. -/
theorem Schema.stores_event {s : Schema} {cells : List Value} {e : Event} (h : cells ≠ [])
    (he : s.event cells = .ok e) : ∃ row, e.Stores s.name s.columns [row] := by
  obtain ⟨-, rfl⟩ := Schema.event_eq_ok_iff.1 he
  exact ⟨_, Event.named_row s _, s.tabulates_row h⟩

namespace SeriesAnswer

/-- An answer that is given for these links from an object: that about the first link which is not
there, or else an event of a series. -/
inductive Meets (g : SessionGraph) (signal : Signal) (target : Value) :
    List (String × List Attribute) → SeriesAnswer → Prop where
  | event {s : Schema} {cells : List Value} {e : Event} (hcells : cells ≠ [])
      (he : s.event cells = .ok e) : Meets g signal target [] (.event e)
  | present {link links answer} (hlink : g.Present target link)
      (h : Meets g signal target links answer) : Meets g signal target (link :: links) answer
  | missing {name path links} (hlink : g.follow target path = .ok .null) :
      Meets g signal target ((name, path) :: links)
        (.dropped (References.missingRecord signal.words name))
  | broken {links fault} (hlink : g.follow target [.transportManager] = .error fault)
      (hfault : fault.isSystem = true) :
      Meets g signal target (("transport_manager", [.transportManager]) :: links)
        (.dropped (brokenTransport signal fault))

variable {g : SessionGraph} {signal : Signal} {target : Value}

def OfSeries (e : Event) : Prop :=
  ∃ (s : Schema) (cells : List Value), cells ≠ [] ∧ s.event cells = .ok e

theorem OfSeries.meets {e : Event} (h : OfSeries e) : Meets g signal target [] (.event e) := by
  obtain ⟨s, cells, hcells, he⟩ := h
  exact .event hcells he

section Telling

/-- A value comes with a signal, or an object of the session model holds it. -/
def Involves (g : SessionGraph) (signal : Signal) (v : Value) : Prop :=
  v ∈ signal.arguments ∨ g.Holds v

/-- A computation about a signal comes to a result with a property, or one of these values cannot be
written. -/
abbrev Tells {α : Type} (g : SessionGraph) (signal : Signal) (r : Except Fault α)
    (p : α → Prop) : Prop :=
  Settles r p fun fault => ∃ v, Involves g signal v ∧ v.obstacle? = some fault

/-- A computation gives the answer that is given for some links, or all of them are there and a
value cannot be written. -/
abbrev Answers (g : SessionGraph) (signal : Signal) (target : Value)
    (links : List (String × List Attribute)) (r : Except Fault SeriesAnswer) : Prop :=
  Settles r (Meets g signal target links) fun fault =>
    (∀ link ∈ links, g.Present target link) ∧ ∃ v, Involves g signal v ∧ v.obstacle? = some fault

/-- A value can be written, or it is not the first in the session model that cannot. -/
def Known (g : SessionGraph) (signal : Signal) (v : Value) : Prop :=
  ∀ fault, v.obstacle? = some fault → ∃ w, Involves g signal w ∧ w.obstacle? = some fault

variable {is : ObjectKind → String → Prop} {kind : ObjectKind} {a : Attribute} {o : String}
  {v hash : Value}

theorem Involves.known (h : Involves g signal v) : Known g signal v :=
  fun _ hfault => ⟨v, h, hfault⟩

theorem known_text (s : String) : Known g signal (.text s) := fun _ h => by cases h

theorem tells_get (types : g.Typed is) (h : is kind o) (ha : a ∈ kind.plain := by decide) :
    Tells g signal (g.get (.object o) a) (Known g signal) := by
  obtain ⟨v, hread, -⟩ := types.get h ha
  rw [hread]
  exact Involves.known (.inr (SessionGraph.holds_of_get hread))

/-- A value that is written is known. -/
theorem tells_shown (h : Known g signal v) :
    Tells g signal (do return .text (← v.shown)) (Known g signal) :=
  Settles.bind (p := fun _ => True) (.guarding trivial h) fun s _ => known_text s

theorem tells_hash (types : g.Typed is) (h : is .transport o) :
    Tells g signal (g.hashCode (.object o)) (Known g signal) := by
  refine (Settles.of_yields (types.hashCode h)).mono (fun hash hwritten fault hfault => ?_)
    fun _ => id
  rw [hwritten] at hfault
  cases hfault

theorem tells_selectedPairs (types : g.Typed is) (h : is .stream o) :
    Tells g signal (g.selectedPairs (.object o)) fun _ => True :=
  (types.selectedPairs h).mono (fun _ => id) fun _ ⟨v, hv, hfault⟩ => ⟨v, .inr hv, hfault⟩

theorem tells_stateName (h : Known g signal v) :
    Tells g signal (Event.stateName v) (Known g signal) := by
  unfold Event.stateName
  split
  · exact h
  · exact tells_shown h

theorem tells_event {s : Schema} {cells : List Value} (h : ∀ v ∈ cells, Known g signal v)
    (hcells : cells ≠ [] := by simp) : Tells g signal (s.event cells) OfSeries := by
  cases he : s.event cells with
  | ok e => exact ⟨s, cells, hcells, he⟩
  | error fault =>
    rw [Schema.event_eq, Fault.guarding_eq_error_iff] at he
    obtain ⟨v, hv, hfault⟩ := List.exists_of_findSome?_eq_some he
    exact h v hv fault (Value.obstacle?_of_cellObstacle? hfault)

end Telling

theorem answers_unlessMissing {refs : References} {k l : List (String × List Attribute)}
    {answer : Except Fault SeriesAnswer}
    (hrefs : List.Forall₂ (fun ref link => ref.1 = link.1 ∧ g.follow target link.2 = .ok ref.2)
      refs k)
    (hanswer : (∀ ref ∈ refs, ref.2 ≠ .null) → Answers g signal target l answer) :
    Answers g signal target (k ++ l) (unlessMissing signal refs answer) := by
  induction hrefs with
  | nil => exact hanswer (List.forall_mem_nil _)
  | @cons ref link refs k hlink _ ih =>
    obtain ⟨name, v⟩ := ref
    obtain ⟨_, path⟩ := link
    obtain ⟨rfl, hfollow⟩ := hlink
    -- a reference that is there leaves the record to those after it
    by_cases hv : v = .null
    · subst hv
      exact Meets.missing hfollow
    · have hnull : v.isNull = false := Bool.eq_false_iff.2 (mt Value.isNull_iff.1 hv)
      have hskip : unlessMissing signal ((name, v) :: refs) answer =
          unlessMissing signal refs answer := by
        simp [unlessMissing, References.skip?, References.firstMissing?, hnull]
      rw [hskip]
      have hlater := ih fun hrest => hanswer (List.forall_mem_cons.2 ⟨hv, hrest⟩)
      have hpresent : g.Present target (name, path) := ⟨v, hfollow, hv⟩
      exact hlater.mono (fun _ h => .present hpresent h) fun _ h =>
        ⟨List.forall_mem_cons.2 ⟨hpresent, h.1⟩, h.2⟩

theorem answers_of_tells {answer : Except Fault SeriesAnswer}
    (h : Tells g signal answer (Meets g signal target [])) : Answers g signal target [] answer :=
  h.mono (fun _ => id) fun _ hfault => ⟨List.forall_mem_nil _, hfault⟩

theorem answers_event {build : Except Fault Event} (h : Tells g signal build OfSeries) :
    Answers g signal target [] (build.map event) := by
  cases build with
  | ok e => exact OfSeries.meets h
  | error fault => exact ⟨List.forall_mem_nil _, h⟩

section Handlers

variable {is : ObjectKind → String → Prop} {v : Value}

theorem answers_ofConference {build : Except Fault Event} (h : v.Refers (is .conference))
    (hbuild : ∀ name, v = .object name → is .conference name → Tells g signal build OfSeries) :
    Answers g signal v [("conference", [])] (ofConference signal v build) := by
  refine answers_unlessMissing (k := [("conference", [])]) (l := [])
    (.cons ⟨rfl, rfl⟩ .nil) fun hpresent => ?_
  obtain ⟨name, hv, hname⟩ := h.exists_object (hpresent _ List.mem_cons_self)
  exact answers_event (hbuild name hv hname)

/-- An object comes with its conference. -/
theorem answers_withConference (kind : ObjectKind) (types : g.Typed is) {title : String}
    {answer : Value → Except Fault SeriesAnswer} (h : v.Refers (is kind))
    (hanswer : ∀ o p, v = .object o → is kind o → is .conference p →
      Answers g signal v [] (answer (.object p)))
    (hattribute : .conference ∈ kind.plain := by decide) :
    Answers g signal v [(title, []), ("conference", [.conference])] (do
      let conference ← g.getOrNull v .conference
      unlessMissing signal [(title, v), ("conference", conference)] (answer conference)) := by
  obtain ⟨w, hread, hw⟩ := types.getOrNull (a := .conference) h .null hattribute
  have hfollow : g.follow v [.conference] = .ok w := by
    simp [SessionGraph.follow, hread]
  rw [hread]
  refine answers_unlessMissing (k := [(title, []), ("conference", [.conference])]) (l := [])
    (.cons ⟨rfl, rfl⟩ (.cons ⟨rfl, hfollow⟩ .nil)) fun hpresent => ?_
  simp only [List.forall_mem_cons] at hpresent
  obtain ⟨o, hv, ho⟩ := h.exists_object hpresent.1
  obtain ⟨p, rfl, hp⟩ := hw.exists_object hpresent.2.1
  exact hanswer o p hv ho hp

theorem answers_withConferenceAnd (types : g.Typed is) {other : ObjectKind} {a : Attribute}
    {name : String} {answer : Value → Value → Except Fault SeriesAnswer}
    (h : v.Refers (is .transport)) (hfits : ∀ w, a.Fits is w ↔ w.Refers (is other))
    (hanswer : ∀ o p q, v = .object o → is .transport o → is .conference p → is other q →
      Answers g signal v [] (answer (.object p) (.object q)))
    (hattribute : a ∈ ObjectKind.transport.plain := by decide) :
    Answers g signal v
      [("transport_manager", []), ("conference", [.conference]), (name, [a])] (do
      let conference ← g.getOrNull v .conference
      let more ← g.getOrNull v a
      unlessMissing signal
        [("transport_manager", v), ("conference", conference), (name, more)]
        (answer conference more)) := by
  obtain ⟨w, hread, hw⟩ := types.getOrNull (a := .conference) h .null
  obtain ⟨x, hreadOther, hx⟩ := types.getOrNull (a := a) h ((hfits _).2 .null) hattribute
  have hfollow : g.follow v [.conference] = .ok w := by
    simp [SessionGraph.follow, hread]
  have hfollowOther : g.follow v [a] = .ok x := by
    simp [SessionGraph.follow, hreadOther]
  simp only [hread, hreadOther, bind, Except.bind]
  refine answers_unlessMissing
    (k := [("transport_manager", []), ("conference", [.conference]), (name, [a])]) (l := [])
    (.cons ⟨rfl, rfl⟩ (.cons ⟨rfl, hfollow⟩ (.cons ⟨rfl, hfollowOther⟩ .nil))) fun hpresent => ?_
  simp only [List.forall_mem_cons] at hpresent
  obtain ⟨o, hv, ho⟩ := h.exists_object hpresent.1
  obtain ⟨p, rfl, hp⟩ := hw.exists_object hpresent.2.1
  obtain ⟨q, rfl, hq⟩ := ((hfits x).1 hx).exists_object hpresent.2.2.1
  exact hanswer o p q hv ho hp hq

theorem answers_ofChannel (types : g.Typed is) {answer : Value → Value → Except Fault SeriesAnswer}
    {l : List (String × List Attribute)} (h : v.Refers (is .channel))
    (hanswer : ∀ o p q, v = .object o → is .channel o → is .content p → is .conference q →
      Answers g signal v l (answer (.object p) (.object q))) :
    Answers g signal v
      ([("channel", []), ("content", [.content]), ("conference", [.content, .conference])] ++ l)
      (ofChannel g signal v answer) := by
  obtain ⟨w, hread, hw⟩ := types.getOrNull (a := .content) h .null
  obtain ⟨x, hreadConference, hx⟩ := types.getOrNull (a := .conference) hw .null
  have hfollow : g.follow v [.content] = .ok w := by
    simp [SessionGraph.follow, hread]
  have hfollowConference : g.follow v [.content, .conference] = .ok x := by
    simp [SessionGraph.follow, hread, hreadConference, bind, Except.bind, pure, Except.pure]
  simp only [ofChannel, hread, hreadConference, bind, Except.bind]
  refine answers_unlessMissing
    (.cons ⟨rfl, rfl⟩ (.cons ⟨rfl, hfollow⟩ (.cons ⟨rfl, hfollowConference⟩ .nil)))
    fun hpresent => ?_
  simp only [List.forall_mem_cons] at hpresent
  obtain ⟨o, hv, ho⟩ := h.exists_object hpresent.1
  obtain ⟨p, rfl, hp⟩ := hw.exists_object hpresent.2.1
  obtain ⟨q, rfl, hq⟩ := hx.exists_object hpresent.2.2.1
  exact hanswer o p q hv ho hp hq

theorem answers_ofChannelTransport (types : g.Typed is)
    {build : Value → Value → Except Fault Event} (h : v.Refers (is .channel))
    (hbuild : ∀ o p q, v = .object o → is .channel o → is .transport p → is .conference q →
      Tells g signal (build (.object p) (.object q)) OfSeries) :
    Answers g signal v
      [("channel", []), ("content", [.content]), ("conference", [.content, .conference]),
        ("transport_manager", [.transportManager])] (ofChannelTransport g signal v build) := by
  refine answers_ofChannel types (l := [("transport_manager", [.transportManager])]) h ?_
  rintro o _ q rfl ho - hq
  have hfollow : g.follow (.object o) [.transportManager] =
      g.get (.object o) .transportManager := by
    simp [SessionGraph.follow, SessionGraph.getOrNull, Value.isNull]
  -- only here may a link fail: the transport is read when everything above it is there
  obtain ⟨w, hread, hw⟩ | ⟨fault, hread, hfault⟩ := types.transport ho
  · have hget : g.get (.object o) .transportManager = .ok w := hread
    rw [hget] at hfollow
    simp only [hget]
    refine answers_unlessMissing (k := [("transport_manager", [.transportManager])]) (l := [])
      (.cons ⟨rfl, hfollow⟩ .nil) fun hpresent => ?_
    obtain ⟨p, rfl, hp⟩ := Value.Refers.exists_object hw (hpresent _ List.mem_cons_self)
    exact answers_event (hbuild o p q rfl ho hp hq)
  · have hget : g.get (.object o) .transportManager = .error fault := hread
    rw [hget] at hfollow
    simp only [hget, hfault, if_true]
    exact Meets.broken hfollow hfault

theorem tells_channelEvent (types : g.Typed is) {o p q : String}
    {series : Value → Value → Value → Value → Value → Except Fault Event}
    (hseries : ∀ a b c d e, (∀ v ∈ [a, b, c, d, e], Known g signal v) →
      Tells g signal (series a b c d e) OfSeries)
    (ho : is .channel o) (hp : is .content p) (hq : is .conference q) :
    Tells g signal (channelEvent g (.object o) (.object p) (.object q) series) OfSeries := by
  have hendpoint : Tells g signal (endpointIdOf g (.object o)) (Known g signal) := by
    refine (Settles.of_yields (types.get (a := .endpoint) ho)).bind ?_
    rintro endpoint (_ | hendpoint)
    · exact known_text ""
    · exact tells_get types (a := .id) hendpoint
  have hlastN : Tells g signal (lastNOf g (.object o)) (Known g signal) := by
    obtain ⟨n, hread, -⟩ | ⟨fault, hread, hfault⟩ := types.lastN ho
    · have hget : g.get (.object o) .lastN = .ok n := hread
      rw [lastNOf, hget]
      exact Involves.known (.inr (SessionGraph.holds_of_get hget))
    · have hget : g.get (.object o) .lastN = .error fault := hread
      simp only [lastNOf, hget, hfault, if_true]
      exact fun _ h => by cases h
  exact hendpoint.bind fun _ hendpointId => hlastN.bind fun _ hn =>
    (tells_get types (a := .id) ho).bind fun _ hid =>
    (tells_get types (a := .title) hp).bind fun _ htitle =>
    (tells_get types (a := .id) hq).bind fun _ hconferenceId =>
    hseries _ _ _ _ _ (by simp [hendpointId, hn, hid, htitle, hconferenceId])

/-- The event of a channel that a transport gains or loses. -/
theorem tells_transportChannel (types : g.Typed is) {o p q : String} {s : Schema}
    (ho : is .channel o) (hp : is .transport p) (hq : is .conference q) :
    Tells g signal (do
      let hash ← g.hashCode (.object p)
      let conferenceId ← g.get (.object q) .id
      let channelId ← g.get (.object o) .id
      s.event [← Event.hashCode hash, conferenceId, channelId]) OfSeries :=
  (tells_hash types hp).bind fun _ hhash =>
  (tells_get types (a := .id) hq).bind fun _ hconference =>
    (tells_get types (a := .id) ho).bind fun _ hid => (tells_shown hhash).bind fun _ hcode =>
    tells_event (by simp [hconference, hid, hcode])

end Handlers

/-- In a typed session model the answer to a signal is that of its chain, unless a value cannot be
written. -/
theorem answers_ofSignal {is : ObjectKind → String → Prop} (types : g.Typed is) {chain : Chain}
    (hchain : signal.chain? = some chain) (htarget : chain.target.Refers (is chain.kind)) :
    Answers g signal chain.target chain.links (ofSignal g signal) := by
  -- each handler looks at the links of its chain before it reads anything else
  cases signal with
  | event e => cases hchain
  | channelStartedStreaming v => cases hchain
  | conferenceCreated v =>
    cases hchain
    refine answers_ofConference htarget ?_
    rintro o rfl ho
    exact (tells_get types (a := .id) ho).bind fun _ hid =>
      (tells_get types (a := .focus) ho).bind fun _ hfocus => tells_event (by simp [hid, hfocus])
  | conferenceExpired v =>
    cases hchain
    refine answers_ofConference htarget ?_
    rintro o rfl ho
    exact (tells_get types (a := .id) ho).bind fun _ hid => tells_event (by simp [hid])
  | endpointCreated v =>
    cases hchain
    refine answers_withConference .endpoint types htarget ?_
    rintro o p rfl ho hp
    refine answers_event ?_
    exact (tells_get types (a := .id) hp).bind fun _ hconference =>
      (tells_get types (a := .id) ho).bind fun _ hid => tells_event (by simp [hconference, hid])
  | endpointDisplayNameChanged v =>
    cases hchain
    refine answers_withConference .endpoint types htarget ?_
    rintro o p rfl ho hp
    refine answers_event ?_
    exact (tells_get types (a := .id) hp).bind fun _ hconference =>
      (tells_get types (a := .id) ho).bind fun _ hid =>
      (tells_get types (a := .displayName) ho).bind fun _ hname =>
      tells_event (by simp [hconference, hid, hname])
  | contentCreated v | contentExpired v =>
    cases hchain
    refine answers_withConference .content types htarget ?_
    rintro o p rfl ho hp
    refine answers_event ?_
    exact (tells_get types (a := .title) ho).bind fun _ htitle =>
      (tells_get types (a := .id) hp).bind fun _ hconference =>
      tells_event (by simp [htitle, hconference])
  | transportChannelAdded v | transportChannelRemoved v =>
    cases hchain
    refine answers_ofChannelTransport types htarget ?_
    rintro o p q rfl ho hp hq
    exact tells_transportChannel types ho hp hq
  | transportStateChanged v oldState newState =>
    cases hchain
    refine answers_withConference .transport types htarget ?_
    rintro o p rfl ho hp
    refine answers_of_tells ((tells_hash types ho).bind fun _ hhash =>
      (tells_get types (a := .id) hp).bind fun _ hconference => ?_)
    have hold : Known g (.transportStateChanged (.object o) oldState newState) oldState :=
      Involves.known (.inl (by simp [Signal.arguments]))
    have hnew : Known g (.transportStateChanged (.object o) oldState newState) newState :=
      Involves.known (.inl (by simp [Signal.arguments]))
    refine Settles.bind (p := OfSeries) ?_ fun _ he => he.meets
    exact (tells_shown hhash).bind fun _ hcode => (tells_stateName hold).bind fun _ hbefore =>
      (tells_stateName hnew).bind fun _ hafter =>
      tells_event (by simp [hcode, hconference, hbefore, hafter])
  | transportCreated v =>
    cases hchain
    refine answers_withConferenceAnd types htarget (fun _ => Iff.rfl) ?_
    rintro o p q rfl ho hp hq
    refine answers_of_tells ((tells_hash types ho).bind fun _ hhash =>
      (tells_get types (a := .id) hp).bind fun _ hconference =>
      (tells_get types (a := .numComponents) ho).bind fun _ hcount =>
      (tells_get types (a := .localUfrag) hq).bind fun _ hufrag =>
      (tells_get types (a := .isControlling) ho).bind fun _ hrole => ?_)
    refine Settles.bind (p := OfSeries) ?_ fun _ he => he.meets
    exact (tells_shown hhash).bind fun _ hcode =>
      tells_event (by simp [hcode, hconference, hcount, hufrag, hrole])
  | transportConnected v =>
    cases hchain
    refine answers_withConferenceAnd types htarget (fun _ => Iff.rfl) ?_
    rintro o p q rfl ho hp hq
    refine answers_of_tells ((tells_hash types ho).bind fun _ hhash =>
      (tells_get types (a := .id) hp).bind fun _ hconference =>
      (tells_selectedPairs types hq).bind fun pairs _ => ?_)
    refine Settles.bind (p := OfSeries) ?_ fun _ he => he.meets
    exact (tells_shown hhash).bind fun _ hcode =>
      tells_event (by simp [hcode, hconference, known_text pairs])
  | channelCreated v | channelExpired v =>
    cases hchain
    refine answers_ofChannel types (l := []) htarget ?_
    rintro o p q rfl ho hp hq
    refine answers_event (tells_channelEvent types (fun _ _ _ _ _ hcells => ?_) ho hp hq)
    exact tells_event (by simpa [and_assoc, and_comm, and_left_comm] using hcells)

/-- An answer that meets a chain is the event of a chain that is complete, or the record about its
first gap. -/
theorem Meets.complete_or_gap {links : List (String × List Attribute)} {answer : SeriesAnswer}
    (h : Meets g signal target links answer) :
    ((∀ link ∈ links, g.Present target link) ∧ ∃ e, OfSeries e ∧ answer = .event e) ∨
    ∃ record, answer = .dropped record ∧ ∃ before name path after,
      links = before ++ (name, path) :: after ∧ (∀ link ∈ before, g.Present target link) ∧
      (g.follow target path = .ok .null ∧ record = References.missingRecord signal.words name ∨
        name = "transport_manager" ∧ ∃ fault, g.follow target path = .error fault ∧
          fault.isSystem = true ∧ record = brokenTransport signal fault) := by
  induction h with
  | event hcells he => exact .inl ⟨List.forall_mem_nil _, _, ⟨_, _, hcells, he⟩, rfl⟩
  | missing hlink =>
    exact .inr ⟨_, rfl, [], _, _, _, rfl, List.forall_mem_nil _, .inl ⟨hlink, rfl⟩⟩
  | broken hlink hfault =>
    exact .inr ⟨_, rfl, [], _, _, _, rfl, List.forall_mem_nil _, .inr ⟨rfl, _, hlink, hfault, rfl⟩⟩
  | @present link links answer hlink _ ih =>
    obtain ⟨hall, he⟩ | ⟨record, hrecord, before, name, path, after, rfl, hbefore, hgap⟩ := ih
    · exact .inl ⟨List.forall_mem_cons.2 ⟨hlink, hall⟩, he⟩
    · exact .inr ⟨record, hrecord, link :: before, name, path, after, rfl,
        List.forall_mem_cons.2 ⟨hlink, hbefore⟩, hgap⟩

theorem not_present_of_gap {path : List Attribute} {name : String}
    (h : g.follow target path = .ok .null ∨ ∃ fault, g.follow target path = .error fault) :
    ¬ g.Present target (name, path) := by
  rintro ⟨v, hv, hne⟩
  obtain hnull | ⟨fault, hfault⟩ := h
  · exact hne (Except.ok.inj (hv.symm.trans hnull))
  · cases hv.symm.trans hfault

end SeriesAnswer

namespace Outlet

/-- What an outlet becomes when one payload is handed to it, and the records of that. -/
inductive Gains (payload : String) : Outlet → Outlet → List Record → Prop where
  | memory (payloads : List String) :
      Gains payload (.memory payloads) (.memory (payloads ++ [payload])) []
  | dispatcher {d : Dispatcher} {line : PostLine} {accepted : Bool} {pool : Pool String}
      {notices : List (Notice String)}
      (hdispatch : d.pool.dispatch d.settings.limits .asleep payload = (accepted, pool, notices))
      (hroom : d.pool.closed = false → d.settings.limits.isFull d.pool.queue.length = false →
        pool.queue = d.pool.queue ++ [payload] ∧ notices = [.admitted payload]) :
      Gains payload (.dispatcher d line) (.dispatcher { d with pool } line) (d.records notices)

theorem gains_take {o : Outlet} (htakes : ∀ fault, o ≠ .refusing fault) (payload : String) :
    (o.take payload).1 = .ok () ∧ o.Gains payload (o.take payload).2.1 (o.take payload).2.2 := by
  cases o with
  | memory payloads => exact ⟨rfl, .memory payloads⟩
  | refusing fault => exact absurd rfl (htakes fault)
  | dispatcher d line =>
    rcases hdispatch : d.pool.dispatch d.settings.limits .asleep payload with
      ⟨accepted, pool, notices⟩
    have htake : (dispatcher d line).take payload =
        (.ok (), dispatcher { d with pool } line, d.records notices) := by
      simp only [take, Dispatcher.dispatch, hdispatch]
    rw [htake]
    refine ⟨rfl, .dispatcher hdispatch fun hopen hroom => ?_⟩
    have hadmitted : d.pool.dispatch d.settings.limits .asleep payload = (true, _, _) :=
      (if_neg (Bool.eq_false_iff.1 hopen)).trans (if_neg (Bool.eq_false_iff.1 hroom))
    obtain ⟨-, rfl, rfl⟩ := hdispatch.symm.trans hadmitted
    exact ⟨Pool.queue_enqueue .., rfl⟩

end Outlet

namespace SeriesSink

open SeriesAnswer (OfSeries)

variable {sink : SeriesSink} {wall : Value} {now : Int} {e : Event}

/-- The text of an event is handed on as it is. -/
theorem log_of_encode {payload : String}
    (h : (e.encode (sink.clock.getD (.wall wall))).1 = .ok payload) :
    ∃ after, sink.log wall e =
        ((sink.outlet.take payload).1, after, (sink.outlet.take payload).2.2) ∧
      after.outlet = (sink.outlet.take payload).2.1 := by
  unfold log
  simp only [h]
  exact ⟨_, rfl, rfl⟩

/-- An event of a series can be encoded. -/
theorem encode_of_series (he : OfSeries e)
    (hclock : (sink.clock.getD (.wall wall)).read.1 = .ok (.int now)) :
    ∃ payload, (e.encode (sink.clock.getD (.wall wall))).1 = .ok payload := by
  obtain ⟨s, cells, hcells, he⟩ := he
  obtain ⟨row, hstores⟩ := Schema.stores_event hcells he
  exact ⟨_, congrArg Prod.fst (Event.encode_of_stores hstores hclock)⟩

end SeriesSink

end SessionTelemetry
