import SessionTelemetry.Proofs.Notify.Lineups

/-!
# What the payloads of signals hold

A signal with a lineup hands a payload on just if its fields can be read and what they hold can be
stored. Whatever it is, the payload is one point: the time of capture and, column by column, the
rendered values of the fields (`notify_rectangular`).
-/

namespace SessionTelemetry

namespace SessionGraph

def sparse : SessionGraph := .ofObjects
  [("conference", .make .conference [(.id, .ok (.list [.int 1, .int 2]))] []),
   ("content", .make .content
      [(.conference, .ok (.object "conference")), (.title, .ok .null)] []),
   ("channel", .make .channel
      [(.content, .ok (.object "content")), (.id, .ok (.bool true))] [])]

end SessionGraph

namespace SeriesSink

variable {sink : SeriesSink} {g : SessionGraph} {wall : Value} {now : Int} {signal : Signal}

theorem exists_lineup_of_event {e : Event} (hsignal : ∀ e, signal ≠ .event e)
    (he : SeriesAnswer.ofSignal g signal = .ok (.event e)) : ∃ l, signal.lineup? = some l := by
  cases signal with
  | event e => exact absurd rfl (hsignal e)
  | channelStartedStreaming => cases he
  | _ => exact ⟨_, rfl⟩

/-- A signal without an event leaves the outlet alone. -/
theorem notify_of_no_event (h : ¬ ∃ e, SeriesAnswer.ofSignal g signal = .ok (.event e)) :
    ∃ outcome records, ∀ outlet, ({ sink with outlet } : SeriesSink).notify g wall signal =
      (outcome, { sink with outlet }, records) := by
  unfold notify
  cases hanswer : SeriesAnswer.ofSignal g signal with
  | error fault => exact ⟨_, _, fun _ => rfl⟩
  | ok answer =>
    cases answer with
    | nothing => exact ⟨_, _, fun _ => rfl⟩
    | dropped record => exact ⟨_, _, fun _ => rfl⟩
    | event e => exact absurd ⟨e, hanswer⟩ h

/-- An event of a lineup is handed on as one payload, which is read as one point. -/
theorem log_of_holds {l : Lineup} {values : List Value} (hfields : l.fields ≠ [])
    (hholds : l.Holds g values)
    (hclock : (sink.clock.getD (.wall wall)).read.1 = .ok (.int now)) :
    ∃ payload point after,
      sink.log wall (l.schema.row (values.map Value.rendered)) =
        ((sink.outlet.take payload).1, after, (sink.outlet.take payload).2.2) ∧
      after.outlet = (sink.outlet.take payload).2.1 ∧
      Json.read? payload.toList = some (seriesDocument l.name ("time" :: l.fields.map Prod.fst)
        [.int now :: point]) ∧
      point.length = l.fields.length ∧
      List.Forall₂ (fun v k => v.rendered.ShownAs k) values point := by
  have hvalues : values ≠ [] := by
    rintro rfl
    exact hfields (List.forall₂_nil_right_iff.1 hholds)
  have hrows : (l.schema.row (values.map Value.rendered)).values.Tabulates
      ([values].map (List.map Value.cell)) :=
    l.schema.tabulates_row hvalues
  obtain ⟨payload, points, hencode, hread, hshown⟩ :=
    Event.exists_read?_encode (Event.named_row l.schema _) hrows hclock
  cases hshown with
  | cons hpoint hnone =>
    cases hnone
    cases hpoint with
    | @cons _ _ _ cells htime hcells =>
      cases htime
      have hcells : List.Forall₂ (fun v k => v.rendered.ShownAs k) values cells :=
        List.forall₂_map_left_iff.1 hcells
      obtain ⟨after, hlog, hafter⟩ := log_of_encode hencode
      refine ⟨payload, cells, after, hlog, hafter, hread, ?_, hcells⟩
      rw [← hcells.length_eq, ← List.Forall₂.length_eq hholds]

end SeriesSink

end SessionTelemetry
