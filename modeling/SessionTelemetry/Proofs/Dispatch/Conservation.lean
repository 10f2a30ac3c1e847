import Mathlib.Data.List.Pairwise
import Mathlib.Data.List.Perm.Basic
import SessionTelemetry.Proofs.Dispatch.Limits
import SessionTelemetry.Proofs.Dispatch.Numbered

/-!
# What becomes of payloads

A payload that is handed in meets one of seven fates. `met_perm_calls` says that the payloads of all
fates together are those that were handed in, each as often as it was handed in, and
`tallied_of_run?` that the counters of a pool count the payloads of their fates.
-/

namespace SessionTelemetry

inductive Fate where
  | refusedClosed
  | refusedFull
  | evicted
  | waiting
  | posting
  | delivered
  | lost
  deriving DecidableEq, Repr

namespace Fate

def all : List Fate :=
  [refusedClosed, refusedFull, evicted, waiting, posting, delivered, lost]

theorem mem_all (fate : Fate) : fate ∈ all := by
  cases fate <;> decide

end Fate

namespace Pool

variable {α : Type} {limits : PoolLimits} {s t : Pool α} {action : PoolAction α}
  {actions : List (PoolAction α)} {history new : List (Notice α)}

def met (s : Pool α) (history : List (Notice α)) : Fate → List α
  | .refusedClosed => reported [.refusedClosed] history
  | .refusedFull => reported [.refusedFull] history
  | .evicted => reported [.evicted] history
  | .waiting => s.queue
  | .posting => s.posting
  | .delivered => reported [.delivered] history
  | .lost => reported [.lost] history

def tally (s : Pool α) (history : List (Notice α)) (fate : Fate) : Nat :=
  (s.met history fate).length

@[simp] theorem calls_concat (actions : List (PoolAction α)) (action : PoolAction α) :
    calls (actions ++ [action]) = calls actions ++ action.payload?.toList := by
  cases h : action.payload? <;> simp [calls, h]

theorem perm_cons_eraseIdx {items : List α} {position : Nat} {item : α}
    (h : items[position]? = some item) : items.Perm (item :: items.eraseIdx position) := by
  obtain ⟨hlt, rfl⟩ := List.getElem?_eq_some_iff.1 h
  exact (List.getElem_cons_eraseIdx_perm hlt).symm

theorem count_eraseIdx [DecidableEq α] {items : List α} {position : Nat} {item : α}
    (h : items[position]? = some item) (x : α) :
    items.count x = (items.eraseIdx position).count x + if item = x then 1 else 0 := by
  rw [(perm_cons_eraseIdx h).count_eq x, List.count_cons]
  simp only [beq_iff_eq]

/-- The payloads of all fates together, fate by fate. -/
theorem flatMap_met (s : Pool α) (history : List (Notice α)) :
    Fate.all.flatMap (s.met history) =
      reported [.refusedClosed] history ++ reported [.refusedFull] history ++
        reported [.evicted] history ++ s.queue ++ s.posting ++ reported [.delivered] history ++
          reported [.lost] history := by
  simp [Fate.all, met]

/-- An action changes the fates of payloads and adds the one that it hands in. -/
theorem met_perm_of_move (move : Move limits s action t new) :
    (Fate.all.flatMap (t.met (history ++ new))).Perm
      (Fate.all.flatMap (s.met history) ++ action.payload?.toList) := by
  classical
  rw [List.perm_iff_count]
  intro x
  simp only [flatMap_met, reported_append, List.count_append]
  cases move with
  | refuseClosed payload first closed =>
    simp [PoolAction.payload?, Notice.kind, Notice.payload]
    omega
  | refuseFull payload first isOpen full policy =>
    simp [PoolAction.payload?, Notice.kind, Notice.payload]
    omega
  | evict payload first isOpen full policy =>
    cases hq : s.queue with
    | nil =>
      simp [PoolAction.payload?, Notice.kind]
      omega
    | cons oldest rest =>
      simp [PoolAction.payload?, Notice.kind, Notice.payload, List.count_cons]
      omega
  | accept payload first isOpen hasRoom =>
    simp [PoolAction.payload?, Notice.kind]
    omega
  | take phase rest payload waiting awake one head =>
    simp [PoolAction.payload?, Notice.kind, List.count_cons, head]
    omega
  | leave phase rest awake one empty ends =>
    simp [PoolAction.payload?, queue_of_without? one, posting_of_without? one]
  | fallAsleep phase rest awake one empty isOpen inTime waits
  | strand phase rest awake one empty isOpen inTime fails =>
    simp [PoolAction.payload?, queue_of_without? one, posting_of_without? one]
  | lapse rest one =>
    simp [PoolAction.payload?, queue_of_without? one, posting_of_without? one]
  | deliver position payload posted =>
    have hcount := count_eraseIdx posted x
    simp [PoolAction.payload?, Notice.kind, Notice.payload, List.count_cons]
    omega
  | lose position payload fault posted =>
    have hcount := count_eraseIdx posted x
    simp [PoolAction.payload?, Notice.kind, Notice.payload, List.count_cons]
    omega
  | drain => simp [PoolAction.payload?]
  | close => simp [PoolAction.payload?, close]

/-- The payloads of all fates together are those that were handed in. -/
theorem met_perm_calls (h : run? limits {} actions = some (s, history)) :
    (Fate.all.flatMap (s.met history)).Perm (calls actions) := by
  refine run?_induction (P := fun actions s history =>
    (Fate.all.flatMap (s.met history)).Perm (calls actions)) ?_ ?_ h
  · exact List.Perm.refl _
  · intro actions s history action t new _ hact ih
    rw [calls_concat]
    exact (met_perm_of_move (move_of_act? hact)).trans (ih.append_right _)

/-- From `s` to `t`, with `new` made of payloads, those that were taken to be posted have joined
those that were being posted, and those that were posted have left them and are counted. -/
structure Posts (s t : Pool α) (new : List (Notice α)) : Prop where
  posted : (s.posting ++ reported [.taken] new).Perm
    (t.posting ++ reported [.delivered] new ++ reported [.lost] new)
  sent : t.sent = s.sent + (reported [.delivered] new).length
  failed : t.failed = s.failed + (reported [.lost] new).length

theorem Posts.refl (s : Pool α) : Posts s s [] := ⟨by simp, rfl, rfl⟩

theorem Posts.trans {u : Pool α} {later : List (Notice α)} (h : Posts s t new)
    (hlater : Posts t u later) : Posts s u (new ++ later) := by
  classical
  refine ⟨?_, ?_, ?_⟩
  · rw [List.perm_iff_count]
    intro x
    have hx := h.posted.count_eq x
    have hy := hlater.posted.count_eq x
    simp only [reported_append, List.count_append] at hx hy ⊢
    omega
  · rw [reported_append, List.length_append, hlater.sent, h.sent, Nat.add_assoc]
  · rw [reported_append, List.length_append, hlater.failed, h.failed, Nat.add_assoc]

/-- Workers that post nothing do not matter. -/
theorem Posts.of_books {u : Pool α} (h : Posts s t new) (same : u.books = t.books) :
    Posts s u new := by
  have hposting : u.posting = t.posting := (congrArg Pool.posting same :)
  have hsent : u.sent = t.sent := (congrArg Pool.sent same :)
  have hfailed : u.failed = t.failed := (congrArg Pool.failed same :)
  exact ⟨hposting ▸ h.posted, hsent ▸ h.sent, hfailed ▸ h.failed⟩

theorem posts_of_move (move : Move limits s action t new) : Posts s t new := by
  cases move with
  | refuseClosed payload first closed => constructor <;> simp [Notice.kind]
  | refuseFull payload first isOpen full policy => constructor <;> simp [Notice.kind]
  | evict payload first isOpen full policy =>
    refine Posts.of_books (t := { s with
      queue := s.queue.tail ++ [payload], submitted := s.submitted + 1, dropped := s.dropped + 1 })
      ?_ (books_enqueue first payload _)
    cases hq : s.queue <;> constructor <;> simp [Notice.kind]
  | accept payload first isOpen hasRoom =>
    refine Posts.of_books (t := { s with
      queue := s.queue ++ [payload], submitted := s.submitted + 1 }) ?_
      (books_enqueue first payload _)
    constructor <;> simp [Notice.kind]
  | take phase rest payload waiting awake one head =>
    have hsent : rest.sent = s.sent := (congrArg Pool.sent (books_of_without? one) :)
    have hfailed : rest.failed = s.failed := (congrArg Pool.failed (books_of_without? one) :)
    constructor <;> simp [Notice.kind, Notice.payload, hsent, hfailed]
  | leave phase rest awake one empty ends => exact (Posts.refl s).of_books (books_of_without? one)
  | fallAsleep phase rest awake one empty isOpen inTime waits =>
    have same := books_of_without? one
    exact (Posts.refl s).of_books (u := { rest with asleep := rest.asleep + 1 }) same
  | strand phase rest awake one empty isOpen inTime fails =>
    have same := books_of_without? one
    exact (Posts.refl s).of_books (u := { rest with stranded := rest.stranded + 1 }) same
  | lapse rest one =>
    have same := books_of_without? one
    exact (Posts.refl s).of_books (u := { rest with lapsed := rest.lapsed + 1 }) same
  | deliver position payload posted =>
    refine ⟨?_, by simp [Notice.kind], by simp [Notice.kind]⟩
    simpa [Notice.kind, Notice.payload] using
      (perm_cons_eraseIdx posted).trans (List.perm_append_singleton payload _).symm
  | lose position payload fault posted =>
    refine ⟨?_, by simp [Notice.kind], by simp [Notice.kind]⟩
    simpa [Notice.kind, Notice.payload] using
      (perm_cons_eraseIdx posted).trans (List.perm_append_singleton payload _).symm
  | drain => exact .refl s
  | close => exact ⟨(Posts.refl s).posted, rfl, rfl⟩

theorem posts_of_run? (h : run? limits s actions = some (t, new)) : Posts s t new := by
  refine run?_induction (P := fun _ t new => Posts s t new) ?_ ?_ h
  · exact .refl s
  · intro actions t earlier action u new _ hact ih
    exact ih.trans (posts_of_move (move_of_act? hact))

/-- The payloads that were taken to be posted are being posted or were posted. -/
theorem taken_perm (h : run? limits {} actions = some (s, history)) :
    (reported [.taken] history).Perm
      (s.posting ++ reported [.delivered] history ++ reported [.lost] history) :=
  (posts_of_run? h).posted

/-- The counters of a pool count the payloads that were handed in and what became of them. -/
structure Tallied (handedIn : List α) (s : Pool α) (history : List (Notice α)) : Prop where
  submitted : s.submitted + s.tally history .refusedClosed = handedIn.length
  sent : s.sent = s.tally history .delivered
  failed : s.failed = s.tally history .lost
  dropped : s.dropped =
    s.tally history .refusedClosed + s.tally history .refusedFull + s.tally history .evicted

/-- Tallies do not depend on the workers that post nothing. -/
theorem Tallied.of_books {handedIn : List α} (h : Tallied handedIn s history)
    (same : t.books = s.books) : Tallied handedIn t history := by
  have hsubmitted : t.submitted = s.submitted := (congrArg Pool.submitted same :)
  have hsent : t.sent = s.sent := (congrArg Pool.sent same :)
  have hfailed : t.failed = s.failed := (congrArg Pool.failed same :)
  have hdropped : t.dropped = s.dropped := (congrArg Pool.dropped same :)
  exact ⟨hsubmitted ▸ h.submitted, hsent ▸ h.sent, hfailed ▸ h.failed, hdropped ▸ h.dropped⟩

theorem ne_nil_of_isFull (hroom : limits.isFull 0 = false)
    (full : limits.isFull s.queue.length = true) : s.queue ≠ [] := by
  intro hempty
  rw [hempty, List.length_nil, hroom] at full
  cases full

theorem tallied_of_move (hroom : limits.isFull 0 = false) {handedIn : List α}
    (h : Tallied handedIn s history) (move : Move limits s action t new) :
    Tallied (handedIn ++ action.payload?.toList) t (history ++ new) := by
  have hsubmitted := h.submitted
  have hsent := h.sent
  have hfailed := h.failed
  have hdropped := h.dropped
  simp only [tally, met] at hsubmitted hsent hfailed hdropped
  cases move with
  | refuseClosed payload first closed =>
    constructor <;> simp [tally, met, PoolAction.payload?, Notice.kind] <;> omega
  | refuseFull payload first isOpen full policy =>
    constructor <;> simp [tally, met, PoolAction.payload?, Notice.kind] <;> omega
  | evict payload first isOpen full policy =>
    obtain ⟨oldest, rest, hq⟩ := List.exists_cons_of_ne_nil (ne_nil_of_isFull hroom full)
    refine Tallied.of_books (s := { s with
      queue := s.queue.tail ++ [payload], submitted := s.submitted + 1, dropped := s.dropped + 1 })
      ?_ (books_enqueue first payload _)
    constructor <;> simp [tally, met, PoolAction.payload?, Notice.kind, hq] <;> omega
  | accept payload first isOpen hasRoom =>
    refine Tallied.of_books (s := { s with
      queue := s.queue ++ [payload], submitted := s.submitted + 1 }) ?_
      (books_enqueue first payload _)
    constructor <;> simp [tally, met, PoolAction.payload?, Notice.kind] <;> omega
  | take phase rest payload waiting awake one head =>
    have hrest := h.of_books (books_of_without? one)
    constructor
    · simpa [tally, met, PoolAction.payload?, Notice.kind] using hrest.submitted
    · simpa [tally, met, Notice.kind] using hrest.sent
    · simpa [tally, met, Notice.kind] using hrest.failed
    · simpa [tally, met, Notice.kind] using hrest.dropped
  | leave phase rest awake one empty ends =>
    simpa [PoolAction.payload?] using h.of_books (books_of_without? one)
  | fallAsleep phase rest awake one empty isOpen inTime waits =>
    have same := books_of_without? one
    simpa [PoolAction.payload?] using h.of_books (t := { rest with asleep := rest.asleep + 1 }) same
  | strand phase rest awake one empty isOpen inTime fails =>
    have same := books_of_without? one
    simpa [PoolAction.payload?] using
      h.of_books (t := { rest with stranded := rest.stranded + 1 }) same
  | lapse rest one =>
    have same := books_of_without? one
    simpa [PoolAction.payload?] using h.of_books (t := { rest with lapsed := rest.lapsed + 1 }) same
  | deliver position payload posted =>
    constructor <;> simp [tally, met, PoolAction.payload?, Notice.kind] <;> omega
  | lose position payload fault posted =>
    constructor <;> simp [tally, met, PoolAction.payload?, Notice.kind] <;> omega
  | drain => simpa [PoolAction.payload?] using h
  | close =>
    simp only [PoolAction.payload?, Option.toList_none, List.append_nil]
    exact ⟨hsubmitted, hsent, hfailed, hdropped⟩

theorem tallied_of_run? (hroom : limits.isFull 0 = false)
    (h : run? limits {} actions = some (s, history)) : Tallied (calls actions) s history := by
  refine run?_induction (P := fun actions s history => Tallied (calls actions) s history) ?_ ?_ h
  · exact ⟨rfl, rfl, rfl, rfl⟩
  · intro actions s history action t new _ hact ih
    rw [calls_concat]
    exact tallied_of_move hroom ih (move_of_act? hact)

/-- Every payload that was handed in is counted once. -/
theorem length_calls (h : run? limits {} actions = some (s, history)) :
    (calls actions).length = s.tally history .refusedClosed + s.tally history .refusedFull +
      s.tally history .evicted + s.tally history .waiting + s.tally history .posting +
        s.tally history .delivered + s.tally history .lost := by
  rw [← (met_perm_calls h).length_eq, flatMap_met]
  simp only [List.length_append, tally, met]

theorem submitted_of_run? (hroom : limits.isFull 0 = false)
    (h : run? limits {} actions = some (s, history)) :
    s.submitted = s.tally history .refusedFull + s.tally history .evicted +
      s.tally history .waiting + s.tally history .posting + s.tally history .delivered +
        s.tally history .lost := by
  have hsubmitted := (tallied_of_run? hroom h).submitted
  rw [length_calls h] at hsubmitted
  omega

/-- Nothing that was handed in is missing in the counters. -/
theorem balance_of_run? (hroom : limits.isFull 0 = false)
    (h : run? limits {} actions = some (s, history)) :
    s.submitted + s.tally history .refusedClosed =
      s.sent + s.failed + s.dropped + s.queue.length + s.posting.length := by
  have htally := tallied_of_run? hroom h
  have hwaiting : s.tally history .waiting = s.queue.length := rfl
  have hposting : s.tally history .posting = s.posting.length := rfl
  rw [htally.submitted, htally.sent, htally.failed, htally.dropped, length_calls h]
  omega

theorem isDrained_iff (s : Pool α) :
    s.isDrained = true ↔ s.queue.length = 0 ∧ s.posting.length = 0 := by
  simp [isDrained]

/-- Where all that was handed in is distinct, each payload meets one fate, once. -/
theorem existsUnique_met (h : run? limits {} actions = some (s, history))
    (hdistinct : (calls actions).Nodup) {payload : α} (hcall : payload ∈ calls actions) :
    ∃! fate, payload ∈ s.met history fate := by
  have hperm := met_perm_calls h
  have hnodup : (Fate.all.flatMap (s.met history)).Nodup := hperm.nodup_iff.2 hdistinct
  have hdisjoint := (List.nodup_flatMap.1 hnodup).2
  obtain ⟨fate, -, hfate⟩ := List.mem_flatMap.1 (hperm.mem_iff.2 hcall)
  refine ⟨fate, hfate, ?_⟩
  intro other hother
  by_contra hne
  have : Std.Symm (Function.onFun List.Disjoint (s.met history)) :=
    ⟨fun _ _ hd => List.disjoint_symm hd⟩
  exact hdisjoint.forall (Fate.mem_all other) (Fate.mem_all fate) hne hother hfate

theorem nodup_met (h : run? limits {} actions = some (s, history))
    (hdistinct : (calls actions).Nodup) (fate : Fate) :
    (s.met history fate).Nodup ∧ s.met history fate ⊆ calls actions := by
  have hperm := met_perm_calls h
  have hnodup : (Fate.all.flatMap (s.met history)).Nodup := hperm.nodup_iff.2 hdistinct
  refine ⟨(List.nodup_flatMap.1 hnodup).1 fate (Fate.mem_all fate), ?_⟩
  intro payload hmet
  exact hperm.mem_iff.1 (List.mem_flatMap.2 ⟨fate, Fate.mem_all fate, hmet⟩)

theorem nodup_taken (h : run? limits {} actions = some (s, history))
    (hdistinct : (calls actions).Nodup) : (reported [.taken] history).Nodup := by
  have hnodup : (Fate.all.flatMap (s.met history)).Nodup :=
    (met_perm_calls h).nodup_iff.2 hdistinct
  rw [(taken_perm h).nodup_iff]
  rw [flatMap_met] at hnodup
  refine List.Nodup.sublist ?_ hnodup
  apply List.Sublist.append _ (List.Sublist.refl _)
  exact List.Sublist.append (List.sublist_append_right _ _) (List.Sublist.refl _)

end Pool

end SessionTelemetry
