import Mathlib.Data.List.Range
import SessionTelemetry.Notify.Tree

/-!
# Composites nest transparently

A composite of composites does what one composite of the single services in it would do. This is
seen signal by signal (`deliverAll_leaves`) and stays so over a run of signals. Which services a
signal reaches is told by receipts: each single service gets a number (`numbered`), and notes that
number with every signal that reaches it (`Behaviour.receipted`).
-/

namespace SessionTelemetry

/-- A signal as it reached a single service: the number and the type of the service, and what it
did. -/
structure Receipt where
  number : ℕ
  signal : Signal
  title : String
  outcome : Except Fault Unit
  records : List Record

def Receipt.report (r : Receipt) : List Record :=
  r.records ++ match r.outcome with
    | .ok () => []
    | .error fault =>
      [⟨"mediatel.services", Record.errorLevel,
        .ok ("Error delivering " ++ r.signal.name ++ " to " ++ r.title), some fault⟩]

/-- The same behaviour of services that have numbers; what they share holds the receipts. -/
def Behaviour.receipted {ε ℓ : Type} (b : Behaviour ε ℓ) :
    Behaviour (List Receipt × ε) (ℕ × ℓ) where
  react shared service signal :=
    let r := b.react shared.2 service.2 signal
    let receipt := ⟨service.1, signal, b.title service.2, r.outcome, r.records⟩
    ⟨r.outcome, (service.1, r.service), (shared.1 ++ [receipt], r.shared), r.records⟩
  title service := b.title service.2

/-- Receipts of a signal by so many services, numbered from the first on, and the records about
them. -/
structure Receipts (signal : Signal) (first count : ℕ) (records : List Record)
    (receipts : List Receipt) : Prop where
  reached : (receipts.map fun r => (r.number, r.signal)) =
    (List.range' first count).map fun number => (number, signal)
  reported : receipts.flatMap Receipt.report = records

namespace Receipts

variable {signal : Signal} {first count more : ℕ} {records later : List Record}
  {receipts furtherReceipts : List Receipt}

theorem nil : Receipts signal first 0 [] [] := ⟨rfl, rfl⟩

theorem append (h : Receipts signal first count records receipts)
    (hlater : Receipts signal (first + count) more later furtherReceipts) :
    Receipts signal first (count + more) (records ++ later) (receipts ++ furtherReceipts) where
  reached := by
    rw [List.map_append, h.reached, hlater.reached, ← List.map_append, List.range'_append_1]
  reported := by rw [List.flatMap_append, h.reported, hlater.reported]

end Receipts

namespace ServiceTree

variable {ε ℓ : Type} {b : Behaviour ε ℓ} {signal : Signal}

mutual

def numberedFrom (first : ℕ) : ServiceTree ℓ → ServiceTree (ℕ × ℓ)
  | leaf service => leaf (first, service)
  | composite parts => composite (numberedAllFrom first parts)

def numberedAllFrom (first : ℕ) : List (ServiceTree ℓ) → List (ServiceTree (ℕ × ℓ))
  | [] => []
  | part :: rest =>
    numberedFrom first part :: numberedAllFrom (first + part.leaves.length) rest

end

def numbered (t : ServiceTree ℓ) : ServiceTree (ℕ × ℓ) := t.numberedFrom 0

theorem report_eq (r : Receipt) :
    r.report = r.records ++ failureRecord r.signal r.title r.outcome := by
  rw [Receipt.report]
  cases r.outcome <;> rfl

theorem deliver_composite (shared : ε) (parts : List (ServiceTree ℓ)) :
    (composite parts).deliver b signal shared =
      ⟨.ok (), composite (deliverAll b signal shared parts).1,
        (deliverAll b signal shared parts).2.1, (deliverAll b signal shared parts).2.2⟩ := rfl

theorem deliverAll_append (shared : ε) (parts more : List (ServiceTree ℓ)) :
    deliverAll b signal shared (parts ++ more) =
      let done := deliverAll b signal shared parts
      let later := deliverAll b signal done.2.1 more
      (done.1 ++ later.1, later.2.1, done.2.2 ++ later.2.2) := by
  induction parts generalizing shared with
  | nil => rfl
  | cons part rest ih => simp only [List.cons_append, deliverAll, ih, List.append_assoc]

mutual

/-- A part of a composite does to its single services what they would do as parts. -/
theorem deliver_leaves (shared : ε) (t : ServiceTree ℓ) :
    deliverAll b signal shared (t.leaves.map leaf) =
      let r := t.deliver b signal shared
      (r.service.leaves.map leaf, r.shared,
        r.records ++ failureRecord signal (t.title b) r.outcome) := by
  cases t with
  | leaf service => simp [leaves, deliver, deliverAll, title]
  | composite parts =>
    -- a composite never fails, so that there is no record about it
    simp only [leaves, deliver_composite, deliverAll_leaves shared parts, failureRecord,
      List.append_nil]

/-- The parts of a composite do what their single services would do as its parts. -/
theorem deliverAll_leaves (shared : ε) (parts : List (ServiceTree ℓ)) :
    deliverAll b signal shared ((leavesOfAll parts).map leaf) =
      let done := deliverAll b signal shared parts
      ((leavesOfAll done.1).map leaf, done.2.1, done.2.2) := by
  cases parts with
  | nil => rfl
  | cons part rest =>
    simp only [leavesOfAll, List.map_append, deliverAll_append, deliver_leaves shared part,
      deliverAll_leaves _ rest, deliverAll]

end

theorem length_deliverAll (shared : ε) (parts : List (ServiceTree ℓ)) :
    (deliverAll b signal shared parts).1.length = parts.length := by
  induction parts generalizing shared with
  | nil => rfl
  | cons part rest ih => simp only [deliverAll, List.length_cons, ih]

theorem length_leaves_deliver (shared : ε) (t : ServiceTree ℓ) :
    (t.deliver b signal shared).service.leaves.length = t.leaves.length := by
  have hlength : (deliverAll b signal shared (t.leaves.map leaf)).1.length =
      (t.leaves.map leaf).length := length_deliverAll shared _
  rwa [deliver_leaves, List.length_map, List.length_map] at hlength

variable (b signal)

mutual

/-- Numbers change nothing but that there are receipts, one by each single service in its turn. -/
theorem deliver_numberedFrom (shared : ε) (noted : List Receipt) (first : ℕ)
    (t : ServiceTree ℓ) :
    let r := t.deliver b signal shared
    ∃ receipts, (t.numberedFrom first).deliver b.receipted signal (noted, shared) =
        ⟨r.outcome, r.service.numberedFrom first, (noted ++ receipts, r.shared), r.records⟩ ∧
      Receipts signal first t.leaves.length
        (r.records ++ failureRecord signal (t.title b) r.outcome) receipts := by
  cases t with
  | leaf service =>
    refine ⟨_, rfl, rfl, ?_⟩
    rw [List.flatMap_singleton, report_eq]
    rfl
  | composite parts =>
    obtain ⟨receipts, hdone, hreceipts⟩ := deliverAll_numberedFrom shared noted first parts
    refine ⟨receipts, ?_, ?_⟩
    · simp only [numberedFrom, deliver_composite, hdone]
    · simpa only [leaves, deliver_composite, failureRecord, List.append_nil] using hreceipts

theorem deliverAll_numberedFrom (shared : ε) (noted : List Receipt) (first : ℕ)
    (parts : List (ServiceTree ℓ)) :
    let done := deliverAll b signal shared parts
    ∃ receipts, deliverAll b.receipted signal (noted, shared) (numberedAllFrom first parts) =
        (numberedAllFrom first done.1, (noted ++ receipts, done.2.1), done.2.2) ∧
      Receipts signal first (leavesOfAll parts).length done.2.2 receipts := by
  cases parts with
  | nil => exact ⟨[], by simp [deliverAll, numberedAllFrom], .nil⟩
  | cons part rest =>
    obtain ⟨receipts, hpart, hreceipts⟩ := deliver_numberedFrom shared noted first part
    obtain ⟨further, hrest, hfurther⟩ := deliverAll_numberedFrom
      (part.deliver b signal shared).shared (noted ++ receipts) (first + part.leaves.length) rest
    have htitle : (part.numberedFrom first).title b.receipted = part.title b := by
      cases part <;> rfl
    refine ⟨receipts ++ further, ?_, ?_⟩
    · simp only [numberedAllFrom, deliverAll, hpart, hrest, htitle, length_leaves_deliver,
        List.append_assoc]
    · rw [leavesOfAll, List.length_append]
      exact hreceipts.append hfurther

end

variable {b signal}

structure Course (ε ℓ : Type) where
  outcomes : List (Except Fault Unit)
  service : ServiceTree ℓ
  shared : ε
  records : List Record

def deliverEach (b : Behaviour ε ℓ) (shared : ε) (t : ServiceTree ℓ) : List Signal → Course ε ℓ
  | [] => ⟨[], t, shared, []⟩
  | signal :: rest =>
    let r := t.deliver b signal shared
    let later := deliverEach b r.shared r.service rest
    ⟨r.outcome :: later.outcomes, later.service, later.shared, r.records ++ later.records⟩

theorem deliverEach_flat (shared : ε) (parts : List (ServiceTree ℓ)) (signals : List Signal) :
    let nested := deliverEach b shared (composite parts) signals
    deliverEach b shared (composite ((leavesOfAll parts).map leaf)) signals =
      { nested with service := composite (nested.service.leaves.map leaf) } := by
  induction signals generalizing shared parts with
  | nil => rfl
  | cons signal rest ih =>
    simp only [deliverEach, deliver_composite, deliverAll_leaves]
    rw [ih]

theorem outcomes_deliverEach (shared : ε) (parts : List (ServiceTree ℓ)) (signals : List Signal) :
    (deliverEach b shared (composite parts) signals).outcomes = signals.map fun _ => .ok () := by
  induction signals generalizing shared parts with
  | nil => rfl
  | cons signal rest ih => simp only [deliverEach, deliver_composite, ih, List.map_cons]

theorem deliverEach_numbered (shared : ε) (noted : List Receipt) (parts : List (ServiceTree ℓ))
    (signals : List Signal) :
    let nested := deliverEach b shared (composite parts) signals
    ∃ receipts, deliverEach b.receipted (noted, shared) (composite parts).numbered signals =
        ⟨nested.outcomes, nested.service.numbered, (noted ++ receipts, nested.shared),
          nested.records⟩ ∧
      (receipts.map fun r => (r.number, r.signal)) = signals.flatMap (fun signal =>
        (List.range (leavesOfAll parts).length).map fun number => (number, signal)) ∧
      receipts.flatMap Receipt.report = nested.records := by
  induction signals generalizing shared noted parts with
  | nil => exact ⟨[], by simp [deliverEach], rfl, rfl⟩
  | cons signal rest ih =>
    obtain ⟨receipts, hnow, hreceipts⟩ :=
      deliverAll_numberedFrom b signal shared noted 0 parts
    obtain ⟨further, hlater, hreached, hreported⟩ :=
      ih (deliverAll b signal shared parts).2.1 (noted ++ receipts)
        (deliverAll b signal shared parts).1
    -- a signal leaves as many single services as there were
    have hcount : (leavesOfAll (deliverAll b signal shared parts).1).length =
        (leavesOfAll parts).length :=
      length_leaves_deliver shared (composite parts)
    refine ⟨receipts ++ further, ?_, ?_, ?_⟩
    · simp only [numbered, numberedFrom] at hlater ⊢
      simp only [deliverEach, deliver_composite, hnow, hlater, List.append_assoc]
    · rw [List.map_append, hreceipts.reached, hreached, hcount, List.flatMap_cons,
        List.range_eq_range']
    · rw [List.flatMap_append, hreceipts.reported, hreported]
      rfl

end ServiceTree

end SessionTelemetry
