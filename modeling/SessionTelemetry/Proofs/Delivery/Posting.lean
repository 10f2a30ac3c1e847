import SessionTelemetry.Proofs.Delivery.Addresses

/-!
# Posts are settled one by one

Payloads that are posted one after the other to an address that can be read are one request each,
and what a post comes to depends on nothing but the reply to its own request (`posts_settled`). Only
a reply of success delivers a payload. Any other status and any failure of a request is a failed
delivery; but a fault of the client of another kind is passed on as it is, and so is the fault of an
address that cannot be read, neither of which is reported as a failed delivery.
-/

namespace SessionTelemetry

theorem Text.ofUtf8?_toUtf8 (s : String) : Text.ofUtf8? (Text.toUtf8 s) = some s := by
  have hvalid : (ByteArray.mk s.toUTF8.data).IsValidUTF8 := s.isValidUTF8
  rw [ofUtf8?, toUtf8, Array.toArray_toList, String.fromUTF8?, dif_pos hvalid]
  rfl

def Address.request (address : Address) (payload : String) : PostRequest :=
  { address := address.target, body := Text.toUtf8 payload }

structure Posted where
  outcome : Except Fault Unit
  sent : List PostRequest

def Posted.Failed (p : Posted) : Prop := ∃ fault, p.outcome = .error fault ∧ fault.isDelivery = true

namespace Client

variable {σ τ : Type} {read : AddressReader} {url : String} {address : Address} {fault : Fault}
  {payloads : List String}

def postAll (send : Client σ) (read : AddressReader) (url : String) : σ → List String → List Posted
  | _, [] => []
  | link, payload :: rest =>
    let (outcome, link, sent) := send.logged.postVia read url (link, []) payload
    ⟨outcome, sent⟩ :: send.postAll read url link rest

def replies (send : Client σ) : σ → List PostRequest → List (Except Fault Int)
  | _, [] => []
  | link, request :: rest => (send link request).1 :: send.replies (send link request).2 rest

def settle (address : Address) (payload : String) (reply : Except Fault Int) : Posted :=
  ⟨outcome (usable address reply), [address.request payload]⟩

theorem postAll_of_unreadable (h : read url = .error fault) (send : Client σ) (link : σ) :
    send.postAll read url link payloads = payloads.map fun _ => ⟨.error fault, []⟩ := by
  induction payloads generalizing link with
  | nil => rfl
  | cons payload rest ih =>
    rw [postAll, List.map_cons, postVia, h]
    exact congrArg _ (ih link)

theorem postAll_of_readable (h : read url = .ok address) (send : Client σ) (link : σ) :
    send.postAll read url link payloads =
      List.zipWith (settle address) payloads
        (send.replies link (payloads.map address.request)) := by
  induction payloads generalizing link with
  | nil => rfl
  | cons payload rest ih =>
    rw [postAll, List.map_cons, replies, List.zipWith_cons_cons, ← ih, postVia, h]
    rfl

theorem length_replies (send : Client σ) (link : σ) (requests : List PostRequest) :
    (send.replies link requests).length = requests.length := by
  induction requests generalizing link with
  | nil => rfl
  | cons request rest ih => rw [replies, List.length_cons, List.length_cons, ih]

/-- What a post to an address comes to when its request is replied to. -/
structure Settled (address : Address) (payload : String) (reply : Except Fault Int)
    (p : Posted) : Prop where
  sent_once : ∃ body, p.sent = [{ address := address.target, body }] ∧
    Text.ofUtf8? body = some payload
  delivered_iff : p.outcome = .ok () ↔ address.isComplete = true ∧ reply = .ok 200
  /-- Any other status is kept in the fault. -/
  refused {status : Int} (hcomplete : address.isComplete = true) (hstatus : status ≠ 200)
    (h : reply = .ok status) : p.outcome = .error (.refusedStatus status)
  failed {fault : Fault} (hrequest : fault.isRequest = true) (h : reply = .error fault) :
    p.outcome = .error (.requestFailed (fault.message?.getD ""))
  passed_on {fault : Fault} (hother : fault.isRequest = false) (h : reply = .error fault) :
    p.outcome = .error fault
  /-- A status is of no use for an address that does not say where to go. -/
  unusable {status : Int} (hpartial : address.isComplete = false) (h : reply = .ok status) :
    p.outcome = .error (.incompleteAddress (String.ofList (Text.quoted address.target.toList)))

theorem outcome_eq_ok_iff {reply : Except Fault Int} :
    outcome reply = .ok () ↔ reply = .ok successStatus := by
  cases reply with
  | ok status => by_cases h : status = successStatus <;> simp [outcome, h]
  | error fault => cases h : fault.isRequest <;> simp [outcome, h]

theorem usable_eq_ok_iff {reply : Except Fault Int} {status : Int} :
    usable address reply = .ok status ↔ address.isComplete = true ∧ reply = .ok status := by
  cases reply with
  | ok answered => cases h : address.isComplete <;> simp [usable, h]
  | error fault => simp [usable]

theorem settled_settle (address : Address) (payload : String) (reply : Except Fault Int) :
    Settled address payload reply (settle address payload reply) where
  sent_once := ⟨_, rfl, Text.ofUtf8?_toUtf8 payload⟩
  delivered_iff := outcome_eq_ok_iff.trans usable_eq_ok_iff
  refused hcomplete hstatus h := by
    rw [settle, usable_eq_ok_iff.mpr ⟨hcomplete, h⟩]
    exact if_neg hstatus
  failed hrequest h := by rw [settle, h, usable, outcome, if_pos hrequest]
  passed_on hother h := by rw [settle, h, usable, outcome, hother, if_neg Bool.false_ne_true]
  unusable hpartial h := by
    rw [settle, h, usable, hpartial, if_neg Bool.false_ne_true]
    rfl

/-- A fault of the client makes for a failed delivery only if it is one of requests, or is a failed
delivery by itself. -/
theorem Settled.failure_iff {payload : String} {reply : Except Fault Int} {p : Posted}
    (h : Settled address payload reply p) :
    p.Failed ↔
      (address.isComplete = true ∧ ∃ status, reply = .ok status ∧ status ≠ 200) ∨
        ∃ fault, reply = .error fault ∧ (fault.isRequest = true ∨ fault.isDelivery = true) := by
  cases reply with
  | ok status =>
    cases hcomplete : address.isComplete with
    | false => simp [h.unusable hcomplete rfl, Posted.Failed, Fault.isDelivery]
    | true =>
      by_cases hstatus : status = 200
      · simp [h.delivered_iff.mpr ⟨hcomplete, by rw [hstatus]⟩, hstatus, Posted.Failed]
      · simp [h.refused hcomplete hstatus rfl, hstatus, Posted.Failed, Fault.isDelivery]
  | error fault =>
    cases hrequest : fault.isRequest with
    | false => simp [h.passed_on hrequest rfl, hrequest, Posted.Failed]
    | true => simp [h.failed hrequest rfl, hrequest, Posted.Failed, Fault.isDelivery]

theorem exists_reply {i : Nat} {payload : String} (h : payloads[i]? = some payload)
    (address : Address) (send : Client σ) (link : σ) :
    ∃ reply, (send.replies link (payloads.map address.request))[i]? = some reply := by
  have hi : i < payloads.length := (List.getElem?_eq_some_iff.mp h).1
  have hlength := send.length_replies link (payloads.map address.request)
  rw [List.length_map] at hlength
  exact ⟨_, List.getElem?_eq_getElem (hlength ▸ hi)⟩

/-- Payloads that are posted one after the other, to an address that is read in any way in which
what goes wrong is no failed delivery. Where the address cannot be read, every post ends in that
fault, which is no failed delivery, and nothing is sent; else every post is settled by the reply to
its own request, whatever the others are and whatever they come to. -/
theorem posts_settled (hread : ∀ url, NoDelivery (read url)) (send : Client σ) (url : String)
    (link : σ) (payloads : List String) :
    (∀ fault, read url = .error fault → fault.isDelivery = false ∧
      send.postAll read url link payloads = payloads.map fun _ => ⟨.error fault, []⟩) ∧
    ∀ address, read url = .ok address →
      (∀ (i : Nat) (payload : String), payloads[i]? = some payload → ∃ reply p,
        (send.replies link (payloads.map address.request))[i]? = some reply ∧
        (send.postAll read url link payloads)[i]? = some p ∧ Settled address payload reply p ∧
        (p.Failed ↔
          (address.isComplete = true ∧ ∃ status, reply = .ok status ∧ status ≠ 200) ∨
          ∃ fault, reply = .error fault ∧ (fault.isRequest = true ∨ fault.isDelivery = true))) ∧
      ∀ (τ : Type) (send' : Client τ) (link' : τ) (payloads' : List String) (i : Nat),
        payloads'[i]? = payloads[i]? →
        (send'.replies link' (payloads'.map address.request))[i]? =
          (send.replies link (payloads.map address.request))[i]? →
        (send'.postAll read url link' payloads')[i]? =
          (send.postAll read url link payloads)[i]? := by
  refine ⟨fun fault h => ?_, fun address h => ⟨?_, ?_⟩⟩
  · exact ⟨hread url fault h, postAll_of_unreadable h send link⟩
  · intro i payload hpayload
    obtain ⟨reply, hreply⟩ := exists_reply hpayload address send link
    have hsettled := settled_settle address payload reply
    refine ⟨reply, settle address payload reply, hreply, ?_, hsettled, hsettled.failure_iff⟩
    rw [postAll_of_readable h, List.getElem?_zipWith, hpayload, hreply]
  · intro τ send' link' payloads' i hpayload hreply
    rw [postAll_of_readable h, postAll_of_readable h, List.getElem?_zipWith,
      List.getElem?_zipWith, hpayload, hreply]

/-- Three payloads, the second of which is refused. -/
theorem posts_settled_listed :
    (∀ url, NoDelivery (readAddress url)) ∧ ∃ address,
      readAddress "http://influx:8086/db/jvb/series?u=root&p=secret" = .ok address ∧
      ∃ reply p, (listed.replies [.ok 200, .ok 500] (["1", "2", "3"].map address.request))[1]? =
          some reply ∧
        (postAll listed readAddress "http://influx:8086/db/jvb/series?u=root&p=secret"
          [.ok 200, .ok 500] ["1", "2", "3"])[1]? = some p ∧ Settled address "2" reply p := by
  have hread : readAddress "http://influx:8086/db/jvb/series?u=root&p=secret" = .ok _ := rfl
  obtain ⟨-, hsettled⟩ := posts_settled noDelivery_readAddress listed
    "http://influx:8086/db/jvb/series?u=root&p=secret" [.ok 200, .ok 500] ["1", "2", "3"]
  obtain ⟨reply, p, hreply, hp, hsettles, -⟩ := (hsettled _ hread).1 1 "2" rfl
  exact ⟨noDelivery_readAddress, _, hread, reply, p, hreply, hp, hsettles⟩

/-- The fault of a client that rejects an address is passed on: it is no failed delivery. -/
theorem rejected_address_passed_on :
    ∃ p, postAll listed readAddress "http://influx:8086/db/jvb/series?u=root&p=secret"
        [.error (.foreign .ordinary "InvalidURL" "bad")] ["[]"] = [p] ∧
      p.outcome = .error (.foreign .ordinary "InvalidURL" "bad") ∧
      ¬ p.Failed :=
  ⟨_, rfl, rfl, by rintro ⟨fault, ⟨⟩, hdelivery⟩; cases hdelivery⟩

end Client

end SessionTelemetry
