import SessionTelemetry.Delivery.Post

/-!
# Faults of addresses

An address that cannot be read, and a host that cannot be asked, are faults of their own kinds: none
of them is a failed delivery (`Client.noDelivery_readAddress`).
-/

namespace SessionTelemetry

variable {α β : Type} {r s : Except Fault α}

/-- No fault of a computation is a failed delivery. -/
def NoDelivery (r : Except Fault α) : Prop := ∀ fault, r = .error fault → fault.isDelivery = false

namespace NoDelivery

theorem ok (a : α) : NoDelivery (.ok a : Except Fault α) := nofun

theorem error {fault : Fault} (h : fault.isDelivery = false) :
    NoDelivery (.error fault : Except Fault α) := by
  rintro _ ⟨⟩
  exact h

theorem bind {f : α → Except Fault β} (h : NoDelivery r) (hf : ∀ a, NoDelivery (f a)) :
    NoDelivery (r >>= f) := by
  cases r with
  | ok a => exact hf a
  | error fault => exact error (h fault rfl)

theorem ite {c : Prop} [Decidable c] (hr : NoDelivery r) (hs : NoDelivery s) :
    NoDelivery (if c then r else s) := by
  split
  · exact hr
  · exact hs

theorem forM {f : α → Except Fault PUnit} (hf : ∀ a, NoDelivery (f a)) (xs : List α) :
    NoDelivery (xs.forM f) := by
  induction xs with
  | nil => exact ok _
  | cons x xs ih =>
    rw [List.forM_eq_forM, List.forM_cons]
    exact (hf x).bind fun _ => ih

end NoDelivery

open NoDelivery

namespace Label

theorem noDelivery_checkFrom (before label : List Char) : NoDelivery (checkFrom before label) := by
  induction label generalizing before with
  | nil => exact ok ()
  | cons c rest ih =>
    have hrest : NoDelivery (checkFrom (c :: before) rest) := ih (c :: before)
    rw [checkFrom]
    refine ite (ite (error rfl) ?_) hrest
    split
    · exact error rfl
    · exact ite (error rfl) hrest

theorem noDelivery_check (label : List Char) : NoDelivery (check label) :=
  ite (error rfl) ((noDelivery_checkFrom [] label).bind fun _ => ite (error rfl) (ok ()))

theorem noDelivery_checkRead (label : List Char) : NoDelivery (checkRead label) := by
  refine ite (ite (error rfl) ?_) (noDelivery_check label)
  split
  · exact noDelivery_check _
  · exact error rfl

end Label

theorem DomainName.noDelivery_check (name : List Char) : NoDelivery (DomainName.check name) :=
  ite (error rfl) (forM Label.noDelivery_checkRead _)

namespace Host

theorem noDelivery_normal (s : List Char) : NoDelivery (normal s) := by
  refine ite (ite (ok s) (error rfl)) (ite (ite (ok _) (error rfl)) (ite (ok _) ?_))
  split
  · exact ok _
  · exact error rfl

theorem noDelivery_checkSendable (host : List Char) : NoDelivery (checkSendable host) :=
  ite (error rfl) (ite (DomainName.noDelivery_check host) (ok ()))

end Host

namespace Address

theorem noDelivery_readPort (scheme s : List Char) : NoDelivery (readPort scheme s) := by
  refine ite (ok none) ?_
  split
  · exact ok _
  · exact error rfl

theorem noDelivery_read (s : List Char) : NoDelivery (read s) :=
  ite (error rfl) <| (Host.noDelivery_normal _).bind fun _ =>
    (noDelivery_readPort _ _).bind fun _ => ite (error rfl) (ok _)

end Address

theorem Client.noDelivery_readAddress (url : String) : NoDelivery (readAddress url) := by
  refine (Address.noDelivery_read _).bind fun address => ite ?_ ?_
  · exact (Host.noDelivery_checkSendable _).bind fun _ => ok address
  · exact ite (error rfl) (ok address)

end SessionTelemetry
