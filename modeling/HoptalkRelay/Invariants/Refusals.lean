/-
**A refused request leaves the state intact.**

An error is answered before anything is written, and an acknowledgement that is dropped writes
nothing.  The one exception is a wrong password: it is counted on the device it came from.

Main definitions:

* `HoptalkRelay.Outcome.reply?` — the reply a transaction gives;
* `HoptalkRelay.Outcome.isDropped` — an acknowledgement was dropped.

Main results:

* `HoptalkRelay.refused_request_changes_nothing` — **what an error leaves behind**.
-/

import HoptalkRelay.Invariants.Uploads

set_option relaxedAutoImplicit false
set_option autoImplicit false

namespace HoptalkRelay

open Relational Transition

/-! ### The answers -/

/-- The reply a transaction gives. -/
def Outcome.reply? : Outcome → Option ServerMessage
  | .answered reply => some reply
  | .partAnswered outcome => some outcome.reply
  | _ => none

/-- The words the summary of a dropped acknowledgement begins with. -/
def droppedWords : Text := "dropped: ".toList

/-- The transaction dropped an acknowledgement. -/
def Outcome.isDropped : Outcome → Bool
  | .acknowledged summary => droppedWords.isPrefixOf summary
  | _ => false

/-- A summary that begins with other words says something else. -/
theorem isPrefixOf_append {words front : Text} (hlength : words.length ≤ front.length)
    (rest : Text) : words.isPrefixOf (front ++ rest) = words.isPrefixOf front := by
  induction words generalizing front with
  | nil => simp
  | cons c words ih =>
      cases front with
      | nil => simp at hlength
      | cons d front =>
          simp only [List.length_cons, Nat.add_le_add_iff_right] at hlength
          simp [List.isPrefixOf, ih hlength]

theorem not_dropped_append {front : String} (hlength : droppedWords.length ≤ front.toList.length)
    (hfront : droppedWords.isPrefixOf front.toList = false) (rest : String) :
    droppedWords.isPrefixOf (front ++ rest).toList = false := by
  rw [String.toList_append, isPrefixOf_append hlength, hfront]

section Requests

variable {settings : RelaySettings} {db db' : Db} {deviceId : ℕ} {now : Time}

/-! ### Acknowledgements -/

theorem not_dropped_deliver (delivery : MessageDelivery) (mask : Option ℕ) (isRead : Bool) :
    droppedWords.isPrefixOf
      (deliver settings db delivery now mask isRead).2.outcomeSummary.toList = false := by
  have hdelivered : ∀ rest : String, droppedWords.isPrefixOf
      ("delivered to this device (was " ++ rest).toList = false :=
    not_dropped_append (by decide) (by decide)
  unfold deliver moveSessionToNextMessage
  dsimp only
  split
  · rw [String.append_assoc]
    exact hdelivered _
  · split
    · rw [String.append_assoc, String.append_assoc]
      exact hdelivered _
    · rw [String.append_assoc, String.append_assoc]
      exact hdelivered _

/-- A `K` that is dropped changes nothing. -/
theorem recordDeliveryAcknowledgement_dropped {acknowledgement : DeliveryAcknowledgement}
    {summary : String}
    (h : recordDeliveryAcknowledgement settings db deviceId acknowledgement now =
      .ok (db', summary)) (hdropped : droppedWords.isPrefixOf summary.toList = true) :
    db' = db := by
  unfold recordDeliveryAcknowledgement at h
  split at h
  · exact (Prod.mk.inj (Except.ok.inj h)).1.symm
  split at h
  · exact (Prod.mk.inj (Except.ok.inj h)).1.symm
  split at h
  · exact (Prod.mk.inj (Except.ok.inj h)).1.symm
  split at h
  · exact (Prod.mk.inj (Except.ok.inj h)).1.symm
  -- from here on the delivery is found, and the summary says what became of it
  unfold recordDeliveryStatus at h
  dsimp only at h
  split at h
  · obtain ⟨-, rfl⟩ := Prod.mk.injEq .. ▸ Except.ok.inj h
    rw [not_dropped_append (by decide) (by decide)] at hdropped
    cases hdropped
  split at h
  · cases h
  split at h
  · obtain ⟨-, rfl⟩ := Prod.mk.injEq .. ▸ Except.ok.inj h
    rw [String.append_assoc, not_dropped_append (by decide) (by decide)] at hdropped
    cases hdropped
  · obtain ⟨-, rfl⟩ := Prod.mk.injEq .. ▸ Except.ok.inj h
    rw [not_dropped_deliver] at hdropped
    cases hdropped

/-- A `C` that is dropped changes nothing. -/
theorem recordReceiptAcknowledgement_dropped {acknowledgement : ReceiptAcknowledgement}
    (hdropped : droppedWords.isPrefixOf
      (recordReceiptAcknowledgement db deviceId acknowledgement now).2.toList = true) :
    (recordReceiptAcknowledgement db deviceId acknowledgement now).1 = db := by
  unfold recordReceiptAcknowledgement at hdropped ⊢
  split
  · rfl
  split
  · rfl
  split
  · rfl
  next huser _ _ hmessage _ receipt hreceipt =>
  rw [huser] at hdropped
  simp only [hmessage, hreceipt] at hdropped
  split at hdropped
  · rw [String.append_assoc, String.append_assoc, not_dropped_append (by decide) (by decide)]
      at hdropped
    cases hdropped
  · rw [not_dropped_append (by decide) (by decide)] at hdropped
    cases hdropped

/-! ### Requests -/

/-- An `F` that is answered with an error changes nothing. -/
theorem startRefresh_refused {request : RefreshRequest} {inboundId : Option ℕ} {e : ErrorReply}
    (h : startRefresh settings db deviceId request inboundId now = .ok (db', .errorReply e)) :
    db' = db := by
  unfold startRefresh at h
  dsimp only at h
  split at h
  · exact (Prod.mk.inj (Except.ok.inj h)).1.symm
  split at h
  · simp only [bind, Except.bind, pure, Except.pure] at h
    split at h
    · cases h
    · cases h
  split at h
  · exact (Prod.mk.inj (Except.ok.inj h)).1.symm
  split at h
  · exact (Prod.mk.inj (Except.ok.inj h)).1.symm
  simp only [bind, Except.bind, pure, Except.pure] at h
  split at h
  · cases h
  split at h
  · exact (Prod.mk.inj (Except.ok.inj h)).1.symm
  · cases h

/-- An `R` that is answered with an error changes nothing. -/
theorem recordRead_refused {request : ReadRequest} {e : ErrorReply}
    (h : (recordRead settings db deviceId request now).2.reply = .errorReply e) :
    (recordRead settings db deviceId request now).1 = db := by
  unfold recordRead at h ⊢
  split
  · rfl
  split
  · rfl
  next huser _ _ _ hmessage =>
  rw [huser] at h
  simp only [hmessage] at h
  cases h

/-- An `A` that is answered with an error changes nothing, or counts a wrong password. -/
theorem AccountAnswer.refused {hashing : PasswordHashing} {request : AccountRequest}
    {e : ErrorReply}
    (h : AccountAnswer hashing db deviceId request now db' (.errorReply e)) :
    db' = db ∨ e.errorCode = .wrongPassword ∧
      ∃ device, db.contacts.get? deviceId = some device ∧
        db' = db.putContact (failedContact (windowCheckedContact device now) now) := by
  cases h with
  | passwordInvalid => exact Or.inl rfl
  | rateLimited hdevice huser hcount =>
      refine Or.inl ?_
      rw [windowCheckedContact_of_rateLimited hcount, putContact_self (Table.mem_of_get? hdevice)]
  | wrongPassword hdevice => exact Or.inr ⟨rfl, _, hdevice, rfl⟩

/-- A wrong password changes the failure counter of its device and the start of its window. -/
theorem failedContact_windowCheckedContact (device : Contact) (now : Time) :
    ∃ failedSignInCount windowStartedAt,
      failedContact (windowCheckedContact device now) now =
        { device with
          failedSignInCount := failedSignInCount
          failedSignInWindowStartedAt := windowStartedAt } := by
  unfold windowCheckedContact
  split <;> exact ⟨_, _, rfl⟩

end Requests

/-! ### Every request -/

section Step

variable {hashing : PasswordHashing} {db : Db} {input : Input}

/-- A transaction that never drops anything does not, whether it commits or not. -/
theorem isDropped_commit {α : Type} {toOutcome : α → Outcome}
    {result : Except ServiceError (Db × α)} (h : ∀ value, (toOutcome value).isDropped = false) :
    (commit db toOutcome result).2.isDropped = false := by
  cases result with
  | error serviceError => rfl
  | ok committed => exact h committed.2

/-- A step that drops an acknowledgement changes nothing. -/
theorem step_dropped (h : (step hashing db input).2.isDropped = true) :
    (step hashing db input).1 = db := by
  cases hevent : input.event with
  | deliveryAcknowledgement deviceId acknowledgement now =>
      simp only [step, hevent] at h ⊢
      cases hrecord : recordDeliveryAcknowledgement input.settings db deviceId acknowledgement now with
      | error serviceError => rfl
      | ok committed =>
          rw [hrecord] at h
          exact recordDeliveryAcknowledgement_dropped hrecord h
  | receiptAcknowledgement deviceId acknowledgement now =>
      simp only [step, hevent] at h ⊢
      exact recordReceiptAcknowledgement_dropped h
  | createContact relayNodePublicKeys publicKey nodeType now =>
      simp only [step, hevent] at h
      split at h <;> cases h
  | account | messagePart | refresh | prepareNextPacket | prepareReplyPacket =>
      simp only [step, hevent] at h
      rw [isDropped_commit fun _ => rfl] at h
      cases h
  | _ =>
      simp only [step, hevent] at h
      cases h

/-- A transaction that gives a reply has committed. -/
theorem reply_commit {α : Type} {toOutcome : α → Outcome} {result : Except ServiceError (Db × α)}
    {reply : ServerMessage} (h : (commit db toOutcome result).2.reply? = some reply) :
    ∃ db' value, result = .ok (db', value) ∧ (commit db toOutcome result).1 = db' ∧
      (toOutcome value).reply? = some reply := by
  cases result with
  | error serviceError => cases h
  | ok committed => exact ⟨committed.1, committed.2, rfl, rfl, h⟩

/-- A step that answers an error changes nothing, or counts a wrong password. -/
theorem step_refused (hdb : Consistent db) {e : ErrorReply}
    (h : (step hashing db input).2.reply? = some (.errorReply e)) :
    (step hashing db input).1 = db ∨ e.errorCode = .wrongPassword ∧
      ∃ deviceId request salt now device, input.event = .account deviceId request salt now ∧
        db.contacts.get? deviceId = some device ∧ (step hashing db input).1 =
          db.putContact (failedContact (windowCheckedContact device now) now) := by
  cases hevent : input.event with
  | account deviceId request salt now =>
      simp only [step, hevent] at h ⊢
      obtain ⟨db', outcome, hcommit, hdb', hreply⟩ := reply_commit h
      have hanswer := registerOrSignIn_ok hcommit
      rw [Option.some.inj hreply] at hanswer
      rw [hdb']
      rcases hanswer.refused with hsame | ⟨hcode, device, hdevice, hcounted⟩
      · exact Or.inl hsame
      · exact Or.inr ⟨hcode, deviceId, request, salt, now, device, rfl, hdevice, hcounted⟩
  | query deviceId request =>
      refine Or.inl ?_
      simp only [step, hevent]
  | messagePart deviceId part now =>
      refine Or.inl ?_
      have hstep := step_messagePart hashing hdb hevent
      generalize (step hashing db input).1 = db' at hstep ⊢
      generalize (step hashing db input).2 = answer at hstep h
      cases hstep with
      | failed | refused => rfl
      | stored stores hrecipient hreply =>
          rw [Outcome.reply?, hreply] at h
          cases h
  | read deviceId request now =>
      simp only [step, hevent] at h ⊢
      exact Or.inl (recordRead_refused (Option.some.inj h))
  | refresh deviceId request inboundId now =>
      simp only [step, hevent] at h ⊢
      obtain ⟨db', reply, hcommit, hdb', hreply⟩ := reply_commit h
      obtain rfl := Option.some.inj hreply
      exact Or.inl (hdb'.trans (startRefresh_refused hcommit))
  | createContact relayNodePublicKeys publicKey nodeType now =>
      simp only [step, hevent] at h
      split at h <;> cases h
  | deliveryAcknowledgement | prepareNextPacket | prepareReplyPacket =>
      simp only [step, hevent] at h
      obtain ⟨db', value, -, -, hreply⟩ := reply_commit h
      cases hreply
  | _ =>
      simp only [step, hevent] at h
      cases h

/-- **A refused request changes nothing**: not an `M`, `Q`, `R`, `F` or `A` that is answered with an
error, nor a `K` or a `C` that is dropped.  An `A` with a wrong password changes the failure counter
of its device and the start of its window, and every stored message holds a part. -/
theorem refused_request_changes_nothing (h : (engine hashing).Reachable db) :
    (∀ input e, (step hashing db input).2.reply? = some (.errorReply e) →
      (step hashing db input).1 = db ∨
        e.errorCode = .wrongPassword ∧ ∃ deviceId request salt now device,
          input.event = .account deviceId request salt now ∧
          db.contacts.get? deviceId = some device ∧
          ∃ failedSignInCount windowStartedAt, (step hashing db input).1 = db.putContact
            { device with
              failedSignInCount := failedSignInCount
              failedSignInWindowStartedAt := windowStartedAt }) ∧
    (∀ input, (step hashing db input).2.isDropped = true → (step hashing db input).1 = db) ∧
    ∀ m ∈ db.messages, HoldsPart m := by
  refine ⟨fun input e hreply => ?_, fun input => step_dropped, holdsPart_of_reachable h⟩
  rcases step_refused (consistent_of_reachable h) hreply with
    hsame | ⟨hcode, deviceId, request, salt, now, device, hevent, hdevice, hcounted⟩
  · exact Or.inl hsame
  · obtain ⟨count, startedAt, heq⟩ := failedContact_windowCheckedContact device now
    exact Or.inr ⟨hcode, deviceId, request, salt, now, device, hevent, hdevice, count, startedAt,
      heq ▸ hcounted⟩

end Step

/-- Bob's device drops an acknowledgement of a message that does not exist, and every message holds
a part. -/
theorem refused_request_changes_nothing_sampleMessage :
    (step sampleHashing (sampleDb sampleMessage)
      ⟨sampleSettings, .deliveryAcknowledgement 2 ⟨alice, 9, ['1']⟩ (sampleTime 9)⟩).1 =
        sampleDb sampleMessage ∧
      ∀ m ∈ (sampleDb sampleMessage).messages, HoldsPart m :=
  ⟨(refused_request_changes_nothing (reachable_sampleDb sampleMessage)).2.1 _ (by decide +kernel),
    (refused_request_changes_nothing (reachable_sampleDb sampleMessage)).2.2⟩

end HoptalkRelay
