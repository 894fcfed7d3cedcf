/-
**A repeated request changes nothing.**

A client sends a request again until it is answered, and a device reports again what it reported
before.  The second time the request finds what the first one left: the device linked, the part
held, the set recorded, the level confirmed.  It gets the same answer, and all that changes is when
the relay last heard of the upload, the delivery or the receipt.

Main definitions:

* `HoptalkRelay.Db.withoutEvidence` — the database without the times something was last heard of;
* `HoptalkRelay.Event.atClock` — the same request at another clock reading;
* `HoptalkRelay.IsRepeatable` — the requests a repetition of which is harmless.

Main results:

* `HoptalkRelay.recordDeliveryAcknowledgement_repeat`, `HoptalkRelay.recordRead_repeat`,
  `HoptalkRelay.recordReceiptAcknowledgement_repeat`, `HoptalkRelay.acceptMessagePart_repeat`,
  `HoptalkRelay.registerOrSignIn_repeat` — each kind of request;
* `HoptalkRelay.repeated_request_changes_nothing` — **every repeated request**.
-/

import HoptalkRelay.Invariants.Deliveries
import HoptalkRelay.Invariants.Guesses
import HoptalkRelay.Invariants.Refusals

set_option relaxedAutoImplicit false
set_option autoImplicit false

namespace HoptalkRelay

open Relational Transition

/-! ### What is only evidence -/

/-- An incomplete message without the time of its last part. -/
def forgetLastPart (m : Message) : Message :=
  { m with lastPartAt := if m.acceptedAt = none then m.createdAt else m.lastPartAt }

/-- A delivery without the time of its last status. -/
def forgetAcknowledgement (d : MessageDelivery) : MessageDelivery :=
  { d with lastAcknowledgementReceivedAt := none }

/-- A receipt without the time of its last confirmation. -/
def forgetConfirmation (r : ReceiptNotification) : ReceiptNotification :=
  { r with lastConfirmationReceivedAt := none }

/-- The database without the times something was last heard of. -/
def Db.withoutEvidence (db : Db) : Db :=
  { db with
    messages := db.messages.view forgetLastPart fun _ => rfl
    deliveries := db.deliveries.view forgetAcknowledgement fun _ => rfl
    receipts := db.receipts.view forgetConfirmation fun _ => rfl }

section Evidence

variable {db : Db}

theorem withoutEvidence_putMessage {m m' : Message} (hm : m ∈ db.messages) (hid : m'.id = m.id)
    (hsame : forgetLastPart m' = forgetLastPart m) :
    (db.putMessage m').withoutEvidence = db.withoutEvidence := by
  have hview : (db.messages.put m').view forgetLastPart (fun _ => rfl) =
      db.messages.view forgetLastPart fun _ => rfl :=
    Table.view_put hm hid hsame
  simp only [Db.withoutEvidence, Db.putMessage, hview]

theorem withoutEvidence_putDelivery {d d' : MessageDelivery} (hd : d ∈ db.deliveries)
    (hid : d'.id = d.id) (hsame : forgetAcknowledgement d' = forgetAcknowledgement d) :
    (db.putDelivery d').withoutEvidence = db.withoutEvidence := by
  have hview : (db.deliveries.put d').view forgetAcknowledgement (fun _ => rfl) =
      db.deliveries.view forgetAcknowledgement fun _ => rfl :=
    Table.view_put hd hid hsame
  simp only [Db.withoutEvidence, Db.putDelivery, hview]

theorem withoutEvidence_putReceipt {r r' : ReceiptNotification} (hr : r ∈ db.receipts)
    (hid : r'.id = r.id) (hsame : forgetConfirmation r' = forgetConfirmation r) :
    (db.putReceipt r').withoutEvidence = db.withoutEvidence := by
  have hview : (db.receipts.put r').view forgetConfirmation (fun _ => rfl) =
      db.receipts.view forgetConfirmation fun _ => rfl :=
    Table.view_put hr hid hsame
  simp only [Db.withoutEvidence, Db.putReceipt, hview]

end Evidence

/-! ### A status reported again -/

section Statuses

variable {settings : RelaySettings} {now now' : Time}

/-- The parts a set leaves of a round are left by the same set again. -/
theorem and_xor_and_xor (pending mask : ℕ) :
    pending &&& (partsMaskMaximum ^^^ mask) &&& (partsMaskMaximum ^^^ mask) =
      pending &&& (partsMaskMaximum ^^^ mask) := by
  rw [Nat.and_assoc, Nat.and_self]

theorem calculateMissingPartsRoundTime_mono (settings : RelaySettings) (hle : now ≤ now') :
    calculateMissingPartsRoundTime settings now ≤ calculateMissingPartsRoundTime settings now' := by
  unfold calculateMissingPartsRoundTime
  exact Int.add_le_add_right hle _

/-- What a status with zeros leaves: what is left of the round has no part of the set, and a round
that is over is followed by another one soon. -/
structure IsReported (settings : RelaySettings) (e : MessageDelivery) (mask : ℕ) (now : Time) :
    Prop where
  received : e.partsReceivedMask = mask
  left : e.state = .pending →
    e.roundPendingPartsMask &&& (partsMaskMaximum ^^^ mask) = e.roundPendingPartsMask
  soon : e.state = .pending → e.roundPendingPartsMask = 0 → e.attemptCount < e.maximumAttempts →
    ∃ due, e.nextAttemptAt = some due ∧ due ≤ calculateMissingPartsRoundTime settings now

theorem isReported_missingPartsSoonDelivery {r : MessageDelivery} {mask : ℕ}
    (hreceived : r.partsReceivedMask = mask)
    (hleft : r.roundPendingPartsMask &&& (partsMaskMaximum ^^^ mask) = r.roundPendingPartsMask) :
    IsReported settings (missingPartsSoonDelivery settings r now) mask now := by
  unfold missingPartsSoonDelivery
  split
  · split
    · exact ⟨hreceived, fun _ => hleft, fun _ _ _ => ⟨_, rfl, le_refl _⟩⟩
    · next hdue =>
        refine ⟨hreceived, fun _ => hleft, fun _ _ _ => ?_⟩
        cases hnext : r.nextAttemptAt with
        | none => simp [hnext] at hdue
        | some due => exact ⟨due, rfl, by simpa [hnext] using hdue⟩
  · next hmore =>
      exact ⟨hreceived, fun _ => hleft, fun _ hover hless => absurd ⟨hover, hless⟩ hmore⟩

/-- **A status with zeros is recorded.** -/
theorem isReported_incompleteStatusDelivery (db : Db) (d : MessageDelivery) (mask : ℕ) :
    IsReported settings (incompleteStatusDelivery settings db d mask now) mask now := by
  unfold incompleteStatusDelivery
  split
  · refine isReported_missingPartsSoonDelivery ?_ ?_
    · exact (reportedRoundDelivery_keeps settings now db (reportedDelivery d mask)
        (decide (d.roundPendingPartsMask ≠ 0))).2.2.2.2.2
    · unfold reportedRoundDelivery
      split
      · simp
      · exact and_xor_and_xor d.roundPendingPartsMask mask
  · next hstate => exact ⟨rfl, fun h => absurd h hstate, fun h => absurd h hstate⟩

/-- **A set reported again** at a later time changes nothing but the time it was reported at. -/
theorem incompleteStatusDelivery_repeat {e : MessageDelivery} {mask : ℕ}
    (h : IsReported settings e mask now) (hle : now ≤ now') (db : Db) :
    incompleteStatusDelivery settings db e mask now' = e := by
  unfold incompleteStatusDelivery
  by_cases hstate : e.state = .pending
  · rw [if_pos hstate]
    have hreported : reportedDelivery e mask = e := by
      unfold reportedDelivery
      rw [h.left hstate, ← h.received]
    have hround : reportedRoundDelivery settings db e (decide (e.roundPendingPartsMask ≠ 0)) now' =
        e := by
      unfold reportedRoundDelivery
      by_cases hover : e.roundPendingPartsMask = 0 <;> simp [hover]
    rw [hreported, hround]
    unfold missingPartsSoonDelivery
    split
    · next hmore =>
        obtain ⟨due, hnext, hdue⟩ := h.soon hstate hmore.1 hmore.2
        have hsoon := hdue.trans (calculateMissingPartsRoundTime_mono settings hle)
        rw [if_neg]
        simpa [hnext] using hsoon
    · rfl
  · rw [if_neg hstate, ← h.received]

/-- What the second run of a `K` finds: a delivery that is done, or the set that was recorded. -/
inductive IsSettled (settings : RelaySettings) (partCount : PartCount) (receivedSet : Text)
    (e : MessageDelivery) (now : Time) : Prop
  | final (hstate : e.state ∉ deliveryStatesAConfirmationDelivers)
  | reported (mask : ℕ) (hset : convertReceivedSetToPartsMask receivedSet = some mask)
      (hincomplete : mask ≠ calculateAllPartsMask partCount)
      (hreported : IsReported settings e mask now)

section Delivery

variable {db db' : Db} {m : Message} {d e : MessageDelivery} {receivedSet : Text}

/-- **A status that was recorded** left its delivery settled. -/
theorem recordDeliveryStatus_settles {summary : String} (hm : m ∈ db.messages)
    (haccepted : m.acceptedAt.isSome) (hd : d ∈ db.deliveries)
    (h : recordDeliveryStatus settings db m d receivedSet now = .ok (db', summary)) :
    ∃ e ∈ db'.deliveries, e.messageId = d.messageId ∧ e.deviceId = d.deviceId ∧
      IsSettled settings m.partCount receivedSet e now := by
  have hmem : acknowledgedDelivery d now ∈
      (db.putDelivery (acknowledgedDelivery d now)).deliveries := Table.mem_put_self hd rfl
  unfold recordDeliveryStatus at h
  rw [recordDeliveryAcknowledgementTime_of_mem hd] at h
  dsimp only at h
  split at h
  · next hstate =>
      obtain ⟨rfl, -⟩ := Prod.mk.injEq .. ▸ Except.ok.inj h
      exact ⟨_, hmem, rfl, rfl, .final hstate⟩
  next hstate =>
  split at h
  · cases h
  next mask hset =>
  split at h
  · next hincomplete =>
      obtain ⟨rfl, -⟩ := Prod.mk.injEq .. ▸ Except.ok.inj h
      rw [recordIncompleteDeliveryStatus_of_mem settings now hmem (not_not.1 hstate)]
      obtain ⟨hid, hmessage, hdevice, -⟩ := incompleteStatusDelivery_keeps settings now
        (db.putDelivery (acknowledgedDelivery d now)) (acknowledgedDelivery d now) mask
      exact ⟨_, Table.mem_put_self hmem hid, hmessage, hdevice,
        .reported mask hset hincomplete (isReported_incompleteStatusDelivery _ _ mask)⟩
  · obtain ⟨rfl, -⟩ := Prod.mk.injEq .. ▸ Except.ok.inj h
    have hover := handsOver_deliver settings now hmem (not_not.1 hstate) (some mask) false
    refine ⟨deliveredDelivery (acknowledgedDelivery d now) now (some mask) false, ?_, rfl, rfl,
      .final (by simp [deliveryStatesAConfirmationDelivers])⟩
    have hm' : m ∈ (deliver settings (db.putDelivery (acknowledgedDelivery d now))
        (acknowledgedDelivery d now) now (some mask) false).1.messages :=
      hover.deliveriesOnly.messages ▸ hm
    rw [(concludeConfirmation_frame settings now hm' haccepted _ false).2]
    exact hover.mem_self hmem rfl (by simp)

/-- **A status of a settled delivery** changes the time it was last heard of. -/
theorem recordDeliveryStatus_repeat (he : e ∈ db.deliveries)
    (hsettled : IsSettled settings m.partCount receivedSet e now) (hle : now ≤ now') :
    ∃ summary, recordDeliveryStatus settings db m e receivedSet now' =
      .ok (db.putDelivery (acknowledgedDelivery e now'), summary) := by
  have hmem : acknowledgedDelivery e now' ∈
      (db.putDelivery (acknowledgedDelivery e now')).deliveries := Table.mem_put_self he rfl
  unfold recordDeliveryStatus
  rw [recordDeliveryAcknowledgementTime_of_mem he]
  dsimp only
  split
  · exact ⟨_, rfl⟩
  next hstate =>
  cases hsettled with
  | final hfinal => exact absurd hfinal hstate
  | reported mask hset hincomplete hreported =>
      have hagain : IsReported settings (acknowledgedDelivery e now') mask now :=
        ⟨hreported.received, hreported.left, hreported.soon⟩
      rw [hset]
      dsimp only
      rw [if_pos hincomplete, recordIncompleteDeliveryStatus_of_mem settings now' hmem
        (not_not.1 hstate), incompleteStatusDelivery_repeat hagain hle,
        putDelivery_putDelivery _ rfl]
      exact ⟨_, rfl⟩

end Delivery

end Statuses

/-! ### The rows a repetition looks up -/

/-- What a confirmation keeps of the rows a request looks up. -/
structure KeepsLookups (db db' : Db) (m m' : Message) : Prop where
  users : db'.users = db.users
  contacts : db'.contacts = db.contacts
  mem : m' ∈ db'.messages
  id : m'.id = m.id
  sender : m'.senderId = m.senderId
  recipient : m'.recipientId = m.recipientId
  clientMessageId : m'.clientMessageId = m.clientMessageId
  accepted : m'.acceptedAt.isSome
  partCount : m'.partCount = m.partCount

section Lookups

variable {settings : RelaySettings} {db db' : Db} {m m' : Message} {now now' : Time}

/-- **The message of a repeated request** is the one the first request left. -/
theorem KeepsLookups.lockIncomingMessage (h : KeepsLookups db db' m m') (hdb' : Consistent db')
    {recipientId clientMessageId : ℕ} {senderUsername : Text} {sender : User}
    (hlock : lockIncomingMessage db recipientId senderUsername clientMessageId =
      some (m, sender)) :
    lockIncomingMessage db' recipientId senderUsername clientMessageId = some (m', sender) := by
  obtain ⟨-, -, hrecipient, hid, hsender, hlookup⟩ := lockIncomingMessage_eq_some hlock
  have hsender' : db'.users.get? m'.senderId = some sender := by
    rw [h.users, h.sender, hsender]
  have hunique : ∀ n ∈ db'.messages, (n.recipientId = recipientId &&
      n.clientMessageId.val = clientMessageId &&
        (db'.users.get? n.senderId).any (fun sender =>
          sender.usernameLookup = normalizeUsernameForLookup senderUsername) &&
        n.acceptedAt.isSome) = true → n = m' := by
    intro n hn hwanted
    simp only [Bool.and_eq_true, decide_eq_true_eq] at hwanted
    obtain ⟨⟨⟨-, hnid⟩, hnsender⟩, -⟩ := hwanted
    obtain ⟨user, huser, hname⟩ := (Option.any_eq_true _ _).1 hnsender
    have hsame : user = sender := by
      refine hdb'.users_unique user (Table.mem_of_get? huser) sender (Table.mem_of_get? hsender') ?_
      rw [hlookup]
      exact of_decide_eq_true hname
    have hkey : n.senderId = m'.senderId := by
      rw [← Table.key_of_get? huser, ← Table.key_of_get? hsender', hsame]
    refine hdb'.messages_unique n hn m' h.mem hkey (Subtype.ext ?_)
    rw [hnid, h.clientMessageId, hid]
  unfold HoptalkRelay.lockIncomingMessage
  dsimp only
  rw [Table.first?_eq_of_unique h.mem ?_ hunique, Option.bind_some, hsender', Option.map_some]
  simp only [h.recipient, hrecipient, h.clientMessageId, hid, hsender', Option.any_some, hlookup,
    h.accepted, decide_true, Bool.and_self]

/-- A confirmation keeps what the next request looks up. -/
theorem keepsLookups_concludeConfirmation (settings : RelaySettings) (now : Time)
    (hm : m ∈ db.messages) (haccepted : m.acceptedAt.isSome) (confirmation : DeliveryConfirmation)
    (isRead : Bool) :
    KeepsLookups db (concludeConfirmation settings db m confirmation now isRead) m
      (confirmedMessage m now isRead) := by
  have hconfirms := confirmsMessage_concludeConfirmation ⟨settings, .recoverAtStartup now⟩ hm
    haccepted confirmation now isRead
  refine ⟨(concludeConfirmation_frame settings now hm haccepted confirmation isRead).1,
    hconfirms.contacts, ?_, rfl, rfl, rfl, rfl, haccepted, rfl⟩
  rw [hconfirms.messages]
  exact Table.mem_put_self hm rfl

/-- Databases that differ in deliveries at most look up the same. -/
theorem keepsLookups_deliveriesOnly (honly : DeliveriesOnly db db') (hm : m ∈ db.messages)
    (haccepted : m.acceptedAt.isSome) : KeepsLookups db db' m m :=
  ⟨honly.users, honly.contacts, honly.messages ▸ hm, rfl, rfl, rfl, rfl, haccepted, rfl⟩

theorem KeepsLookups.of_deliveriesOnly {db₁ : Db} (honly : DeliveriesOnly db db₁)
    (h : KeepsLookups db₁ db' m m') : KeepsLookups db db' m m' :=
  { h with
    users := h.users.trans honly.users
    contacts := h.contacts.trans honly.contacts }

end Lookups

/-! ### K -/

section Acknowledgements

variable {settings : RelaySettings} {db db' : Db} {deviceId : ℕ} {now now' : Time}

/-- A status keeps what its repetition looks up. -/
theorem recordDeliveryStatus_keepsLookups {m : Message} {d : MessageDelivery}
    {receivedSet : Text} {summary : String} (hm : m ∈ db.messages)
    (haccepted : m.acceptedAt.isSome) (hd : d ∈ db.deliveries)
    (h : recordDeliveryStatus settings db m d receivedSet now = .ok (db', summary)) :
    ∃ m', KeepsLookups db db' m m' := by
  have hmem : acknowledgedDelivery d now ∈
      (db.putDelivery (acknowledgedDelivery d now)).deliveries := Table.mem_put_self hd rfl
  have honly : DeliveriesOnly db (db.putDelivery (acknowledgedDelivery d now)) :=
    .putDelivery db _
  unfold recordDeliveryStatus at h
  rw [recordDeliveryAcknowledgementTime_of_mem hd] at h
  dsimp only at h
  split at h
  · obtain ⟨rfl, -⟩ := Prod.mk.injEq .. ▸ Except.ok.inj h
    exact ⟨m, keepsLookups_deliveriesOnly honly hm haccepted⟩
  next hstate =>
  split at h
  · cases h
  next mask hset =>
  split at h
  · obtain ⟨rfl, -⟩ := Prod.mk.injEq .. ▸ Except.ok.inj h
    exact ⟨m, keepsLookups_deliveriesOnly
      (honly.trans (.recordIncompleteDeliveryStatus settings _ _ mask now)) hm haccepted⟩
  · obtain ⟨rfl, -⟩ := Prod.mk.injEq .. ▸ Except.ok.inj h
    have hover := (handsOver_deliver settings now hmem (not_not.1 hstate) (some mask)
      false).deliveriesOnly
    exact ⟨_, (keepsLookups_concludeConfirmation settings now (hover.messages ▸ hm) haccepted _
      false).of_deliveriesOnly (honly.trans hover)⟩

/-- **A `K` again** changes the time its delivery was last heard of, or nothing. -/
theorem recordDeliveryAcknowledgement_repeat {acknowledgement : DeliveryAcknowledgement}
    {summary : String} (hdb' : Consistent db') (hle : now ≤ now')
    (h : recordDeliveryAcknowledgement settings db deviceId acknowledgement now =
      .ok (db', summary)) :
    ∃ db'' summary', recordDeliveryAcknowledgement settings db' deviceId acknowledgement now' =
      .ok (db'', summary') ∧ db''.withoutEvidence = db'.withoutEvidence := by
  unfold recordDeliveryAcknowledgement at h ⊢
  cases huser : lockDeviceForKeyShare db deviceId with
  | none =>
      rw [huser] at h
      obtain ⟨rfl, -⟩ := Prod.mk.injEq .. ▸ Except.ok.inj h
      rw [huser]
      exact ⟨_, _, rfl, rfl⟩
  | some userId =>
  rw [huser] at h
  dsimp only at h
  cases hmessage : lockIncomingMessage db userId acknowledgement.senderUsername
      acknowledgement.messageId with
  | none =>
      rw [hmessage] at h
      obtain ⟨rfl, -⟩ := Prod.mk.injEq .. ▸ Except.ok.inj h
      simp only [huser, hmessage]
      exact ⟨_, _, rfl, rfl⟩
  | some named =>
  obtain ⟨m, sender⟩ := named
  rw [hmessage] at h
  obtain ⟨hm, haccepted, -⟩ := lockIncomingMessage_eq_some hmessage
  dsimp only at h
  by_cases hlength : receivedSetMatchesPartCount acknowledgement.receivedSet m.partCount = true
  swap
  · rw [if_pos hlength] at h
    obtain ⟨rfl, -⟩ := Prod.mk.injEq .. ▸ Except.ok.inj h
    simp only [huser, hmessage]
    rw [if_pos hlength]
    exact ⟨_, _, rfl, rfl⟩
  rw [if_neg (not_not.2 hlength)] at h
  cases hdelivery : lockDelivery db m.id deviceId with
  | none =>
      rw [hdelivery] at h
      obtain ⟨rfl, -⟩ := Prod.mk.injEq .. ▸ Except.ok.inj h
      simp only [huser, hmessage]
      rw [if_neg (not_not.2 hlength), hdelivery]
      exact ⟨_, _, rfl, rfl⟩
  | some d =>
  rw [hdelivery] at h
  dsimp only at h
  obtain ⟨hd, hdmessage, hddevice⟩ := lockDelivery_eq_some hdelivery
  obtain ⟨m', hkeeps⟩ := recordDeliveryStatus_keepsLookups hm haccepted hd h
  obtain ⟨e, he, hemessage, hedevice, hsettled⟩ := recordDeliveryStatus_settles hm haccepted hd h
  have huser' : lockDeviceForKeyShare db' deviceId = some userId :=
    (Db.deviceUserId_congr hkeeps.contacts deviceId).trans huser
  rw [← hkeeps.partCount] at hsettled hlength
  obtain ⟨summary', hagain⟩ := recordDeliveryStatus_repeat he hsettled hle
  refine ⟨db'.putDelivery (acknowledgedDelivery e now'), summary', ?_,
    withoutEvidence_putDelivery he rfl rfl⟩
  rw [huser']
  dsimp only
  rw [hkeeps.lockIncomingMessage hdb' hmessage]
  dsimp only
  rw [if_neg (not_not.2 hlength), lockDelivery_of_mem hdb' he
    ((hemessage.trans hdmessage).trans hkeeps.id.symm) (hedevice.trans hddevice)]
  exact hagain

/-- A set that cannot be read is refused whenever it arrives. -/
theorem recordDeliveryAcknowledgement_error {acknowledgement : DeliveryAcknowledgement}
    {serviceError : ServiceError}
    (h : recordDeliveryAcknowledgement settings db deviceId acknowledgement now =
      .error serviceError) (now' : Time) :
    recordDeliveryAcknowledgement settings db deviceId acknowledgement now' =
      .error serviceError := by
  unfold recordDeliveryAcknowledgement at h ⊢
  split at h
  · cases h
  split at h
  · cases h
  next hmessage =>
  split at h
  · cases h
  next hlength =>
  split at h
  · cases h
  next d hdelivery =>
  rw [if_neg hlength]
  unfold recordDeliveryStatus recordDeliveryAcknowledgementTime at h ⊢
  dsimp only at h ⊢
  split at h
  · cases h
  next hstate =>
  rw [if_neg hstate]
  split at h
  · exact h
  · split at h <;> cases h

/-! ### R -/

/-- A delivery a read has nothing to do on. -/
def IsReadSettled (d : MessageDelivery) : Prop :=
  d.state ∉ deliveryStatesAConfirmationDelivers ∧ (d.state = .delivered → d.readAt ≠ none)

/-- **A read leaves its delivery settled.** -/
theorem confirmDeliveryByRead_settles {messageId : ℕ} {db₁ : Db}
    {confirmation : DeliveryConfirmation}
    (h : confirmDeliveryByRead settings db (lockDelivery db messageId deviceId) now =
      (db₁, confirmation)) :
    DeliveriesOnly db db₁ ∧
      (lockDelivery db messageId deviceId = none ∧ db₁ = db ∨
        ∃ e ∈ db₁.deliveries, e.messageId = messageId ∧ e.deviceId = deviceId ∧
          IsReadSettled e) := by
  cases hdelivery : lockDelivery db messageId deviceId with
  | none =>
      rw [hdelivery] at h
      obtain ⟨rfl, -⟩ := Prod.mk.injEq .. ▸ h
      exact ⟨.refl _, Or.inl ⟨rfl, rfl⟩⟩
  | some d =>
  obtain ⟨hd, hmessage, hdevice⟩ := lockDelivery_eq_some hdelivery
  rw [hdelivery] at h
  unfold confirmDeliveryByRead at h
  dsimp only at h
  split at h
  · next hstate =>
      have hover := handsOver_deliver settings now hd hstate none true
      rw [h] at hover
      exact ⟨hover.deliveriesOnly, Or.inr ⟨deliveredDelivery d now none true,
        hover.mem_self hd rfl (by simp), hmessage, hdevice,
        by simp [deliveryStatesAConfirmationDelivers], by simp⟩⟩
  next hstate =>
  split at h
  · next hdelivered =>
      obtain ⟨rfl, -⟩ := Prod.mk.injEq .. ▸ h
      unfold recordDeliveryRead
      split
      · next hread =>
          exact ⟨.refl _, Or.inr ⟨d, hd, hmessage, hdevice, hstate,
            fun _ => Option.isSome_iff_ne_none.1 hread⟩⟩
      · rw [updateLockedDelivery_of_state hd (by simp [hdelivered])]
        have hmem : { d with readAt := some now } ∈
            (db.putDelivery { d with readAt := some now }).deliveries := Table.mem_put_self hd rfl
        exact ⟨.putDelivery db _, Or.inr ⟨_, hmem, hmessage, hdevice, hstate, by simp⟩⟩
  · next hother =>
      obtain ⟨rfl, -⟩ := Prod.mk.injEq .. ▸ h
      exact ⟨.refl _, Or.inr ⟨d, hd, hmessage, hdevice, hstate, fun h => absurd h hother⟩⟩

/-- A read of a settled delivery writes nothing, and completes no session. -/
theorem confirmDeliveryByRead_repeat (settings : RelaySettings) (db : Db) (now : Time)
    {delivery : Option MessageDelivery} (hsettled : ∀ d, delivery = some d → IsReadSettled d) :
    ∃ confirmation, confirmDeliveryByRead settings db delivery now = (db, confirmation) ∧
      confirmation.refreshSessionIdToComplete = none := by
  cases delivery with
  | none => exact ⟨_, rfl, rfl⟩
  | some d =>
      obtain ⟨hstate, hread⟩ := hsettled d rfl
      unfold confirmDeliveryByRead
      dsimp only
      rw [if_neg hstate]
      split
      · next hdelivered =>
          unfold recordDeliveryRead
          rw [if_pos (Option.isSome_iff_ne_none.2 (hread hdelivered))]
          exact ⟨_, rfl, rfl⟩
      · exact ⟨_, rfl, rfl⟩

/-- A message that was read before is confirmed without a write. -/
theorem concludeConfirmation_repeat (settings : RelaySettings) (now : Time) {m : Message}
    {confirmation : DeliveryConfirmation} (hm : m ∈ db.messages) (hdelivered : m.deliveredAt ≠ none)
    (hread : m.readAt ≠ none)
    (hsession : confirmation.refreshSessionIdToComplete = none) :
    concludeConfirmation settings db m confirmation now true = db := by
  unfold concludeConfirmation completeConfirmedHeadSession
  rw [recordMessageConfirmation_eq hm, confirmedMessage_self hdelivered fun _ => hread, hsession]
  simp [hdelivered, hread, Db.putMessage, Table.put_self hm]

/-- **An `R` again** writes nothing, and gets the same reply. -/
theorem recordRead_repeat {request : ReadRequest}
    (hdb' : Consistent (recordRead settings db deviceId request now).1) (now' : Time) :
    let first := recordRead settings db deviceId request now
    let second := recordRead settings first.1 deviceId request now'
    second.1 = first.1 ∧ second.2.reply = first.2.reply := by
  generalize hfirst : recordRead settings db deviceId request now = first at hdb' ⊢
  obtain ⟨db', outcome⟩ := first
  dsimp only at hdb' ⊢
  unfold recordRead at hfirst ⊢
  cases huser : lockDeviceForKeyShare db deviceId with
  | none =>
      rw [huser] at hfirst
      obtain ⟨rfl, rfl⟩ := Prod.mk.injEq .. ▸ hfirst
      simp [huser]
  | some userId =>
  rw [huser] at hfirst
  dsimp only at hfirst
  cases hmessage : lockIncomingMessage db userId request.senderUsername request.messageId with
  | none =>
      rw [hmessage] at hfirst
      obtain ⟨rfl, rfl⟩ := Prod.mk.injEq .. ▸ hfirst
      simp [huser, hmessage]
  | some named =>
  obtain ⟨m, sender⟩ := named
  rw [hmessage] at hfirst
  obtain ⟨hm, haccepted, -⟩ := lockIncomingMessage_eq_some hmessage
  obtain ⟨rfl, rfl⟩ := Prod.mk.injEq .. ▸ hfirst
  -- what the first read leaves
  unfold recordReadOfMessage at hdb' ⊢
  cases hconfirm : confirmDeliveryByRead settings db (lockDelivery db m.id deviceId) now with
  | mk db₁ confirmation =>
  rw [hconfirm] at hdb'
  obtain ⟨honly, hdelivery⟩ := confirmDeliveryByRead_settles hconfirm
  have hm₁ : m ∈ db₁.messages := honly.messages ▸ hm
  have hkeeps := (keepsLookups_concludeConfirmation settings now hm₁ haccepted confirmation
    true).of_deliveriesOnly honly
  have hdeliveries := (concludeConfirmation_frame settings now hm₁ haccepted confirmation true).2
  dsimp only at hdb' hdeliveries ⊢
  generalize concludeConfirmation settings db₁ m confirmation now true = db' at *
  have huser' : lockDeviceForKeyShare db' deviceId = some userId :=
    (Db.deviceUserId_congr hkeeps.contacts deviceId).trans huser
  have hsettled : ∀ d, lockDelivery db' m.id deviceId = some d → IsReadSettled d := by
    intro d hd
    rcases hdelivery with ⟨hnone, rfl⟩ | ⟨e, he, hemessage, hedevice, hsettled⟩
    · rw [lockDelivery, hdeliveries] at hd
      rw [lockDelivery] at hnone
      rw [hnone] at hd
      cases hd
    · have hlock := lockDelivery_of_mem hdb' (hdeliveries ▸ he) hemessage hedevice
      rw [hlock] at hd
      exact Option.some.inj hd ▸ hsettled
  obtain ⟨confirmation', hagain, hsession⟩ :=
    confirmDeliveryByRead_repeat settings db' now' hsettled
  obtain ⟨hdelivered, hread⟩ := isSome_confirmedMessage m now true
  have hconclude := concludeConfirmation_repeat settings now' hkeeps.mem
    (Option.isSome_iff_ne_none.1 hdelivered) (Option.isSome_iff_ne_none.1 (hread rfl)) hsession
  rw [huser']
  dsimp only
  rw [hkeeps.lockIncomingMessage hdb' hmessage]
  dsimp only
  rw [show (confirmedMessage m now true).id = m.id from rfl, hagain]
  exact ⟨hconclude, rfl⟩

/-! ### C -/

/-- A receipt a level changes nothing of. -/
def IsConfirmedUpTo (r : ReceiptNotification) (level : ℕ) : Prop :=
  max r.confirmedLevel (min level r.targetLevel) = r.confirmedLevel ∨
    r.state ∉ [ReceiptState.pending, .failed]

/-- **A level is confirmed once.** -/
theorem recordReceiptConfirmation_settles {r : ReceiptNotification} (hr : r ∈ db.receipts)
    (level : ℕ) (now : Time) :
    let db' := (recordReceiptConfirmation db r level now).1
    ReceiptsOnly db db' ∧
      ∃ q ∈ db'.receipts, q.messageId = r.messageId ∧ q.deviceId = r.deviceId ∧
        IsConfirmedUpTo q level := by
  have hmem : { r with lastConfirmationReceivedAt := some now } ∈
      (db.putReceipt { r with lastConfirmationReceivedAt := some now }).receipts :=
    Table.mem_put_self hr rfl
  unfold recordReceiptConfirmation
  rw [updateConfirmationTime_of_mem hr]
  dsimp only
  split
  · next hlevel => exact ⟨⟨rfl, rfl, rfl, rfl, rfl, rfl⟩, _, hmem, rfl, rfl, Or.inl hlevel⟩
  rw [updateLockedReceipt_of_mem hmem]
  split
  · refine ⟨⟨rfl, rfl, rfl, rfl, rfl, rfl⟩, _, Table.mem_put_self hmem rfl, rfl, rfl, Or.inl ?_⟩
    simp
  · next hstate => exact ⟨⟨rfl, rfl, rfl, rfl, rfl, rfl⟩, _, hmem, rfl, rfl, Or.inr hstate⟩

/-- A level that was confirmed changes the time of the confirmation. -/
theorem recordReceiptConfirmation_repeat {r : ReceiptNotification} {level : ℕ}
    (hr : r ∈ db.receipts) (hconfirmed : IsConfirmedUpTo r level) (now : Time) :
    (recordReceiptConfirmation db r level now).1 =
      db.putReceipt { r with lastConfirmationReceivedAt := some now } := by
  have hmem : { r with lastConfirmationReceivedAt := some now } ∈
      (db.putReceipt { r with lastConfirmationReceivedAt := some now }).receipts :=
    Table.mem_put_self hr rfl
  unfold recordReceiptConfirmation
  rw [updateConfirmationTime_of_mem hr]
  dsimp only
  split
  · rfl
  next hlevel =>
  rcases hconfirmed with hsame | hstate
  · exact absurd hsame hlevel
  · rw [updateLockedReceipt_of_mem hmem, if_neg hstate]

theorem fst_recordReceiptAcknowledgement {userId : ℕ} {m : Message} {r : ReceiptNotification}
    {acknowledgement : ReceiptAcknowledgement}
    (huser : lockDeviceForKeyShare db deviceId = some userId)
    (hmessage : findOutgoingMessage db userId acknowledgement.recipientUsername
      acknowledgement.messageId = some m)
    (hreceipt : (db.receipts.first? fun receipt =>
      receipt.messageId = m.id && receipt.deviceId = deviceId) = some r) (now : Time) :
    (recordReceiptAcknowledgement db deviceId acknowledgement now).1 =
      (recordReceiptConfirmation db r (receiptLevelNumber acknowledgement.receiptLevel) now).1 := by
  unfold recordReceiptAcknowledgement
  rw [huser]
  simp only [hmessage, hreceipt]
  split <;> simp_all

/-- **A `C` again** changes the time its receipt was last confirmed, or nothing. -/
theorem recordReceiptAcknowledgement_repeat {acknowledgement : ReceiptAcknowledgement}
    (hdb' : Consistent (recordReceiptAcknowledgement db deviceId acknowledgement now).1)
    (now' : Time) :
    let first := recordReceiptAcknowledgement db deviceId acknowledgement now
    let second := recordReceiptAcknowledgement first.1 deviceId acknowledgement now'
    second.1.withoutEvidence = first.1.withoutEvidence := by
  dsimp only
  cases huser : lockDeviceForKeyShare db deviceId with
  | none => simp [recordReceiptAcknowledgement, huser]
  | some userId =>
  cases hmessage : findOutgoingMessage db userId acknowledgement.recipientUsername
      acknowledgement.messageId with
  | none => simp [recordReceiptAcknowledgement, huser, hmessage]
  | some m =>
  cases hreceipt : db.receipts.first? fun receipt =>
      receipt.messageId = m.id && receipt.deviceId = deviceId with
  | none => simp [recordReceiptAcknowledgement, huser, hmessage, hreceipt]
  | some r =>
  obtain ⟨hr, hcond⟩ := Table.first?_eq_some hreceipt
  simp only [Bool.and_eq_true, decide_eq_true_eq] at hcond
  rw [fst_recordReceiptAcknowledgement huser hmessage hreceipt] at hdb' ⊢
  obtain ⟨honly, q, hq, hqmessage, hqdevice, hconfirmed⟩ :=
    recordReceiptConfirmation_settles hr (receiptLevelNumber acknowledgement.receiptLevel) now
  generalize (recordReceiptConfirmation db r (receiptLevelNumber acknowledgement.receiptLevel)
    now).1 = db' at *
  have huser' : lockDeviceForKeyShare db' deviceId = some userId :=
    (Db.deviceUserId_congr honly.contacts deviceId).trans huser
  have hmessage' : findOutgoingMessage db' userId acknowledgement.recipientUsername
      acknowledgement.messageId = some m := by
    rw [← hmessage, findOutgoingMessage, findOutgoingMessage, honly.messages, honly.users]
  have hreceipt' : (db'.receipts.first? fun receipt =>
      receipt.messageId = m.id && receipt.deviceId = deviceId) = some q := by
    refine Table.first?_eq_of_unique hq ?_ fun p hp hpcond => ?_
    · simp [hqmessage, hqdevice, hcond]
    · simp only [Bool.and_eq_true, decide_eq_true_eq] at hpcond
      exact hdb'.receipts_unique p hp q hq (by rw [hpcond.1, hqmessage, hcond.1])
        (by rw [hpcond.2, hqdevice, hcond.2])
  rw [fst_recordReceiptAcknowledgement huser' hmessage' hreceipt',
    recordReceiptConfirmation_repeat hq hconfirmed]
  exact withoutEvidence_putReceipt hq rfl rfl

/-! ### M -/

/-- Locking a message that exists creates nothing. -/
theorem lockOrCreateMessage_of_mem {m : Message} {recipientId : ℕ} {part : MessagePartRequest}
    {partCount : PartCount} (hdb : Consistent db) (hm : m ∈ db.messages)
    (hid : m.clientMessageId.val = part.messageId) (now : Time) :
    lockOrCreateMessage db m.senderId recipientId deviceId part partCount now = .ok (db, m) := by
  have hfirst : (db.messages.first? fun message =>
      message.senderId = m.senderId && message.clientMessageId.val = part.messageId) = some m := by
    refine Table.first?_eq_of_unique hm (by simp [hid]) fun n hn hcond => ?_
    simp only [Bool.and_eq_true, decide_eq_true_eq] at hcond
    exact hdb.messages_unique n hn m hm hcond.1 (Subtype.ext (hcond.2.trans hid.symm))
  unfold lockOrCreateMessage
  rw [hfirst]

/-- **A part that is held already** gets the set of its message again. -/
theorem acceptMessagePart_of_held (settings : RelaySettings) {m : Message} {recipient : User}
    {part : MessagePartRequest} (hdb : Consistent db) (hm : m ∈ db.messages)
    (hlinked : db.deviceUserId deviceId = some m.senderId)
    (huser : db.userByLookup (normalizeUsernameForLookup part.recipientUsername) = some recipient)
    (hnumbering : isValidPartNumbering part.partNumber part.partCount = true)
    (htext : isValidPartText part.partText = true)
    (hid : m.clientMessageId.val = part.messageId)
    (hfits : PartFits m recipient.id deviceId part)
    (hheld : m.partTexts.getD (part.partNumber - 1) none ≠ none)
    (hwhole : ¬ (m.acceptedAt = none ∧ ∀ t ∈ m.partTexts, t.isSome)) (now : Time) :
    ∃ outcome, acceptMessagePart settings db deviceId part now =
        .ok (db.putMessage (messageWithPart m part now), outcome) ∧
      outcome.reply =
        .sendStatusReply recipient.username.val part.messageId (receivedSetOf m) := by
  have hok := hdb.messages m hm
  have hrecipient : m.recipientId = recipient.id := hfits.recipient
  have hparts : (messageWithPart m part now).partTexts = m.partTexts := if_neg hheld
  have hset : buildReceivedSet (messageWithPart m part now) = .ok (receivedSetOf m) :=
    (buildReceivedSet_congr hparts rfl).trans (buildReceivedSet_eq hok.parts)
  unfold acceptMessagePart
  rw [hlinked]
  simp only [huser]
  rw [if_neg (by rw [← hrecipient]; exact hok.parties.symm),
    lockSenderRecipientAndDevice_eq hok.sender (hrecipient ▸ hok.recipient)
      (hrecipient ▸ hok.parties) hlinked]
  simp only [bind, Except.bind, pure, Except.pure]
  rw [dif_pos ⟨hnumbering, htext⟩, lockOrCreateMessage_of_mem hdb hm hid]
  simp only [findPartConflict_eq_nil.2 hfits]
  unfold storePartOfMessage
  rw [storePart_of_mem hm]
  have hnot : ¬ ((messageWithPart m part now).acceptedAt = none ∧
      (messageWithPart m part now).partTexts.all Option.isSome = true) := by
    rw [hparts, List.all_eq_true]
    exact hwhole
  simp only [bind, Except.bind, pure, Except.pure]
  rw [if_neg (by simp), if_neg hnot]
  dsimp only
  rw [hset]
  exact ⟨_, rfl, rfl⟩

/-- A part that is stored is answered with the set of its message. -/
theorem not_errorReply_storePartOfMessage (settings : RelaySettings) (recipient : User)
    (part : MessagePartRequest) (now : Time) {m : Message} (hm : m ∈ db.messages)
    (hparts : m.partTexts.length = m.partCount.val) :
    ∃ db' outcome, storePartOfMessage settings db m recipient part now = .ok (db', outcome) ∧
      ∀ e, outcome.reply ≠ .errorReply e := by
  obtain ⟨⟨db', outcome⟩, hstored⟩ := storePartOfMessage_isOk settings recipient part now hm hparts
  refine ⟨db', outcome, hstored, fun e he => ?_⟩
  cases storePartOfMessage_ok hm hstored with
  | accepted receivedSet hopen hall hset hreply hdb => rw [hreply] at he; cases he
  | held receivedSet hnot hset hreply hdb => rw [hreply] at he; cases he

/-- **A part that was refused** is refused again, whenever it arrives. -/
theorem acceptMessagePart_refused {part : MessagePartRequest} (now : Time) (hdb : Consistent db)
    (h : ∀ db' outcome, acceptMessagePart settings db deviceId part now = .ok (db', outcome) →
      ∃ e, outcome.reply = .errorReply e) (now' : Time) :
    acceptMessagePart settings db deviceId part now' =
      acceptMessagePart settings db deviceId part now := by
  unfold acceptMessagePart at h ⊢
  cases hsender : db.deviceUserId deviceId with
  | none => rfl
  | some senderId =>
  rw [hsender] at h
  dsimp only at h ⊢
  cases hrecipient : db.userByLookup (normalizeUsernameForLookup part.recipientUsername) with
  | none => rfl
  | some recipient =>
  rw [hrecipient] at h
  dsimp only at h ⊢
  by_cases hself : recipient.id = senderId
  · rw [if_pos hself, if_pos hself]
  rw [if_neg hself] at h ⊢
  rw [if_neg hself]
  cases hlock : lockSenderRecipientAndDevice db senderId recipient.id deviceId with
  | error serviceError => rfl
  | ok =>
  rw [hlock] at h
  simp only [bind, Except.bind, pure, Except.pure] at h ⊢
  by_cases hvalid : isValidPartNumbering part.partNumber part.partCount = true ∧
      isValidPartText part.partText = true
  swap
  · rw [dif_neg hvalid, dif_neg hvalid]
  rw [dif_pos hvalid] at h ⊢
  rw [dif_pos hvalid]
  have hstores : ∀ lockedDb m, LockedMessage db senderId recipient.id deviceId part
      ⟨part.partCount, partCount_of_isValidPartNumbering hvalid.1⟩ now lockedDb m →
      ∃ db' outcome, storePartOfMessage settings lockedDb m recipient part now =
        .ok (db', outcome) ∧ ∀ e, outcome.reply ≠ .errorReply e := by
    intro lockedDb m locked
    refine (not_errorReply_storePartOfMessage settings recipient part now locked.spec.1 ?_)
    cases locked with
    | existing hm => exact (hdb.messages m hm).parts
    | created => exact List.length_replicate
  cases hlocked : lockOrCreateMessage db senderId recipient.id deviceId part
      ⟨part.partCount, partCount_of_isValidPartNumbering hvalid.1⟩ now with
  | error serviceError =>
      have hagain : lockOrCreateMessage db senderId recipient.id deviceId part
          ⟨part.partCount, partCount_of_isValidPartNumbering hvalid.1⟩ now' =
          .error serviceError := by
        unfold lockOrCreateMessage at hlocked ⊢
        cases hfirst : db.messages.first? fun message =>
            message.senderId = senderId && message.clientMessageId.val = part.messageId with
        | some m => simp [hfirst] at hlocked
        | none =>
            rw [hfirst] at hlocked
            dsimp only at hlocked ⊢
            by_cases hrange : messageIdMinimum ≤ part.messageId ∧ part.messageId ≤ messageIdMaximum
            · rw [dif_pos hrange] at hlocked
              cases hlocked
            · rw [dif_neg hrange] at hlocked ⊢
              exact hlocked
      rw [hagain]
  | ok committed =>
      obtain ⟨lockedDb, m⟩ := committed
      have locked := lockOrCreateMessage_ok hlocked
      rw [hlocked] at h
      dsimp only at h ⊢
      by_cases hconflict : findPartConflict m recipient.id deviceId part = []
      · rw [if_neg (not_not.2 hconflict)] at h
        obtain ⟨db', outcome, hstored, hreply⟩ := hstores lockedDb m locked
        obtain ⟨e, he⟩ := h db' outcome hstored
        exact absurd he (hreply e)
      · obtain rfl := locked.no_conflict rfl hconflict
        obtain ⟨hm, rfl, hid, -⟩ := locked.spec
        rw [lockOrCreateMessage_of_mem hdb hm hid]
        dsimp only
        rw [if_pos hconflict, if_pos hconflict]

/-- Storing a part leaves the users and the contacts alone. -/
theorem acceptMessagePart_frame {part : MessagePartRequest} {db' : Db}
    {outcome : MessagePartOutcome}
    (h : acceptMessagePart settings db deviceId part now = .ok (db', outcome)) :
    db'.users = db.users ∧ db'.contacts = db.contacts := by
  have hfan : ∀ messageId activeSessionIds (deviceIds : List ℕ) (db : Db),
      let db' := deviceIds.foldl
        (createDeliveryForDevice settings messageId activeSessionIds now) db
      db'.users = db.users ∧ db'.contacts = db.contacts := by
    intro messageId activeSessionIds deviceIds
    induction deviceIds with
    | nil => exact fun db => ⟨rfl, rfl⟩
    | cons deviceId deviceIds ih =>
        intro db
        obtain ⟨husers, hcontacts⟩ :=
          ih (createDeliveryForDevice settings messageId activeSessionIds now db deviceId)
        have hone : (createDeliveryForDevice settings messageId activeSessionIds now db
              deviceId).users = db.users ∧
            (createDeliveryForDevice settings messageId activeSessionIds now db
              deviceId).contacts = db.contacts := by
          unfold createDeliveryForDevice
          split <;> exact ⟨rfl, rfl⟩
        exact ⟨husers.trans hone.1, hcontacts.trans hone.2⟩
  have hanswer : PartAnswer ⟨settings, .messagePart deviceId part now⟩ db deviceId part now db'
      outcome := acceptMessagePart_ok rfl h
  cases hanswer with
  | refused | conflict => exact ⟨rfl, rfl⟩
  | @stored senderId recipient partCount lockedDb m _ _ upload huser hcount locked hfits hstored =>
      obtain ⟨hm, -, -, husers, hcontacts⟩ := locked.spec
      rw [← husers, ← hcontacts]
      cases storePartOfMessage_ok hm hstored with
      | held receivedSet hnot hset hreply hdb => exact hdb ▸ ⟨rfl, rfl⟩
      | accepted receivedSet hopen hall hset hreply hdb =>
          subst hdb
          exact hfan _ _ _ _

/-- The message of a stored part holds it, and is accepted when it is whole. -/
theorem StoresPart.held {input : Input} {part : MessagePartRequest} {m n : Message}
    (stores : StoresPart input db db' deviceId part now m n) :
    n ∈ db'.messages ∧ PartFits n m.recipientId deviceId part ∧
      n.partTexts.getD (part.partNumber - 1) none ≠ none ∧
      ¬ (n.acceptedAt = none ∧ ∀ t ∈ n.partTexts, t.isSome) := by
  obtain ⟨hid, hsender, hrecipient, hclient, hcount, hdevice, hparts⟩ := stores.keeps
  have hlt := index_lt_of_numbering stores.upload.numbering stores.fits.count stores.parts
  have hheld : n.partTexts.getD (part.partNumber - 1) none = some part.partText := by
    rw [hparts, messageWithPart_partTexts]
    split
    · simp [hlt]
    · next hsome =>
        obtain ⟨text, htext⟩ := Option.ne_none_iff_exists'.1 hsome
        rw [htext, stores.fits.held text htext]
  refine ⟨(stores.rows n).2 (Or.inl rfl), ⟨hrecipient, ?_, fun text htext => ?_, fun _ hnone => ?_⟩,
    by rw [hheld]; simp, ?_⟩
  · rw [hcount, stores.fits.count]
  · rw [hheld] at htext
    exact (Option.some.inj htext).symm
  · rw [hheld] at hnone
    cases hnone
  · rintro ⟨hopen, hall⟩
    rcases stores.result with ⟨hnot, rfl, -⟩ | ⟨-, rfl⟩
    · exact hnot ⟨hopen, hall⟩
    · cases hopen

/-- **An `M` again** finds its part held, and changes the time of the message's last part, or
nothing. -/
theorem acceptMessagePart_repeat {hashing : PasswordHashing} {input : Input}
    {part : MessagePartRequest} (hdb : Consistent db)
    (hdb' : Consistent (step hashing db input).1)
    (hevent : input.event = .messagePart deviceId part now) (now' : Time) :
    let first := step hashing db input
    let second := step hashing first.1 ⟨input.settings, .messagePart deviceId part now'⟩
    second.2.reply? = first.2.reply? ∧ second.1.withoutEvidence = first.1.withoutEvidence := by
  have hstep := step_messagePart hashing hdb hevent
  have hfirst : step hashing db input =
      commit db .partAnswered (acceptMessagePart input.settings db deviceId part now) := by
    simp only [step, hevent]
  have hsecond : ∀ db₁, step hashing db₁ ⟨input.settings, .messagePart deviceId part now'⟩ =
      commit db₁ .partAnswered (acceptMessagePart input.settings db₁ deviceId part now') :=
    fun _ => rfl
  cases haccept : acceptMessagePart input.settings db deviceId part now with
  | error serviceError =>
      have hagain := acceptMessagePart_refused now hdb
        (fun db' outcome hok => by rw [haccept] at hok; cases hok) now'
      rw [haccept] at hfirst hagain
      dsimp only
      rw [hfirst, hsecond, commit, hagain]
      exact ⟨rfl, rfl⟩
  | ok committed =>
  obtain ⟨db', outcome⟩ := committed
  obtain ⟨husers, hcontacts⟩ := acceptMessagePart_frame haccept
  rw [haccept] at hfirst
  rw [hfirst] at hstep hdb'
  dsimp only
  rw [hfirst, hsecond]
  replace hstep : PartStep input db deviceId part now db' (.partAnswered outcome) := hstep
  replace hdb' : Consistent db' := hdb'
  generalize hanswer : Outcome.partAnswered outcome = answer at hstep
  cases hstep with
  | failed serviceError => cases hanswer
  | refused errorCode reason hcode hsigned =>
      obtain rfl := Outcome.partAnswered.inj hanswer
      have hagain := acceptMessagePart_refused now hdb (fun db'' outcome' hok => by
        rw [haccept] at hok
        obtain ⟨-, rfl⟩ := Prod.mk.injEq .. ▸ Except.ok.inj hok
        exact ⟨_, rfl⟩) now'
      rw [haccept] at hagain
      simp only [commit, hagain, and_self]
  | @stored m n recipient _ _ stores hrecipient hreply =>
      obtain rfl := Outcome.partAnswered.inj hanswer
      obtain ⟨hn, hfits, hheld, hwhole⟩ := stores.held
      obtain ⟨user, huser, hid⟩ := stores.upload.recipient
      have hsame : user = recipient := by
        refine Table.eq_of_key_eq (userByLookup_eq_some huser).1 (Table.mem_of_get? hrecipient) ?_
        rw [key_user, hid, Table.key_of_get? hrecipient]
      subst hsame
      rw [← hid] at hfits
      have hlinked : db'.deviceUserId deviceId = some n.senderId := by
        rw [Db.deviceUserId_congr hcontacts, stores.keeps.2.1, stores.upload.sender]
      have huser' : db'.userByLookup (normalizeUsernameForLookup part.recipientUsername) =
          some user := by
        rw [Db.userByLookup, husers]
        exact huser
      obtain ⟨outcome', hagain, hreply'⟩ := acceptMessagePart_of_held input.settings hdb' hn
        hlinked huser' stores.upload.numbering stores.upload.text
        (stores.keeps.2.2.2.1 ▸ stores.id) hfits hheld hwhole now'
      simp only [commit, hagain]
      refine ⟨?_, withoutEvidence_putMessage hn rfl ?_⟩
      · simp only [Outcome.reply?, hreply, hreply']
      · unfold forgetLastPart messageWithPart
        rw [if_neg hheld]
        by_cases hopen : n.acceptedAt = none <;> simp [hopen]

end Acknowledgements

/-! ### A -/

section SignIns

variable {hashing : PasswordHashing} {db db' : Db} {deviceId : ℕ} {device : Contact} {user : User}
  {now : Time}

/-- A device whose user exists can be moved to another one. -/
theorem linkDevice_isOk (db : Db) {device : Contact} (hdevice : ContactOk db.users device)
    (user : User) (now : Time) : ∃ linked, linkDevice db device user now = .ok linked := by
  unfold linkDevice
  split
  · exact ⟨_, rfl⟩
  split
  · exact ⟨_, rfl⟩
  next previousUserId hprevious =>
  obtain ⟨previousUser, hfound⟩ := Option.isSome_iff_exists.1 (hdevice previousUserId hprevious)
  rw [hfound]
  exact ⟨_, rfl⟩

/-- **A sign-in with the right password succeeds.** -/
theorem signIn_isOk (request : AccountRequest) {password : Text} (hdb : Consistent db)
    (hdevice : device ∈ db.contacts) (hpassword : hashing.checkPassword password user.passwordHash)
    (hcount : (windowCheckedContact device now).failedSignInCount < signInFailuresBeforeRateLimit) :
    ∃ db' outcome, signIn hashing db device user request password now = .ok (db', outcome) := by
  have hwindow : windowCheckedContact device now ∈
      (db.putContact (windowCheckedContact device now)).contacts :=
    Table.mem_put_self hdevice (id_windowCheckedContact device now)
  have hok : ContactOk db.users (clearedContact (windowCheckedContact device now)) := by
    intro userId huser
    refine hdb.contacts device hdevice userId ?_
    rwa [← userId_windowCheckedContact device now]
  unfold signIn
  rw [restartExpiredFailureWindow_of_mem hdevice]
  dsimp only
  rw [if_neg (not_le.2 hcount), if_neg (not_not.2 hpassword), clearFailedSignIns_of_mem hwindow]
  obtain ⟨linked, hlink⟩ := linkDevice_isOk
    ((db.putContact (windowCheckedContact device now)).putContact
      (clearedContact (windowCheckedContact device now))) hok user now
  simp only [bind, Except.bind, pure, Except.pure, hlink]
  exact ⟨_, _, rfl⟩

/-- **Where a sign-in leaves its device**: with the user, and the counter it had. -/
theorem linkDevice_links {summary : Text} (hdevice : device ∈ db.contacts)
    (h : linkDevice db device user now = .ok (db', summary)) :
    db'.users = db.users ∧ ∃ c, db'.contacts.get? device.id = some c ∧
      c.userId = some user.id ∧ failureCount c = failureCount device := by
  have hfound : db.contacts.get? device.id = some device := Table.get?_key hdevice
  have hmoved : ∃ c, (setDeviceUser db device user.id now).contacts.get? device.id = some c ∧
      c.userId = some user.id ∧ failureCount c = failureCount device := by
    unfold setDeviceUser
    rw [Table.get?_updateWhere, hfound]
    simp [failureCount]
  unfold linkDevice at h
  split at h
  · next hlinked =>
      obtain ⟨rfl, -⟩ := Prod.mk.injEq .. ▸ Except.ok.inj h
      exact ⟨rfl, device, hfound, hlinked, rfl⟩
  split at h
  · obtain ⟨rfl, -⟩ := Prod.mk.injEq .. ▸ Except.ok.inj h
    exact ⟨rfl, hmoved⟩
  split at h
  · cases h
  · obtain ⟨rfl, -⟩ := Prod.mk.injEq .. ▸ Except.ok.inj h
    refine ⟨rfl, ?_⟩
    rw [contacts_relinkDevice]
    exact hmoved

/-- **A sign-in of a device that is signed in** changes nothing. -/
theorem registerOrSignIn_of_linked {request : AccountRequest} (salt : Text) (now : Time)
    (hvalid : isValidPassword (hashing.normalizePassword request.password) = true)
    (hdevice : db.contacts.get? deviceId = some device) (hlinked : device.userId = some user.id)
    (hcount : device.failedSignInCount = 0) (hwindow : device.failedSignInWindowStartedAt = none)
    (huser : db.userByLookup (normalizeUsernameForLookup request.username) = some user)
    (hpassword : hashing.checkPassword (hashing.normalizePassword request.password)
      user.passwordHash = true) :
    ∃ outcome, registerOrSignIn hashing db deviceId request salt now = .ok (db, outcome) ∧
      outcome.reply = .accountReply user.username.val := by
  have hrestart : restartExpiredFailureWindow db device now = (db, device) := by
    unfold restartExpiredFailureWindow
    rw [hwindow]
  have hclear : clearFailedSignIns db device = (db, device) := by
    unfold clearFailedSignIns
    rw [if_pos ⟨hcount, hwindow⟩]
  have hlink : linkDevice db device user now =
      .ok (db, "the device was already linked".toList) := by
    unfold linkDevice
    rw [if_pos hlinked]
  unfold registerOrSignIn
  dsimp only
  rw [if_neg (not_not.2 hvalid), hdevice]
  simp only [huser]
  unfold signIn
  rw [hrestart]
  dsimp only
  rw [hcount, if_neg (by decide), if_neg (not_not.2 hpassword), hclear]
  simp only [bind, Except.bind, pure, Except.pure, hlink]
  exact ⟨_, rfl, rfl⟩

/-- **An `A` again**, with the right password of an account that exists, from a device that is not
rate limited, finds the device signed in. -/
theorem registerOrSignIn_repeat {input : Input} {request : AccountRequest} {salt : Text}
    (hdb : Consistent db) (hevent : input.event = .account deviceId request salt now)
    (hright : sendsRightPassword hashing (fun _ => true) db input = true)
    (hfree : ((deviceFailures db deviceId).checked signInFailureWindow now).count <
      signInFailuresBeforeRateLimit) (now' : Time) :
    let first := step hashing db input
    let second := step hashing first.1 ⟨input.settings, .account deviceId request salt now'⟩
    second.2.reply? = first.2.reply? ∧ second.1 = first.1 := by
  have hfirst : step hashing db input = commit db (fun outcome => .answered outcome.reply)
      (registerOrSignIn hashing db deviceId request salt now) := by
    simp only [step, hevent]
  have hsecond : ∀ db₁, step hashing db₁ ⟨input.settings, .account deviceId request salt now'⟩ =
      commit db₁ (fun outcome => .answered outcome.reply)
        (registerOrSignIn hashing db₁ deviceId request salt now') :=
    fun _ => rfl
  simp only [sendsRightPassword, hevent, Bool.true_and] at hright
  obtain ⟨user, huser, hpassword⟩ := (Option.any_eq_true _ _).1 hright
  dsimp only
  rw [hfirst, hsecond]
  by_cases hvalid : isValidPassword (hashing.normalizePassword request.password) = true
  swap
  · unfold registerOrSignIn
    simp only [if_pos hvalid, commit, and_self]
  cases hdevice : db.contacts.get? deviceId with
  | none =>
      unfold registerOrSignIn
      simp only [if_neg (not_not.2 hvalid), hdevice, commit, and_self]
  | some device =>
  have hmem := Table.mem_of_get? hdevice
  rw [deviceFailures_of_get? hdevice, ← failureCount_windowCheckedContact] at hfree
  obtain ⟨db', outcome, hsignIn⟩ := signIn_isOk request hdb hmem hpassword hfree
  have haccept : registerOrSignIn hashing db deviceId request salt now = .ok (db', outcome) := by
    unfold registerOrSignIn
    dsimp only
    rw [if_neg (not_not.2 hvalid), hdevice]
    simp only [huser]
    exact hsignIn
  have hanswer := registerOrSignIn_ok haccept
  rw [haccept]
  generalize hreply : outcome.reply = reply at hanswer
  cases hanswer with
  | passwordInvalid hinvalid => exact absurd hvalid hinvalid
  | created _ hnew =>
      rw [huser] at hnew
      cases hnew
  | rateLimited hdevice' _ hcount =>
      rw [hdevice] at hdevice'
      obtain rfl := Option.some.inj hdevice'
      exact absurd hfree (not_lt.2 hcount)
  | wrongPassword _ huser' _ hwrong =>
      rw [huser] at huser'
      obtain rfl := Option.some.inj huser'
      rw [hpassword] at hwrong
      cases hwrong
  | @signedIn device₁ user₁ _ summary hdevice₁ huser₁ hcount _ hlink =>
      rw [hdevice] at hdevice₁
      obtain rfl := Option.some.inj hdevice₁
      rw [huser] at huser₁
      obtain rfl := Option.some.inj huser₁
      have hid : (clearedContact (windowCheckedContact device now)).id = deviceId :=
        (id_windowCheckedContact device now).trans (Table.key_of_get? hdevice)
      have hcleared : clearedContact (windowCheckedContact device now) ∈
          (db.putContact (clearedContact (windowCheckedContact device now))).contacts :=
        Table.mem_put_self hmem (id_windowCheckedContact device now)
      obtain ⟨husers, c, hc, hlinked, hcounter⟩ := linkDevice_links hcleared hlink
      rw [hid] at hc
      have hcount' : c.failedSignInCount = 0 := congrArg Throttling.FailureCount.count hcounter
      have hwindow' : c.failedSignInWindowStartedAt = none :=
        congrArg Throttling.FailureCount.startedAt hcounter
      have huser' : db'.userByLookup (normalizeUsernameForLookup request.username) = some user := by
        rw [Db.userByLookup, husers]
        exact huser
      obtain ⟨outcome', hagain, hreply'⟩ := registerOrSignIn_of_linked salt now' hvalid hc hlinked
        hcount' hwindow' huser' hpassword
      simp only [commit, hagain, Outcome.reply?, hreply, hreply', and_self]

end SignIns

/-! ### Every request -/

/-- The same request at another clock reading. -/
def Event.atClock (now : Time) : Event → Event
  | .account deviceId request salt _ => .account deviceId request salt now
  | .messagePart deviceId part _ => .messagePart deviceId part now
  | .deliveryAcknowledgement deviceId acknowledgement _ =>
      .deliveryAcknowledgement deviceId acknowledgement now
  | .read deviceId request _ => .read deviceId request now
  | .receiptAcknowledgement deviceId acknowledgement _ =>
      .receiptAcknowledgement deviceId acknowledgement now
  | event => event

/-- A `Q`, `M`, `K`, `R` or `C`, or an `A` with the right password of an account that exists, from
a device that is not rate limited. -/
def IsRepeatable (hashing : PasswordHashing) (db : Db) (input : Input) : Prop :=
  match input.event with
  | .query _ _ | .messagePart _ _ _ | .deliveryAcknowledgement _ _ _ | .read _ _ _
  | .receiptAcknowledgement _ _ _ => True
  | .account deviceId _ _ now =>
      sendsRightPassword hashing (fun _ => true) db input = true ∧
        ((deviceFailures db deviceId).checked signInFailureWindow now).count <
          signInFailuresBeforeRateLimit
  | _ => False

/-- **A repeated request changes nothing.**  Processed again at a later time, it gets the same
reply, and leaves the database as it was, apart from the times the relay last heard of an
incomplete message, a delivery or a receipt. -/
theorem repeated_request_changes_nothing {hashing : PasswordHashing} {db : Db}
    (h : (engine hashing).Reachable db) (input : Input) (hrequest : IsRepeatable hashing db input)
    (now' : Time) (hlater : ∀ now, input.event.clock? = some now → now ≤ now') :
    let first := step hashing db input
    let second := step hashing first.1 ⟨input.settings, input.event.atClock now'⟩
    second.2.reply? = first.2.reply? ∧ second.1.withoutEvidence = first.1.withoutEvidence := by
  have hdb := consistent_of_reachable h
  have hdb' := consistent_of_reachable (reachable_step h input)
  unfold IsRepeatable at hrequest
  cases hevent : input.event with
  | query deviceId request => simp only [step, hevent, Event.atClock, and_self]
  | messagePart deviceId part now =>
      exact acceptMessagePart_repeat hdb hdb' hevent now'
  | account deviceId request salt now =>
      rw [hevent] at hrequest
      obtain ⟨hreply, hsame⟩ := registerOrSignIn_repeat hdb hevent hrequest.1 hrequest.2 now'
      exact ⟨hreply, congrArg Db.withoutEvidence hsame⟩
  | read deviceId request now =>
      simp only [step, hevent] at hdb'
      simp only [step, hevent, Event.atClock]
      obtain ⟨hsame, hreply⟩ := recordRead_repeat hdb' now'
      exact ⟨by simp only [Outcome.reply?, hreply], congrArg Db.withoutEvidence hsame⟩
  | receiptAcknowledgement deviceId acknowledgement now =>
      simp only [step, hevent] at hdb'
      simp only [step, hevent, Event.atClock]
      exact ⟨rfl, recordReceiptAcknowledgement_repeat hdb' now'⟩
  | deliveryAcknowledgement deviceId acknowledgement now =>
      have hle : now ≤ now' := hlater now (by rw [hevent]; rfl)
      simp only [step, hevent] at hdb'
      simp only [step, hevent, Event.atClock]
      cases hrecord : recordDeliveryAcknowledgement input.settings db deviceId acknowledgement
          now with
      | error serviceError =>
          have hagain := recordDeliveryAcknowledgement_error hrecord now'
          simp only [commit, hagain, and_self]
      | ok committed =>
          obtain ⟨db', summary⟩ := committed
          rw [hrecord] at hdb'
          replace hdb' : Consistent db' := hdb'
          obtain ⟨db'', summary', hagain, hsame⟩ :=
            recordDeliveryAcknowledgement_repeat hdb' hle hrecord
          simp only [commit, hagain]
          exact ⟨rfl, hsame⟩
  | _ => simp [hevent] at hrequest

/-- Bob's device reports the message again, and the message is still delivered once. -/
theorem repeated_request_changes_nothing_sampleRead :
    let report := Event.deliveryAcknowledgement 2 ⟨alice, 7, ['1']⟩ (sampleTime 9)
    let first := step sampleHashing (sampleDb sampleSend) ⟨sampleSettings, report⟩
    let second := step sampleHashing first.1 ⟨sampleSettings, report.atClock (sampleTime 20)⟩
    second.2.reply? = first.2.reply? ∧ second.1.withoutEvidence = first.1.withoutEvidence :=
  repeated_request_changes_nothing (reachable_sampleDb sampleSend)
    ⟨sampleSettings, .deliveryAcknowledgement 2 ⟨alice, 7, ['1']⟩ (sampleTime 9)⟩ trivial
    (sampleTime 20) fun now h => by obtain rfl := Option.some.inj h; decide

end HoptalkRelay
