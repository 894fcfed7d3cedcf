/-
**The transactions of `K` and `R`.**

A status of all ones or a read confirms a delivery.  When the delivery was the head of a refresh
session, the session's next message becomes the head, or the session is complete.  The message
and its receipts follow.

Main results:

* `HoptalkRelay.armNextRefreshSessionHead_cases` — the next head is the first in acceptance order;
* `HoptalkRelay.writes_recordRead`, `HoptalkRelay.writes_recordDeliveryAcknowledgement` — both
  requests as sequences of writes, and **what they do to the message and its receipts**.
-/

import HoptalkRelay.Transactions.Quiet

set_option relaxedAutoImplicit false
set_option autoImplicit false

namespace HoptalkRelay

open Relational

variable {input : Input} {db : Db} {d : MessageDelivery} {m : Message}

/-! ### The next head -/

theorem acceptanceOrder_congr {db' : Db} (hmessages : db'.messages = db.messages)
    (e : MessageDelivery) : acceptanceOrder db' e = acceptanceOrder db e := by
  rw [acceptanceOrder, acceptanceOrder, hmessages]

/-- A change of a message that keeps its acceptance keeps the acceptance order. -/
theorem acceptanceOrder_putMessage {m' : Message} (hm : m ∈ db.messages) (hid : m'.id = m.id)
    (haccepted : m'.acceptedAt = m.acceptedAt) (e : MessageDelivery) :
    acceptanceOrder (db.putMessage m') e = acceptanceOrder db e := by
  unfold acceptanceOrder
  rw [Db.messages_putMessage, Table.get?_put]
  split
  · next hk =>
      have hfound : db.messages.get? e.messageId = some m := by
        rw [hk, key_message, hid]
        exact Table.get?_key hm
      rw [hfound]
      simp [haccepted]
  · rfl

/-- **The next head of a session** is the first of its queued deliveries in acceptance order. -/
theorem armNextRefreshSessionHead_cases (db : Db) (settings : RelaySettings) (refreshSessionId : ℕ)
    (now : Time) :
    (∃ e ∈ db.deliveries, IsQueuedIn refreshSessionId e ∧
      (∀ q ∈ db.deliveries, IsQueuedIn refreshSessionId q →
        acceptanceOrder db e ≤ acceptanceOrder db q) ∧
      armNextRefreshSessionHead settings db refreshSessionId now =
        (db.putDelivery (armedDelivery settings e now), some (armedDelivery settings e now))) ∨
    (∀ e ∈ db.deliveries, ¬ IsQueuedIn refreshSessionId e) ∧
      armNextRefreshSessionHead settings db refreshSessionId now = (db, none) := by
  unfold armNextRefreshSessionHead
  dsimp only
  split
  · next hnone =>
      refine Or.inr ⟨fun e he hqueued => ?_, rfl⟩
      have := firstBy?_eq_none.1 hnone
      rw [List.eq_nil_iff_forall_not_mem] at this
      exact this e (Table.mem_filter.2 ⟨he, by simp [hqueued.1, hqueued.2]⟩)
  · next e hsome =>
      obtain ⟨hmem, hleast⟩ := firstBy?_eq_some hsome
      simp only [Table.mem_filter, Bool.and_eq_true, decide_eq_true_eq] at hmem hleast
      refine Or.inl ⟨e, hmem.1, hmem.2, fun q hq hqueued => hleast q ⟨hq, hqueued⟩, ?_⟩
      rw [armRefreshSessionHead_of_mem settings hmem.1 hmem.2.2]

/-! ### A confirmed delivery -/

/-- Where a transaction stands after a delivery was confirmed: the session that is to be completed
has nothing queued. -/
def AwaitsCompletion (db : Db) (phase : Phase) : Option ℕ → Prop
  | none => phase = .settled
  | some refreshSessionId => phase = .headless refreshSessionId ∧
      ∀ e ∈ db.deliveries, ¬ IsQueuedIn refreshSessionId e

theorem isSome_confirmedMessage (m : Message) (now : Time) (isRead : Bool) :
    (confirmedMessage m now isRead).deliveredAt.isSome ∧
      (isRead = true → (confirmedMessage m now isRead).readAt.isSome) := by
  constructor
  · cases hd : m.deliveredAt <;> simp [hd]
  · rintro rfl
    cases hr : m.readAt <;> simp [hr]

/-- A delivered head hands its session over. -/
theorem writes_moveSessionToNextMessage (input : Input) (db : Db) {m : Message}
    (hm : m ∈ db.messages) (m' : Message) (hid : m'.id = m.id)
    (haccepted : m'.acceptedAt = m.acceptedAt) (head : Option ℕ) (outcomeSummary : String) (now : Time) :
    let moved := moveSessionToNextMessage input.settings db head outcomeSummary now
    ∃ phase,
      Writes input (.afterConfirmation head, db.putMessage m') (phase, moved.1.putMessage m') ∧
        AwaitsCompletion moved.1 phase moved.2.refreshSessionIdToComplete ∧
        DeliveriesOnly db moved.1 := by
  cases head with
  | none => exact ⟨.settled, .refl, rfl, .refl db⟩
  | some refreshSessionId =>
      unfold moveSessionToNextMessage
      rcases armNextRefreshSessionHead_cases db input.settings refreshSessionId now with
        ⟨e, he, hqueued, hfirst, harm⟩ | ⟨hempty, harm⟩
      · simp only [harm]
        refine ⟨.settled, Write.writes ?_, rfl, .putDelivery db _⟩
        have hfirst' : ∀ q ∈ (db.putMessage m').deliveries, IsQueuedIn refreshSessionId q →
            acceptanceOrder (db.putMessage m') e ≤ acceptanceOrder (db.putMessage m') q := by
          intro q hq hq'
          rw [acceptanceOrder_putMessage hm hid haccepted,
            acceptanceOrder_putMessage hm hid haccepted]
          exact hfirst q hq hq'
        exact .delivery (d := e) he (.armed refreshSessionId now hqueued hfirst')
      · simp only [harm]
        exact ⟨.headless refreshSessionId, .refl, ⟨rfl, hempty⟩, .refl db⟩

/-- **A delivery is confirmed together with its message.** -/
theorem writes_deliver (hm : m ∈ db.messages) (haccepted : m.acceptedAt.isSome)
    (hevent : input.event.confirms = true) (hd : d ∈ db.deliveries)
    (hstate : d.state ∈ unconfirmedDeliveryStates) (hmessage : d.messageId = m.id) (now : Time)
    {mask : Option ℕ} {isRead : Bool}
    (confirmed : DeliveryConfirmed input (db.putMessage (confirmedMessage m now isRead)) d
      (confirmedMessage m now isRead) mask isRead) :
    let delivered := deliver input.settings db d now mask isRead
    ∃ phase,
      Writes input (.settled, db)
        (phase, delivered.1.putMessage (confirmedMessage m now isRead)) ∧
      AwaitsCompletion delivered.1 phase delivered.2.refreshSessionIdToComplete ∧
      DeliveriesOnly db delivered.1 := by
  have hfound : (db.putMessage (confirmedMessage m now isRead)).messages.get? d.messageId =
      some (confirmedMessage m now isRead) := by
    rw [hmessage]
    exact Table.get?_key (r := confirmedMessage m now isRead) (Table.mem_put_self hm rfl)
  obtain ⟨hdelivered, hread⟩ := isSome_confirmedMessage m now isRead
  have hwrites : Writes input (.settled, db)
      (.afterConfirmation (headSessionId db d),
        (db.putDelivery (deliveredDelivery d now mask isRead)).putMessage
          (confirmedMessage m now isRead)) :=
    ((Quiet.messageConfirmed hm haccepted hevent).quiets.writes .settled).trans
      (Write.writes (.delivered hd hstate hfound hdelivered hread confirmed))
  unfold deliver
  rw [markDeliveryDelivered_of_mem hd hstate]
  obtain ⟨phase, hmoved, hawaits, honly⟩ := writes_moveSessionToNextMessage input
    (db.putDelivery (deliveredDelivery d now mask isRead)) hm
    (confirmedMessage m now isRead) rfl rfl (headSessionId db d)
    ("delivered to this device (was " ++ deliveryStateLabel d.state ++ ")") now
  exact ⟨phase, hwrites.trans hmoved, hawaits,
    (DeliveriesOnly.putDelivery db (deliveredDelivery d now mask isRead)).trans honly⟩

/-! ### The message, its receipts and its session -/

theorem readMessageLevel_pos (hdelivered : m.deliveredAt.isSome) : 0 < readMessageLevel m := by
  unfold readMessageLevel
  rw [if_pos hdelivered]
  split <;> decide

/-- The message was confirmed, and when this was new the receipts of the sender's devices were
raised. -/
structure ConfirmsMessage (db db' : Db) (m : Message) (now : Time) (isRead : Bool) : Prop where
  contacts : db'.contacts = db.contacts
  messages : db'.messages = db.messages.put (confirmedMessage m now isRead)
  raised : m.deliveredAt = none ∨ isRead = true ∧ m.readAt = none →
    ∀ deviceId, db.deviceUserId deviceId = some m.senderId →
      HasRaisedReceipt db.receipts db' (confirmedMessage m now isRead) deviceId

/-- What was done to the deliveries before makes no difference. -/
theorem ConfirmsMessage.of_deliveriesOnly {start db' : Db} {now : Time} {isRead : Bool}
    (honly : DeliveriesOnly start db) (h : ConfirmsMessage db db' m now isRead) :
    ConfirmsMessage start db' m now isRead where
  contacts := h.contacts.trans honly.contacts
  messages := by rw [h.messages, honly.messages]
  raised := by
    intro hnew deviceId hlinked
    rw [← honly.receipts]
    exact h.raised hnew deviceId ((Db.deviceUserId_congr honly.contacts deviceId).trans hlinked)

/-- A session whose last head was confirmed leaves messages, contacts and receipts alone. -/
theorem completeConfirmedHeadSession_frame (db : Db) (confirmation : DeliveryConfirmation)
    (now : Time) :
    (completeConfirmedHeadSession db confirmation now).contacts = db.contacts ∧
      (completeConfirmedHeadSession db confirmation now).messages = db.messages ∧
      (completeConfirmedHeadSession db confirmation now).receipts = db.receipts := by
  unfold completeConfirmedHeadSession
  split
  · exact ⟨rfl, rfl, rfl⟩
  · exact ⟨rfl, rfl, rfl⟩

/-- **What a confirmation does to its message and the receipts.** -/
theorem confirmsMessage_concludeConfirmation (input : Input) (hm : m ∈ db.messages)
    (haccepted : m.acceptedAt.isSome) (confirmation : DeliveryConfirmation) (now : Time)
    (isRead : Bool) :
    ConfirmsMessage db (concludeConfirmation input.settings db m confirmation now isRead) m now
      isRead := by
  unfold concludeConfirmation
  rw [recordMessageConfirmation_eq hm]
  dsimp only
  have hmem : confirmedMessage m now isRead ∈
      (db.putMessage (confirmedMessage m now isRead)).messages := Table.mem_put_self hm rfl
  obtain ⟨-, honly, hraised⟩ := quiets_raiseReceiptsForMessage input hmem haccepted
    (readMessageLevel_pos (isSome_confirmedMessage m now isRead).1) now
  split
  · obtain ⟨hcontacts, hmessages, hreceipts⟩ := completeConfirmedHeadSession_frame
      (raiseReceiptsForMessage input.settings (db.putMessage (confirmedMessage m now isRead))
        (confirmedMessage m now isRead) now) confirmation now
    refine ⟨hcontacts.trans honly.contacts, hmessages.trans honly.messages, ?_⟩
    intro _ deviceId hlinked
    obtain ⟨r, hr, hrest⟩ := hraised deviceId hlinked
    exact ⟨r, hreceipts ▸ hr, hrest⟩
  · next hold =>
      obtain ⟨hcontacts, hmessages, -⟩ := completeConfirmedHeadSession_frame
        (db.putMessage (confirmedMessage m now isRead)) confirmation now
      refine ⟨hcontacts, hmessages, fun hnew => absurd ?_ hold⟩
      simpa using hnew

/-- **What follows a confirmed delivery**, from where its transaction stands. -/
theorem writes_concludeConfirmation {start : Db} {phase : Phase} (hm : m ∈ db.messages)
    (haccepted : m.acceptedAt.isSome) (now : Time) {isRead : Bool}
    {deliveryConfirmation : DeliveryConfirmation}
    (hwrites : Writes input (.settled, start)
      (phase, db.putMessage (confirmedMessage m now isRead)))
    (hawaits : AwaitsCompletion db phase deliveryConfirmation.refreshSessionIdToComplete) :
    Writes input (.settled, start)
      (.settled, concludeConfirmation input.settings db m deliveryConfirmation now isRead) := by
  unfold concludeConfirmation
  rw [recordMessageConfirmation_eq hm]
  dsimp only
  have hmem : confirmedMessage m now isRead ∈
      (db.putMessage (confirmedMessage m now isRead)).messages := Table.mem_put_self hm rfl
  obtain ⟨hraise, honly, -⟩ := quiets_raiseReceiptsForMessage input hmem haccepted
    (readMessageLevel_pos (isSome_confirmedMessage m now isRead).1) now
  have hfinish : ∀ db₂ : Db, Writes input (.settled, start) (phase, db₂) →
      db₂.deliveries = db.deliveries →
      Writes input (.settled, start)
        (.settled, completeConfirmedHeadSession db₂ deliveryConfirmation now) := by
    intro db₂ hwrites₂ hdeliveries
    unfold completeConfirmedHeadSession
    cases hsession : deliveryConfirmation.refreshSessionIdToComplete with
    | none =>
        rw [hsession] at hawaits
        obtain rfl : phase = .settled := hawaits
        exact hwrites₂
    | some refreshSessionId =>
        rw [hsession] at hawaits
        obtain ⟨rfl, hempty⟩ := hawaits
        exact hwrites₂.tail (.completed (hdeliveries ▸ hempty))
  split
  · exact hfinish _ (hwrites.trans (hraise.writes phase)) honly.deliveries
  · exact hfinish _ hwrites rfl

/-! ### R -/

theorem lockDelivery_eq_some {messageId deviceId : ℕ}
    (h : lockDelivery db messageId deviceId = some d) :
    d ∈ db.deliveries ∧ d.messageId = messageId ∧ d.deviceId = deviceId := by
  obtain ⟨hmem, hcond⟩ := Table.first?_eq_some h
  simp only [Bool.and_eq_true, decide_eq_true_eq] at hcond
  exact ⟨hmem, hcond⟩

theorem lockIncomingMessage_eq_some {recipientId clientMessageId : ℕ} {senderUsername : Text}
    {sender : User}
    (h : lockIncomingMessage db recipientId senderUsername clientMessageId = some (m, sender)) :
    m ∈ db.messages ∧ m.acceptedAt.isSome ∧ m.recipientId = recipientId ∧
      m.clientMessageId.val = clientMessageId ∧ db.users.get? m.senderId = some sender ∧
      sender.usernameLookup = normalizeUsernameForLookup senderUsername := by
  unfold lockIncomingMessage at h
  obtain ⟨message, hfirst, hsender⟩ := Option.bind_eq_some_iff.1 h
  obtain ⟨user, huser, heq⟩ := Option.map_eq_some_iff.1 hsender
  obtain ⟨rfl, rfl⟩ : message = m ∧ user = sender := by simpa using heq
  obtain ⟨hmem, hcond⟩ := Table.first?_eq_some hfirst
  simp only [Bool.and_eq_true, decide_eq_true_eq, huser, Option.any_some] at hcond
  obtain ⟨⟨⟨hrecipient, hid⟩, hlookup⟩, haccepted⟩ := hcond
  exact ⟨hmem, haccepted, hrecipient, hid, huser, hlookup⟩

/-- The confirmation of a message alone. -/
theorem writes_messageConfirmed (input : Input) {db : Db} {m : Message} (hm : m ∈ db.messages) (haccepted : m.acceptedAt.isSome)
    (hevent : input.event.confirms = true) (now : Time) (isRead : Bool) :
    Writes input (.settled, db) (.settled, db.putMessage (confirmedMessage m now isRead)) :=
  (Quiet.messageConfirmed hm haccepted hevent).quiets.writes .settled

/-- A read of a message this device confirmed before. -/
theorem writes_recordDeliveryRead {start : Db} (hm : m ∈ db.messages) (hd : d ∈ db.deliveries)
    (hstate : d.state = .delivered) (hmessage : d.messageId = m.id) (now : Time)
    (hwrites : Writes input (.settled, start)
      (.settled, db.putMessage (confirmedMessage m now true))) :
    Writes input (.settled, start)
        (.settled, (recordDeliveryRead db d now).1.putMessage (confirmedMessage m now true)) ∧
      DeliveriesOnly db (recordDeliveryRead db d now).1 := by
  unfold recordDeliveryRead
  split
  · exact ⟨hwrites, .refl db⟩
  · next hfirst =>
      rw [updateLockedDelivery_of_state hd (by simp [hstate])]
      have hfound : (db.putMessage (confirmedMessage m now true)).messages.get? d.messageId =
          some (confirmedMessage m now true) := by
        rw [hmessage]
        exact Table.get?_key (r := confirmedMessage m now true) (Table.mem_put_self hm rfl)
      have hread : Write input (.settled, db.putMessage (confirmedMessage m now true))
          (.settled, (db.putMessage (confirmedMessage m now true)).putDelivery
            { d with readAt := some now }) :=
        .readAgain hd hstate (by simpa using hfirst) hfound
          ((isSome_confirmedMessage m now true).2 rfl)
      exact ⟨hwrites.tail hread, .putDelivery db _⟩

/-- **A read of a message.** -/
theorem writes_recordReadOfMessage {deviceId : ℕ} {request : ReadRequest} {now : Time}
    (hevent : input.event = .read deviceId request now) (hm : m ∈ db.messages)
    (haccepted : m.acceptedAt.isSome) :
    Writes input (.settled, db)
        (.settled, (recordReadOfMessage input.settings db deviceId m now).1) ∧
      ConfirmsMessage db (recordReadOfMessage input.settings db deviceId m now).1 m now true := by
  have hconfirms : input.event.confirms = true := by rw [hevent]; rfl
  have halone := writes_messageConfirmed input hm haccepted hconfirms now true
  unfold recordReadOfMessage confirmDeliveryByRead
  split
  next db₁ confirmation heq =>
  split at heq
  · obtain ⟨rfl, rfl⟩ := Prod.mk.injEq .. ▸ heq
    dsimp only
    refine ⟨writes_concludeConfirmation hm haccepted now halone ?_,
      confirmsMessage_concludeConfirmation input hm haccepted _ now true⟩
    rfl
  · next d hlock =>
    obtain ⟨hd, hmessage, rfl⟩ := lockDelivery_eq_some hlock
    split at heq
    · next hstate =>
        obtain ⟨phase, hwrites, hawaits, honly⟩ := writes_deliver hm haccepted hconfirms hd hstate
          hmessage now (.read request now hevent)
        rw [heq] at hwrites hawaits honly
        have hm' : m ∈ db₁.messages := honly.messages ▸ hm
        exact ⟨writes_concludeConfirmation hm' haccepted now hwrites hawaits,
          (confirmsMessage_concludeConfirmation input hm' haccepted _ now true).of_deliveriesOnly
            honly⟩
    · split at heq
      · next hdelivered =>
          obtain ⟨hwrites, honly⟩ := writes_recordDeliveryRead hm hd hdelivered hmessage now halone
          split at heq
          next db₂ _ _ hrecorded =>
          rw [hrecorded] at hwrites honly
          obtain ⟨rfl, rfl⟩ := Prod.mk.injEq .. ▸ heq
          dsimp only
          have hm' : m ∈ db₂.messages := honly.messages ▸ hm
          refine ⟨writes_concludeConfirmation hm' haccepted now hwrites ?_,
            (confirmsMessage_concludeConfirmation input hm' haccepted _ now true).of_deliveriesOnly
              honly⟩
          rfl
      · obtain ⟨rfl, rfl⟩ := Prod.mk.injEq .. ▸ heq
        dsimp only
        refine ⟨writes_concludeConfirmation hm haccepted now halone ?_,
          confirmsMessage_concludeConfirmation input hm haccepted _ now true⟩
        rfl

/-- **`R`.** -/
theorem writes_recordRead {deviceId : ℕ} {request : ReadRequest} {now : Time}
    (hevent : input.event = .read deviceId request now) :
    Writes input (.settled, db)
        (.settled, (recordRead input.settings db deviceId request now).1) ∧
      ((recordRead input.settings db deviceId request now).1.messages = db.messages ∨
        ∃ m ∈ db.messages,
          ConfirmsMessage db (recordRead input.settings db deviceId request now).1 m now true) := by
  unfold recordRead
  split
  · exact ⟨.refl, Or.inl rfl⟩
  · split
    · exact ⟨.refl, Or.inl rfl⟩
    · next message sender hlock =>
        obtain ⟨hm, haccepted, -⟩ := lockIncomingMessage_eq_some hlock
        obtain ⟨hwrites, hconfirms⟩ := writes_recordReadOfMessage hevent hm haccepted
        exact ⟨hwrites, Or.inr ⟨message, hm, hconfirms⟩⟩

/-! ### K -/

/-- **A status of a delivery.** -/
theorem writes_recordDeliveryStatus {deviceId : ℕ} {acknowledgement : DeliveryAcknowledgement}
    {now : Time} (hevent : input.event = .deliveryAcknowledgement deviceId acknowledgement now)
    (hm : m ∈ db.messages) (haccepted : m.acceptedAt.isSome) (hd : d ∈ db.deliveries)
    (hmessage : d.messageId = m.id) (hdevice : d.deviceId = deviceId)
    (hlength : receivedSetMatchesPartCount acknowledgement.receivedSet m.partCount = true)
    {db' : Db} {summary : String}
    (h : recordDeliveryStatus input.settings db m d acknowledgement.receivedSet now =
      .ok (db', summary)) :
    Writes input (.settled, db) (.settled, db') ∧
      (db'.messages = db.messages ∨ ConfirmsMessage db db' m now false) := by
  subst hdevice
  have hconfirms : input.event.confirms = true := by rw [hevent]; rfl
  have hacknowledged : Quiet input db
      (db.putDelivery (acknowledgedDelivery d now)) :=
    .delivery hd (.acknowledged now)
  have hmem : acknowledgedDelivery d now ∈
      (db.putDelivery (acknowledgedDelivery d now)).deliveries :=
    Table.mem_put_self hd rfl
  have hreport : ∀ (db₁ : Db) (message : Message) (mask : ℕ),
      convertReceivedSetToPartsMask acknowledgement.receivedSet = some mask →
      db₁.messages.get? m.id = some message → message.partCount = m.partCount →
      DeliveryReport input db₁ (acknowledgedDelivery d now) message mask :=
    fun db₁ message mask hmask hfound hcount =>
      ⟨by rw [← hfound]; exact congrArg db₁.messages.get? hmessage,
        acknowledgement, now, hevent, hcount ▸ hlength, hmask⟩
  unfold recordDeliveryStatus at h
  rw [recordDeliveryAcknowledgementTime_of_mem hd] at h
  dsimp only at h
  have honly₁ : DeliveriesOnly db (db.putDelivery (acknowledgedDelivery d now)) :=
    .putDelivery db _
  refine And.imp_left (hacknowledged.quiets.writes .settled).trans ?_
  split at h
  · obtain ⟨rfl, -⟩ := Prod.mk.injEq .. ▸ Except.ok.inj h
    exact ⟨.refl, Or.inl rfl⟩
  next hstate =>
  have hstate : d.state ∈ unconfirmedDeliveryStates := not_not.1 hstate
  split at h
  · simp at h
  next mask hmask =>
  split at h
  · next hincomplete =>
      obtain ⟨rfl, -⟩ := Prod.mk.injEq .. ▸ Except.ok.inj h
      have hquiets := quiets_recordIncompleteDeliveryStatus hmem
        (hreport _ m mask hmask (Table.get?_key hm) rfl) hincomplete now
      exact ⟨hquiets.writes .settled, Or.inl (honly₁.trans
        (.recordIncompleteDeliveryStatus input.settings _ _ mask now)).messages⟩
  · next hcomplete =>
      obtain rfl : mask = calculateAllPartsMask m.partCount := not_not.1 hcomplete
      obtain ⟨rfl, -⟩ := Prod.mk.injEq .. ▸ Except.ok.inj h
      have hconfirmed : DeliveryConfirmed input
          ((db.putDelivery (acknowledgedDelivery d now)).putMessage
            (confirmedMessage m now false))
          (acknowledgedDelivery d now) (confirmedMessage m now false)
          (some (calculateAllPartsMask m.partCount)) false :=
        .acknowledged (hreport _ _ _ hmask
          (Table.get?_key (r := confirmedMessage m now false) (Table.mem_put_self hm rfl)) rfl)
      have hm' : m ∈ (db.putDelivery (acknowledgedDelivery d now)).messages := hm
      obtain ⟨phase, hwrites, hawaits, honly⟩ := writes_deliver hm' haccepted hconfirms hmem
        hstate hmessage now hconfirmed
      have hdelivered := honly.messages ▸ hm'
      exact ⟨writes_concludeConfirmation hdelivered haccepted now hwrites hawaits,
        Or.inr ((confirmsMessage_concludeConfirmation input hdelivered haccepted _ now
          false).of_deliveriesOnly (honly₁.trans honly))⟩

/-- **`K`.** -/
theorem writes_recordDeliveryAcknowledgement {deviceId : ℕ}
    {acknowledgement : DeliveryAcknowledgement} {now : Time}
    (hevent : input.event = .deliveryAcknowledgement deviceId acknowledgement now)
    {db' : Db} {summary : String}
    (h : recordDeliveryAcknowledgement input.settings db deviceId acknowledgement now =
      .ok (db', summary)) :
    Writes input (.settled, db) (.settled, db') ∧
      (db'.messages = db.messages ∨ ∃ m ∈ db.messages, ConfirmsMessage db db' m now false) := by
  unfold recordDeliveryAcknowledgement at h
  split at h
  · obtain ⟨rfl, -⟩ := Prod.mk.injEq .. ▸ Except.ok.inj h
    exact ⟨.refl, Or.inl rfl⟩
  split at h
  · obtain ⟨rfl, -⟩ := Prod.mk.injEq .. ▸ Except.ok.inj h
    exact ⟨.refl, Or.inl rfl⟩
  next message sender hlock =>
  obtain ⟨hm, haccepted, -⟩ := lockIncomingMessage_eq_some hlock
  split at h
  · obtain ⟨rfl, -⟩ := Prod.mk.injEq .. ▸ Except.ok.inj h
    exact ⟨.refl, Or.inl rfl⟩
  next hlength =>
  split at h
  · obtain ⟨rfl, -⟩ := Prod.mk.injEq .. ▸ Except.ok.inj h
    exact ⟨.refl, Or.inl rfl⟩
  next d hdelivery =>
  obtain ⟨hd, hmessage, hdevice⟩ := lockDelivery_eq_some hdelivery
  obtain ⟨hwrites, hmessages⟩ := writes_recordDeliveryStatus hevent hm haccepted hd hmessage
    hdevice (not_not.1 hlength) h
  exact ⟨hwrites, hmessages.imp_right fun hconfirms => ⟨message, hm, hconfirms⟩⟩

end HoptalkRelay
