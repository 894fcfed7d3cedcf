/-
**What a write does to a row.**

One table at a time: what every write of `HoptalkRelay.Write` does to the row of a key.  A property
of single rows, and of what a row refers to, is proved from these relations, one case for each way
a row can change.

Main definitions:

* `HoptalkRelay.MessageChange`, `HoptalkRelay.DeliveryChange`, `HoptalkRelay.ReceiptRowChange`,
  `HoptalkRelay.PacketChange` — the changes of a row;
* `HoptalkRelay.MessageCreated`, `HoptalkRelay.DeliveryCreated`, `HoptalkRelay.ReceiptCreated`,
  `HoptalkRelay.PacketCreated` — the new rows;
* `HoptalkRelay.IsCleared` — nothing of a device is in progress.

Main results:

* `HoptalkRelay.Write.messages`, `HoptalkRelay.Write.deliveries`, `HoptalkRelay.Write.receipts`,
  `HoptalkRelay.Write.contacts`, `HoptalkRelay.Write.packets` — **what a write does to the rows of
  a table**;
* `HoptalkRelay.Write.link` — a device stays linked, or is cleared.
-/

import HoptalkRelay.Relational.RowStep
import HoptalkRelay.Writes

set_option relaxedAutoImplicit false
set_option autoImplicit false

namespace HoptalkRelay

open Relational

variable {input : Input} {a b : Phase × Db}

/-- The write deletes rows, from these roots. -/
structure DeletesFrom (input : Input) (db db' : Db) (roots : DeletionRoots) : Prop where
  event : input.event.deletionRoots? = some roots
  result : db' = deleteRows db roots

section Deletion

variable {db : Db} {roots : DeletionRoots} {k : ℕ}

theorem get?_messages_of_isMessageDeleted (h : isMessageDeleted db roots k = true) :
    (deleteRows db roots).messages.get? k = none := by
  unfold isMessageDeleted at h
  rw [get?_messages_deleteRows]
  cases hm : db.messages.get? k with
  | none => rfl
  | some m =>
      rw [hm, Option.any_some] at h
      simp [Option.filter, h]

theorem get?_contacts_of_isContactDeleted (h : isContactDeleted db roots k = true) :
    (deleteRows db roots).contacts.get? k = none := by
  unfold isContactDeleted at h
  show (db.contacts.deleteWhere _).get? k = none
  rw [Table.get?_deleteWhere]
  cases hc : db.contacts.get? k with
  | none => rfl
  | some c =>
      rw [hc, Option.any_some] at h
      simp [Option.filter, h]

end Deletion

section Relink

variable (db : Db) (device : Contact) (user : User) (now : Time)

theorem deliveries_relinkDevice : (relinkDevice db device user now).deliveries =
    (cancelDeviceDeliveriesForRelink db device.id now).deliveries := rfl

theorem receipts_relinkDevice : (relinkDevice db device user now).receipts =
    (cancelDeviceReceiptsForRelink db device.id now).receipts := rfl

theorem sessions_relinkDevice : (relinkDevice db device user now).sessions =
    (cancelDeviceRefreshSessionsForRelink db device.id now).sessions := rfl

theorem contacts_relinkDevice : (relinkDevice db device user now).contacts =
    (setDeviceUser db device user.id now).contacts := rfl

end Relink

/-! ### Messages -/

/-- What a write can do to a message. -/
inductive MessageChange (input : Input) (db : Db) (m : Message) : Message → Prop
  | confirmed {now : Time} {isRead : Bool} (haccepted : m.acceptedAt.isSome)
      (hevent : input.event.confirms = true) :
      MessageChange input db m (confirmedMessage m now isRead)
  | partStored {deviceId : ℕ} {part : MessagePartRequest} {now : Time}
      (hopen : m.acceptedAt = none)
      (upload : PartUpload input db deviceId part m.senderId m.recipientId now)
      (hid : m.clientMessageId.val = part.messageId) (hcount : m.partCount.val = part.partCount)
      (hdevice : m.partTexts.getD (part.partNumber - 1) none = none →
        m.senderDeviceId = some deviceId) :
      MessageChange input db m (messageWithPart m part now)
  | accepted {deviceId : ℕ} {part : MessagePartRequest} {now : Time} (hopen : m.acceptedAt = none)
      (hall : ∀ t ∈ m.partTexts, t.isSome)
      (upload : PartUpload input db deviceId part m.senderId m.recipientId now)
      (hid : m.clientMessageId.val = part.messageId) :
      MessageChange input db m (acceptedMessage m now)
  | forgotten {roots : DeletionRoots} (hevent : input.event.deletionRoots? = some roots) :
      MessageChange input db m (forgetSenderDevice db roots m)

/-- A message a write can create. -/
inductive MessageCreated (input : Input) (db : Db) : Message → Prop
  | first {deviceId senderId recipientId : ℕ} {part : MessagePartRequest}
      {clientMessageId : MessageId} {partCount : PartCount} {now : Time}
      (upload : PartUpload input db deviceId part senderId recipientId now)
      (hid : clientMessageId.val = part.messageId) (hcount : partCount.val = part.partCount)
      (hnew : ∀ m ∈ db.messages, ¬ (m.senderId = senderId ∧ m.clientMessageId = clientMessageId)) :
      MessageCreated input db
        (newMessage senderId recipientId deviceId clientMessageId partCount now
          db.messages.nextKey)

/-- A message a write can delete. -/
def MessageDeleted (input : Input) (db db' : Db) (m : Message) : Prop :=
  ∃ roots, DeletesFrom input db db' roots ∧ isMessageRowDeleted db roots m = true

/-- What a message is about never changes. -/
theorem MessageChange.keeps {db : Db} {m n : Message} (h : MessageChange input db m n) :
    n.id = m.id ∧ n.senderId = m.senderId ∧ n.recipientId = m.recipientId ∧
      n.clientMessageId = m.clientMessageId ∧ n.partCount = m.partCount := by
  cases h <;> exact ⟨rfl, rfl, rfl, rfl, rfl⟩

/-- Once set, the acceptance never changes. -/
theorem MessageChange.acceptedAt {db : Db} {m n : Message} (h : MessageChange input db m n)
    (haccepted : m.acceptedAt.isSome) : n.acceptedAt = m.acceptedAt := by
  cases h with
  | confirmed | partStored | forgotten => rfl
  | accepted hopen =>
      rw [hopen] at haccepted
      cases haccepted

/-- **What a write does to the messages.** -/
theorem Write.messages (h : Write input a b) :
    Table.Steps (MessageChange input a.2) (MessageCreated input a.2)
      (MessageDeleted input a.2 b.2) a.2.messages b.2.messages := by
  cases h with
  | quiet p h =>
      cases h with
      | delivery | receipt | newReceipt | contacts | newContact | newUser | sessions | packets =>
          exact .refl _
      | messageConfirmed hm haccepted hevent =>
          exact Table.steps_put hm rfl (.confirmed haccepted hevent)
      | newMessage upload hid hcount hnew =>
          refine Table.steps_insert ?_
          exact .first upload hid hcount hnew
      | partStored hm hopen upload hid hcount hdevice =>
          exact Table.steps_put hm rfl (.partStored hopen upload hid hcount hdevice)
      | packetPrepared hevent hinserts =>
          obtain ⟨mk, hkey, -, rfl⟩ := hinserts.insert
          exact .refl _
  | delivery | delivered | readAgain | newDelivery | newOwnedDelivery | fannedOut | newSession
  | opened | completed | stopped | linked | relinked => exact .refl _
  | accepted hm hopen hall upload hid =>
      exact Table.steps_put hm rfl (.accepted hopen hall upload hid)
  | @deleted db roots hevent =>
      refine ⟨fun k => ?_, le_rfl, fun m hm hnone => ?_⟩
      · rw [get?_messages_deleteRows]
        cases hk : db.messages.get? k with
        | none => exact .same _
        | some m =>
            by_cases hdeleted : isMessageRowDeleted db roots m = true
            · simpa [Option.filter, hdeleted] using RowStep.deleted ⟨roots, ⟨hevent, rfl⟩, hdeleted⟩
            · simpa [Option.filter, hdeleted] using RowStep.changed (.forgotten hevent)
      · obtain ⟨n, hn, -, rfl⟩ := mem_messages_deleteRows.1 hm
        rw [key_message, id_forgetSenderDevice, ← key_message, Table.get?_key hn] at hnone
        cases hnone

/-! ### Deliveries -/

/-- What a write can do to a delivery. -/
inductive DeliveryChange (input : Input) (a : Phase × Db) (d : MessageDelivery) :
    MessageDelivery → Prop
  | round {e : MessageDelivery} (change : RoundChange input a.2 d e) : DeliveryChange input a d e
  | moved {e : MessageDelivery} {p : Phase} (change : StateChange input a.2 d a.1 e p) :
      DeliveryChange input a d e
  | delivered {m : Message} {now : Time} {mask : Option ℕ} {isRead : Bool}
      (hstate : d.state ∈ unconfirmedDeliveryStates)
      (hm : a.2.messages.get? d.messageId = some m) (hdelivered : m.deliveredAt.isSome)
      (hread : isRead = true → m.readAt.isSome)
      (confirmed : DeliveryConfirmed input a.2 d m mask isRead) :
      DeliveryChange input a d (deliveredDelivery d now mask isRead)
  | readAgain {m : Message} {now : Time} (hstate : d.state = .delivered)
      (hfirst : d.readAt = none) (hm : a.2.messages.get? d.messageId = some m)
      (hread : m.readAt.isSome) : DeliveryChange input a d { d with readAt := some now }
  | cancelled {now : Time} (hstate : d.state ∈ nonTerminalDeliveryStates)
      (hevent : ∃ request salt, input.event = .account d.deviceId request salt now) :
      DeliveryChange input a d (cancelledDelivery d now)

/-- A delivery a write can create. -/
inductive DeliveryCreated (input : Input) (a : Phase × Db) : MessageDelivery → Prop
  | pending {m : Message} {deviceId : ℕ} {now : Time} (hm : m ∈ a.2.messages)
      (haccepted : m.acceptedAt.isSome) (hlinked : a.2.deviceUserId deviceId = some m.recipientId)
      (hnew : ∀ d ∈ a.2.deliveries, ¬ (d.messageId = m.id ∧ d.deviceId = deviceId))
      (hphase : a.1 = .fanningOut m.id) :
      DeliveryCreated input a
        (pendingDelivery input.settings m.id deviceId now a.2.deliveries.nextKey)
  | owned {m : Message} {deviceId : ℕ} {s : RefreshSession} {now : Time} (hm : m ∈ a.2.messages)
      (haccepted : m.acceptedAt.isSome) (hlinked : a.2.deviceUserId deviceId = some m.recipientId)
      (hnew : ∀ d ∈ a.2.deliveries, ¬ (d.messageId = m.id ∧ d.deviceId = deviceId))
      (hs : s ∈ a.2.sessions) (hdevice : s.deviceId = deviceId) (hpeer : s.peerId = m.senderId)
      (hactive : s.state = .active) (hphase : a.1 = .opening s.id ∨ a.1 = .fanningOut m.id)
      (hevent : a.1 = .opening s.id → input.event.refreshes deviceId = true) :
      DeliveryCreated input a
        (queuedDelivery input.settings m.id deviceId s.id now a.2.deliveries.nextKey)

/-- A delivery a write can delete. -/
def DeliveryDeleted (input : Input) (db db' : Db) (d : MessageDelivery) : Prop :=
  ∃ roots, DeletesFrom input db db' roots ∧ isDeliveryRowDeleted db roots d = true

/-- The message and the device of a delivery never change. -/
theorem DeliveryChange.keeps {d e : MessageDelivery} (h : DeliveryChange input a d e) :
    e.id = d.id ∧ e.messageId = d.messageId ∧ e.deviceId = d.deviceId := by
  cases h with
  | round change => exact ⟨change.keeps.1, change.keeps.2.1, change.keeps.2.2.1⟩
  | moved change => exact ⟨change.keeps.1, change.keeps.2.1, change.keeps.2.2.1⟩
  | delivered | readAgain | cancelled => exact ⟨rfl, rfl, rfl⟩

/-- **What a write does to the deliveries.** -/
theorem Write.deliveries (h : Write input a b) :
    Table.Steps (DeliveryChange input a) (DeliveryCreated input a)
      (DeliveryDeleted input a.2 b.2) a.2.deliveries b.2.deliveries := by
  cases h with
  | quiet p h =>
      cases h with
      | delivery hd change => exact Table.steps_put hd change.key_eq (.round change)
      | receipt | newReceipt | messageConfirmed | newMessage | partStored | contacts | newContact
      | newUser | sessions | packets => exact .refl _
      | packetPrepared hevent hinserts =>
          obtain ⟨mk, hkey, -, rfl⟩ := hinserts.insert
          exact .refl _
  | delivery hd change => exact Table.steps_put hd change.key_eq (.moved change)
  | delivered hd hstate hm hdelivered hread confirmed =>
      exact Table.steps_put hd rfl (.delivered hstate hm hdelivered hread confirmed)
  | readAgain hd hstate hfirst hm hread =>
      exact Table.steps_put hd rfl (.readAgain hstate hfirst hm hread)
  | newDelivery hm haccepted hlinked hnew =>
      unfold createPendingDelivery
      dsimp only
      refine Table.steps_insert ?_
      exact .pending hm haccepted hlinked hnew rfl
  | newOwnedDelivery hm haccepted hlinked hnew hs hdevice hpeer hactive hphase hevent =>
      unfold createRefreshOwnedDelivery
      dsimp only
      refine Table.steps_insert ?_
      exact .owned hm haccepted hlinked hnew hs hdevice hpeer hactive hphase hevent
  | accepted | fannedOut | newSession | opened | completed | stopped | linked => exact .refl _
  | @relinked db device user now hdevice huser hother hevent =>
      rw [deliveries_relinkDevice]
      unfold cancelDeviceDeliveriesForRelink
      refine Table.steps_updateWhere fun d hd hp => ?_
      simp only [Bool.and_eq_true, decide_eq_true_eq, List.contains_eq_mem] at hp
      exact .cancelled hp.2 (hp.1 ▸ hevent)
  | deleted hevent => exact Table.steps_deleteWhere fun d hd hp => ⟨_, ⟨hevent, rfl⟩, hp⟩

/-! ### Receipts -/

/-- The receipts a relink leaves alone. -/
def IsSettledReceipt (r : ReceiptNotification) : Prop :=
  r.state = .cancelled ∨ r.state = .confirmed ∧ r.confirmedLevel = readLevel

/-- What a write can do to a receipt. -/
inductive ReceiptRowChange (input : Input) (db : Db) (r : ReceiptNotification) :
    ReceiptNotification → Prop
  | changed {q : ReceiptNotification} (change : ReceiptChange input db r q) :
      ReceiptRowChange input db r q
  | cancelled {now : Time} (hlive : ¬ IsSettledReceipt r)
      (hevent : ∃ request salt, input.event = .account r.deviceId request salt now) :
      ReceiptRowChange input db r (cancelledReceipt r now)

/-- A receipt a write can create. -/
inductive ReceiptCreated (input : Input) (db : Db) : ReceiptNotification → Prop
  | first {m : Message} {deviceId : ℕ} {now : Time} (hm : m ∈ db.messages)
      (haccepted : m.acceptedAt.isSome) (hlevel : 0 < readMessageLevel m)
      (hlinked : db.deviceUserId deviceId = some m.senderId)
      (hnew : ∀ r ∈ db.receipts, ¬ (r.messageId = m.id ∧ r.deviceId = deviceId)) :
      ReceiptCreated input db
        (newReceipt input.settings m.id deviceId (readMessageLevel m) now db.receipts.nextKey)

/-- A receipt a write can delete. -/
def ReceiptDeleted (input : Input) (db db' : Db) (r : ReceiptNotification) : Prop :=
  ∃ roots, DeletesFrom input db db' roots ∧ isReceiptRowDeleted db roots r = true

/-- The message and the device of a receipt never change. -/
theorem ReceiptRowChange.keeps {db : Db} {r q : ReceiptNotification}
    (h : ReceiptRowChange input db r q) :
    q.id = r.id ∧ q.messageId = r.messageId ∧ q.deviceId = r.deviceId := by
  cases h with
  | changed change => exact change.keeps
  | cancelled => exact ⟨rfl, rfl, rfl⟩

/-- **What a write does to the receipts.** -/
theorem Write.receipts (h : Write input a b) :
    Table.Steps (ReceiptRowChange input a.2) (ReceiptCreated input a.2)
      (ReceiptDeleted input a.2 b.2) a.2.receipts b.2.receipts := by
  cases h with
  | quiet p h =>
      cases h with
      | receipt hr change => exact Table.steps_put hr change.key_eq (.changed change)
      | newReceipt hm haccepted hlevel hlinked hnew =>
          unfold createReceipt
          dsimp only
          refine Table.steps_insert ?_
          exact .first hm haccepted hlevel hlinked hnew
      | delivery | messageConfirmed | newMessage | partStored | contacts | newContact
      | newUser | sessions | packets => exact .refl _
      | packetPrepared hevent hinserts =>
          obtain ⟨mk, hkey, -, rfl⟩ := hinserts.insert
          exact .refl _
  | delivery | delivered | readAgain | accepted | newDelivery | newOwnedDelivery | fannedOut
  | newSession | opened | completed | stopped | linked => exact .refl _
  | @relinked db device user now hdevice huser hother hevent =>
      rw [receipts_relinkDevice]
      unfold cancelDeviceReceiptsForRelink
      refine Table.steps_updateWhere fun r hr hp => ?_
      simp only [Bool.and_eq_true, decide_eq_true_eq, Bool.not_eq_true', ne_eq] at hp
      obtain ⟨⟨hdevice, hnot⟩, hconfirmed⟩ := hp
      refine .cancelled ?_ (hdevice ▸ hevent)
      rintro (h | ⟨h, h'⟩)
      · exact hnot h
      · simp [h, h'] at hconfirmed
  | deleted hevent => exact Table.steps_deleteWhere fun r hr hp => ⟨_, ⟨hevent, rfl⟩, hp⟩

/-- A receipt goes only with its message or its device. -/
theorem ReceiptDeleted.gone {db db' : Db} {r : ReceiptNotification}
    (h : ReceiptDeleted input db db' r) :
    db'.messages.get? r.messageId = none ∨ db'.contacts.get? r.deviceId = none := by
  obtain ⟨roots, hdeletes, hr⟩ := h
  rw [hdeletes.result]
  simp only [isReceiptRowDeleted, Bool.or_eq_true] at hr
  rcases hr with hmessage | hdevice
  · exact Or.inl (get?_messages_of_isMessageDeleted hmessage)
  · exact Or.inr (get?_contacts_of_isContactDeleted hdevice)

/-! ### Contacts -/

/-- **What a write does to the contacts**: only a sign-in changes a device's user. -/
theorem Write.contacts (h : Write input a b) :
    Table.Steps
      (fun c c' => c'.userId = c.userId ∨
        ∃ request salt now, input.event = .account c.id request salt now)
      (fun c => c.userId = none) (fun _ => True) a.2.contacts b.2.contacts := by
  have hlinks : ∀ {db : Db} {device : Contact} {userId : ℕ} {now : Time},
      (∃ request salt, input.event = .account device.id request salt now) →
      Table.Steps
        (fun c c' => c'.userId = c.userId ∨
          ∃ request salt now, input.event = .account c.id request salt now)
        (fun c => c.userId = none) (fun _ => True) db.contacts
        (setDeviceUser db device userId now).contacts := by
    intro db device userId now hevent
    obtain ⟨request, salt, hevent⟩ := hevent
    refine Table.steps_updateWhere (fun c hc hp => ?_) (by intros; rfl)
    have hid : c.id = device.id := by simpa using hp
    exact Or.inr ⟨request, salt, now, hid ▸ hevent⟩
  cases h with
  | @quiet db db' p h =>
      cases h with
      | delivery | receipt | newReceipt | messageConfirmed | newMessage | partStored | newUser
      | sessions | packets => exact .refl _
      | @contacts t hnext hsame =>
          refine ⟨fun k => ?_, hnext.ge, fun c hc hnone => ?_⟩
          · have hview := hsame k
            show RowStep _ _ _ (db.contacts.get? k) (t.get? k)
            cases hold : db.contacts.get? k with
            | none =>
                rw [hold, Option.map_none, Option.map_eq_none_iff] at hview
                rw [hview]
                exact .same _
            | some c =>
                rw [hold, Option.map_some] at hview
                obtain ⟨c', hc', huser⟩ := Option.map_eq_some_iff.1 hview
                rw [hc']
                exact .changed (Or.inl huser)
          · obtain ⟨c₀, hc₀, hkey, -⟩ := exists_mem_of_map_eq hsame hc
            rw [← hkey, Table.get?_key hc₀] at hnone
            cases hnone
      | @newContact mk hkey hfree => exact Table.steps_insert (hfree _) hkey
      | packetPrepared hevent hinserts =>
          obtain ⟨mk, hkey, -, rfl⟩ := hinserts.insert
          exact .refl _
  | delivery | delivered | readAgain | accepted | newDelivery | newOwnedDelivery | fannedOut
  | newSession | opened | completed | stopped => exact .refl _
  | linked hdevice hfree huser hevent => exact hlinks hevent
  | relinked hdevice huser hother hevent =>
      rw [contacts_relinkDevice]
      exact hlinks hevent
  | deleted hevent => exact Table.steps_deleteWhere fun _ _ _ => trivial

/-! ### Packets -/

/-- What a write keeps of a stored packet: a deletion may clear what it refers to. -/
structure PacketChange (p q : OutboundPacket) : Prop where
  timestamp : q.senderTimestamp = p.senderTimestamp
  purpose : q.purpose = p.purpose
  level : q.receiptLevel = p.receiptLevel
  contact : q.contactId = p.contactId ∨ q.contactId = none
  delivery : q.messageDeliveryId = p.messageDeliveryId ∨ q.messageDeliveryId = none
  receipt : q.receiptNotificationId = p.receiptNotificationId ∨ q.receiptNotificationId = none
  part : q.partNumber = p.partNumber
  arm : q.armGeneration = p.armGeneration
  attempt : q.attemptNumber = p.attemptNumber
  prepared : q.state = .prepared → p.state = .prepared
  life : PacketLife p q

/-- A packet a write can create. -/
structure PacketCreated (input : Input) (db : Db) (packet : OutboundPacket) : Prop where
  inserted : ∃ db' now, input.event.preparesAt? = some now ∧ InsertsPacket db db' packet now
  work : PacketWork db packet ∨ IsReplyPacket packet

theorem SamePacket.change {p q : OutboundPacket} (h : SamePacket q p) : PacketChange p q :=
  ⟨h.timestamp, h.purpose, h.level, Or.inl h.contact, Or.inl h.delivery, Or.inl h.receipt, h.part,
    h.arm, h.attempt, h.prepared, h.life⟩

theorem filter_eq_or_none {α : Type} (o : Option α) (p : α → Bool) :
    o.filter p = o ∨ o.filter p = none := by
  cases o with
  | none => exact Or.inr rfl
  | some x => by_cases h : p x <;> simp [Option.filter, h]

theorem packetChange_forgetPacketReferences (db : Db) (roots : DeletionRoots)
    (p : OutboundPacket) : PacketChange p (forgetPacketReferences db roots p) :=
  ⟨rfl, rfl, rfl, filter_eq_or_none _ _, filter_eq_or_none _ _, filter_eq_or_none _ _, rfl, rfl,
    rfl, id, .of_eq rfl rfl rfl rfl⟩

/-- **What a write does to the packets.** -/
theorem Write.packets (h : Write input a b) :
    Table.Steps PacketChange (PacketCreated input a.2) (fun _ => True) a.2.packets b.2.packets := by
  cases h with
  | @quiet db db' p h =>
      cases h with
      | delivery | receipt | newReceipt | messageConfirmed | newMessage | partStored | contacts
      | newContact | newUser | sessions => exact .refl _
      | @packets t hnext hsame =>
          have hstored : ∀ q ∈ t, ∃ p, db.packets.get? (key q) = some p ∧ SamePacket q p := by
            intro q hq
            obtain ⟨p, hp, hqp⟩ := hsame q hq
            refine ⟨p, ?_, hqp⟩
            rw [key_packet, hqp.id, ← key_packet, Table.get?_key hp]
          refine ⟨fun k => ?_, hnext.ge, fun q hq hnone => ?_⟩
          · show RowStep _ _ _ (db.packets.get? k) (t.get? k)
            cases hk : t.get? k with
            | none =>
                cases db.packets.get? k with
                | none => exact .same _
                | some p => exact .deleted trivial
            | some q =>
                obtain ⟨p, hp, hqp⟩ := hstored q (Table.mem_of_get? hk)
                rw [Table.key_of_get? hk] at hp
                rw [hp]
                exact .changed hqp.change
          · obtain ⟨p, hp, -⟩ := hstored q hq
            exact absurd (hp.symm.trans hnone) (by simp)
      | packetPrepared hevent hinserts hwork =>
          have hcreated : PacketCreated input _ _ := ⟨⟨_, _, hevent, hinserts⟩, hwork⟩
          obtain ⟨mk, hkey, rfl, rfl⟩ := hinserts.insert
          exact Table.steps_insert hcreated hkey
  | delivery | delivered | readAgain | accepted | newDelivery | newOwnedDelivery | fannedOut
  | newSession | opened | completed | stopped | linked | relinked => exact .refl _
  | @deleted db roots hevent =>
      unfold deleteRows
      exact Table.steps_updateWhere fun p _ _ => packetChange_forgetPacketReferences db roots p

/-! ### Links -/

/-- Nothing of the device is in progress. -/
structure IsCleared (db : Db) (deviceId : ℕ) : Prop where
  deliveries : ∀ d ∈ db.deliveries, d.deviceId = deviceId → d.state ∉ nonTerminalDeliveryStates
  receipts : ∀ r ∈ db.receipts, r.deviceId = deviceId → IsSettledReceipt r
  sessions : ∀ s ∈ db.sessions, s.deviceId = deviceId → s.state ≠ .active

/-- A relink clears its device. -/
theorem isCleared_relinkDevice (db : Db) (device : Contact) (user : User) (now : Time) :
    IsCleared (relinkDevice db device user now) device.id where
  deliveries := by
    intro e he hdevice
    rw [deliveries_relinkDevice] at he
    obtain ⟨d, hd, rfl⟩ := (Table.mem_updateWhere (h := by intros; rfl)).1 he
    by_cases hlive : nonTerminalDeliveryStates.contains d.state = true
    · split
      · simp [nonTerminalDeliveryStates]
      · next hnot => simp_all
    · split
      · simp [nonTerminalDeliveryStates]
      · simpa using hlive
  receipts := by
    intro q hq hdevice
    rw [receipts_relinkDevice] at hq
    obtain ⟨r, hr, rfl⟩ := (Table.mem_updateWhere (h := by intros; rfl)).1 hq
    split
    · exact Or.inl rfl
    · next hnot =>
        rw [if_neg hnot] at hdevice
        simp only [hdevice, decide_true, Bool.true_and, Bool.and_eq_true, decide_eq_true_eq, ne_eq,
          Bool.not_eq_true', Bool.and_eq_false_iff, decide_eq_false_iff_not, not_and, not_or,
          not_not] at hnot
        by_cases hcancelled : r.state = .cancelled
        · exact Or.inl hcancelled
        · exact Or.inr (hnot hcancelled)
  sessions := by
    intro t ht hdevice
    rw [sessions_relinkDevice] at ht
    obtain ⟨s, hs, rfl⟩ := (Table.mem_updateWhere (h := by intros; rfl)).1 ht
    split
    · simp
    · next hnot =>
        rw [if_neg hnot] at hdevice
        simpa [hdevice] using hnot

/-- A device other than the one that is linked keeps its user. -/
theorem deviceUserId_setDeviceUser {db : Db} {device : Contact} {deviceId : ℕ}
    (hother : deviceId ≠ device.id) (userId : ℕ) (now : Time) :
    (setDeviceUser db device userId now).deviceUserId deviceId = db.deviceUserId deviceId := by
  unfold Db.deviceUserId setDeviceUser
  dsimp only
  rw [Table.get?_updateWhere]
  cases hc : db.contacts.get? deviceId with
  | none => rfl
  | some c =>
      have hid : c.id = deviceId := Table.key_of_get? hc
      have hne : c.id ≠ device.id := by rwa [hid]
      simp [hne]

/-- A kept contact keeps its user; what a deleted one had is deleted. -/
theorem link_deleteRows {db : Db} (roots : DeletionRoots) {deviceId userId : ℕ}
    (hlink : db.deviceUserId deviceId = some userId) :
    (deleteRows db roots).deviceUserId deviceId = some userId ∨
      IsCleared (deleteRows db roots) deviceId := by
  by_cases hdeleted : isContactDeleted db roots deviceId = true
  · refine Or.inr ⟨fun d hd hdevice => ?_, fun r hr hdevice => ?_, fun s hs hdevice => ?_⟩
    · have hkept := (mem_deliveries_deleteRows.1 hd).2
      simp [isDeliveryRowDeleted, hdevice, hdeleted] at hkept
    · have hkept := (mem_receipts_deleteRows.1 hr).2
      simp [isReceiptRowDeleted, hdevice, hdeleted] at hkept
    · have hkept := (mem_sessions_deleteRows.1 hs).2
      simp [isSessionRowDeleted, hdevice, hdeleted] at hkept
  · refine Or.inl ?_
    obtain ⟨c, hc, huser⟩ := Option.bind_eq_some_iff.1 hlink
    have hkept : isContactRowDeleted db roots c = false := by
      simpa [isContactDeleted, hc] using hdeleted
    have hc' : (deleteRows db roots).contacts.get? deviceId = some c := by
      show (db.contacts.deleteWhere _).get? deviceId = some c
      rw [Table.get?_deleteWhere, hc]
      simp [Option.filter, hkept]
    rw [Db.deviceUserId, hc', Option.bind_some, huser]

/-- **A linked device stays linked to its user, or is cleared.** -/
theorem Write.link (h : Write input a b) {deviceId userId : ℕ}
    (hlink : a.2.deviceUserId deviceId = some userId) :
    b.2.deviceUserId deviceId = some userId ∨ IsCleared b.2 deviceId := by
  cases h with
  | quiet p h =>
      refine Or.inl ?_
      cases h with
      | delivery | receipt | newReceipt | messageConfirmed | newMessage | partStored | newUser
      | sessions | packets => exact hlink
      | contacts hnext hsame =>
          obtain ⟨c, hc, huser⟩ := Option.bind_eq_some_iff.1 hlink
          have hview := hsame deviceId
          rw [hc, Option.map_some, huser] at hview
          obtain ⟨c', hc', huser'⟩ := Option.map_eq_some_iff.1 hview
          exact Option.bind_eq_some_iff.2 ⟨c', hc', huser'⟩
      | @newContact mk hkey hfree =>
          obtain ⟨c, hc, huser⟩ := Option.bind_eq_some_iff.1 hlink
          exact Option.bind_eq_some_iff.2 ⟨c, Table.get?_insert_of_mem (h := hkey) hc, huser⟩
      | packetPrepared hevent hinserts =>
          obtain ⟨mk, hkey, -, rfl⟩ := hinserts.insert
          exact hlink
  | delivery | delivered | readAgain | accepted | newDelivery | newOwnedDelivery | fannedOut
  | newSession | opened | completed | stopped => exact Or.inl hlink
  | @linked db device user now hdevice hfree =>
      have hother : deviceId ≠ device.id := by
        rintro rfl
        have hc : db.contacts.get? device.id = some device := Table.get?_key hdevice
        simp [Db.deviceUserId, hc, hfree] at hlink
      exact Or.inl ((deviceUserId_setDeviceUser hother user.id now).trans hlink)
  | @relinked db device user now =>
      by_cases hdevice : deviceId = device.id
      · rw [hdevice]
        exact Or.inr (isCleared_relinkDevice db device user now)
      · refine Or.inl (Eq.trans ?_ hlink)
        rw [Db.deviceUserId, contacts_relinkDevice]
        exact deviceUserId_setDeviceUser hdevice user.id now
  | deleted hevent => exact link_deleteRows _ hlink

end HoptalkRelay
