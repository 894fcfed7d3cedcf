/-
**What a transaction writes.**

A transaction is a sequence of writes.  Two relations list them, each with what the transaction
knew when it wrote: a `Quiet` write moves no delivery's state, no device and no session, and a
`Write` is a quiet one or one of those, together with the phase the transaction is in before and
after it.  A property of single rows is proved once for each write and then holds along every run.

Where the source writes a delivery before its message, the list has the message first: the two
writes are to different tables, so the order makes no difference to what is committed, and
"a delivered delivery's message is delivered" then holds after every write.

Main definitions:

* `HoptalkRelay.Quiet`, `HoptalkRelay.Write` — the writes;
* `HoptalkRelay.Quiets`, `HoptalkRelay.Writes` — sequences of them;
* `HoptalkRelay.PartUpload`, `HoptalkRelay.DeliveryConfirmed` — what an `M`, and what a `K` or an
  `R`, shows.

Main results:

* `HoptalkRelay.Writes.invariant` — what every write keeps, sequences of writes keep;
* `HoptalkRelay.Writes.consistent` — **no write breaks a constraint of the database**.
-/

import HoptalkRelay.PacketLifecycle
import HoptalkRelay.ReceiptLifecycle
import HoptalkRelay.Consistency

set_option relaxedAutoImplicit false
set_option autoImplicit false

namespace HoptalkRelay

open Relational

/-! ### The changed messages -/

/-- A message with its first delivery, and its first read for a read. -/
@[simps]
def confirmedMessage (m : Message) (now : Time) (isRead : Bool) : Message :=
  { m with
    deliveredAt := m.deliveredAt.or (some now)
    readAt := if isRead then m.readAt.or (some now) else m.readAt }

/-- A message whose every part is held. -/
@[simps]
def acceptedMessage (m : Message) (now : Time) : Message :=
  { m with text := some (m.partTexts.filterMap id).flatten, acceptedAt := some now }

/-! ### What the inputs show -/

/-- The requests that confirm a message: `K` and `R`. -/
def Event.confirms : Event → Bool
  | .deliveryAcknowledgement _ _ _ | .read _ _ _ => true
  | _ => false

/-- The request is an `F` of the device. -/
def Event.refreshes (deviceId : ℕ) : Event → Bool
  | .refresh requester _ _ _ => requester = deviceId
  | _ => false

/-- The rows a deletion starts from. -/
def Event.deletionRoots? : Event → Option DeletionRoots
  | .deleteContact contactId => some { contact := fun contact => contact.id = contactId }
  | .deleteUser userId => some { user := fun user => user.id = userId }
  | .deleteExpiredIncompleteMessages now => some { message := isExpiredIncompleteMessage now }
  | _ => none

/-- The input is an `M` from a device of the sender to the recipient, with a valid part. -/
structure PartUpload (input : Input) (db : Db) (deviceId : ℕ) (part : MessagePartRequest)
    (senderId recipientId : ℕ) (now : Time) : Prop where
  event : input.event = .messagePart deviceId part now
  sender : db.deviceUserId deviceId = some senderId
  recipient : ∃ user, db.userByLookup (normalizeUsernameForLookup part.recipientUsername) =
    some user ∧ user.id = recipientId
  parties : senderId ≠ recipientId
  numbering : isValidPartNumbering part.partNumber part.partCount = true
  text : isValidPartText part.partText = true

/-- The input confirms a delivery: a `K` from its device with a set of all ones, or an `R` from
its device. -/
inductive DeliveryConfirmed (input : Input) (db : Db) (d : MessageDelivery) (message : Message) :
    Option ℕ → Bool → Prop
  | acknowledged
      (hreport : DeliveryReport input db d message (calculateAllPartsMask message.partCount)) :
      DeliveryConfirmed input db d message (some (calculateAllPartsMask message.partCount)) false
  | read (request : ReadRequest) (now : Time)
      (hevent : input.event = .read d.deviceId request now) :
      DeliveryConfirmed input db d message none true

/-! ### Packets -/

/-- The preparations of a packet, with their clock readings. -/
def Event.preparesAt? : Event → Option Time
  | .prepareNextPacket _ now | .prepareReplyPacket _ _ _ _ now => some now
  | _ => none

/-- A packet is prepared with a fresh timestamp, and nothing else changes. -/
structure InsertsPacket (db db' : Db) (packet : OutboundPacket) (now : Time) : Prop where
  insert : ∃ mk hkey, mk db.packets.nextKey = packet ∧
    db' = { db with packets := db.packets.insert mk hkey }
  timestamp : packet.senderTimestamp = allocateSenderTimestamp db now
  unused : ∀ p ∈ db.packets, p.senderTimestamp ≠ packet.senderTimestamp
  state : packet.state = .prepared
  reset : packet.routeResetState = .notApplicable
  preparedAt : packet.preparedAt = some now
  queuedAt : packet.queuedAt = none

namespace InsertsPacket

variable {db db' : Db} {packet : OutboundPacket} {now : Time}

theorem id_eq (h : InsertsPacket db db' packet now) : packet.id = db.packets.nextKey := by
  obtain ⟨mk, hkey, rfl, -⟩ := h.insert
  exact hkey _

theorem nextKey_eq (h : InsertsPacket db db' packet now) :
    db'.packets.nextKey = db.packets.nextKey + 1 := by
  obtain ⟨mk, hkey, -, rfl⟩ := h.insert
  rfl

/-- Nothing but the packets changes. -/
theorem frame (h : InsertsPacket db db' packet now) : db' = { db with packets := db'.packets } := by
  obtain ⟨mk, hkey, -, rfl⟩ := h.insert
  rfl

theorem mem_iff (h : InsertsPacket db db' packet now) {p : OutboundPacket} :
    p ∈ db'.packets ↔ p ∈ db.packets ∨ p = packet := by
  obtain ⟨mk, hkey, rfl, rfl⟩ := h.insert
  exact Table.mem_insert (h := hkey)

end InsertsPacket

/-- What a packet carries, and where it goes: a part of a pending delivery, or the level of a
pending receipt. -/
inductive PacketWork (db : Db) (packet : OutboundPacket) : Prop
  | delivery (d : MessageDelivery) (m : Message) (sender : User) (partNumber : ℕ) (partText : Text)
      (hd : d ∈ db.deliveries) (hstate : d.state = .pending)
      (hm : db.messages.get? d.messageId = some m)
      (hsender : db.users.get? m.senderId = some sender)
      (hpart : findLowestPartNumber (findPartsLeftInRound d) = some partNumber)
      (hpartText : m.partTexts.getD (partNumber - 1) none = some partText)
      (htext : formatDeliveryPart sender.username.val m.clientMessageId.val partNumber
        m.partCount.val partText = .ok packet.text)
      (hpurpose : packet.purpose = .delivery) (hcontact : packet.contactId = some d.deviceId)
      (hdelivery : packet.messageDeliveryId = some d.id)
      (hnumber : packet.partNumber = some partNumber)
      (harm : packet.armGeneration = some d.armGeneration)
      (hattempt : packet.attemptNumber = some d.attemptCount)
      (hreceipt : packet.receiptNotificationId = none)
  | receipt (r : ReceiptNotification) (m : Message) (recipient : User) (receiptLevel : ReceiptLevel)
      (hr : r ∈ db.receipts) (hstate : r.state = .pending)
      (hm : db.messages.get? r.messageId = some m)
      (hrecipient : db.users.get? m.recipientId = some recipient)
      (hlevel : receiptLevelByNumber r.targetLevel = some receiptLevel)
      (htext : formatReceiptPush recipient.username.val m.clientMessageId.val receiptLevel =
        .ok packet.text)
      (hpurpose : packet.purpose = .receipt) (hcontact : packet.contactId = some r.deviceId)
      (hreceipt : packet.receiptNotificationId = some r.id)
      (hnumber : packet.receiptLevel = some r.targetLevel)
      (harm : packet.armGeneration = some r.armGeneration)
      (hattempt : packet.attemptNumber = some r.attemptCount)
      (hdelivery : packet.messageDeliveryId = none)

/-- A reply carries neither. -/
structure IsReplyPacket (packet : OutboundPacket) : Prop where
  purpose : packet.purpose = .reply
  delivery : packet.messageDeliveryId = none
  receipt : packet.receiptNotificationId = none

/-- What a stored packet keeps as long as nothing it refers to is deleted. -/
structure SamePacket (p q : OutboundPacket) : Prop where
  id : p.id = q.id
  purpose : p.purpose = q.purpose
  contact : p.contactId = q.contactId
  delivery : p.messageDeliveryId = q.messageDeliveryId
  receipt : p.receiptNotificationId = q.receiptNotificationId
  level : p.receiptLevel = q.receiptLevel
  timestamp : p.senderTimestamp = q.senderTimestamp
  part : p.partNumber = q.partNumber
  arm : p.armGeneration = q.armGeneration
  attempt : p.attemptNumber = q.attemptNumber
  prepared : p.state = .prepared → q.state = .prepared
  life : PacketLife q p

theorem SamePacket.refl (p : OutboundPacket) : SamePacket p p :=
  ⟨rfl, rfl, rfl, rfl, rfl, rfl, rfl, rfl, rfl, rfl, fun h => h, .refl p⟩

theorem SamePacket.trans {p q r : OutboundPacket} (h : SamePacket p q) (h' : SamePacket q r) :
    SamePacket p r :=
  ⟨h.id.trans h'.id, h.purpose.trans h'.purpose, h.contact.trans h'.contact,
    h.delivery.trans h'.delivery, h.receipt.trans h'.receipt, h.level.trans h'.level,
    h.timestamp.trans h'.timestamp, h.part.trans h'.part, h.arm.trans h'.arm,
    h.attempt.trans h'.attempt, fun hstate => h'.prepared (h.prepared hstate),
    h'.life.trans h.life⟩

/-- A packet in another state is the same packet, when it does not become prepared. -/
theorem SamePacket.of_state {p q : OutboundPacket} (hstate : p.state ≠ .prepared)
    (heq : p =
      { q with
        state := p.state
        route := p.route
        expectedAcknowledgementCode := p.expectedAcknowledgementCode
        suggestedTimeoutMilliseconds := p.suggestedTimeoutMilliseconds
        queuedAt := p.queuedAt
        acknowledgementDeadlineAt := p.acknowledgementDeadlineAt
        acknowledgedAt := p.acknowledgedAt
        roundTripMilliseconds := p.roundTripMilliseconds
        nodeErrorCode := p.nodeErrorCode
        routeResetState := p.routeResetState
        routeResetDecidedAt := p.routeResetDecidedAt })
    (hlife : PacketLife q p) : SamePacket p q := by
  refine ⟨?_, ?_, ?_, ?_, ?_, ?_, ?_, ?_, ?_, ?_, fun h => absurd h hstate, hlife⟩ <;> rw [heq]

/-- Every row of the one table is a row of the other, possibly in another state. -/
def SamePackets (t u : Table OutboundPacket) : Prop := ∀ p ∈ t, ∃ q ∈ u, SamePacket p q

theorem SamePackets.trans {t u v : Table OutboundPacket} (h : SamePackets t u)
    (h' : SamePackets u v) : SamePackets t v := by
  intro p hp
  obtain ⟨q, hq, hpq⟩ := h p hp
  obtain ⟨r, hr, hqr⟩ := h' q hq
  exact ⟨r, hr, hpq.trans hqr⟩

theorem samePackets_updateWhere {t : Table OutboundPacket} {p : OutboundPacket → Bool}
    {f : OutboundPacket → OutboundPacket} (hkey : ∀ q, p q = true → key (f q) = key q)
    (hf : ∀ q ∈ t, p q = true → SamePacket (f q) q) : SamePackets (t.updateWhere p f hkey) t := by
  intro r hr
  obtain ⟨q, hq, rfl⟩ := Table.mem_updateWhere.1 hr
  refine ⟨q, hq, ?_⟩
  split
  · next hp => exact hf q hq hp
  · exact .refl q

theorem samePackets_deleteWhere {t : Table OutboundPacket} (p : OutboundPacket → Bool) :
    SamePackets (t.deleteWhere p) t :=
  fun q hq => ⟨q, (Table.mem_deleteWhere.1 hq).1, .refl q⟩

/-! ### Quiet writes -/

/-- A write that moves no delivery's state, no device and no session. -/
inductive Quiet (input : Input) : Db → Db → Prop
  | delivery {db : Db} {d d' : MessageDelivery} (hd : d ∈ db.deliveries)
      (change : RoundChange input db d d') : Quiet input db (db.putDelivery d')
  | receipt {db : Db} {r r' : ReceiptNotification} (hr : r ∈ db.receipts)
      (change : ReceiptChange input db r r') : Quiet input db (db.putReceipt r')
  | newReceipt {db : Db} {m : Message} {deviceId : ℕ} {now : Time} (hm : m ∈ db.messages)
      (haccepted : m.acceptedAt.isSome) (hlevel : 0 < readMessageLevel m)
      (hlinked : db.deviceUserId deviceId = some m.senderId)
      (hnew : ∀ r ∈ db.receipts, ¬ (r.messageId = m.id ∧ r.deviceId = deviceId)) :
      Quiet input db (createReceipt input.settings db m.id deviceId (readMessageLevel m) now)
  | messageConfirmed {db : Db} {m : Message} {now : Time} {isRead : Bool} (hm : m ∈ db.messages)
      (haccepted : m.acceptedAt.isSome) (hevent : input.event.confirms = true) :
      Quiet input db (db.putMessage (confirmedMessage m now isRead))
  | newMessage {db : Db} {deviceId senderId recipientId : ℕ} {part : MessagePartRequest}
      {clientMessageId : MessageId} {partCount : PartCount} {now : Time}
      (upload : PartUpload input db deviceId part senderId recipientId now)
      (hid : clientMessageId.val = part.messageId) (hcount : partCount.val = part.partCount)
      (hnew : ∀ m ∈ db.messages, ¬ (m.senderId = senderId ∧ m.clientMessageId = clientMessageId)) :
      Quiet input db
        { db with
          messages := db.messages.insert
            (newMessage senderId recipientId deviceId clientMessageId partCount now)
            fun _ => rfl }
  | partStored {db : Db} {m : Message} {deviceId : ℕ} {part : MessagePartRequest} {now : Time}
      (hm : m ∈ db.messages) (hopen : m.acceptedAt = none)
      (upload : PartUpload input db deviceId part m.senderId m.recipientId now)
      (hid : m.clientMessageId.val = part.messageId) (hcount : m.partCount.val = part.partCount)
      (hdevice : m.partTexts.getD (part.partNumber - 1) none = none →
        m.senderDeviceId = some deviceId) :
      Quiet input db (db.putMessage (messageWithPart m part now))
  | contacts {db : Db} {t : Table Contact} (hnext : t.nextKey = db.contacts.nextKey)
      (hsame : ∀ k, (t.get? k).map Contact.userId = (db.contacts.get? k).map Contact.userId) :
      Quiet input db { db with contacts := t }
  | newContact {db : Db} {mk : ℕ → Contact} {hkey : ∀ k, key (mk k) = k}
      (hfree : ∀ k, (mk k).userId = none) :
      Quiet input db { db with contacts := db.contacts.insert mk hkey }
  | newUser {db : Db} {mk : ℕ → User} {hkey : ∀ k, key (mk k) = k}
      (hnew : ∀ u ∈ db.users, u.usernameLookup ≠ (mk db.users.nextKey).usernameLookup) :
      Quiet input db { db with users := db.users.insert mk hkey }
  | sessions {db : Db} {t : Table RefreshSession} (hnext : t.nextKey = db.sessions.nextKey)
      (hsame : ∀ k, (t.get? k).map (fun s => (s.deviceId, s.peerId, s.state)) =
        (db.sessions.get? k).map fun s => (s.deviceId, s.peerId, s.state)) :
      Quiet input db { db with sessions := t }
  | packets {db : Db} {t : Table OutboundPacket} (hnext : t.nextKey = db.packets.nextKey)
      (hsame : SamePackets t db.packets) : Quiet input db { db with packets := t }
  | packetPrepared {db db' : Db} {packet : OutboundPacket} {now : Time}
      (hevent : input.event.preparesAt? = some now) (hinserts : InsertsPacket db db' packet now)
      (hwork : PacketWork db packet ∨ IsReplyPacket packet) : Quiet input db db'

/-- A sequence of quiet writes. -/
abbrev Quiets (input : Input) : Db → Db → Prop := Relation.ReflTransGen (Quiet input)

/-! ### All writes -/

/-- What a new session leaves of an accepted message to its device: a delivery that is delivered or
owned by a session, or none when the message was delivered before. -/
def IsGathered (db : Db) (s : RefreshSession) (m : Message) : Prop :=
  (∃ d ∈ db.deliveries, d.messageId = m.id ∧ d.deviceId = s.deviceId ∧
      (d.state = .delivered ∨ d.state = .queuedForRefresh ∨
        d.state = .pending ∧ d.refreshSessionId.isSome)) ∨
    m.deliveredAt.isSome ∧
      ∀ d ∈ db.deliveries, ¬ (d.messageId = m.id ∧ d.deviceId = s.deviceId)

/-- The accepted messages a session of the device with the peer is for. -/
structure IsRefreshed (db : Db) (s : RefreshSession) (m : Message) : Prop where
  found : m ∈ db.messages
  accepted : m.acceptedAt.isSome
  sender : m.senderId = s.peerId
  recipient : db.deviceUserId s.deviceId = some m.recipientId

/-- One write of a transaction, and the phases before and after it. -/
inductive Write (input : Input) : Phase × Db → Phase × Db → Prop
  | quiet {db db' : Db} (p : Phase) (h : Quiet input db db') : Write input (p, db) (p, db')
  | delivery {db : Db} {d d' : MessageDelivery} {p p' : Phase} (hd : d ∈ db.deliveries)
      (change : StateChange input db d p d' p') : Write input (p, db) (p', db.putDelivery d')
  | delivered {db : Db} {d : MessageDelivery} {m : Message} {now : Time} {mask : Option ℕ}
      {isRead : Bool} (hd : d ∈ db.deliveries) (hstate : d.state ∈ unconfirmedDeliveryStates)
      (hm : db.messages.get? d.messageId = some m) (hdelivered : m.deliveredAt.isSome)
      (hread : isRead = true → m.readAt.isSome)
      (confirmed : DeliveryConfirmed input db d m mask isRead) :
      Write input (.settled, db)
        (.afterConfirmation (headSessionId db d),
          db.putDelivery (deliveredDelivery d now mask isRead))
  | readAgain {db : Db} {d : MessageDelivery} {m : Message} {now : Time} (hd : d ∈ db.deliveries)
      (hstate : d.state = .delivered) (hfirst : d.readAt = none)
      (hm : db.messages.get? d.messageId = some m) (hread : m.readAt.isSome) :
      Write input (.settled, db) (.settled, db.putDelivery { d with readAt := some now })
  | accepted {db : Db} {m : Message} {deviceId : ℕ} {part : MessagePartRequest} {now : Time}
      (hm : m ∈ db.messages) (hopen : m.acceptedAt = none) (hall : ∀ t ∈ m.partTexts, t.isSome)
      (upload : PartUpload input db deviceId part m.senderId m.recipientId now)
      (hid : m.clientMessageId.val = part.messageId) :
      Write input (.settled, db) (.fanningOut m.id, db.putMessage (acceptedMessage m now))
  | newDelivery {db : Db} {m : Message} {deviceId : ℕ} {now : Time} (hm : m ∈ db.messages)
      (haccepted : m.acceptedAt.isSome) (hlinked : db.deviceUserId deviceId = some m.recipientId)
      (hnew : ∀ d ∈ db.deliveries, ¬ (d.messageId = m.id ∧ d.deviceId = deviceId))
      (hfree : findActiveSession db deviceId m.senderId = none) :
      Write input (.fanningOut m.id, db)
        (.fanningOut m.id, createPendingDelivery input.settings db m.id deviceId now)
  | newOwnedDelivery {db : Db} {m : Message} {deviceId : ℕ} {s : RefreshSession} {now : Time}
      {p : Phase} (hm : m ∈ db.messages) (haccepted : m.acceptedAt.isSome)
      (hlinked : db.deviceUserId deviceId = some m.recipientId)
      (hnew : ∀ d ∈ db.deliveries, ¬ (d.messageId = m.id ∧ d.deviceId = deviceId))
      (hs : s ∈ db.sessions) (hdevice : s.deviceId = deviceId) (hpeer : s.peerId = m.senderId)
      (hactive : s.state = .active) (hphase : p = .opening s.id ∨ p = .fanningOut m.id)
      (hevent : p = .opening s.id → input.event.refreshes deviceId = true) :
      Write input (p, db)
        (p, createRefreshOwnedDelivery input.settings db m.id deviceId s.id now)
  | fannedOut {db : Db} {m : Message} (hm : m ∈ db.messages)
      (hall : ∀ deviceId, db.deviceUserId deviceId = some m.recipientId →
        ∃ d ∈ db.deliveries, d.messageId = m.id ∧ d.deviceId = deviceId) :
      Write input (.fanningOut m.id, db) (.fannedOut, db)
  | newSession {db : Db} {deviceId userId peerId : ℕ} {mk : ℕ → RefreshSession}
      {hkey : ∀ k, key (mk k) = k}
      (hrow : ∀ k, (mk k).deviceId = deviceId ∧ (mk k).peerId = peerId ∧ (mk k).state = .active)
      (hlinked : db.deviceUserId deviceId = some userId) (hself : userId ≠ peerId)
      (hpeer : (db.users.get? peerId).isSome)
      (hfree : findActiveSession db deviceId peerId = none) :
      Write input (.settled, db)
        (.opening db.sessions.nextKey, { db with sessions := db.sessions.insert mk hkey })
  | opened {db : Db} {s : RefreshSession} (hs : s ∈ db.sessions)
      (hgathered : ∀ m, IsRefreshed db s m → IsGathered db s m)
      (hqueue : ∃ d ∈ db.deliveries, IsQueuedIn s.id d) :
      Write input (.opening s.id, db) (.headless s.id, db)
  | completed {db : Db} {refreshSessionId : ℕ} {now : Time}
      (hempty : ∀ d ∈ db.deliveries, ¬ IsQueuedIn refreshSessionId d) :
      Write input (.headless refreshSessionId, db)
        (.settled, completeRefreshSession db refreshSessionId now)
  | stopped {db : Db} {refreshSessionId : ℕ} {now : Time}
      (hempty : ∀ d ∈ db.deliveries, ¬ IsQueuedIn refreshSessionId d) :
      Write input (.stopping refreshSessionId, db)
        (.settled, finishRefreshSessions db
          (fun row => row.id = refreshSessionId && row.state = .active) .stopped now)
  | linked {db : Db} {device : Contact} {user : User} {now : Time} (hdevice : device ∈ db.contacts)
      (hfree : device.userId = none) (huser : user ∈ db.users)
      (hevent : ∃ request salt, input.event = .account device.id request salt now) :
      Write input (.settled, db) (.settled, setDeviceUser db device user.id now)
  | relinked {db : Db} {device : Contact} {user : User} {now : Time}
      (hdevice : device ∈ db.contacts) (huser : user ∈ db.users)
      (hother : device.userId ≠ some user.id)
      (hevent : ∃ request salt, input.event = .account device.id request salt now) :
      Write input (.settled, db) (.settled, relinkDevice db device user now)
  | deleted {db : Db} {roots : DeletionRoots} (hevent : input.event.deletionRoots? = some roots) :
      Write input (.settled, db) (.settled, deleteRows db roots)

/-- A sequence of writes. -/
abbrev Writes (input : Input) : Phase × Db → Phase × Db → Prop :=
  Relation.ReflTransGen (Write input)

theorem Write.writes {input : Input} {a b : Phase × Db} (h : Write input a b) :
    Writes input a b := Relation.ReflTransGen.single h

theorem Quiets.writes {input : Input} {db db' : Db} (h : Quiets input db db') (p : Phase) :
    Writes input (p, db) (p, db') :=
  h.lift (fun db => (p, db)) fun _ _ => Write.quiet p

/-! ### The constraints of the database -/

/-- The map of a table's rows to what others look at decides which keys it has. -/
theorem isSome_get?_of_map_eq {ρ σ : Type} [Keyed ρ] {t u : Table ρ} {f : ρ → σ} {k : ℕ}
    (h : (t.get? k).map f = (u.get? k).map f) : (t.get? k).isSome = (u.get? k).isSome := by
  rw [← Option.isSome_map (f := f), h, Option.isSome_map]

/-- A row of a table whose view is that of another table has a counterpart there. -/
theorem exists_mem_of_map_eq {ρ σ : Type} [Keyed ρ] {t u : Table ρ} {f : ρ → σ}
    (h : ∀ k, (t.get? k).map f = (u.get? k).map f) {r : ρ} (hr : r ∈ t) :
    ∃ s ∈ u, key s = key r ∧ f s = f r := by
  have hk := h (key r)
  rw [Table.get?_key hr] at hk
  obtain ⟨s, hs, hfs⟩ := Option.map_eq_some_iff.1 hk.symm
  exact ⟨s, Table.mem_of_get? hs, Table.key_of_get? hs, hfs⟩

/-- A linked device is a contact. -/
theorem contact_of_deviceUserId {db : Db} {deviceId userId : ℕ}
    (h : db.deviceUserId deviceId = some userId) : (db.contacts.get? deviceId).isSome := by
  unfold Db.deviceUserId at h
  cases hc : db.contacts.get? deviceId with
  | none => simp [hc] at h
  | some c => rfl

/-- The user of a linked device exists. -/
theorem Consistent.user_of_deviceUserId {db : Db} (h : Consistent db) {deviceId userId : ℕ}
    (hlink : db.deviceUserId deviceId = some userId) : (db.users.get? userId).isSome := by
  unfold Db.deviceUserId at hlink
  obtain ⟨c, hc, hu⟩ := Option.bind_eq_some_iff.1 hlink
  exact h.contacts c (Table.mem_of_get? hc) userId hu

theorem userByLookup_eq_some {db : Db} {lookup : Text} {user : User}
    (h : db.userByLookup lookup = some user) : user ∈ db.users ∧ user.usernameLookup = lookup := by
  obtain ⟨hmem, hlookup⟩ := Table.first?_eq_some h
  exact ⟨hmem, by simpa using hlookup⟩

/-- The recipient of an upload exists. -/
theorem PartUpload.recipient_exists {input : Input} {db : Db} {deviceId senderId recipientId : ℕ}
    {part : MessagePartRequest} {now : Time}
    (h : PartUpload input db deviceId part senderId recipientId now) :
    (db.users.get? recipientId).isSome := by
  obtain ⟨user, hlookup, rfl⟩ := h.recipient
  have := Table.get?_key (userByLookup_eq_some hlookup).1
  simp only [key_user] at this
  rw [this]
  rfl

theorem MessageOk.confirmed {users : Table User} {contacts : Table Contact} {m : Message}
    (h : MessageOk users contacts m) (haccepted : m.acceptedAt.isSome) (now : Time)
    (isRead : Bool) : MessageOk users contacts (confirmedMessage m now isRead) :=
  { h with
    delivered_accepted := fun _ => haccepted
    read_delivered := fun _ => by cases hd : m.deliveredAt <;> simp [hd] }

theorem MessageOk.withPart {users : Table User} {contacts : Table Contact} {m : Message}
    (h : MessageOk users contacts m) (hopen : m.acceptedAt = none) (part : MessagePartRequest)
    (now : Time) : MessageOk users contacts (messageWithPart m part now) :=
  { h with
    parts := by
      simp only [messageWithPart_partTexts, messageWithPart_partCount]
      split
      · simp [h.parts]
      · exact h.parts
    accepted_parts := by simp [hopen]
    accepted_text := by simpa [hopen] using h.accepted_text }

theorem MessageOk.accepted {users : Table User} {contacts : Table Contact} {m : Message}
    (h : MessageOk users contacts m) (hall : ∀ t ∈ m.partTexts, t.isSome) (now : Time) :
    MessageOk users contacts (acceptedMessage m now) :=
  { h with
    accepted_parts := fun _ => hall
    accepted_text := rfl
    delivered_accepted := fun _ => rfl }

theorem MessageOk.new {users : Table User} {contacts : Table Contact}
    {senderId recipientId deviceId : ℕ} {clientMessageId : MessageId} {partCount : PartCount}
    {now : Time} (hsender : (users.get? senderId).isSome)
    (hrecipient : (users.get? recipientId).isSome) (hparties : senderId ≠ recipientId)
    (hdevice : (contacts.get? deviceId).isSome) (id : ℕ) :
    MessageOk users contacts
      (newMessage senderId recipientId deviceId clientMessageId partCount now id) where
  sender := hsender
  recipient := hrecipient
  parties := hparties
  senderDevice := by rintro c ⟨⟩; exact hdevice
  parts := by simp
  accepted_parts := by simp [newMessage]
  accepted_text := by simp [newMessage]
  delivered_accepted := by simp [newMessage]
  read_delivered := by simp [newMessage]

/-- No quiet write breaks a constraint of the database. -/
theorem Quiet.consistent {input : Input} {db db' : Db} (hdb : Consistent db)
    (h : Quiet input db db') : Consistent db' := by
  cases h with
  | delivery hd change =>
      obtain ⟨hid, hm, hdev, -, hs⟩ := change.keeps
      exact hdb.putDelivery hd hid hm hdev fun s hs' =>
        (hdb.deliveries _ hd).session s (hs ▸ hs')
  | receipt hr change =>
      obtain ⟨hid, hm, hdev⟩ := change.keeps
      exact hdb.putReceipt hr hid hm hdev
  | newReceipt hm haccepted hlevel hlinked hnew =>
      exact hdb.insertReceipt (fun _ =>
        ⟨⟨_, Table.get?_key hm, haccepted⟩, contact_of_deviceUserId hlinked⟩) hnew
  | messageConfirmed hm haccepted hevent =>
      exact hdb.putMessage hm rfl rfl rfl id ((hdb.messages _ hm).confirmed haccepted _ _)
  | newMessage upload hid hcount hnew =>
      refine hdb.insertMessage (fun k => MessageOk.new (hdb.user_of_deviceUserId upload.sender)
        upload.recipient_exists upload.parties (contact_of_deviceUserId upload.sender) k) hnew
  | partStored hm hopen upload hid hcount hdevice =>
      exact hdb.putMessage hm rfl rfl rfl id ((hdb.messages _ hm).withPart hopen _ _)
  | @contacts t hnext hsame =>
      refine hdb.changeContacts (fun k hk => ?_) fun c hc u hu => ?_
      · rwa [isSome_get?_of_map_eq (hsame k)]
      · obtain ⟨c₀, hc₀, -, hu₀⟩ := exists_mem_of_map_eq hsame hc
        exact hdb.contacts c₀ hc₀ u (hu₀.trans hu)
  | @newContact mk hkey hfree =>
      refine hdb.changeContacts (fun k hk => isSome_get?_insert (h := hkey) hk) fun c hc u hu => ?_
      rcases (Table.mem_insert (h := hkey)).1 hc with hc | rfl
      · exact hdb.contacts c hc u hu
      · simp [hfree] at hu
  | newUser hnew => exact hdb.insertUser hnew
  | @sessions t hnext hsame =>
      refine hdb.changeSessions (fun k hk => ?_) fun s hs => ?_
      · rwa [isSome_get?_of_map_eq (hsame k)]
      · obtain ⟨s₀, hs₀, -, heq⟩ := exists_mem_of_map_eq hsame hs
        simp only [Prod.mk.injEq] at heq
        have := hdb.sessions s₀ hs₀
        exact ⟨heq.1 ▸ this.device, heq.2.1 ▸ this.peer⟩
  | packets hnext hsame => exact hdb.changePackets _
  | packetPrepared hevent hinserts hwork =>
      obtain ⟨mk, hkey, -, rfl⟩ := hinserts.insert
      exact hdb.changePackets _

theorem consistent_finishRefreshSessions {db : Db} (hdb : Consistent db)
    (p : RefreshSession → Bool) (state : RefreshSessionState) (now : Time) :
    Consistent (finishRefreshSessions db p state now) := by
  refine hdb.changeSessions (fun k hk => ?_) fun s hs => ?_
  · rwa [isSome_get?_updateWhere]
  · obtain ⟨s₀, hs₀, rfl⟩ := Table.mem_updateWhere.1 hs
    have hok := hdb.sessions s₀ hs₀
    split
    · exact ⟨hok.device, hok.peer⟩
    · exact hok

theorem consistent_setDeviceUser {db : Db} (hdb : Consistent db) (device : Contact) {user : User}
    (huser : user ∈ db.users) (now : Time) : Consistent (setDeviceUser db device user.id now) := by
  refine hdb.changeContacts (fun k hk => ?_) fun c hc u hu => ?_
  · rwa [isSome_get?_updateWhere]
  · obtain ⟨c₀, hc₀, rfl⟩ := Table.mem_updateWhere.1 hc
    split at hu
    · obtain rfl : user.id = u := by simpa using hu
      simpa using congrArg Option.isSome (Table.get?_key huser)
    · exact hdb.contacts c₀ hc₀ u hu

theorem consistent_relinkDevice {db : Db} (hdb : Consistent db) (device : Contact) {user : User}
    (huser : user ∈ db.users) (now : Time) : Consistent (relinkDevice db device user now) := by
  have hdeliveries : Consistent (cancelDeviceDeliveriesForRelink db device.id now) :=
    hdb.changeDeliveries fun _ => ⟨rfl, rfl, rfl⟩
  have hreceipts : Consistent (cancelDeviceReceiptsForRelink
      (cancelDeviceDeliveriesForRelink db device.id now) device.id now) :=
    hdeliveries.changeReceipts fun _ => ⟨rfl, rfl⟩
  have hsessions := consistent_finishRefreshSessions hreceipts
    (fun row => row.deviceId = device.id && row.state = .active) .cancelled now
  exact consistent_setDeviceUser hsessions device huser now

/-- No write breaks a constraint of the database. -/
theorem Write.consistent {input : Input} {a b : Phase × Db} (hdb : Consistent a.2)
    (h : Write input a b) : Consistent b.2 := by
  cases h with
  | quiet p h => exact h.consistent hdb
  | @delivery db d d' p p' hd change =>
      obtain ⟨hid, hm, hdev, -⟩ := change.keeps
      refine hdb.putDelivery hd hid hm hdev fun s hs => ?_
      cases change with
      | exhausted | stopped | armed => exact (hdb.deliveries d hd).session s hs
      | takenOver message sid htake =>
          obtain ⟨session, hsession, -⟩ := htake.session
          obtain rfl : sid = s := by simpa using hs
          exact Option.isSome_of_eq_some hsession
  | delivered hd hstate hm hdelivered hread confirmed =>
      exact hdb.putDelivery hd rfl rfl rfl (hdb.deliveries _ hd).session
  | readAgain hd hstate hfirst hm hread =>
      exact hdb.putDelivery hd rfl rfl rfl (hdb.deliveries _ hd).session
  | accepted hm hopen hall =>
      exact hdb.putMessage hm rfl rfl rfl (fun _ => rfl) ((hdb.messages _ hm).accepted hall _)
  | newDelivery hm haccepted hlinked hnew =>
      exact hdb.insertDelivery (fun _ =>
        ⟨⟨_, Table.get?_key hm, haccepted⟩, contact_of_deviceUserId hlinked, by simp⟩) hnew
  | newOwnedDelivery hm haccepted hlinked hnew hs =>
      refine hdb.insertDelivery (fun _ =>
        ⟨⟨_, Table.get?_key hm, haccepted⟩, contact_of_deviceUserId hlinked, ?_⟩) hnew
      rintro _ ⟨⟩
      exact Option.isSome_of_eq_some (Table.get?_key hs)
  | fannedOut | opened => exact hdb
  | @newSession db deviceId userId peerId mk hkey hrow hlinked hself hpeer hfree =>
      refine hdb.changeSessions (fun k hk => isSome_get?_insert (h := hkey) hk) fun s hs => ?_
      rcases (Table.mem_insert (h := hkey)).1 hs with hs | rfl
      · exact hdb.sessions s hs
      · obtain ⟨hdevice, hpeer', -⟩ := hrow db.sessions.nextKey
        exact ⟨hdevice ▸ contact_of_deviceUserId hlinked, hpeer' ▸ hpeer⟩
  | completed | stopped => exact consistent_finishRefreshSessions hdb _ _ _
  | linked hdevice hfree huser => exact consistent_setDeviceUser hdb _ huser _
  | relinked hdevice huser => exact consistent_relinkDevice hdb _ huser _
  | deleted hevent => exact hdb.deleteRows _

theorem Quiets.consistent {input : Input} {db db' : Db} (h : Quiets input db db')
    (hdb : Consistent db) : Consistent db' := by
  induction h with
  | refl => exact hdb
  | tail _ step ih => exact step.consistent ih

/-- **The rule for sequences of writes**: what every write keeps holds after them, and the
constraints of the database are kept anyway. -/
theorem Writes.invariant {input : Input} {a b : Phase × Db} (h : Writes input a b)
    (hdb : Consistent a.2) {P : Phase × Db → Prop} (ha : P a)
    (hwrite : ∀ a b, Consistent a.2 → P a → Write input a b → P b) : Consistent b.2 ∧ P b := by
  induction h with
  | refl => exact ⟨hdb, ha⟩
  | tail _ write ih => exact ⟨write.consistent ih.1, hwrite _ _ ih.1 ih.2 write⟩

/-- **No sequence of writes breaks a constraint of the database.** -/
theorem Writes.consistent {input : Input} {a b : Phase × Db} (h : Writes input a b)
    (hdb : Consistent a.2) : Consistent b.2 :=
  (h.invariant hdb (P := fun _ => True) trivial fun _ _ _ _ _ => trivial).1

end HoptalkRelay
