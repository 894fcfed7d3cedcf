/-
**What the sender loop sends next.**

The functions of `messaging/outbound_scheduling.py`.  The due delivery or receipt with the
earliest due time goes first, a delivery first on a tie.  A delivery whose round has not started
also needs a free place on its device.  Every packet gets a timestamp larger than every stored
one.

Main definitions:

* `HoptalkRelay.prepareNextPacket` — the next delivery part or receipt;
* `HoptalkRelay.dueDeliveryCandidates`, `HoptalkRelay.dueReceiptCandidates`,
  `HoptalkRelay.lockDueCandidates` — what is due;
* `HoptalkRelay.prepareDeliveryPacket`, `HoptalkRelay.prepareReceiptPacket`,
  `HoptalkRelay.prepareReplyPacket` — one packet;
* `HoptalkRelay.insertPreparedPacket`, `HoptalkRelay.allocateSenderTimestamp` — its row;
* `HoptalkRelay.calculateNextEligibleTime` — when the sender has something to do.
-/

import HoptalkRelay.RefreshSessions

set_option relaxedAutoImplicit false
set_option autoImplicit false

namespace HoptalkRelay

open Relational

def candidateLimitPerKind : ℕ := 20

/-- Everything the sender loop needs to send one prepared packet. -/
structure PacketDescriptor where
  packetId : ℕ
  contactId : ℕ
  contactPublicKey : Text
  text : Text
  senderTimestamp : ℤ
  purpose : PacketPurpose
  /-- For replies: the answered request's key. -/
  replyKey : Text
  deriving DecidableEq, Repr

/-! ### The packet's row -/

/-- The larger of now in Unix seconds and the largest stored timestamp + 1. -/
def allocateSenderTimestamp (db : Db) (now : Time) : ℤ :=
  match (db.packets.rows.map OutboundPacket.senderTimestamp).max? with
  | none => unixSeconds now
  | some highestAllocatedTimestamp => max (unixSeconds now) (highestAllocatedTimestamp + 1)

/-- The packet row with its allocated timestamp; a timestamp that is stored already violates the
unique constraint, and allocating once more would give the same one. -/
def insertPreparedPacket (db : Db) (packet : ℕ → ℤ → OutboundPacket)
    (keepsId : ∀ id timestamp, (packet id timestamp).id = id) (now : Time) :
    Except ServiceError (Db × OutboundPacket) :=
  let senderTimestamp := allocateSenderTimestamp db now
  let id := db.packets.nextKey
  match ensureDirectMessageTextIsSendable (packet id senderTimestamp).text with
  | .error reason => .error (.invalidText reason)
  | .ok () =>
      if db.packets.any fun stored => stored.senderTimestamp = senderTimestamp then
        .error .integrity
      else
        .ok ({ db with
            packets := db.packets.insert (fun id => packet id senderTimestamp)
              fun id => keepsId id senderTimestamp },
          packet id senderTimestamp)

def buildPacketDescriptor (packet : OutboundPacket) (contact : Contact) : PacketDescriptor :=
  { packetId := packet.id
    contactId := contact.id
    contactPublicKey := contact.publicKey
    text := packet.text
    senderTimestamp := packet.senderTimestamp
    purpose := packet.purpose
    replyKey := packet.replyKey }

/-! ### Due work -/

/-- The device's deliveries in progress: pending with a round started. -/
def countDeliveriesInProgress (db : Db) (deviceId : ℕ) : ℕ :=
  db.deliveries.count fun delivery =>
    delivery.deviceId = deviceId && delivery.state = .pending && delivery.roundStartedAt.isSome

def isOnNode (db : Db) (deviceId : ℕ) : Bool :=
  (db.contacts.get? deviceId).any fun device => device.nodeSyncState = .onNode

def isDue (nextAttemptAt : Option Time) (now : Time) : Bool := nextAttemptAt.any (· ≤ now)

/-- The order of a due row: its due time, then its id. -/
def dueOrder (nextAttemptAt : Option Time) (id : ℕ) : Time ×ₗ ℕ := toLex (nextAttemptAt.getD 0, id)

/-- A pending delivery is eligible on a device on the node once its round started, or while its
device has a free place. -/
def isDueDeliveryCandidate (db : Db) (now : Time) (maximumActiveDeliveriesPerDevice : ℕ)
    (delivery : MessageDelivery) : Bool :=
  delivery.state = .pending && isDue delivery.nextAttemptAt now && isOnNode db delivery.deviceId &&
    (delivery.roundStartedAt.isSome ||
      countDeliveriesInProgress db delivery.deviceId < maximumActiveDeliveriesPerDevice)

def dueDeliveryCandidates (db : Db) (now : Time) (maximumActiveDeliveriesPerDevice : ℕ) :
    List MessageDelivery :=
  (orderBy (fun delivery => dueOrder delivery.nextAttemptAt delivery.id)
    (db.deliveries.filter (isDueDeliveryCandidate db now maximumActiveDeliveriesPerDevice))).take
      candidateLimitPerKind

def isDueReceiptCandidate (db : Db) (now : Time) (receipt : ReceiptNotification) : Bool :=
  receipt.state = .pending && isDue receipt.nextAttemptAt now && isOnNode db receipt.deviceId

def dueReceiptCandidates (db : Db) (now : Time) : List ReceiptNotification :=
  (orderBy (fun receipt => dueOrder receipt.nextAttemptAt receipt.id)
    (db.receipts.filter (isDueReceiptCandidate db now))).take candidateLimitPerKind

inductive Candidate
  | delivery (delivery : MessageDelivery)
  | receipt (receipt : ReceiptNotification)
  deriving DecidableEq

/-- The due time, then deliveries before receipts, then the id. -/
def orderCandidate : Candidate → Time ×ₗ (ℕ ×ₗ ℕ)
  | .delivery delivery => toLex (delivery.nextAttemptAt.getD 0, toLex (0, delivery.id))
  | .receipt receipt => toLex (receipt.nextAttemptAt.getD 0, toLex (1, receipt.id))

def lockDueCandidates (db : Db) (now : Time) (maximumActiveDeliveriesPerDevice : ℕ) :
    List Candidate :=
  orderBy orderCandidate
    ((dueDeliveryCandidates db now maximumActiveDeliveriesPerDevice).map Candidate.delivery ++
      (dueReceiptCandidates db now).map Candidate.receipt)

/-! ### A delivery part -/

/-- The parts of the current round still to send, leaving out what the device reported
meanwhile. -/
def findPartsLeftInRound (delivery : MessageDelivery) : ℕ :=
  maskWithout delivery.roundPendingPartsMask delivery.partsReceivedMask

/-- Bit n - 1 stands for part n; rounds send parts in ascending order. -/
def findLowestPartNumber (partsMask : ℕ) : Option ℕ :=
  ((List.range (partsMask.log2 + 1)).find? fun partIndex => partsMask.testBit partIndex).map (· + 1)

/-- A failed refresh head stops its session: the messages behind it fail unsent. -/
def failExhaustedDelivery (db : Db) (delivery : MessageDelivery) (now : Time) : Db :=
  let headSessionId := findActiveRefreshSessionId db delivery
  let db := (failDeliveryAfterExhaustedAttempts db delivery now).1
  match headSessionId with
  | none => db
  | some headSessionId => stopRefreshSession db headSessionId now

/-- Nothing of the current round is left: complete it, fail an exhausted delivery, or start the
next round.  Returns whether a new round started. -/
def advanceDeliveryToNewRound (settings : RelaySettings) (db : Db) (delivery : MessageDelivery)
    (partCount : PartCount) (now : Time) : Db × MessageDelivery × Bool :=
  if delivery.roundPendingPartsMask ≠ 0 then
    match completeDeliveryRound settings db delivery
        (findLastRoundPacketSuggestedTimeout db delivery) now with
    | (db, delivery, _) => (db, delivery, false)
  else if delivery.maximumAttempts ≤ delivery.attemptCount then
    (failExhaustedDelivery db delivery now, delivery, false)
  else if delivery.roundStartedAt = none ∧
      settings.maximumActiveDeliveriesPerDevice ≤ countDeliveriesInProgress db delivery.deviceId
  then (db, delivery, false)
  else startDeliveryRound db delivery partCount now

/-- The packet of the lowest part left in the round. -/
def prepareDeliveryPart (db : Db) (delivery : MessageDelivery) (message : Message)
    (sender : User) (device : Contact) (now : Time) (connectionGeneration : ℕ) :
    Except ServiceError (Db × Option PacketDescriptor) :=
  match findLowestPartNumber (findPartsLeftInRound delivery) with
  | none => .ok (db, none)
  | some partNumber =>
      match message.partTexts.getD (partNumber - 1) none with
      | none => .error .value
      | some partText =>
          match formatDeliveryPart sender.username.val message.clientMessageId.val partNumber
              message.partCount.val partText with
          | .error reason => .error (.invalidText reason)
          | .ok text => do
              let (db, packet) ← insertPreparedPacket db
                (fun id senderTimestamp =>
                  { id, senderTimestamp
                    contactId := some device.id
                    purpose := .delivery
                    text
                    messageDeliveryId := some delivery.id
                    partNumber := some partNumber
                    armGeneration := some delivery.armGeneration
                    attemptNumber := some delivery.attemptCount
                    preparedAt := some now
                    connectionGeneration }) (fun _ _ => rfl) now
              return (db, some (buildPacketDescriptor packet device))

def prepareDeliveryPacket (settings : RelaySettings) (db : Db) (delivery : MessageDelivery)
    (now : Time) (connectionGeneration : ℕ) :
    Except ServiceError (Db × Option PacketDescriptor) :=
  -- the rows the delivery is joined with
  match db.messages.get? delivery.messageId, db.contacts.get? delivery.deviceId with
  | some message, some device =>
      match db.users.get? message.senderId with
      | none => .error .integrity
      | some sender =>
          if findPartsLeftInRound delivery = 0 then
            match advanceDeliveryToNewRound settings db delivery message.partCount now with
            | (db, _, false) => .ok (db, none)
            | (db, delivery, true) =>
                prepareDeliveryPart db delivery message sender device now connectionGeneration
          else prepareDeliveryPart db delivery message sender device now connectionGeneration
  | _, _ => .error .integrity

/-! ### A receipt -/

/-- The packet carries the target level read in this transaction. -/
def prepareReceiptPush (db : Db) (receipt : ReceiptNotification) (message : Message)
    (recipient : User) (device : Contact) (now : Time) (connectionGeneration : ℕ) :
    Except ServiceError (Db × Option PacketDescriptor) :=
  match receiptLevelByNumber receipt.targetLevel with
  | none => .error .value
  | some receiptLevel =>
      match formatReceiptPush recipient.username.val message.clientMessageId.val receiptLevel with
      | .error reason => .error (.invalidText reason)
      | .ok text => do
          let (db, packet) ← insertPreparedPacket db
            (fun id senderTimestamp =>
              { id, senderTimestamp
                contactId := some device.id
                purpose := .receipt
                text
                receiptNotificationId := some receipt.id
                receiptLevel := some receipt.targetLevel
                armGeneration := some receipt.armGeneration
                attemptNumber := some receipt.attemptCount
                preparedAt := some now
                connectionGeneration }) (fun _ _ => rfl) now
          return (db, some (buildPacketDescriptor packet device))

def prepareReceiptPacket (db : Db) (receipt : ReceiptNotification) (now : Time)
    (connectionGeneration : ℕ) : Except ServiceError (Db × Option PacketDescriptor) :=
  match db.messages.get? receipt.messageId, db.contacts.get? receipt.deviceId with
  | some message, some device =>
      match db.users.get? message.recipientId with
      | none => .error .integrity
      | some recipient =>
          if receipt.roundPending then
            prepareReceiptPush db receipt message recipient device now connectionGeneration
          else if receipt.maximumAttempts ≤ receipt.attemptCount then
            .ok ((failReceiptAfterExhaustedAttempts db receipt now).1, none)
          else
            match startReceiptAttempt db receipt now with
            | (db, _, false) => .ok (db, none)
            | (db, receipt, true) =>
                prepareReceiptPush db receipt message recipient device now connectionGeneration
  | _, _ => .error .integrity

/-! ### The next packet -/

def prepareCandidatePacket (settings : RelaySettings) (db : Db) (candidate : Candidate)
    (now : Time) (connectionGeneration : ℕ) :
    Except ServiceError (Db × Option PacketDescriptor) :=
  match candidate with
  | .delivery delivery => prepareDeliveryPacket settings db delivery now connectionGeneration
  | .receipt receipt => prepareReceiptPacket db receipt now connectionGeneration

/-- Walk the candidates by due time until one of them gives a packet. -/
def prepareFirstPacket (settings : RelaySettings) (now : Time) (connectionGeneration : ℕ)
    (db : Db) : List Candidate → Except ServiceError (Db × Option PacketDescriptor)
  | [] => .ok (db, none)
  | candidate :: candidates =>
      match prepareCandidatePacket settings db candidate now connectionGeneration with
      | .error serviceError => .error serviceError
      | .ok (db, some packetDescriptor) => .ok (db, some packetDescriptor)
      | .ok (db, none) => prepareFirstPacket settings now connectionGeneration db candidates

/-- Prepare the next delivery part or receipt to send, or none when nothing may be sent now. -/
def prepareNextPacket (settings : RelaySettings) (db : Db) (now : Time)
    (connectionGeneration : ℕ) : Except ServiceError (Db × Option PacketDescriptor) :=
  prepareFirstPacket settings now connectionGeneration db
    (lockDueCandidates db now settings.maximumActiveDeliveriesPerDevice)

/-- Prepare a reply; none drops it, for a contact that is gone or not on the node. -/
def prepareReplyPacket (db : Db) (contactId : ℕ) (replyKey text : Text) (now : Time)
    (connectionGeneration : ℕ) : Except ServiceError (Db × Option PacketDescriptor) :=
  match ensureDirectMessageTextIsSendable text with
  | .error reason => .error (.invalidText reason)
  | .ok () =>
      match db.contacts.get? contactId with
      | none => .ok (db, none)
      | some contact =>
          if contact.nodeSyncState ≠ .onNode then .ok (db, none)
          else do
            let (db, packet) ← insertPreparedPacket db
              (fun id senderTimestamp =>
                { id, senderTimestamp
                  contactId := some contact.id
                  purpose := .reply
                  text
                  replyKey
                  preparedAt := some now
                  connectionGeneration }) (fun _ _ => rfl) now
            return (db, some (buildPacketDescriptor packet contact))

/-! ### The next eligible time -/

def isEligibleDelivery (db : Db) (maximumActiveDeliveriesPerDevice : ℕ)
    (delivery : MessageDelivery) : Bool :=
  delivery.state = .pending && isOnNode db delivery.deviceId &&
    (delivery.roundStartedAt.isSome ||
      countDeliveriesInProgress db delivery.deviceId < maximumActiveDeliveriesPerDevice)

/-- The smallest time; rows without one do not count. -/
def selectEarliestTime (times : List (Option Time)) : Option Time := (times.filterMap id).min?

def earliestEligibleDelivery (db : Db) (maximumActiveDeliveriesPerDevice : ℕ) : Option Time :=
  selectEarliestTime ((db.deliveries.filter
    (isEligibleDelivery db maximumActiveDeliveriesPerDevice)).map MessageDelivery.nextAttemptAt)

def isEligibleReceipt (db : Db) (receipt : ReceiptNotification) : Bool :=
  receipt.state = .pending && isOnNode db receipt.deviceId

def earliestEligibleReceipt (db : Db) : Option Time :=
  selectEarliestTime
    ((db.receipts.filter (isEligibleReceipt db)).map ReceiptNotification.nextAttemptAt)

/-- The earliest due time of what the sender may send; one at or before the clock means that
something is due.  The source takes the clock reading as well and does not look at it. -/
def calculateNextEligibleTime (settings : RelaySettings) (db : Db) (_now : Time) : Option Time :=
  ([earliestEligibleDelivery db settings.maximumActiveDeliveriesPerDevice,
    earliestEligibleReceipt db].filterMap id).min?

end HoptalkRelay
