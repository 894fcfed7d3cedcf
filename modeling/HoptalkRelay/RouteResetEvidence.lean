/-
**Route resets.**

The functions of `messaging/route_reset_evidence.py` that settle the packets whose deadline passed:
a pending reset is skipped when the node learned a new route meanwhile or when the device proved in
the protocol that the packet arrived; the worker resets the route for the others and records it.

Main definitions:

* `HoptalkRelay.RouteResetSettlement` — the decision about the packets of one contact;
* `HoptalkRelay.hasApplicationEvidence` — the device showed that the packet arrived;
* `HoptalkRelay.settlePendingRouteResets`, `HoptalkRelay.recordRouteResetPerformed` — the two
  transactions of a settlement.
-/

import HoptalkRelay.RequestProcessing

set_option relaxedAutoImplicit false
set_option autoImplicit false

namespace HoptalkRelay

open Relational

/-- The requests that may prove a reply arrived: a handful is enough. -/
def replyEvidenceRequestLimit : ℕ := 20

/-- A reply whose route was reset: sent once more, if the reply queue agrees. -/
structure ReplyResendCandidate where
  packetId : ℕ
  contactId : ℕ
  replyKey : Text
  text : Text
  deriving DecidableEq, Repr

/-- The pending route resets of one contact, settled right before its next packet. -/
structure RouteResetSettlement where
  contactId : ℕ
  packetIdsNeedingReset : List ℕ
  repliesToResend : List ReplyResendCandidate
  deriving DecidableEq, Repr

def RouteResetSettlement.needsReset (settlement : RouteResetSettlement) : Bool :=
  settlement.packetIdsNeedingReset ≠ []

/-! ### Evidence -/

/-- A status received after the send that reports the packet's part. -/
def hasDeliveryEvidence (db : Db) (packet : OutboundPacket) (queuedAt : Time) : Bool :=
  match packet.messageDeliveryId, packet.partNumber with
  | some deliveryId, some partNumber =>
      (db.deliveries.first? fun delivery => delivery.id = deliveryId &&
          delivery.lastAcknowledgementReceivedAt.any fun receivedAt => queuedAt < receivedAt).any
        fun delivery => delivery.partsReceivedMask.testBit (partNumber - 1)
  | _, _ => false

/-- A confirmation received after the send, of at least the level the packet carried. -/
def hasReceiptEvidence (db : Db) (packet : OutboundPacket) (queuedAt : Time) : Bool :=
  match packet.receiptNotificationId, packet.receiptLevel with
  | some receiptNotificationId, some receiptLevel =>
      db.receipts.any fun receipt => receipt.id = receiptNotificationId &&
        (receipt.lastConfirmationReceivedAt.any fun receivedAt => queuedAt < receivedAt) &&
        receiptLevel ≤ receipt.confirmedLevel
  | _, _ => false

/-- A later request of another kind from the device: the client moved on, so it got the answer. -/
def hasReplyEvidence (inbox : Table InboundDirectMessage) (packet : OutboundPacket)
    (queuedAt : Time) : Bool :=
  match packet.contactId with
  | none => false
  | some contactId =>
      let laterRequests := (inbox.filter fun row =>
        row.contactId = some contactId && queuedAt < row.receivedAt).take replyEvidenceRequestLimit
      laterRequests.any fun row =>
        ((parseDirectMessageText row.text).bind fun parsedDirectMessage =>
          buildReplyKeyForDirectMessage parsedDirectMessage row.id).any (· ≠ packet.replyKey)

/-- The device showed in the protocol that this message arrived after it was queued. -/
def hasApplicationEvidence (state : RelayDb) (packet : OutboundPacket) : Bool :=
  match packet.queuedAt with
  | none => false
  | some queuedAt =>
      match packet.purpose with
      | .delivery => hasDeliveryEvidence state.db packet queuedAt
      | .receipt => hasReceiptEvidence state.db packet queuedAt
      | .reply => hasReplyEvidence state.inbox packet queuedAt

/-! ### The transactions -/

/-- Decide one pending reset; false when it was decided meanwhile. -/
def settleRouteReset (db : Db) (packetId : ℕ) (routeResetState : RouteResetState) (now : Time) :
    Db × Bool :=
  let isUpdated (row : OutboundPacket) : Bool :=
    row.id = packetId && row.routeResetState = .pending
  ({ db with
      packets := db.packets.updateWhere isUpdated fun row =>
        { row with routeResetState, routeResetDecidedAt := some now } },
    db.packets.count isUpdated = 1)

/-- Decide the resets of these packets; the ones that need one are left pending. -/
def settlePackets (lastPathUpdateAt : Option Time) (now : Time) :
    RelayDb → List OutboundPacket → RelayDb × List OutboundPacket
  | state, [] => (state, [])
  | state, packet :: packets =>
      if hasPathUpdateAfter lastPathUpdateAt packet.queuedAt then
        settlePackets lastPathUpdateAt now
          { state with db := (settleRouteReset state.db packet.id .skippedPathUpdate now).1 }
          packets
      else if hasApplicationEvidence state packet then
        settlePackets lastPathUpdateAt now
          { state with
            db := (settleRouteReset state.db packet.id .skippedApplicationEvidence now).1 }
          packets
      else
        let (state, packetsNeedingReset) := settlePackets lastPathUpdateAt now state packets
        (state, packet :: packetsNeedingReset)

/-- A reply is sent again only while it is the newest one for its request and still young. -/
def findReplyToResend? (settings : RelaySettings) (db : Db) (now : Time)
    (packet : OutboundPacket) : Option ReplyResendCandidate :=
  match packet.purpose, packet.contactId, packet.preparedAt with
  | .reply, some contactId, some preparedAt =>
      if durationOfSeconds settings.engineTiming.replyResendMaximumAgeSeconds ≤
          now - preparedAt then none
      else if db.packets.any fun row => row.contactId = some contactId && row.purpose = .reply &&
          row.replyKey = packet.replyKey && packet.id < row.id then none
      else
        some { packetId := packet.id, contactId, replyKey := packet.replyKey, text := packet.text }
  | _, _, _ => none

/-- Decide every pending route reset of the contact's timed-out packets, each on its own
evidence. -/
def settlePendingRouteResets (settings : RelaySettings) (state : RelayDb) (contactId : ℕ)
    (now : Time) : RelayDb × RouteResetSettlement :=
  let lastPathUpdateAt := (state.db.contacts.get? contactId).bind Contact.lastPathUpdateAt
  let pendingPackets := state.db.packets.filter fun packet =>
    packet.contactId = some contactId && packet.routeResetState = .pending
  let (state, packetsNeedingReset) := settlePackets lastPathUpdateAt now state pendingPackets
  (state,
    { contactId
      packetIdsNeedingReset := packetsNeedingReset.map OutboundPacket.id
      repliesToResend :=
        packetsNeedingReset.filterMap (findReplyToResend? settings state.db now) })

/-- The worker reset the path for these packets' contact; the next packet to it floods. -/
def recordRouteResetPerformed (db : Db) (packetIds : List ℕ) (now : Time) : Db × ℕ :=
  let isUpdated (row : OutboundPacket) : Bool :=
    packetIds.contains row.id && row.routeResetState = .pending
  ({ db with
      packets := db.packets.updateWhere isUpdated fun row =>
        { row with routeResetState := .performed, routeResetDecidedAt := some now } },
    db.packets.count isUpdated)

end HoptalkRelay
