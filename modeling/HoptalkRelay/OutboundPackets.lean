/-
**The life of a packet after it was prepared.**

The functions of `messaging/outbound_packets.py` and the deadline decision of
`messaging/route_reset_evidence.py`.  A firmware acknowledgement only says that the other node
decrypted the packet.  An outcome counts a part or a receipt as sent only while the row still has
the arm generation and the attempt number the packet copied.

Main definitions:

* `HoptalkRelay.recordSendOutcome` — the node's answer to a send;
* `HoptalkRelay.recordNodeAcknowledgement`, `HoptalkRelay.recordAcknowledgementDeadlinePassed` —
  the firmware acknowledgement, or its timeout;
* `HoptalkRelay.markPacketsAwaitingAcknowledgementDropped`,
  `HoptalkRelay.recoverOutboundPacketsAtStartup` — restarts;
* `HoptalkRelay.pruneOutboundPackets` — the traffic log's retention.
-/

import HoptalkRelay.OutboundScheduling

set_option relaxedAutoImplicit false
set_option autoImplicit false

namespace HoptalkRelay

open Relational

/-! ### The node's answer -/

/-- The contact is not on the node. -/
def errCodeNotFound : ℕ := 2

/-- The node's packet pool is exhausted. -/
def errCodeTableFull : ℕ := 3

def lateAcknowledgementMatchMinutes : ℕ := 10

inductive NodeSendOutcome
  | queuedOnNode (route : PacketRoute) (expectedAcknowledgementCode : Text)
      (suggestedTimeoutMilliseconds : ℕ)
  | rejectedByNode (nodeErrorCode : ℕ)
  /-- The command timed out: the node may have queued the packet. -/
  | outcomeUnknown
  deriving DecidableEq, Repr

/-- Queued, an unknown outcome, and any rejection other than "pool full" or "not found". -/
def countsAsSent : NodeSendOutcome → Bool
  | .rejectedByNode nodeErrorCode =>
      nodeErrorCode ≠ errCodeNotFound && nodeErrorCode ≠ errCodeTableFull
  | _ => true

def markContactMissingOnNode (db : Db) (contactId : ℕ) : Db :=
  { db with
    contacts := db.contacts.updateWhere (fun row => row.id = contactId) fun row =>
      { row with
        nodeSyncState := .pendingAdd
        nodeSyncError :=
          "The node did not know this contact when a message was sent to it.".toList } }

/-- The delivery the packet belongs to, while it still is in the packet's arm and attempt. -/
def findDeliveryOfPacket (db : Db) (packet : OutboundPacket) (deliveryId : ℕ) :
    Option MessageDelivery :=
  db.deliveries.first? fun delivery =>
    delivery.id = deliveryId && delivery.state = .pending &&
      packet.armGeneration = some delivery.armGeneration &&
      packet.attemptNumber = some delivery.attemptCount

/-- The receipt the packet belongs to, while its attempt is still to be sent. -/
def findReceiptOfPacket (db : Db) (packet : OutboundPacket) (receiptId : ℕ) :
    Option ReceiptNotification :=
  db.receipts.first? fun receipt =>
    receipt.id = receiptId && receipt.state = .pending &&
      packet.armGeneration = some receipt.armGeneration &&
      packet.attemptNumber = some receipt.attemptCount && receipt.roundPending

def countPacketAsSent (settings : RelaySettings) (db : Db) (packet : OutboundPacket)
    (suggestedTimeoutMilliseconds : Option ℕ) (now : Time) : Db :=
  match packet.messageDeliveryId, packet.partNumber, packet.receiptNotificationId with
  | some deliveryId, some partNumber, _ =>
      match findDeliveryOfPacket db packet deliveryId with
      | none => db
      | some delivery =>
          (recordDeliveryPartSent settings db delivery partNumber suggestedTimeoutMilliseconds
            now).1
  | _, _, some receiptId =>
      match findReceiptOfPacket db packet receiptId with
      | none => db
      | some receipt =>
          (recordReceiptPacketSent settings db receipt suggestedTimeoutMilliseconds now).1
  | _, _, none => db

def buildPacketOutcomeChanges (settings : RelaySettings) (outcome : NodeSendOutcome) (now : Time)
    (packet : OutboundPacket) : OutboundPacket :=
  match outcome with
  | .queuedOnNode route expectedAcknowledgementCode suggestedTimeoutMilliseconds =>
      { packet with
        state := .queuedOnNode
        route := some route
        expectedAcknowledgementCode := expectedAcknowledgementCode.map Char.toLower
        suggestedTimeoutMilliseconds := some suggestedTimeoutMilliseconds
        queuedAt := some now
        acknowledgementDeadlineAt :=
          some (now + calculateAcknowledgementWait settings.engineTiming
            (some suggestedTimeoutMilliseconds)) }
  | .rejectedByNode nodeErrorCode =>
      { packet with state := .rejectedByNode, nodeErrorCode := some nodeErrorCode }
  | .outcomeUnknown => { packet with state := .outcomeUnknown }

theorem id_buildPacketOutcomeChanges (settings : RelaySettings) (outcome : NodeSendOutcome)
    (now : Time) (packet : OutboundPacket) :
    (buildPacketOutcomeChanges settings outcome now packet).id = packet.id := by
  cases outcome <;> rfl

structure RecordedSendOutcome where
  packetId : ℕ
  contactId : Option ℕ
  purpose : PacketPurpose
  packetState : PacketState
  route : Option PacketRoute
  expectedAcknowledgementCode : Text
  queuedAt : Option Time
  /-- Set while the packet awaits its firmware acknowledgement. -/
  acknowledgementDeadlineAt : Option Time
  /-- The whole sender backs off; the part stays in its round and no attempt is spent. -/
  nodePacketPoolFull : Bool := false
  /-- The node does not hold the contact, which is to be added again. -/
  contactNeedsReconciliation : Bool := false
  deriving DecidableEq, Repr

def describeRecordedOutcome (packet : OutboundPacket) : RecordedSendOutcome :=
  { packetId := packet.id
    contactId := packet.contactId
    purpose := packet.purpose
    packetState := packet.state
    route := packet.route
    expectedAcknowledgementCode := packet.expectedAcknowledgementCode
    queuedAt := packet.queuedAt
    acknowledgementDeadlineAt :=
      if packet.state = .queuedOnNode then packet.acknowledgementDeadlineAt else none }

def suggestedTimeoutOfOutcome : NodeSendOutcome → Option ℕ
  | .queuedOnNode _ _ suggestedTimeoutMilliseconds => some suggestedTimeoutMilliseconds
  | _ => none

/-- What the node's answer changes beside the packet's own row: a contact the node does not hold is
to be added again, and a packet that counts as sent advances what it carried. -/
def recordOutcomeBesidePacket (settings : RelaySettings) (db : Db) (packet : OutboundPacket)
    (outcome : NodeSendOutcome) (now : Time) : Db :=
  let db :=
    match packet.contactId with
    | some contactId =>
        if outcome = .rejectedByNode errCodeNotFound then markContactMissingOnNode db contactId
        else db
    | none => db
  if countsAsSent outcome then
    countPacketAsSent settings db packet (suggestedTimeoutOfOutcome outcome) now
  else db

/-- Record the node's answer; a packet whose outcome was already recorded is left alone. -/
def recordSendOutcome (settings : RelaySettings) (db : Db) (packetId : ℕ)
    (outcome : NodeSendOutcome) (now : Time) : Db × Option RecordedSendOutcome :=
  match db.packets.get? packetId with
  | none => (db, none)
  | some packet =>
      if packet.state ≠ .prepared then (db, some (describeRecordedOutcome packet))
      else
        let isContactMissingOnNode : Bool := outcome = .rejectedByNode errCodeNotFound
        let isNodePacketPoolFull : Bool := outcome = .rejectedByNode errCodeTableFull
        let db := recordOutcomeBesidePacket settings db packet outcome now
        let db :=
          { db with
            packets := db.packets.updateWhere
              (fun row => row.id = packetId && row.state = .prepared)
              (buildPacketOutcomeChanges settings outcome now)
              fun row _ => id_buildPacketOutcomeChanges settings outcome now row }
        (db, some
          { describeRecordedOutcome (buildPacketOutcomeChanges settings outcome now packet) with
            nodePacketPoolFull := isNodePacketPoolFull
            contactNeedsReconciliation := isContactMissingOnNode })

/-! ### Firmware acknowledgements -/

def packetStatesAwaitingAcknowledgement : List PacketState :=
  [.queuedOnNode, .acknowledgementTimedOut]

structure AcknowledgedPacket where
  packetId : ℕ
  contactId : Option ℕ
  /-- False for a late acknowledgement of a packet whose deadline had passed. -/
  wasAwaitingAcknowledgement : Bool
  deriving DecidableEq, Repr

structure AcknowledgementTimeout where
  packetId : ℕ
  contactId : Option ℕ
  purpose : PacketPurpose
  routeResetPending : Bool
  deriving DecidableEq, Repr

/-- Every packet that matches the code is acknowledged; a pending route reset is settled as
skipped. -/
def recordNodeAcknowledgement (db : Db) (acknowledgementCode : Text)
    (roundTripMilliseconds : Option ℕ) (now : Time) : Db × List AcknowledgedPacket :=
  let isMatching (packet : OutboundPacket) : Bool :=
    packet.expectedAcknowledgementCode = acknowledgementCode.map Char.toLower &&
      packetStatesAwaitingAcknowledgement.contains packet.state &&
      packet.queuedAt.any
        fun queuedAt => now - durationOfMinutes lateAcknowledgementMatchMinutes ≤ queuedAt
  ({ db with
      packets := db.packets.updateWhere isMatching fun packet =>
        { packet with
          state := .nodeAcknowledged
          acknowledgedAt := some now
          roundTripMilliseconds := roundTripMilliseconds
          routeResetState :=
            if packet.routeResetState = .pending then .skippedLateAcknowledgement
            else packet.routeResetState
          routeResetDecidedAt :=
            if packet.routeResetState = .pending then some now else packet.routeResetDecidedAt } },
    (db.packets.filter isMatching).map fun packet =>
      { packetId := packet.id
        contactId := packet.contactId
        wasAwaitingAcknowledgement := packet.state = .queuedOnNode })

def hasPathUpdateAfter (lastPathUpdateAt queuedAt : Option Time) : Bool :=
  match lastPathUpdateAt, queuedAt with
  | some updated, some queued => queued < updated
  | _, _ => false

/-- A flooded packet needs no reset; a direct one does, unless the route changed after it was
queued. -/
def decideRouteResetAtDeadline (route : Option PacketRoute) (queuedAt lastPathUpdateAt : Option Time) :
    RouteResetState :=
  if route ≠ some .direct then .notApplicable
  else if hasPathUpdateAfter lastPathUpdateAt queuedAt then .skippedPathUpdate
  else .pending

/-- The packet's firmware acknowledgement did not come in time; none when it came meanwhile. -/
def recordAcknowledgementDeadlinePassed (db : Db) (packetId : ℕ) (now : Time) :
    Db × Option AcknowledgementTimeout :=
  match db.packets.first? fun packet => packet.id = packetId && packet.state = .queuedOnNode with
  | none => (db, none)
  | some packet =>
      let lastPathUpdateAt :=
        (packet.contactId.bind db.contacts.get?).bind Contact.lastPathUpdateAt
      let routeResetState :=
        decideRouteResetAtDeadline packet.route packet.queuedAt lastPathUpdateAt
      ({ db with
          packets := db.packets.updateWhere
            (fun row => row.id = packetId && row.state = .queuedOnNode) fun row =>
              { row with
                state := .acknowledgementTimedOut
                routeResetState := routeResetState
                routeResetDecidedAt :=
                  if routeResetState = .skippedPathUpdate then some now else none } },
        some
          { packetId := packet.id
            contactId := packet.contactId
            purpose := packet.purpose
            routeResetPending := routeResetState = .pending })

/-! ### Restarts and clean-up -/

/-- At teardown and start-up: no route decision is taken. -/
def markPacketsAwaitingAcknowledgementDropped (db : Db) (now : Time) : Db :=
  { db with
    packets := db.packets.updateWhere (fun row => row.state = .queuedOnNode) fun row =>
      { row with
        state := .acknowledgementTimedOut
        routeResetState := .droppedByRestart
        routeResetDecidedAt := some now } }

def dropPendingRouteResets (db : Db) (now : Time) : Db :=
  { db with
    packets := db.packets.updateWhere (fun row => row.routeResetState = .pending) fun row =>
      { row with routeResetState := .droppedByRestart, routeResetDecidedAt := some now } }

/-- The worker died between preparing and recording: the part is sent again. -/
def markPreparedPacketsOutcomeUnknown (db : Db) : Db :=
  { db with
    packets := db.packets.updateWhere (fun row => row.state = .prepared) fun row =>
      { row with state := .outcomeUnknown } }

/-- Start-up recovery of the packet table, before the node is opened. -/
def recoverOutboundPacketsAtStartup (db : Db) (now : Time) : Db :=
  dropPendingRouteResets
    (markPacketsAwaitingAcknowledgementDropped (markPreparedPacketsOutcomeUnknown db) now) now

/-- The packets the retention drops. -/
def isPrunedPacket (settings : RelaySettings) (now : Time) (packet : OutboundPacket) : Bool :=
  packet.preparedAt.any fun preparedAt =>
    preparedAt < now - durationOfDays settings.logRetentionDays

/-- Delete the outbound packets older than the retention. -/
def pruneOutboundPackets (settings : RelaySettings) (db : Db) (now : Time) : Db :=
  { db with packets := db.packets.deleteWhere (isPrunedPacket settings now) }

end HoptalkRelay
