/-
**What a device reports about messages and receipts: R, K and C.**

The functions of `messaging/reads_and_acknowledgements.py`.  `K` carries the device's complete
received-set for a message; only a set that is all ones by itself, or a read, delivers the message
to that device.  `C` confirms a receipt level.

Main definitions:

* `HoptalkRelay.recordRead`, `HoptalkRelay.recordDeliveryAcknowledgement`,
  `HoptalkRelay.recordReceiptAcknowledgement` — the three reports;
* `HoptalkRelay.deliver`, `HoptalkRelay.completeConfirmedHeadSession` — a confirmed delivery and
  its refresh session;
* `HoptalkRelay.recordMessageConfirmation` — the message's first delivery and first read.
-/

import HoptalkRelay.RefreshSessions

set_option relaxedAutoImplicit false
set_option autoImplicit false

namespace HoptalkRelay

open Relational

def deliveryStatesAConfirmationDelivers : List DeliveryState := [.pending, .queuedForRefresh, .failed]

def deliveryStateLabel : DeliveryState → String
  | .pending => "pending"
  | .queuedForRefresh => "queued_for_refresh"
  | .delivered => "delivered"
  | .failed => "failed"
  | .cancelled => "cancelled"

def receiptStateLabel : ReceiptState → String
  | .pending => "pending"
  | .confirmed => "confirmed"
  | .failed => "failed"
  | .cancelled => "cancelled"

/-- A delivery that was just confirmed, and the refresh session that must complete once the
receipts are done. -/
structure DeliveryConfirmation where
  outcomeSummary : String
  refreshSessionIdToComplete : Option ℕ := none

/-- The user the device is linked to; none for a device that is gone or not signed in. -/
def lockDeviceForKeyShare (db : Db) (deviceId : ℕ) : Option ℕ := db.deviceUserId deviceId

/-- The accepted message (sender, id) addressed to the user, with its sender. -/
def lockIncomingMessage (db : Db) (recipientId : ℕ) (senderUsername : Text)
    (clientMessageId : ℕ) : Option (Message × User) :=
  let isWanted (message : Message) : Bool :=
    message.recipientId = recipientId && message.clientMessageId.val = clientMessageId &&
      (db.users.get? message.senderId).any (fun sender =>
        sender.usernameLookup = normalizeUsernameForLookup senderUsername) &&
      message.acceptedAt.isSome
  (db.messages.first? isWanted).bind fun message =>
    (db.users.get? message.senderId).map fun sender => (message, sender)

def lockDelivery (db : Db) (messageId deviceId : ℕ) : Option MessageDelivery :=
  db.deliveries.first? fun delivery =>
    delivery.messageId = messageId && delivery.deviceId = deviceId

/-- The session whose head the delivery is. -/
def headSessionId (db : Db) (delivery : MessageDelivery) : Option ℕ :=
  if delivery.state = .pending then findActiveRefreshSessionId db delivery else none

/-- A session whose head was delivered moves to its next message, or is complete. -/
def moveSessionToNextMessage (settings : RelaySettings) (db : Db) (headSessionId : Option ℕ)
    (outcomeSummary : String) (now : Time) : Db × DeliveryConfirmation :=
  match headSessionId with
  | none => (db, { outcomeSummary })
  | some headSessionId =>
      match armNextRefreshSessionHead settings db headSessionId now with
      | (db, some _) =>
          (db, { outcomeSummary := outcomeSummary ++ "; the refresh moved to its next message" })
      | (db, none) =>
          (db,
            { outcomeSummary := outcomeSummary ++ "; the refresh is complete"
              refreshSessionIdToComplete := some headSessionId })

/-- Delivered; a delivered head hands its session to the next message. -/
def deliver (settings : RelaySettings) (db : Db) (delivery : MessageDelivery) (now : Time)
    (receivedPartsMask : Option ℕ) (isRead : Bool) : Db × DeliveryConfirmation :=
  let outcomeSummary := "delivered to this device (was " ++ deliveryStateLabel delivery.state ++ ")"
  moveSessionToNextMessage settings
    (markDeliveryDelivered db delivery now receivedPartsMask isRead).1 (headSessionId db delivery)
    outcomeSummary now

def completeConfirmedHeadSession (db : Db) (deliveryConfirmation : DeliveryConfirmation)
    (now : Time) : Db :=
  match deliveryConfirmation.refreshSessionIdToComplete with
  | none => db
  | some refreshSessionId => completeRefreshSession db refreshSessionId now

/-- The columns a confirmation changes. -/
def applyMessageConfirmation (isFirstDelivery isFirstRead : Bool) (now : Time) (row : Message) :
    Message :=
  { row with
    deliveredAt := if isFirstDelivery then some now else row.deliveredAt
    readAt := if isFirstRead then some now else row.readAt }

theorem id_applyMessageConfirmation (isFirstDelivery isFirstRead : Bool) (now : Time)
    (row : Message) : (applyMessageConfirmation isFirstDelivery isFirstRead now row).id = row.id :=
  rfl

/-- The message's first delivery time, and its first read time for a read; true when either was
new. -/
def recordMessageConfirmation (db : Db) (message : Message) (now : Time) (isRead : Bool) :
    Db × Message × Bool :=
  let isFirstDelivery : Bool := message.deliveredAt = none
  let isFirstRead : Bool := isRead && message.readAt = none
  if !isFirstDelivery && !isFirstRead then (db, message, false)
  else
    let change := applyMessageConfirmation isFirstDelivery isFirstRead now
    ({ db with
        messages := db.messages.updateWhere (fun row => row.id = message.id) change
          fun row _ => id_applyMessageConfirmation isFirstDelivery isFirstRead now row },
      change message, true)

/-- What follows a confirmed delivery: the message's confirmation, the receipts when it was new, and
the end of a session whose last head this was. -/
def concludeConfirmation (settings : RelaySettings) (db : Db) (message : Message)
    (deliveryConfirmation : DeliveryConfirmation) (now : Time) (isRead : Bool) : Db :=
  match recordMessageConfirmation db message now isRead with
  | (db, message, messageLevelRose) =>
      let db := if messageLevelRose then raiseReceiptsForMessage settings db message now else db
      completeConfirmedHeadSession db deliveryConfirmation now

/-! ### R -/

structure ReadRequestOutcome where
  reply : ServerMessage
  outcomeSummary : Text
  deriving DecidableEq, Repr

def confirmDeliveryByRead (settings : RelaySettings) (db : Db)
    (delivery : Option MessageDelivery) (now : Time) : Db × DeliveryConfirmation :=
  match delivery with
  | none => (db, { outcomeSummary := "read recorded; no delivery to this device" })
  | some delivery =>
      if delivery.state ∈ deliveryStatesAConfirmationDelivers then
        deliver settings db delivery now none true
      else if delivery.state = .delivered then
        match recordDeliveryRead db delivery now with
        | (db, _, wasFirstRead) =>
            (db,
              { outcomeSummary :=
                  if wasFirstRead then "read recorded" else "read already recorded" })
      else (db, { outcomeSummary := "read recorded; the delivery to this device was cancelled" })

/-- The read of a message the user received, by one of the user's devices. -/
def recordReadOfMessage (settings : RelaySettings) (db : Db) (deviceId : ℕ) (message : Message)
    (now : Time) : Db × DeliveryConfirmation :=
  match confirmDeliveryByRead settings db (lockDelivery db message.id deviceId) now with
  | (db, deliveryConfirmation) =>
      (concludeConfirmation settings db message deliveryConfirmation now true,
        deliveryConfirmation)

/-- Answers `r <sender> <id>`, or `NOT_SIGNED_IN` or `NOT_FOUND`. -/
def recordRead (settings : RelaySettings) (db : Db) (deviceId : ℕ) (request : ReadRequest)
    (now : Time) : Db × ReadRequestOutcome :=
  match lockDeviceForKeyShare db deviceId with
  | none =>
      (db,
        { reply := buildRequestErrorReply .notSignedIn (.read request)
          outcomeSummary := "the device is not signed in".toList })
  | some userId =>
      match lockIncomingMessage db userId request.senderUsername request.messageId with
      | none =>
          (db,
            { reply := buildRequestErrorReply .notFound (.read request)
              outcomeSummary := "no such incoming message".toList })
      | some (message, sender) =>
          match recordReadOfMessage settings db deviceId message now with
          | (db, deliveryConfirmation) =>
              (db,
                { reply := .readReply sender.username.val message.clientMessageId.val
                  outcomeSummary := deliveryConfirmation.outcomeSummary.toList })

/-! ### K -/

/-- A status of a delivery that exists: its set replaces the recorded one, and a set of all ones
delivers the message to the device. -/
def recordDeliveryStatus (settings : RelaySettings) (db : Db) (message : Message)
    (delivery : MessageDelivery) (receivedSet : Text) (now : Time) :
    Except ServiceError (Db × String) :=
  match recordDeliveryAcknowledgementTime db delivery now with
  | (db, delivery) =>
      if delivery.state ∉ deliveryStatesAConfirmationDelivers then
        .ok (db, "no change: the delivery is " ++ deliveryStateLabel delivery.state)
      else
        match convertReceivedSetToPartsMask receivedSet with
        | none => .error .value
        | some receivedPartsMask =>
            if receivedPartsMask ≠ calculateAllPartsMask message.partCount then
              .ok ((recordIncompleteDeliveryStatus settings db delivery receivedPartsMask now).1,
                "received-set " ++ String.ofList receivedSet ++ " recorded")
            else
              match deliver settings db delivery now (some receivedPartsMask) false with
              | (db, deliveryConfirmation) =>
                  .ok (concludeConfirmation settings db message deliveryConfirmation now false,
                    deliveryConfirmation.outcomeSummary)

/-- Never answered; the summary says what changed, for the traffic log. -/
def recordDeliveryAcknowledgement (settings : RelaySettings) (db : Db) (deviceId : ℕ)
    (acknowledgement : DeliveryAcknowledgement) (now : Time) : Except ServiceError (Db × String) :=
  match lockDeviceForKeyShare db deviceId with
  | none => .ok (db, "dropped: the device is not signed in")
  | some userId =>
      match lockIncomingMessage db userId acknowledgement.senderUsername
          acknowledgement.messageId with
      | none => .ok (db, "dropped: no such incoming message")
      | some (message, _) =>
          if ¬ receivedSetMatchesPartCount acknowledgement.receivedSet message.partCount then
            .ok (db, "dropped: the received-set does not match the part count")
          else
            match lockDelivery db message.id deviceId with
            | none => .ok (db, "dropped: no delivery of this message to this device")
            | some delivery =>
                recordDeliveryStatus settings db message delivery acknowledgement.receivedSet now

/-! ### C -/

/-- The accepted message (id, recipient) the user sent. -/
def findOutgoingMessage (db : Db) (senderId : ℕ) (recipientUsername : Text)
    (clientMessageId : ℕ) : Option Message :=
  db.messages.first? fun message =>
    message.senderId = senderId && message.clientMessageId.val = clientMessageId &&
      (db.users.get? message.recipientId).any (fun recipient =>
        recipient.usernameLookup = normalizeUsernameForLookup recipientUsername) &&
      message.acceptedAt.isSome

/-- The confirmed level of this device's receipt rises, capped at the receipt's target. -/
def recordReceiptAcknowledgement (db : Db) (deviceId : ℕ)
    (acknowledgement : ReceiptAcknowledgement) (now : Time) : Db × String :=
  match lockDeviceForKeyShare db deviceId with
  | none => (db, "dropped: the device is not signed in")
  | some userId =>
      match findOutgoingMessage db userId acknowledgement.recipientUsername
          acknowledgement.messageId with
      | none => (db, "dropped: no such outgoing message")
      | some message =>
          match db.receipts.first? fun receipt =>
              receipt.messageId = message.id && receipt.deviceId = deviceId with
          | none => (db, "dropped: no receipt of this message to this device")
          | some receipt =>
              match recordReceiptConfirmation db receipt
                  (receiptLevelNumber acknowledgement.receiptLevel) now with
              | (db, receipt, true) =>
                  (db, "receipt confirmed at level " ++ toString receipt.confirmedLevel ++ " of " ++
                    toString receipt.targetLevel)
              | (db, receipt, false) =>
                  (db, "no change: the receipt is " ++ receiptStateLabel receipt.state)

end HoptalkRelay
