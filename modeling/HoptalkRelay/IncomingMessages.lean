/-
**Receiving a message part by part, and its fan-out.**

The functions of `messaging/incoming_messages.py` and `messaging/fan_out.py`.  A message row
exists from its first part.  The part that completes it creates its deliveries in the same
transaction: one per device the recipient has at that moment.

Main definitions:

* `HoptalkRelay.acceptMessagePart` — the `M` request;
* `HoptalkRelay.lockOrCreateMessage`, `HoptalkRelay.findPartConflict`, `HoptalkRelay.storePart`,
  `HoptalkRelay.acceptMessage`, `HoptalkRelay.buildReceivedSet` — its steps;
* `HoptalkRelay.createDeliveriesForAcceptedMessage` — the fan-out;
* `HoptalkRelay.deleteExpiredIncompleteMessages` — uploads that were never completed.
-/

import HoptalkRelay.RefreshSessions
import Mathlib.Tactic.Simps.Basic

set_option relaxedAutoImplicit false
set_option autoImplicit false

namespace HoptalkRelay

open Relational

/-! ### Fan-out -/

/-- The active sessions of the devices with the peer, as pairs of a device and a session. -/
def activeSessionIdsByDeviceId (db : Db) (deviceIds : List ℕ) (peerId : ℕ) : List (ℕ × ℕ) :=
  (db.sessions.filter fun session =>
    deviceIds.contains session.deviceId && session.peerId = peerId &&
      session.state = .active).map fun session => (session.deviceId, session.id)

/-- The delivery of an accepted message to one device: due at once, or queued at the end of the
device's session with the sender. -/
def createDeliveryForDevice (settings : RelaySettings) (messageId : ℕ)
    (activeSessionIds : List (ℕ × ℕ)) (now : Time) (db : Db) (deviceId : ℕ) : Db :=
  match activeSessionIds.lookup deviceId with
  | none => createPendingDelivery settings db messageId deviceId now
  | some activeSessionId =>
      createRefreshOwnedDelivery settings db messageId deviceId activeSessionId now

/-- The sessions the message joined count one message more. -/
def addToSessionTotals (db : Db) (activeSessionIds : List (ℕ × ℕ)) : Db :=
  { db with
    sessions := db.sessions.updateWhere
      (fun session => (activeSessionIds.map Prod.snd).contains session.id)
      fun session => { session with messagesTotal := session.messagesTotal + 1 } }

/-- One delivery per device the recipient has at this moment; returns how many. -/
def createDeliveriesForAcceptedMessage (settings : RelaySettings) (db : Db) (message : Message)
    (now : Time) : Db × ℕ :=
  let recipientDeviceIds := db.deviceIdsOfUser message.recipientId
  let activeSessionIds := activeSessionIdsByDeviceId db recipientDeviceIds message.senderId
  let db := recipientDeviceIds.foldl
    (createDeliveryForDevice settings message.id activeSessionIds now) db
  (addToSessionTotals db activeSessionIds, recipientDeviceIds.length)

/-! ### One part -/

structure MessagePartOutcome where
  reply : ServerMessage
  outcomeSummary : Text
  /-- A status with zeros goes out only once no new part arrived for some seconds. -/
  isIncompleteStatus : Bool := false
  deriving DecidableEq, Repr

def buildPartErrorOutcome (errorCode : ErrorCode) (part : MessagePartRequest) (reason : Text) :
    MessagePartOutcome :=
  { reply := buildRequestErrorReply errorCode (.messagePart part)
    outcomeSummary := reason }

/-- Both users must still exist and the device must still be the sender's. -/
def lockSenderRecipientAndDevice (db : Db) (senderId recipientId deviceId : ℕ) :
    Except ServiceError Unit :=
  let lockedUsers := db.users.filter fun user => [senderId, recipientId].contains user.id
  if lockedUsers.length ≠ 2 ∨ db.deviceUserId deviceId ≠ some senderId then
    .error .lockedRowChanged
  else .ok ()

/-- A message of which no part is held. -/
@[simps]
def newMessage (senderId recipientId deviceId : ℕ) (clientMessageId : MessageId)
    (partCount : PartCount) (now : Time) (id : ℕ) : Message :=
  { id, senderId
    senderDeviceId := some deviceId
    recipientId, clientMessageId, partCount
    partTexts := List.replicate partCount.val none
    createdAt := now
    lastPartAt := now }

/-- The message under the sender's id, created with no part held when there is none. -/
def lockOrCreateMessage (db : Db) (senderId recipientId deviceId : ℕ) (part : MessagePartRequest)
    (partCount : PartCount) (now : Time) : Except ServiceError (Db × Message) :=
  match db.messages.first? fun message =>
      message.senderId = senderId && message.clientMessageId.val = part.messageId with
  | some existingMessage => .ok (db, existingMessage)
  | none =>
      -- the check constraint of the messages table refuses an id out of range
      if h : messageIdMinimum ≤ part.messageId ∧ part.messageId ≤ messageIdMaximum then
        let create :=
          newMessage senderId recipientId deviceId ⟨part.messageId, h⟩ partCount now
        .ok ({ db with messages := db.messages.insert create fun _ => rfl },
          create db.messages.nextKey)
      else .error .integrity

/-- The reason the part cannot belong to this message, or the empty text when it can. -/
def findPartConflict (message : Message) (recipientId deviceId : ℕ) (part : MessagePartRequest) :
    Text :=
  if message.recipientId ≠ recipientId then
    "the id is used by a message to another recipient".toList
  else if message.partCount.val ≠ part.partCount then
    "the id is used by a message with another part count".toList
  else
    let heldPartText := message.partTexts.getD (part.partNumber - 1) none
    if heldPartText.any (· ≠ part.partText) then
      "part ".toList ++ decimal part.partNumber ++ " is held with another text".toList
    else if message.acceptedAt = none ∧ heldPartText = none ∧
        message.senderDeviceId ≠ some deviceId then
      "only the device that sent the first part may add parts to an incomplete message".toList
    else []

/-- The message with the part; a repeated part of an incomplete message still keeps the upload
alive. -/
@[simps]
def messageWithPart (message : Message) (part : MessagePartRequest) (now : Time) : Message :=
  { message with
    partTexts :=
      if message.partTexts.getD (part.partNumber - 1) none = none then
        message.partTexts.set (part.partNumber - 1) (some part.partText)
      else message.partTexts
    lastPartAt := if message.acceptedAt = none then now else message.lastPartAt }

/-- Returns whether the part was new. -/
def storePart (db : Db) (message : Message) (part : MessagePartRequest) (now : Time) :
    Db × Message × Bool :=
  let partWasNew : Bool := message.partTexts.getD (part.partNumber - 1) none = none
  let message := messageWithPart message part now
  ({ db with
      messages := db.messages.updateWhere (fun row => row.id = message.id) fun row =>
        { row with partTexts := message.partTexts, lastPartAt := message.lastPartAt } },
    message, partWasNew)

/-- The text is the parts in their order. -/
def markMessageAccepted (db : Db) (message : Message) (now : Time) : Db × Message :=
  let message :=
    { message with
      text := some (message.partTexts.filterMap id).flatten
      acceptedAt := some now }
  ({ db with
      messages := db.messages.updateWhere (fun row => row.id = message.id) fun row =>
        { row with text := message.text, acceptedAt := message.acceptedAt } },
    message)

/-- Every part is held: the text is set and the deliveries are created. -/
def acceptMessage (settings : RelaySettings) (db : Db) (message : Message) (now : Time) :
    Db × Message × ℕ :=
  match markMessageAccepted db message now with
  | (db, message) =>
      match createDeliveriesForAcceptedMessage settings db message now with
      | (db, deliveryCount) => (db, message, deliveryCount)

/-- The mask of the parts a message holds. -/
def heldPartsMask (partTexts : List (Option Text)) : ℕ :=
  partTexts.zipIdx.foldl (fun mask part =>
    match part with
    | (some _, partIndex) => mask ||| 2 ^ partIndex
    | (none, _) => mask) 0

def buildReceivedSet (message : Message) : Except ServiceError Text :=
  match convertPartsMaskToReceivedSet (heldPartsMask message.partTexts) message.partCount with
  | some receivedSet => .ok receivedSet
  | none => .error .value

theorem partCount_of_isValidPartNumbering {partNumber partCount : ℕ}
    (h : isValidPartNumbering partNumber partCount = true) :
    1 ≤ partCount ∧ partCount ≤ maximumPartCount := by
  simp only [isValidPartNumbering, Bool.and_eq_true, decide_eq_true_eq] at h
  exact ⟨h.1.1.trans h.1.2, h.2⟩

/-- Store a part of a message that exists, and accept the message when it was the last one. -/
def storePartOfMessage (settings : RelaySettings) (db : Db) (message : Message)
    (recipient : User) (part : MessagePartRequest) (now : Time) :
    Except ServiceError (Db × MessagePartOutcome) := do
  let (db, message, partWasNew) := storePart db message part now
  let partSummary := "part ".toList ++ decimal part.partNumber ++ '/' :: decimal part.partCount ++
    (if partWasNew then " stored" else " already held").toList
  let (db, message, partSummary) :=
    if message.acceptedAt = none ∧ message.partTexts.all Option.isSome then
      match acceptMessage settings db message now with
      | (db, message, deliveryCount) =>
          (db, message, partSummary ++ "; message accepted with ".toList ++ decimal deliveryCount ++
            " deliveries".toList)
    else (db, message, partSummary)
  let receivedSet ← buildReceivedSet message
  return (db,
    { reply := .sendStatusReply recipient.username.val part.messageId receivedSet
      outcomeSummary := partSummary
      isIncompleteStatus := message.acceptedAt = none })

/-- Answers `k <recipient> <id> <received-set>`, or `NOT_SIGNED_IN`, `NO_SUCH_USER`, `SELF`,
`PART_INVALID` or `ID_CONFLICT`. -/
def acceptMessagePart (settings : RelaySettings) (db : Db) (deviceId : ℕ)
    (part : MessagePartRequest) (now : Time) : Except ServiceError (Db × MessagePartOutcome) :=
  match db.deviceUserId deviceId with
  | none => .ok (db, buildPartErrorOutcome .notSignedIn part "the device is not signed in".toList)
  | some senderId =>
      match db.userByLookup (normalizeUsernameForLookup part.recipientUsername) with
      | none => .ok (db, buildPartErrorOutcome .noSuchUser part "no such recipient".toList)
      | some recipient =>
          if recipient.id = senderId then
            .ok (db, buildPartErrorOutcome .self part "the recipient is the sender".toList)
          else do
            lockSenderRecipientAndDevice db senderId recipient.id deviceId
            if h : isValidPartNumbering part.partNumber part.partCount = true ∧
                isValidPartText part.partText = true then
              let (lockedDb, message) ← lockOrCreateMessage db senderId recipient.id deviceId part
                ⟨part.partCount, partCount_of_isValidPartNumbering h.1⟩ now
              let conflictReason := findPartConflict message recipient.id deviceId part
              if conflictReason ≠ [] then
                return (lockedDb, buildPartErrorOutcome .idConflict part conflictReason)
              else storePartOfMessage settings lockedDb message recipient part now
            else
              return (db, buildPartErrorOutcome .partInvalid part
                "invalid part number, count or text".toList)

/-! ### Uploads that were never completed -/

def incompleteMessageRetentionHours : ℕ := 24

/-- The incomplete messages whose last part arrived 24 hours ago. -/
def isExpiredIncompleteMessage (now : Time) (message : Message) : Bool :=
  message.acceptedAt = none &&
    message.lastPartAt ≤ now - durationOfHours incompleteMessageRetentionHours

end HoptalkRelay
