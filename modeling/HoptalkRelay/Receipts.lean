/-
**The state machine of one message's receipts to one device of its sender.**

The functions of `messaging/receipts.py`.  `targetLevel` and `confirmedLevel` only grow, and the
confirmed level never passes the target; leaving `cancelled` chooses the state by comparing the
two.

Main definitions:

* `HoptalkRelay.readMessageLevel` — the level a message has reached;
* `HoptalkRelay.updateLockedReceipt` — the compare-and-set every transition goes through;
* `HoptalkRelay.raiseReceiptsForMessage`, `HoptalkRelay.raiseReceiptToRead` — a message was
  delivered or read;
* `HoptalkRelay.startReceiptAttempt`, `HoptalkRelay.recordReceiptPacketSent`,
  `HoptalkRelay.recordReceiptConfirmation` — attempts;
* `HoptalkRelay.rearmReceiptsForRefresh`, `HoptalkRelay.cancelDeviceReceiptsForRelink` — refreshes
  and relinks.
-/

import HoptalkRelay.Models

set_option relaxedAutoImplicit false
set_option autoImplicit false

namespace HoptalkRelay

open Relational

def deliveredLevel : ℕ := 1

def readLevel : ℕ := 2

def receiptStatesARefreshRearms : List ReceiptState := [.pending, .failed, .cancelled]

/-- 2 once the message was read, 1 once it was delivered, 0 before. -/
def readMessageLevel (message : Message) : ℕ :=
  if message.readAt.isSome then readLevel
  else if message.deliveredAt.isSome then deliveredLevel
  else 0

/-- Apply the changes if the row is in one of `fromStates` and unchanged since the caller read it. -/
def updateLockedReceipt (db : Db) (receipt : ReceiptNotification) (fromStates : List ReceiptState)
    (now : Time) (changes : ReceiptNotification → ReceiptNotification → ReceiptNotification)
    (keepsId : ∀ stored row, (changes stored row).id = row.id := by intros; rfl) :
    Db × ReceiptNotification × Bool :=
  if receipt.state ∉ fromStates then (db, receipt, false)
  else
    let isUnchanged (row : ReceiptNotification) : Bool :=
      row.id = receipt.id && row.state = receipt.state &&
        row.armGeneration = receipt.armGeneration
    match db.receipts.first? isUnchanged with
    | none => (db, receipt, false)
    | some stored =>
        ({ db with
            receipts := db.receipts.updateWhere isUnchanged
              (fun row => { changes row row with updatedAt := now })
              fun row _ => keepsId row row },
          { changes stored receipt with updatedAt := now }, true)

/-- **The compare-and-set on a row that was just read replaces this row.** -/
theorem updateLockedReceipt_of_mem {db : Db} {r : ReceiptNotification} (hr : r ∈ db.receipts)
    (fromStates : List ReceiptState) (now : Time)
    (changes : ReceiptNotification → ReceiptNotification → ReceiptNotification)
    (keepsId : ∀ stored row, (changes stored row).id = row.id) :
    updateLockedReceipt db r fromStates now changes keepsId =
      if r.state ∈ fromStates then (db.putReceipt { changes r r with updatedAt := now },
          { changes r r with updatedAt := now }, true)
      else (db, r, false) := by
  unfold updateLockedReceipt
  by_cases hs : r.state ∈ fromStates
  · have huniq : ∀ row ∈ db.receipts,
        (row.id = r.id && row.state = r.state && row.armGeneration = r.armGeneration) = true →
          row = r := by
      intro row hrow h
      simp only [Bool.and_eq_true, decide_eq_true_eq] at h
      exact Table.eq_of_key_eq hrow hr h.1.1
    have hself : (r.id = r.id && r.state = r.state && r.armGeneration = r.armGeneration) = true := by
      simp
    simp only [hs, not_true_eq_false, if_false, if_true]
    rw [Table.first?_eq_of_unique hr hself huniq]
    simp only [Db.putReceipt]
    rw [Table.updateWhere_eq_put hr hself huniq]
  · simp [hs]

/-- The compare-and-set on a row in one of the states it starts from. -/
theorem updateLockedReceipt_of_state {db : Db} {r : ReceiptNotification} (hr : r ∈ db.receipts)
    {fromStates : List ReceiptState} (hs : r.state ∈ fromStates) (now : Time)
    (changes : ReceiptNotification → ReceiptNotification → ReceiptNotification)
    (keepsId : ∀ stored row, (changes stored row).id = row.id) :
    updateLockedReceipt db r fromStates now changes keepsId =
      (db.putReceipt { changes r r with updatedAt := now },
        { changes r r with updatedAt := now }, true) := by
  rw [updateLockedReceipt_of_mem hr, if_pos hs]

/-- Pending again with fresh counters, due at once. -/
abbrev buildFreshAttemptChanges (settings : RelaySettings) (now : Time)
    (stored row : ReceiptNotification) : ReceiptNotification :=
  { row with
    state := .pending
    attemptCount := 0
    armGeneration := stored.armGeneration + 1
    roundPending := false
    maximumAttempts := settings.retryStrategy.maximumAttempts
    nextAttemptAt := some now }

/-- A delivered receipt waits for the hold-back, so a quick read sends only the read receipt. -/
def createReceipt (settings : RelaySettings) (db : Db) (messageId deviceId targetLevel : ℕ)
    (now : Time) : Db :=
  let nextAttemptAt :=
    if targetLevel = deliveredLevel then
      now + durationOfSeconds settings.retryStrategy.deliveredReceiptDelaySeconds
    else now
  { db with
    receipts := db.receipts.insert fun id =>
      { id, messageId, deviceId, targetLevel
        maximumAttempts := settings.retryStrategy.maximumAttempts
        nextAttemptAt := some nextAttemptAt
        createdAt := now
        updatedAt := now } }

/-- The target rises from delivered to read; a receipt confirmed at "read" is terminal. -/
def raiseReceiptToRead (settings : RelaySettings) (db : Db) (receipt : ReceiptNotification)
    (now : Time) : Db × ReceiptNotification × Bool :=
  if receipt.confirmedLevel = readLevel then (db, receipt, false)
  else
    updateLockedReceipt db receipt [.pending, .confirmed, .failed, .cancelled] now
      fun stored row =>
        { buildFreshAttemptChanges settings now stored row with
          targetLevel := readLevel
          cancelledAt := none }

/-- The receipt rows of the message that belong to one of the devices. -/
def selectReceiptsOfDevices (db : Db) (messageId : ℕ) (deviceIds : List ℕ) :
    List ReceiptNotification :=
  db.receipts.filter fun receipt =>
    receipt.messageId = messageId && deviceIds.contains receipt.deviceId

/-- What a delivered or read message does to one device of its sender. -/
def raiseReceiptOfDevice (settings : RelaySettings) (messageId messageLevel : ℕ)
    (existingReceipts : List ReceiptNotification) (now : Time) (db : Db) (deviceId : ℕ) : Db :=
  match existingReceipts.find? fun receipt => receipt.deviceId = deviceId with
  | none => createReceipt settings db messageId deviceId messageLevel now
  | some existingReceipt =>
      if messageLevel = readLevel then (raiseReceiptToRead settings db existingReceipt now).1
      else db

/-- The message was just delivered or read: tell every current device of its sender. -/
def raiseReceiptsForMessage (settings : RelaySettings) (db : Db) (message : Message)
    (now : Time) : Db :=
  let messageLevel := readMessageLevel message
  let senderDeviceIds := db.deviceIdsOfUser message.senderId
  let existingReceipts := selectReceiptsOfDevices db message.id senderDeviceIds
  senderDeviceIds.foldl
    (raiseReceiptOfDevice settings message.id messageLevel existingReceipts now) db

/-- One attempt is one packet; starting it counts the attempt. -/
def startReceiptAttempt (db : Db) (receipt : ReceiptNotification) (now : Time) :
    Db × ReceiptNotification × Bool :=
  updateLockedReceipt db receipt [.pending] now fun stored row =>
    { row with
      attemptCount := stored.attemptCount + 1
      roundPending := true
      roundStartedAt := some now }

/-- The attempt's packet went to the node; the next attempt waits for the pause. -/
def recordReceiptPacketSent (settings : RelaySettings) (db : Db) (receipt : ReceiptNotification)
    (suggestedTimeoutMilliseconds : Option ℕ) (now : Time) : Db × ReceiptNotification × Bool :=
  let nextAttemptAt :=
    calculateRoundCompletionDueTime settings receipt.attemptCount receipt.roundStartedAt
      (some now) suggestedTimeoutMilliseconds now
  updateLockedReceipt db receipt [.pending] now fun _ row =>
    { row with
      lastSentAt := some now
      roundPending := false
      nextAttemptAt := some nextAttemptAt }

/-- The confirmed level rises, capped at the target; the confirmation time is always kept. -/
def recordReceiptConfirmation (db : Db) (receipt : ReceiptNotification) (confirmedLevel : ℕ)
    (now : Time) : Db × ReceiptNotification × Bool :=
  let db :=
    { db with
      receipts := db.receipts.updateWhere (fun row => row.id = receipt.id) fun row =>
        { row with lastConfirmationReceivedAt := some now } }
  let receipt := { receipt with lastConfirmationReceivedAt := some now }
  let newConfirmedLevel := max receipt.confirmedLevel (min confirmedLevel receipt.targetLevel)
  if newConfirmedLevel = receipt.confirmedLevel then (db, receipt, false)
  else
    updateLockedReceipt db receipt [.pending, .failed] now fun stored row =>
      { row with
        confirmedLevel := max stored.confirmedLevel newConfirmedLevel
        state := if newConfirmedLevel = receipt.targetLevel then .confirmed else row.state }

def failReceiptAfterExhaustedAttempts (db : Db) (receipt : ReceiptNotification) (now : Time) :
    Db × ReceiptNotification × Bool :=
  updateLockedReceipt db receipt [.pending] now fun _ row =>
    { row with state := .failed, failedAt := some now }

/-- The device belongs to the message's sender again: the target becomes the message's level. -/
def reviveCancelledReceipt (settings : RelaySettings) (db : Db) (receipt : ReceiptNotification)
    (message : Message) (now : Time) : Db × ReceiptNotification × Bool :=
  let targetLevel := max receipt.targetLevel (readMessageLevel message)
  if receipt.confirmedLevel = targetLevel then
    updateLockedReceipt db receipt [.cancelled] now fun _ row =>
      { row with state := .confirmed, targetLevel := targetLevel, cancelledAt := none }
  else
    updateLockedReceipt db receipt [.cancelled] now fun stored row =>
      { buildFreshAttemptChanges settings now stored row with
        targetLevel := targetLevel
        cancelledAt := none }

/-- The device's receipts of messages it sent itself to the recipient, with their messages. -/
def selectReceiptsARefreshRearms (db : Db) (deviceId senderId recipientId : ℕ) :
    List (ReceiptNotification × Message) :=
  (db.receipts.filter fun receipt =>
    receipt.deviceId = deviceId && receiptStatesARefreshRearms.contains receipt.state).filterMap
    fun receipt =>
      (db.messages.get? receipt.messageId).bind fun message =>
        if message.senderId = senderId ∧ message.recipientId = recipientId ∧
            message.senderDeviceId = some deviceId then some (receipt, message)
        else none

def rearmReceipt (settings : RelaySettings) (now : Time) (db : Db)
    (receiptAndMessage : ReceiptNotification × Message) : Db :=
  match receiptAndMessage with
  | (receipt, message) =>
      if receipt.state = .cancelled then
        (reviveCancelledReceipt settings db receipt message now).1
      else
        (updateLockedReceipt db receipt [.pending, .failed] now
          (buildFreshAttemptChanges settings now)).1

/-- A refresh of the conversation with the recipient restarts this device's unconfirmed
receipts. -/
def rearmReceiptsForRefresh (settings : RelaySettings) (db : Db)
    (deviceId senderId recipientId : ℕ) (now : Time) : Db :=
  (selectReceiptsARefreshRearms db deviceId senderId recipientId).foldl
    (rearmReceipt settings now) db

/-- The device now belongs to another user; a receipt it confirmed at "read" stays. -/
def cancelDeviceReceiptsForRelink (db : Db) (deviceId : ℕ) (now : Time) : Db :=
  { db with
    receipts := db.receipts.updateWhere
      (fun row => row.deviceId = deviceId && row.state ≠ .cancelled &&
        !(row.state = .confirmed && row.confirmedLevel = readLevel))
      fun row => { row with state := .cancelled, cancelledAt := some now, updatedAt := now } }

end HoptalkRelay
