/-
**The state machine of one message's delivery to one device.**

The functions of `messaging/deliveries.py`.  A transition takes the instance its caller read and
locked, names the states it may start from, and writes with a compare-and-set on the state and the
arm generation of the instance; afterwards the instance holds the stored values of the columns
that were written.  So a change is a function of two rows: the stored one, which `F` expressions
read, and the one whose columns are written.

Main definitions:

* `HoptalkRelay.updateLockedDelivery` — the compare-and-set every transition goes through;
* `HoptalkRelay.createPendingDelivery`, `HoptalkRelay.createRefreshOwnedDelivery` — new rows;
* `HoptalkRelay.startDeliveryRound`, `HoptalkRelay.recordDeliveryPartSent`,
  `HoptalkRelay.recordIncompleteDeliveryStatus` — rounds;
* `HoptalkRelay.markDeliveryDelivered`, `HoptalkRelay.failDeliveryAfterExhaustedAttempts` — ends;
* `HoptalkRelay.takeDeliveryIntoRefreshSession`, `HoptalkRelay.armRefreshSessionHead`,
  `HoptalkRelay.restartRefreshSessionHead` — refreshes.
-/

import HoptalkRelay.Models

set_option relaxedAutoImplicit false
set_option autoImplicit false

namespace HoptalkRelay

open Relational

/-- The states a relink cancels. -/
def nonTerminalDeliveryStates : List DeliveryState := [.pending, .queuedForRefresh, .failed]

/-- The states a complete status or a read delivers from; delivered always wins over failed. -/
def unconfirmedDeliveryStates : List DeliveryState := [.pending, .queuedForRefresh, .failed]

/-- A delivery that is due at once, for a device without a refresh session with the sender. -/
def createPendingDelivery (settings : RelaySettings) (db : Db) (messageId deviceId : ℕ)
    (now : Time) : Db :=
  { db with
    deliveries := db.deliveries.insert fun id =>
      { id, messageId, deviceId
        state := .pending
        maximumAttempts := settings.retryStrategy.maximumAttempts
        nextAttemptAt := some now
        createdAt := now } }

/-- A delivery queued behind the session's head. -/
def createRefreshOwnedDelivery (settings : RelaySettings) (db : Db)
    (messageId deviceId refreshSessionId : ℕ) (now : Time) : Db :=
  { db with
    deliveries := db.deliveries.insert fun id =>
      { id, messageId, deviceId
        state := .queuedForRefresh
        refreshSessionId := some refreshSessionId
        maximumAttempts := settings.retryStrategy.maximumAttempts
        nextAttemptAt := none
        createdAt := now } }

/-- Apply the changes if the row is in one of `fromStates` and unchanged since the caller read it. -/
def updateLockedDelivery (db : Db) (delivery : MessageDelivery) (fromStates : List DeliveryState)
    (changes : MessageDelivery → MessageDelivery → MessageDelivery)
    (keepsId : ∀ stored row, (changes stored row).id = row.id := by intros; rfl) :
    Db × MessageDelivery × Bool :=
  if delivery.state ∉ fromStates then (db, delivery, false)
  else
    let isUnchanged (row : MessageDelivery) : Bool :=
      row.id = delivery.id && row.state = delivery.state &&
        row.armGeneration = delivery.armGeneration
    match db.deliveries.first? isUnchanged with
    | none => (db, delivery, false)
    | some stored =>
        ({ db with
            deliveries := db.deliveries.updateWhere isUnchanged (fun row => changes row row)
              fun row _ => keepsId row row },
          changes stored delivery, true)

/-- **The compare-and-set on a row that was just read replaces this row.** -/
theorem updateLockedDelivery_of_mem {db : Db} {d : MessageDelivery} (hd : d ∈ db.deliveries)
    (fromStates : List DeliveryState)
    (changes : MessageDelivery → MessageDelivery → MessageDelivery)
    (keepsId : ∀ stored row, (changes stored row).id = row.id) :
    updateLockedDelivery db d fromStates changes keepsId =
      if d.state ∈ fromStates then (db.putDelivery (changes d d), changes d d, true)
      else (db, d, false) := by
  unfold updateLockedDelivery
  by_cases hs : d.state ∈ fromStates
  · have huniq : ∀ row ∈ db.deliveries,
        (row.id = d.id && row.state = d.state && row.armGeneration = d.armGeneration) = true →
          row = d := by
      intro row hrow h
      simp only [Bool.and_eq_true, decide_eq_true_eq] at h
      exact Table.eq_of_key_eq hrow hd h.1.1
    have hself : (d.id = d.id && d.state = d.state && d.armGeneration = d.armGeneration) = true := by
      simp
    simp only [hs, not_true_eq_false, if_false, if_true]
    rw [Table.first?_eq_of_unique hd hself huniq]
    simp only [Db.putDelivery]
    rw [Table.updateWhere_eq_put hd hself huniq]
  · simp [hs]

/-- The compare-and-set on a row in one of the states it starts from. -/
theorem updateLockedDelivery_of_state {db : Db} {d : MessageDelivery} (hd : d ∈ db.deliveries)
    {fromStates : List DeliveryState} (hs : d.state ∈ fromStates)
    (changes : MessageDelivery → MessageDelivery → MessageDelivery)
    (keepsId : ∀ stored row, (changes stored row).id = row.id) :
    updateLockedDelivery db d fromStates changes keepsId =
      (db.putDelivery (changes d d), changes d d, true) := by
  rw [updateLockedDelivery_of_mem hd, if_pos hs]

/-- A round sends every part the device has not reported; starting it counts an attempt. -/
def startDeliveryRound (db : Db) (delivery : MessageDelivery) (partCount : PartCount)
    (now : Time) : Db × MessageDelivery × Bool :=
  let partsStillMissingMask :=
    maskWithout (calculateAllPartsMask partCount) delivery.partsReceivedMask
  updateLockedDelivery db delivery [.pending] fun stored row =>
    { row with
      attemptCount := stored.attemptCount + 1
      roundStartedAt := some now
      roundPendingPartsMask := partsStillMissingMask }

def completeDeliveryRound (settings : RelaySettings) (db : Db) (delivery : MessageDelivery)
    (lastPacketSuggestedTimeoutMilliseconds : Option ℕ) (now : Time) :
    Db × MessageDelivery × Bool :=
  let dueTime :=
    calculateRoundCompletionDueTime settings delivery.attemptCount delivery.roundStartedAt
      delivery.lastSentAt lastPacketSuggestedTimeoutMilliseconds now
  updateLockedDelivery db delivery [.pending] fun _ row =>
    { row with roundPendingPartsMask := 0, nextAttemptAt := some dueTime }

/-- The node took the packet of part n; the round completes with its last part. -/
def recordDeliveryPartSent (settings : RelaySettings) (db : Db) (delivery : MessageDelivery)
    (partNumber : ℕ) (suggestedTimeoutMilliseconds : Option ℕ) (now : Time) :
    Db × MessageDelivery × Bool :=
  let partBit := 2 ^ (partNumber - 1)
  let roundHadPartsToSend : Bool := delivery.roundPendingPartsMask ≠ 0
  match updateLockedDelivery db delivery [.pending] (fun stored row =>
    { row with
      roundPendingPartsMask := stored.roundPendingPartsMask &&& (partsMaskMaximum ^^^ partBit)
      lastSentAt := some now }) with
  | (db, delivery, wasUpdated) =>
      if wasUpdated && roundHadPartsToSend && delivery.roundPendingPartsMask = 0 then
        match completeDeliveryRound settings db delivery suggestedTimeoutMilliseconds now with
        | (db, delivery, _) => (db, delivery, wasUpdated)
      else (db, delivery, wasUpdated)

/-- The suggested timeout of the last packet of the current round whose outcome is known. -/
def findLastRoundPacketSuggestedTimeout (db : Db) (delivery : MessageDelivery) : Option ℕ :=
  let roundPackets := db.packets.filter fun packet =>
    packet.messageDeliveryId = some delivery.id &&
      packet.armGeneration = some delivery.armGeneration &&
      packet.attemptNumber = some delivery.attemptCount && packet.state ≠ .prepared
  roundPackets.getLast?.bind OutboundPacket.suggestedTimeoutMilliseconds

/-- Every status counts as evidence that the relay's messages reach the device. -/
def recordDeliveryAcknowledgementTime (db : Db) (delivery : MessageDelivery) (now : Time) :
    Db × MessageDelivery :=
  ({ db with
      deliveries := db.deliveries.updateWhere (fun row => row.id = delivery.id) fun row =>
        { row with lastAcknowledgementReceivedAt := some now } },
    { delivery with lastAcknowledgementReceivedAt := some now })

def bringNextRoundForward (settings : RelaySettings) (db : Db) (delivery : MessageDelivery)
    (now : Time) : Db × MessageDelivery :=
  let missingPartsRoundTime := calculateMissingPartsRoundTime settings now
  if delivery.nextAttemptAt.all (missingPartsRoundTime < ·) then
    match updateLockedDelivery db delivery [.pending] (fun _ row =>
      { row with nextAttemptAt := some missingPartsRoundTime }) with
    | (db, delivery, _) => (db, delivery)
  else (db, delivery)

/-- The report left nothing of a round in progress: the round completes. -/
def completeReportedRound (settings : RelaySettings) (db : Db) (delivery : MessageDelivery)
    (roundHadPartsToSend : Bool) (now : Time) : Db × MessageDelivery :=
  if roundHadPartsToSend && delivery.roundPendingPartsMask = 0 then
    match completeDeliveryRound settings db delivery
        (findLastRoundPacketSuggestedTimeout db delivery) now with
    | (db, delivery, _) => (db, delivery)
  else (db, delivery)

/-- The parts the device still lacks are sent within a few seconds. -/
def sendMissingPartsSoon (settings : RelaySettings) (db : Db) (delivery : MessageDelivery)
    (now : Time) : Db × MessageDelivery :=
  if delivery.roundPendingPartsMask = 0 ∧ delivery.attemptCount < delivery.maximumAttempts then
    bringNextRoundForward settings db delivery now
  else (db, delivery)

/-- A status with zeros: its set replaces the device's recorded set. -/
def recordIncompleteDeliveryStatus (settings : RelaySettings) (db : Db)
    (delivery : MessageDelivery) (receivedPartsMask : ℕ) (now : Time) :
    Db × MessageDelivery × Bool :=
  if delivery.state ≠ .pending then
    updateLockedDelivery db delivery [.queuedForRefresh, .failed] fun _ row =>
      { row with partsReceivedMask := receivedPartsMask }
  else
    let roundHadPartsToSend : Bool := delivery.roundPendingPartsMask ≠ 0
    match updateLockedDelivery db delivery [.pending] (fun stored row =>
      { row with
        partsReceivedMask := receivedPartsMask
        roundPendingPartsMask :=
          stored.roundPendingPartsMask &&& (partsMaskMaximum ^^^ receivedPartsMask) }) with
    | (db, delivery, false) => (db, delivery, false)
    | (db, delivery, true) =>
        match completeReportedRound settings db delivery roundHadPartsToSend now with
        | (db, delivery) =>
            match sendMissingPartsSoon settings db delivery now with
            | (db, delivery) => (db, delivery, true)

/-- A status that is all ones by itself, or a read from the device: delivered. -/
def markDeliveryDelivered (db : Db) (delivery : MessageDelivery) (now : Time)
    (receivedPartsMask : Option ℕ) (isRead : Bool) : Db × MessageDelivery × Bool :=
  updateLockedDelivery db delivery unconfirmedDeliveryStates fun _ row =>
    { row with
      state := .delivered
      deliveredAt := some now
      partsReceivedMask := receivedPartsMask.getD row.partsReceivedMask
      readAt := if isRead then some now else row.readAt }

/-- A read of a message this device already confirmed: only the first read time is kept. -/
def recordDeliveryRead (db : Db) (delivery : MessageDelivery) (now : Time) :
    Db × MessageDelivery × Bool :=
  if delivery.readAt.isSome then (db, delivery, false)
  else updateLockedDelivery db delivery [.delivered] fun _ row => { row with readAt := some now }

def failDeliveryAfterExhaustedAttempts (db : Db) (delivery : MessageDelivery) (now : Time) :
    Db × MessageDelivery × Bool :=
  updateLockedDelivery db delivery [.pending] fun _ row =>
    { row with
      state := .failed
      failedAt := some now
      failureReason := some .attemptsExhausted }

/-- A refresh takes over a pending delivery no session owns, a failed or a cancelled one. -/
def takeDeliveryIntoRefreshSession (db : Db) (delivery : MessageDelivery) (refreshSessionId : ℕ) :
    Db × MessageDelivery × Bool :=
  if delivery.state = .pending ∧ delivery.refreshSessionId.isSome then (db, delivery, false)
  else
    updateLockedDelivery db delivery [.pending, .failed, .cancelled] fun stored row =>
      { row with
        state := .queuedForRefresh
        refreshSessionId := some refreshSessionId
        attemptCount := 0
        armGeneration := stored.armGeneration + 1
        roundPendingPartsMask := 0
        roundStartedAt := none
        nextAttemptAt := none
        failedAt := if delivery.state = .failed then none else row.failedAt
        failureReason := if delivery.state = .failed then none else row.failureReason
        cancelledAt := if delivery.state = .cancelled then none else row.cancelledAt
        -- a cancelled delivery starts again with no parts reported
        partsReceivedMask := if delivery.state = .cancelled then 0 else row.partsReceivedMask }

/-- The session's next message becomes its head: pending, fresh counters, due at once. -/
def armRefreshSessionHead (settings : RelaySettings) (db : Db) (delivery : MessageDelivery)
    (now : Time) : Db × MessageDelivery × Bool :=
  updateLockedDelivery db delivery [.queuedForRefresh] fun stored row =>
    { row with
      state := .pending
      attemptCount := 0
      armGeneration := stored.armGeneration + 1
      roundPendingPartsMask := 0
      maximumAttempts := settings.retryStrategy.maximumAttempts
      nextAttemptAt := some now }

/-- A repeated refresh request restarts the head with fresh counters, at once; the head keeps its
place under the per-device limit. -/
def restartRefreshSessionHead (settings : RelaySettings) (db : Db) (delivery : MessageDelivery)
    (now : Time) : Db × MessageDelivery × Bool :=
  if delivery.refreshSessionId = none then (db, delivery, false)
  else if delivery.attemptCount = 0 then
    if delivery.nextAttemptAt.any (· ≤ now) then (db, delivery, false)
    else
      updateLockedDelivery db delivery [.pending] fun _ row => { row with nextAttemptAt := some now }
  else
    updateLockedDelivery db delivery [.pending] fun stored row =>
      { row with
        attemptCount := 0
        armGeneration := stored.armGeneration + 1
        roundPendingPartsMask := 0
        maximumAttempts := settings.retryStrategy.maximumAttempts
        nextAttemptAt := some now }

/-- The session's head was given up: the messages queued behind it are never sent. -/
def failDeliveryOfStoppedRefresh (db : Db) (delivery : MessageDelivery) (now : Time) :
    Db × MessageDelivery × Bool :=
  updateLockedDelivery db delivery [.queuedForRefresh] fun _ row =>
    { row with
      state := .failed
      failedAt := some now
      failureReason := some .refreshStopped }

/-- The device now belongs to another user: nothing of the previous user's is sent to it again.
The rows keep their refresh session for the record. -/
def cancelDeviceDeliveriesForRelink (db : Db) (deviceId : ℕ) (now : Time) : Db :=
  { db with
    deliveries := db.deliveries.updateWhere
      (fun row => row.deviceId = deviceId && nonTerminalDeliveryStates.contains row.state)
      fun row => { row with state := .cancelled, cancelledAt := some now } }

end HoptalkRelay
