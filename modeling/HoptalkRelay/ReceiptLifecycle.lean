/-
**What a transaction can do to one receipt.**

As for deliveries, every transition of a receipt replaces the row its caller has just read.

Main definitions:

* `HoptalkRelay.ReceiptChange` — the changes, with what is known when each is made;
* `HoptalkRelay.freshReceipt`, `HoptalkRelay.raisedReceipt`, `HoptalkRelay.confirmedReceipt`,
  `HoptalkRelay.revivedReceipt`, `HoptalkRelay.cancelledReceipt`, `HoptalkRelay.newReceipt` — the
  changed and the new rows.

Main results:

* `HoptalkRelay.ReceiptChange.keeps` — the message and the device of a receipt never change.
-/

import HoptalkRelay.DeliveryLifecycle

set_option relaxedAutoImplicit false
set_option autoImplicit false

namespace HoptalkRelay

open Relational

/-! ### The changed rows -/

/-- Pending again with fresh counters. -/
@[simps]
def freshReceipt (settings : RelaySettings) (r : ReceiptNotification) (now : Time) :
    ReceiptNotification :=
  { r with
    state := .pending
    attemptCount := 0
    armGeneration := r.armGeneration + 1
    roundPending := false
    maximumAttempts := settings.retryStrategy.maximumAttempts
    nextAttemptAt := some now
    updatedAt := now }

/-- Raised to "read". -/
@[simps!]
def raisedReceipt (settings : RelaySettings) (r : ReceiptNotification) (now : Time) :
    ReceiptNotification :=
  { freshReceipt settings r now with targetLevel := readLevel, cancelledAt := none }

/-- One more attempt. -/
@[simps]
def startedReceipt (r : ReceiptNotification) (now : Time) : ReceiptNotification :=
  { r with
    attemptCount := r.attemptCount + 1
    roundPending := true
    roundStartedAt := some now
    updatedAt := now }

/-- Revived; the device confirmed the level already. -/
@[simps]
def revivedConfirmedReceipt (r : ReceiptNotification) (level : ℕ) (now : Time) :
    ReceiptNotification :=
  { r with state := .confirmed, targetLevel := level, cancelledAt := none, updatedAt := now }

/-- Revived with fresh counters. -/
@[simps!]
def revivedReceipt (settings : RelaySettings) (r : ReceiptNotification) (level : ℕ) (now : Time) :
    ReceiptNotification :=
  { freshReceipt settings r now with targetLevel := level, cancelledAt := none }

/-- The device confirmed a level. -/
@[simps]
def confirmedReceipt (r : ReceiptNotification) (level : ℕ) (now : Time) : ReceiptNotification :=
  { r with
    confirmedLevel := level
    state := if level = r.targetLevel then .confirmed else r.state
    updatedAt := now }

/-- The receipt a relink of its device cancelled. -/
@[simps]
def cancelledReceipt (r : ReceiptNotification) (now : Time) : ReceiptNotification :=
  { r with state := .cancelled, cancelledAt := some now, updatedAt := now }

/-- A new receipt; "delivered" waits a little for the "read" that often follows. -/
@[simps]
def newReceipt (settings : RelaySettings) (messageId deviceId targetLevel : ℕ) (now : Time)
    (id : ℕ) : ReceiptNotification where
  id := id
  messageId := messageId
  deviceId := deviceId
  targetLevel := targetLevel
  maximumAttempts := settings.retryStrategy.maximumAttempts
  nextAttemptAt := some (if targetLevel = deliveredLevel then
    now + durationOfSeconds settings.retryStrategy.deliveredReceiptDelaySeconds else now)
  createdAt := now
  updatedAt := now

/-! ### The changes -/

/-- The receipt's message, to whose sender the receipt's device is linked. -/
structure ReceiptLink (db : Db) (r : ReceiptNotification) (message : Message) : Prop where
  found : db.messages.get? r.messageId = some message
  linked : db.deviceUserId r.deviceId = some message.senderId

/-- What a transaction can do to a receipt. -/
inductive ReceiptChange (input : Input) (db : Db) (r : ReceiptNotification) :
    ReceiptNotification → Prop
  /-- An attempt starts. -/
  | started (now : Time) (hstate : r.state = .pending) (hround : r.roundPending = false)
      (hattempts : r.attemptCount < r.maximumAttempts) :
      ReceiptChange input db r (startedReceipt r now)
  /-- The node took the packet of the attempt. -/
  | sent (now due : Time) (hstate : r.state = .pending) (hround : r.roundPending = true) :
      ReceiptChange input db r
        { r with
          lastSentAt := some now
          roundPending := false
          nextAttemptAt := some due
          updatedAt := now }
  /-- The attempts ran out. -/
  | exhausted (now : Time) (hstate : r.state = .pending)
      (hattempts : r.maximumAttempts ≤ r.attemptCount) :
      ReceiptChange input db r { r with state := .failed, failedAt := some now, updatedAt := now }
  /-- Any `C` is evidence that messages reach the device. -/
  | acknowledged (now : Time) :
      ReceiptChange input db r { r with lastConfirmationReceivedAt := some now }
  /-- A `C` raises the confirmed level. -/
  | confirmed (level : ℕ) (now : Time) (hstate : r.state = .pending ∨ r.state = .failed)
      (hup : r.confirmedLevel < level)
      (hcap : level ≤ max r.confirmedLevel r.targetLevel) :
      ReceiptChange input db r (confirmedReceipt r level now)
  /-- The message was read. -/
  | raised (message : Message) (now : Time) (hlink : ReceiptLink db r message)
      (hread : readMessageLevel message = readLevel) (hconfirmed : r.confirmedLevel ≠ readLevel) :
      ReceiptChange input db r (raisedReceipt input.settings r now)
  /-- A refresh restarts it. -/
  | rearmed (message : Message) (now : Time) (hlink : ReceiptLink db r message)
      (hstate : r.state = .pending ∨ r.state = .failed) :
      ReceiptChange input db r (freshReceipt input.settings r now)
  /-- A refresh revives it; the device confirmed the message's level already. -/
  | revivedConfirmed (message : Message) (now : Time) (hlink : ReceiptLink db r message)
      (hstate : r.state = .cancelled)
      (hlevel : r.confirmedLevel = max r.targetLevel (readMessageLevel message)) :
      ReceiptChange input db r
        (revivedConfirmedReceipt r (max r.targetLevel (readMessageLevel message)) now)
  /-- A refresh revives it with fresh counters. -/
  | revivedPending (message : Message) (now : Time) (hlink : ReceiptLink db r message)
      (hstate : r.state = .cancelled)
      (hlevel : r.confirmedLevel ≠ max r.targetLevel (readMessageLevel message)) :
      ReceiptChange input db r
        (revivedReceipt input.settings r (max r.targetLevel (readMessageLevel message)) now)

namespace ReceiptChange

variable {input : Input} {db : Db} {r r' : ReceiptNotification}

/-- What every change keeps. -/
theorem keeps (h : ReceiptChange input db r r') :
    r'.id = r.id ∧ r'.messageId = r.messageId ∧ r'.deviceId = r.deviceId := by
  cases h <;> exact ⟨rfl, rfl, rfl⟩

theorem key_eq (h : ReceiptChange input db r r') : key r' = key r := h.keeps.1

end ReceiptChange

end HoptalkRelay
