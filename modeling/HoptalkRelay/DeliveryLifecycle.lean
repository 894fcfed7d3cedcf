/-
**What a transaction can do to one delivery.**

Every transition of a delivery is written through the compare-and-set of
`HoptalkRelay.updateLockedDelivery` on a row its caller has just read, so it replaces that row by
the changed one.  The two relations of this file list the changes with what is known when each is
made: `RoundChange` are the changes that leave the state alone, `StateChange` those that move it,
except for the confirmation of a delivery, which comes together with its message.

A refresh session hands its head over in several writes of one transaction.  `Phase` says where
between them a transaction stands.

Main definitions:

* `HoptalkRelay.Phase` — where a transaction stands;
* `HoptalkRelay.RoundChange` — rounds, reports and due times;
* `HoptalkRelay.StateChange` — giving up, taking over and arming;
* `HoptalkRelay.DeliveryReport` — the received-set a `K` carries for a delivery;
* `HoptalkRelay.takenOverDelivery`, `HoptalkRelay.armedDelivery`, `HoptalkRelay.failedDelivery`,
  `HoptalkRelay.deliveredDelivery`, `HoptalkRelay.cancelledDelivery`,
  `HoptalkRelay.pendingDelivery`, `HoptalkRelay.queuedDelivery` — the changed and the new rows.

Main results:

* `HoptalkRelay.RoundChange.keeps` — a round change keeps what a refresh looks at.
-/

import HoptalkRelay.Engine
import Mathlib.Tactic.Simps.Basic

set_option relaxedAutoImplicit false
set_option autoImplicit false

namespace HoptalkRelay

open Relational

/-! ### The changed rows -/

/-- A round that sends every part the device lacks. -/
@[simps]
def roundStartedDelivery (d : MessageDelivery) (partCount : PartCount) (now : Time) :
    MessageDelivery :=
  { d with
    attemptCount := d.attemptCount + 1
    roundStartedAt := some now
    roundPendingPartsMask := maskWithout (calculateAllPartsMask partCount) d.partsReceivedMask }

/-- Nothing of the round is left. -/
@[simps]
def roundCompletedDelivery (d : MessageDelivery) (due : Time) : MessageDelivery :=
  { d with roundPendingPartsMask := 0, nextAttemptAt := some due }

/-- A part of the round was sent. -/
@[simps]
def partSentDelivery (d : MessageDelivery) (partNumber : ℕ) (now : Time) : MessageDelivery :=
  { d with
    roundPendingPartsMask :=
      d.roundPendingPartsMask &&& (partsMaskMaximum ^^^ 2 ^ (partNumber - 1))
    lastSentAt := some now }

/-- The device reported a set during a round. -/
@[simps]
def reportedDelivery (d : MessageDelivery) (mask : ℕ) : MessageDelivery :=
  { d with
    partsReceivedMask := mask
    roundPendingPartsMask := d.roundPendingPartsMask &&& (partsMaskMaximum ^^^ mask) }

/-- Any status of the device. -/
@[simps]
def acknowledgedDelivery (d : MessageDelivery) (now : Time) : MessageDelivery :=
  { d with lastAcknowledgementReceivedAt := some now }

/-- The delivery, due at another time. -/
@[simps]
def rescheduledDelivery (d : MessageDelivery) (due : Option Time) : MessageDelivery :=
  { d with nextAttemptAt := due }

/-- A head with fresh counters. -/
@[simps]
def restartedDelivery (settings : RelaySettings) (d : MessageDelivery) (now : Time) :
    MessageDelivery :=
  { d with
    attemptCount := 0
    armGeneration := d.armGeneration + 1
    roundPendingPartsMask := 0
    maximumAttempts := settings.retryStrategy.maximumAttempts
    nextAttemptAt := some now }

/-- The delivery a refresh took over. -/
@[simps]
def takenOverDelivery (d : MessageDelivery) (refreshSessionId : ℕ) : MessageDelivery :=
  { d with
    state := .queuedForRefresh
    refreshSessionId := some refreshSessionId
    attemptCount := 0
    armGeneration := d.armGeneration + 1
    roundPendingPartsMask := 0
    roundStartedAt := none
    nextAttemptAt := none
    failedAt := if d.state = .failed then none else d.failedAt
    failureReason := if d.state = .failed then none else d.failureReason
    cancelledAt := if d.state = .cancelled then none else d.cancelledAt
    partsReceivedMask := if d.state = .cancelled then 0 else d.partsReceivedMask }

/-- The session's next message as its head. -/
@[simps]
def armedDelivery (settings : RelaySettings) (d : MessageDelivery) (now : Time) :
    MessageDelivery :=
  { d with
    state := .pending
    attemptCount := 0
    armGeneration := d.armGeneration + 1
    roundPendingPartsMask := 0
    maximumAttempts := settings.retryStrategy.maximumAttempts
    nextAttemptAt := some now }

/-- The given-up delivery. -/
@[simps]
def failedDelivery (d : MessageDelivery) (reason : FailureReason) (now : Time) : MessageDelivery :=
  { d with state := .failed, failedAt := some now, failureReason := some reason }

/-- The confirmed delivery. -/
@[simps]
def deliveredDelivery (d : MessageDelivery) (now : Time) (receivedPartsMask : Option ℕ)
    (isRead : Bool) : MessageDelivery :=
  { d with
    state := .delivered
    deliveredAt := some now
    partsReceivedMask := receivedPartsMask.getD d.partsReceivedMask
    readAt := if isRead then some now else d.readAt }

/-- The delivery a relink of its device cancelled. -/
@[simps]
def cancelledDelivery (d : MessageDelivery) (now : Time) : MessageDelivery :=
  { d with state := .cancelled, cancelledAt := some now }

/-- A new delivery, due at once. -/
@[simps]
def pendingDelivery (settings : RelaySettings) (messageId deviceId : ℕ) (now : Time) (id : ℕ) :
    MessageDelivery where
  id := id
  messageId := messageId
  deviceId := deviceId
  state := .pending
  maximumAttempts := settings.retryStrategy.maximumAttempts
  nextAttemptAt := some now
  createdAt := now

/-- A new delivery behind the head of a session. -/
@[simps]
def queuedDelivery (settings : RelaySettings) (messageId deviceId refreshSessionId : ℕ)
    (now : Time) (id : ℕ) : MessageDelivery where
  id := id
  messageId := messageId
  deviceId := deviceId
  state := .queuedForRefresh
  refreshSessionId := some refreshSessionId
  maximumAttempts := settings.retryStrategy.maximumAttempts
  nextAttemptAt := none
  createdAt := now

/-! ### The round of a row -/

/-- The delivery was given up because its attempts ran out. -/
def IsExhausted (d : MessageDelivery) : Prop :=
  d.state = .failed ∧ d.failureReason = some .attemptsExhausted

/-- What a row keeps as long as it stays in its round. -/
structure KeepsRound (d e : MessageDelivery) : Prop where
  arm : e.armGeneration = d.armGeneration
  attempt : e.attemptCount = d.attemptCount
  maximum : e.maximumAttempts = d.maximumAttempts
  pending : e.state = .pending → d.state = .pending
  round : d.roundPendingPartsMask = 0 → e.roundPendingPartsMask = 0
  exhausted : IsExhausted e → IsExhausted d

theorem KeepsRound.refl (d : MessageDelivery) : KeepsRound d d := ⟨rfl, rfl, rfl, id, id, id⟩

/-- The row stays in its round, and nothing of the round changes while it is pending. -/
structure SameRound (d e : MessageDelivery) : Prop extends KeepsRound d e where
  parts : e.state = .pending → e.roundPendingPartsMask = d.roundPendingPartsMask ∧
    e.partsReceivedMask = d.partsReceivedMask ∧ e.messageId = d.messageId

theorem SameRound.refl (d : MessageDelivery) : SameRound d d :=
  ⟨.refl d, fun _ => ⟨rfl, rfl, rfl⟩⟩

/-- A row that is no longer pending keeps its round. -/
theorem SameRound.of_not_pending {d e : MessageDelivery} (hstate : e.state ≠ .pending)
    (harm : e.armGeneration = d.armGeneration) (hattempt : e.attemptCount = d.attemptCount)
    (hmaximum : e.maximumAttempts = d.maximumAttempts)
    (hround : e.roundPendingPartsMask = d.roundPendingPartsMask)
    (hexhausted : IsExhausted e → IsExhausted d) : SameRound d e :=
  ⟨⟨harm, hattempt, hmaximum, fun h => absurd h hstate, hround.trans, hexhausted⟩,
    fun h => absurd h hstate⟩

/-- A confirmed row keeps its round. -/
theorem SameRound.delivered (d : MessageDelivery) (now : Time) (receivedPartsMask : Option ℕ)
    (isRead : Bool) : SameRound d (deliveredDelivery d now receivedPartsMask isRead) := by
  refine .of_not_pending (by simp) rfl rfl rfl rfl ?_
  rintro ⟨hfailed, -⟩
  simp at hfailed

/-- The row was armed again: it is in no round. -/
structure ArmedAgain (d e : MessageDelivery) : Prop where
  arm : e.armGeneration = d.armGeneration + 1
  attempt : e.attemptCount = 0
  round : e.roundPendingPartsMask = 0
  maximum : e.state = .pending → 0 < e.maximumAttempts
  live : ¬ IsExhausted e

theorem ArmedAgain.armed (settings : RelaySettings) (d : MessageDelivery) (now : Time) :
    ArmedAgain d (armedDelivery settings d now) := by
  refine ⟨rfl, rfl, rfl, fun _ => settings.one_le_maximumAttempts, ?_⟩
  rintro ⟨hfailed, -⟩
  simp at hfailed

/-- The parts a device reported left the round of the row. -/
structure ReportedRound (d e : MessageDelivery) : Prop extends KeepsRound d e where
  parts : e.state = .pending → e.roundPendingPartsMask =
    d.roundPendingPartsMask &&& (partsMaskMaximum ^^^ e.partsReceivedMask)

/-! ### Reports -/

/-- The input is a `K` from the delivery's device for the delivery's message, with a set of one
character per part; `mask` is the set. -/
structure DeliveryReport (input : Input) (db : Db) (d : MessageDelivery) (message : Message)
    (mask : ℕ) : Prop where
  found : db.messages.get? d.messageId = some message
  event : ∃ acknowledgement now,
    input.event = .deliveryAcknowledgement d.deviceId acknowledgement now ∧
      receivedSetMatchesPartCount acknowledgement.receivedSet message.partCount = true ∧
      convertReceivedSetToPartsMask acknowledgement.receivedSet = some mask

/-- The input is a call of the scheduler. -/
def IsScheduling (input : Input) (now : Time) : Prop :=
  ∃ connectionGeneration, input.event = .prepareNextPacket connectionGeneration now

/-- The event records the node's answer to a send. -/
def Event.recordsOutcome : Event → Prop
  | .recordSendOutcome _ _ _ => True
  | _ => False

/-! ### Changes that leave the state alone -/

/-- What a transaction can do to a delivery without moving its state. -/
inductive RoundChange (input : Input) (db : Db) (d : MessageDelivery) : MessageDelivery → Prop
  /-- A round starts: every part the device lacks is to be sent. -/
  | roundStarted (message : Message) (now : Time) (hevent : IsScheduling input now)
      (hmessage : db.messages.get? d.messageId = some message)
      (hstate : d.state = .pending) (hround : d.roundPendingPartsMask = 0)
      (hattempts : d.attemptCount < d.maximumAttempts)
      (hroom : d.roundStartedAt = none →
        countDeliveriesInProgress db d.deviceId <
          input.settings.maximumActiveDeliveriesPerDevice) :
      RoundChange input db d (roundStartedDelivery d message.partCount now)
  /-- Nothing of the round is left; the next one waits. -/
  | roundCompleted (due : Time) (hstate : d.state = .pending)
      (hleft : findPartsLeftInRound d = 0) :
      RoundChange input db d (roundCompletedDelivery d due)
  /-- The node took the packet of a part, in the packet's arm and attempt. -/
  | partSent (packet : OutboundPacket) (partNumber : ℕ) (now : Time) (hstate : d.state = .pending)
      (hpacket : packet ∈ db.packets) (hprepared : packet.state = .prepared)
      (hdelivery : packet.messageDeliveryId = some d.id)
      (hpart : packet.partNumber = some partNumber)
      (harm : packet.armGeneration = some d.armGeneration)
      (hattempt : packet.attemptNumber = some d.attemptCount)
      (hevent : input.event.recordsOutcome) :
      RoundChange input db d (partSentDelivery d partNumber now)
  /-- A status with zeros of a pending delivery. -/
  | reportedPending (message : Message) (mask : ℕ) (hstate : d.state = .pending)
      (hreport : DeliveryReport input db d message mask)
      (hmask : mask ≠ calculateAllPartsMask message.partCount) :
      RoundChange input db d (reportedDelivery d mask)
  /-- A status with zeros of a queued or failed delivery. -/
  | reported (message : Message) (mask : ℕ)
      (hstate : d.state = .queuedForRefresh ∨ d.state = .failed)
      (hreport : DeliveryReport input db d message mask)
      (hmask : mask ≠ calculateAllPartsMask message.partCount) :
      RoundChange input db d { d with partsReceivedMask := mask }
  /-- A pending delivery is due at another time. -/
  | rescheduled (due : Time) (hstate : d.state = .pending) :
      RoundChange input db d { d with nextAttemptAt := some due }
  /-- A repeated refresh restarts the head. -/
  | restarted (now : Time) (hstate : d.state = .pending) (howned : d.refreshSessionId ≠ none) :
      RoundChange input db d (restartedDelivery input.settings d now)
  /-- Any status is evidence that messages reach the device. -/
  | acknowledged (now : Time) :
      RoundChange input db d (acknowledgedDelivery d now)

namespace RoundChange

variable {input : Input} {db : Db} {d d' : MessageDelivery}

/-- What a round change keeps. -/
theorem keeps (h : RoundChange input db d d') :
    d'.id = d.id ∧ d'.messageId = d.messageId ∧ d'.deviceId = d.deviceId ∧ d'.state = d.state ∧
      d'.refreshSessionId = d.refreshSessionId := by
  cases h <;> exact ⟨rfl, rfl, rfl, rfl, rfl⟩

theorem key_eq (h : RoundChange input db d d') : key d' = key d := h.keeps.1

/-- A round change keeps the confirmation. -/
theorem keeps_confirmation (h : RoundChange input db d d') :
    d'.deliveredAt = d.deliveredAt ∧ d'.readAt = d.readAt := by
  cases h <;> exact ⟨rfl, rfl⟩

end RoundChange

/-! ### Handing a session over -/

/-- Where a transaction stands between two writes. -/
inductive Phase
  /-- Every active session has its head. -/
  | settled
  /-- The head of this session was confirmed, and the next one is not armed yet. -/
  | headless (refreshSessionId : ℕ)
  /-- This session was started, and takes over its messages. -/
  | opening (refreshSessionId : ℕ)
  /-- The head of this session was given up, and the messages behind it are being failed. -/
  | stopping (refreshSessionId : ℕ)
  /-- This message was accepted, and gets its deliveries. -/
  | fanningOut (messageId : ℕ)
  /-- The accepted message has its deliveries. -/
  | fannedOut
  deriving DecidableEq

namespace Phase

/-- The phase after a delivery that is the head of this session, if of any, was confirmed. -/
def afterConfirmation : Option ℕ → Phase
  | none => settled
  | some refreshSessionId => headless refreshSessionId

/-- The phase after a delivery that is the head of this session, if of any, was given up. -/
def afterFailure : Option ℕ → Phase
  | none => settled
  | some refreshSessionId => stopping refreshSessionId

/-- A transaction commits in one of these. -/
def IsFinal (phase : Phase) : Prop := phase = settled ∨ phase = fannedOut

end Phase

/-! ### Changes of the state -/

/-- The delivery is queued in this session. -/
def IsQueuedIn (refreshSessionId : ℕ) (d : MessageDelivery) : Prop :=
  d.refreshSessionId = some refreshSessionId ∧ d.state = .queuedForRefresh

/-- The input is an `F` from the delivery's device, whose user received the delivery's message;
the session is active, and belongs to the device and the message's sender. -/
structure TakeOver (input : Input) (db : Db) (d : MessageDelivery) (message : Message)
    (refreshSessionId : ℕ) : Prop where
  event : ∃ request inboundId now, input.event = .refresh d.deviceId request inboundId now
  found : db.messages.get? d.messageId = some message
  linked : db.deviceUserId d.deviceId = some message.recipientId
  taken : isTakenOverByARefresh d = true
  session : ∃ s, db.sessions.get? refreshSessionId = some s ∧ s.deviceId = d.deviceId ∧
    s.peerId = message.senderId ∧ s.state = .active

/-- What a transaction can do to a delivery's state, except for confirming it, and the phases it
does it in. -/
inductive StateChange (input : Input) (db : Db) (d : MessageDelivery) :
    Phase → MessageDelivery → Phase → Prop
  /-- The attempts ran out. -/
  | exhausted (now : Time) (hevent : IsScheduling input now) (hstate : d.state = .pending)
      (hround : d.roundPendingPartsMask = 0)
      (hattempts : d.maximumAttempts ≤ d.attemptCount) :
      StateChange input db d .settled (failedDelivery d .attemptsExhausted now)
        (.afterFailure (findActiveRefreshSessionId db d))
  /-- The head of its session was given up. -/
  | stopped (refreshSessionId : ℕ) (now : Time) (hevent : IsScheduling input now)
      (hqueued : IsQueuedIn refreshSessionId d) :
      StateChange input db d (.stopping refreshSessionId) (failedDelivery d .refreshStopped now)
        (.stopping refreshSessionId)
  /-- A refresh of the device's user takes it over. -/
  | takenOver (message : Message) (refreshSessionId : ℕ)
      (htake : TakeOver input db d message refreshSessionId) :
      StateChange input db d (.opening refreshSessionId) (takenOverDelivery d refreshSessionId)
        (.opening refreshSessionId)
  /-- The session's next message becomes its head. -/
  | armed (refreshSessionId : ℕ) (now : Time) (hqueued : IsQueuedIn refreshSessionId d)
      (hfirst : ∀ e ∈ db.deliveries, IsQueuedIn refreshSessionId e →
        acceptanceOrder db d ≤ acceptanceOrder db e) :
      StateChange input db d (.headless refreshSessionId)
        (armedDelivery input.settings d now) .settled

namespace StateChange

variable {input : Input} {db : Db} {d d' : MessageDelivery} {p p' : Phase}

/-- What a state change keeps. -/
theorem keeps (h : StateChange input db d p d' p') :
    d'.id = d.id ∧ d'.messageId = d.messageId ∧ d'.deviceId = d.deviceId ∧
      d'.deliveredAt = d.deliveredAt ∧ d'.readAt = d.readAt := by
  cases h <;> exact ⟨rfl, rfl, rfl, rfl, rfl⟩

theorem key_eq (h : StateChange input db d p d' p') : key d' = key d := h.keeps.1

/-- Neither a delivered delivery nor a confirmation is involved. -/
theorem not_delivered (h : StateChange input db d p d' p') :
    d.state ≠ .delivered ∧ d'.state ≠ .delivered := by
  cases h with
  | exhausted now hevent hstate => simp [hstate]
  | stopped sid now hevent hqueued => simp [hqueued.2]
  | takenOver message sid htake =>
      refine ⟨fun h => ?_, by simp⟩
      have := htake.taken
      simp [isTakenOverByARefresh, h] at this
  | armed sid now hqueued => simp [hqueued.2]

end StateChange

/-! ### The functions as changes -/

section Functions

variable {db : Db} {d : MessageDelivery}

/-- A delivery of the refresh scope is taken over. -/
theorem takeDeliveryIntoRefreshSession_of_mem (hd : d ∈ db.deliveries)
    (hstate : isTakenOverByARefresh d = true) (refreshSessionId : ℕ) :
    (takeDeliveryIntoRefreshSession db d refreshSessionId).1 =
      db.putDelivery (takenOverDelivery d refreshSessionId) := by
  have hmem : d.state ∈ [DeliveryState.pending, .failed, .cancelled] := by
    cases hs : d.state <;> simp_all [isTakenOverByARefresh]
  have hfree : ¬ (d.state = .pending ∧ d.refreshSessionId.isSome) := by
    rintro ⟨hs, ho⟩
    obtain ⟨sid, hsid⟩ := Option.isSome_iff_exists.1 ho
    simp [isTakenOverByARefresh, hs, hsid] at hstate
  unfold takeDeliveryIntoRefreshSession
  rw [if_neg hfree, updateLockedDelivery_of_state hd hmem]
  rfl

theorem armRefreshSessionHead_of_mem (settings : RelaySettings) (hd : d ∈ db.deliveries)
    (hstate : d.state = .queuedForRefresh) (now : Time) :
    armRefreshSessionHead settings db d now =
      (db.putDelivery (armedDelivery settings d now), armedDelivery settings d now, true) := by
  unfold armRefreshSessionHead
  rw [updateLockedDelivery_of_state hd (by simp [hstate])]
  rfl

theorem failDeliveryAfterExhaustedAttempts_of_mem (hd : d ∈ db.deliveries)
    (hstate : d.state = .pending) (now : Time) :
    (failDeliveryAfterExhaustedAttempts db d now).1 =
      db.putDelivery (failedDelivery d .attemptsExhausted now) := by
  unfold failDeliveryAfterExhaustedAttempts
  rw [updateLockedDelivery_of_state hd (by simp [hstate])]
  rfl

theorem failDeliveryOfStoppedRefresh_of_mem (hd : d ∈ db.deliveries)
    (hstate : d.state = .queuedForRefresh) (now : Time) :
    (failDeliveryOfStoppedRefresh db d now).1 =
      db.putDelivery (failedDelivery d .refreshStopped now) := by
  unfold failDeliveryOfStoppedRefresh
  rw [updateLockedDelivery_of_state hd (by simp [hstate])]
  rfl

theorem markDeliveryDelivered_of_mem (hd : d ∈ db.deliveries)
    (hstate : d.state ∈ unconfirmedDeliveryStates) (now : Time) (receivedPartsMask : Option ℕ)
    (isRead : Bool) :
    (markDeliveryDelivered db d now receivedPartsMask isRead).1 =
      db.putDelivery (deliveredDelivery d now receivedPartsMask isRead) := by
  unfold markDeliveryDelivered
  rw [updateLockedDelivery_of_state hd hstate]
  rfl

/-- The evidence timestamp replaces the row. -/
theorem recordDeliveryAcknowledgementTime_of_mem (hd : d ∈ db.deliveries) (now : Time) :
    recordDeliveryAcknowledgementTime db d now =
      (db.putDelivery (acknowledgedDelivery d now), acknowledgedDelivery d now) := by
  unfold recordDeliveryAcknowledgementTime Db.putDelivery
  rw [Table.updateWhere_eq_put hd (by simp)
    fun row hrow h => Table.eq_of_key_eq hrow hd (by simpa using h)]
  rfl

end Functions

end HoptalkRelay
