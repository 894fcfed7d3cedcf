/-
**What a status does to the deliveries.**

A `K` concerns one delivery.  With zeros its set replaces the recorded one, and what is left of the
round is brought forward; with all ones the delivery is delivered, and the next message of its
session may become the head.  No other row changes.

Main definitions:

* `HoptalkRelay.incompleteStatusDelivery` — the row after a status with zeros;
* `HoptalkRelay.HandsOver` — the deliveries after a confirmation.

Main results:

* `HoptalkRelay.recordIncompleteDeliveryStatus_of_mem` — a status with zeros replaces its row;
* `HoptalkRelay.handsOver_deliver` — a confirmation replaces its row, and arms at most one other;
* `HoptalkRelay.concludeConfirmation_frame` — what follows leaves the deliveries alone.
-/

import HoptalkRelay.Transactions.Confirmations

set_option relaxedAutoImplicit false
set_option autoImplicit false

namespace HoptalkRelay

open Relational

/-! ### A status with zeros -/

/-- The round is complete when the report left nothing of it. -/
def reportedRoundDelivery (settings : RelaySettings) (db : Db) (d : MessageDelivery)
    (roundHadPartsToSend : Bool) (now : Time) : MessageDelivery :=
  if roundHadPartsToSend && d.roundPendingPartsMask = 0 then
    roundCompletedDelivery d
      (calculateRoundCompletionDueTime settings d.attemptCount d.roundStartedAt d.lastSentAt
        (findLastRoundPacketSuggestedTimeout db d) now)
  else d

/-- The next round is due within a few seconds, when it is not due earlier. -/
def missingPartsSoonDelivery (settings : RelaySettings) (d : MessageDelivery) (now : Time) :
    MessageDelivery :=
  if d.roundPendingPartsMask = 0 ∧ d.attemptCount < d.maximumAttempts then
    if d.nextAttemptAt.all (calculateMissingPartsRoundTime settings now < ·) then
      { d with nextAttemptAt := some (calculateMissingPartsRoundTime settings now) }
    else d
  else d

/-- The row after a status with zeros. -/
def incompleteStatusDelivery (settings : RelaySettings) (db : Db) (d : MessageDelivery)
    (mask : ℕ) (now : Time) : MessageDelivery :=
  if d.state = .pending then
    missingPartsSoonDelivery settings
      (reportedRoundDelivery settings db (reportedDelivery d mask)
        (decide (d.roundPendingPartsMask ≠ 0)) now) now
  else { d with partsReceivedMask := mask }

section Incomplete

variable (settings : RelaySettings) {db : Db} {d : MessageDelivery} (now : Time)

theorem reportedRoundDelivery_keeps (db : Db) (d : MessageDelivery) (roundHadPartsToSend : Bool) :
    let e := reportedRoundDelivery settings db d roundHadPartsToSend now
    e.id = d.id ∧ e.messageId = d.messageId ∧ e.deviceId = d.deviceId ∧ e.state = d.state ∧
      e.refreshSessionId = d.refreshSessionId ∧ e.partsReceivedMask = d.partsReceivedMask := by
  unfold reportedRoundDelivery
  dsimp only
  split <;> exact ⟨rfl, rfl, rfl, rfl, rfl, rfl⟩

theorem missingPartsSoonDelivery_keeps (d : MessageDelivery) :
    let e := missingPartsSoonDelivery settings d now
    e.id = d.id ∧ e.messageId = d.messageId ∧ e.deviceId = d.deviceId ∧ e.state = d.state ∧
      e.refreshSessionId = d.refreshSessionId ∧ e.partsReceivedMask = d.partsReceivedMask := by
  unfold missingPartsSoonDelivery
  dsimp only
  split
  · split <;> exact ⟨rfl, rfl, rfl, rfl, rfl, rfl⟩
  · exact ⟨rfl, rfl, rfl, rfl, rfl, rfl⟩

/-- **A status with zeros records its set**, and keeps the state. -/
theorem incompleteStatusDelivery_keeps (db : Db) (d : MessageDelivery) (mask : ℕ) :
    let e := incompleteStatusDelivery settings db d mask now
    e.id = d.id ∧ e.messageId = d.messageId ∧ e.deviceId = d.deviceId ∧ e.state = d.state ∧
      e.refreshSessionId = d.refreshSessionId ∧ e.partsReceivedMask = mask := by
  unfold incompleteStatusDelivery
  dsimp only
  split
  · obtain ⟨hid, hmessage, hdevice, hstate, hsession, hmask⟩ :=
      missingPartsSoonDelivery_keeps settings now
        (reportedRoundDelivery settings db (reportedDelivery d mask)
          (decide (d.roundPendingPartsMask ≠ 0)) now)
    obtain ⟨hid', hmessage', hdevice', hstate', hsession', hmask'⟩ :=
      reportedRoundDelivery_keeps settings now db (reportedDelivery d mask)
        (decide (d.roundPendingPartsMask ≠ 0))
    exact ⟨hid.trans hid', hmessage.trans hmessage', hdevice.trans hdevice', hstate.trans hstate',
      hsession.trans hsession', hmask.trans hmask'⟩
  · exact ⟨rfl, rfl, rfl, rfl, rfl, rfl⟩

/-- **A status with zeros takes its parts out of the round.** -/
theorem reportedRound_incompleteStatusDelivery (db : Db) (d : MessageDelivery) (mask : ℕ) :
    ReportedRound d (incompleteStatusDelivery settings db d mask now) := by
  unfold incompleteStatusDelivery
  by_cases hpending : d.state = .pending
  · rw [if_pos hpending]
    have hreported : ReportedRound d (reportedRoundDelivery settings db (reportedDelivery d mask)
        (decide (d.roundPendingPartsMask ≠ 0)) now) := by
      unfold reportedRoundDelivery
      split
      · next hdone =>
          simp only [Bool.and_eq_true, decide_eq_true_eq] at hdone
          exact ⟨⟨rfl, rfl, rfl, id, fun _ => rfl, id⟩, fun _ => hdone.2.symm⟩
      · exact ⟨⟨rfl, rfl, rfl, id, fun h => by simp [h], id⟩, fun _ => rfl⟩
    -- only the due time may change afterwards
    unfold missingPartsSoonDelivery
    split
    · split
      · exact { hreported with }
      · exact hreported
    · exact hreported
  · rw [if_neg hpending]
    exact ⟨⟨rfl, rfl, rfl, id, id, id⟩, fun h => absurd h hpending⟩

theorem completeReportedRound_of_mem (hd : d ∈ db.deliveries) (hstate : d.state = .pending)
    (roundHadPartsToSend : Bool) :
    completeReportedRound settings db d roundHadPartsToSend now =
      (db.putDelivery (reportedRoundDelivery settings db d roundHadPartsToSend now),
        reportedRoundDelivery settings db d roundHadPartsToSend now) := by
  unfold completeReportedRound reportedRoundDelivery
  split
  · unfold completeDeliveryRound
    rw [updateLockedDelivery_of_state hd (by simp [hstate])]
    rfl
  · rw [Db.putDelivery, Table.put_self hd]

theorem sendMissingPartsSoon_of_mem (hd : d ∈ db.deliveries) (hstate : d.state = .pending) :
    sendMissingPartsSoon settings db d now =
      (db.putDelivery (missingPartsSoonDelivery settings d now),
        missingPartsSoonDelivery settings d now) := by
  unfold sendMissingPartsSoon missingPartsSoonDelivery bringNextRoundForward
  split
  · dsimp only
    split
    · rw [updateLockedDelivery_of_state hd (by simp [hstate])]
    · rw [Db.putDelivery, Table.put_self hd]
  · rw [Db.putDelivery, Table.put_self hd]

/-- **A status with zeros replaces its row.** -/
theorem recordIncompleteDeliveryStatus_of_mem (hd : d ∈ db.deliveries)
    (hstate : d.state ∈ deliveryStatesAConfirmationDelivers) (mask : ℕ) :
    (recordIncompleteDeliveryStatus settings db d mask now).1 =
      db.putDelivery (incompleteStatusDelivery settings db d mask now) := by
  unfold recordIncompleteDeliveryStatus incompleteStatusDelivery
  by_cases hpending : d.state = .pending
  · rw [if_neg (not_not.2 hpending), if_pos hpending,
      updateLockedDelivery_of_state hd (by simp [hpending])]
    show (sendMissingPartsSoon settings
      (completeReportedRound settings (db.putDelivery (reportedDelivery d mask))
        (reportedDelivery d mask) (decide (d.roundPendingPartsMask ≠ 0)) now).1
      (completeReportedRound settings (db.putDelivery (reportedDelivery d mask))
        (reportedDelivery d mask) (decide (d.roundPendingPartsMask ≠ 0)) now).2 now).1 = _
    generalize hreported : reportedDelivery d mask = reported
    have hid : reported.id = d.id := hreported ▸ rfl
    have hmem : reported ∈ (db.putDelivery reported).deliveries := Table.mem_put_self hd hid
    have hstate' : reported.state = .pending := by rw [← hreported]; exact hpending
    generalize hround : reportedRoundDelivery settings db reported
      (decide (d.roundPendingPartsMask ≠ 0)) now = round
    have hkeeps := reportedRoundDelivery_keeps settings now db reported
      (decide (d.roundPendingPartsMask ≠ 0))
    rw [hround] at hkeeps
    have hcompleted : completeReportedRound settings (db.putDelivery reported) reported
        (decide (d.roundPendingPartsMask ≠ 0)) now =
        ((db.putDelivery reported).putDelivery round, round) := by
      rw [completeReportedRound_of_mem settings now hmem hstate', ← hround]
      rfl
    have hmem' : round ∈ ((db.putDelivery reported).putDelivery round).deliveries :=
      Table.mem_put_self hmem hkeeps.1
    have hsoon := sendMissingPartsSoon_of_mem settings now hmem'
      (hkeeps.2.2.2.1.trans hstate')
    have hkeeps' := missingPartsSoonDelivery_keeps settings now round
    rw [hcompleted, hsoon, putDelivery_putDelivery _ hkeeps'.1.symm,
      putDelivery_putDelivery _ (hkeeps.1.symm.trans hkeeps'.1.symm)]
  · rw [if_pos hpending, if_neg hpending]
    have hmem : d.state ∈ [DeliveryState.queuedForRefresh, .failed] := by
      simp only [deliveryStatesAConfirmationDelivers] at hstate
      simpa [hpending] using hstate
    rw [updateLockedDelivery_of_state hd hmem]

end Incomplete

/-! ### A confirmation -/

/-- The deliveries after a confirmation: one row was replaced, and of its session at most one
queued row was armed. -/
def HandsOver (settings : RelaySettings) (db db' : Db) (d e : MessageDelivery) (now : Time) :
    Prop :=
  db' = db.putDelivery e ∨
    ∃ q ∈ (db.putDelivery e).deliveries, ∃ refreshSessionId, IsQueuedIn refreshSessionId q ∧
      headSessionId db d = some refreshSessionId ∧
      db' = (db.putDelivery e).putDelivery (armedDelivery settings q now)

theorem HandsOver.deliveriesOnly {settings : RelaySettings} {db db' : Db} {d e : MessageDelivery}
    {now : Time} (h : HandsOver settings db db' d e now) : DeliveriesOnly db db' := by
  rcases h with rfl | ⟨q, -, refreshSessionId, -, -, rfl⟩
  · exact .putDelivery db e
  · exact (DeliveriesOnly.putDelivery db e).trans (.putDelivery _ (armedDelivery settings q now))

/-- The confirmed row is not the one that was armed. -/
theorem HandsOver.mem_self {settings : RelaySettings} {db db' : Db} {d e : MessageDelivery}
    {now : Time} (h : HandsOver settings db db' d e now) (hd : d ∈ db.deliveries)
    (hid : e.id = d.id) (hstate : e.state ≠ .queuedForRefresh) : e ∈ db'.deliveries := by
  have he : e ∈ (db.putDelivery e).deliveries := Table.mem_put_self hd hid
  rcases h with rfl | ⟨q, hq, refreshSessionId, hqueued, -, rfl⟩
  · exact he
  · refine (Table.mem_put_iff (r := armedDelivery settings q now) hq rfl).2 (Or.inr ⟨he, ?_⟩)
    intro hkey
    obtain rfl := Table.eq_of_key_eq he hq hkey
    exact hstate hqueued.2

section Confirmation

variable (settings : RelaySettings) {db : Db} {d : MessageDelivery} (now : Time)

/-- **A confirmation replaces its row, and arms at most one other.** -/
theorem handsOver_deliver (hd : d ∈ db.deliveries)
    (hstate : d.state ∈ deliveryStatesAConfirmationDelivers) (mask : Option ℕ) (isRead : Bool) :
    HandsOver settings db (deliver settings db d now mask isRead).1 d
      (deliveredDelivery d now mask isRead) now := by
  unfold deliver
  rw [markDeliveryDelivered_of_mem hd hstate]
  dsimp only
  cases hhead : headSessionId db d with
  | none => exact Or.inl rfl
  | some refreshSessionId =>
      unfold moveSessionToNextMessage
      rcases armNextRefreshSessionHead_cases
        (db.putDelivery (deliveredDelivery d now mask isRead)) settings refreshSessionId now with
        ⟨q, hq, hqueued, -, harm⟩ | ⟨-, harm⟩
      · simp only [harm]
        exact Or.inr ⟨q, hq, refreshSessionId, hqueued, hhead, rfl⟩
      · simp only [harm]
        exact Or.inl rfl

/-- What follows a confirmed delivery leaves the users and the deliveries alone. -/
theorem concludeConfirmation_frame {m : Message} (hm : m ∈ db.messages)
    (haccepted : m.acceptedAt.isSome) (confirmation : DeliveryConfirmation) (isRead : Bool) :
    let db' := concludeConfirmation settings db m confirmation now isRead
    db'.users = db.users ∧ db'.deliveries = db.deliveries := by
  unfold concludeConfirmation
  rw [recordMessageConfirmation_eq hm]
  dsimp only
  have hmem : confirmedMessage m now isRead ∈
      (db.putMessage (confirmedMessage m now isRead)).messages := Table.mem_put_self hm rfl
  have hcomplete : ∀ db₁ : Db,
      (completeConfirmedHeadSession db₁ confirmation now).users = db₁.users ∧
        (completeConfirmedHeadSession db₁ confirmation now).deliveries = db₁.deliveries := by
    intro db₁
    unfold completeConfirmedHeadSession
    split <;> exact ⟨rfl, rfl⟩
  rw [(hcomplete _).1, (hcomplete _).2]
  split
  · obtain ⟨-, honly, -⟩ := quiets_raiseReceiptsForMessage ⟨settings, .recoverAtStartup now⟩ hmem
      haccepted (readMessageLevel_pos (isSome_confirmedMessage m now isRead).1) now
    exact ⟨honly.users, honly.deliveries⟩
  · exact ⟨rfl, rfl⟩

end Confirmation

end HoptalkRelay
