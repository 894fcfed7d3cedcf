/-
**The functions that write quietly.**

Rounds and reports of a delivery, everything about receipts, the confirmation of a message, the
parts of an upload, packets and the state of a contact on the node: each function of the source
is a sequence of quiet writes.

Main results:

* `HoptalkRelay.quiets_recordDeliveryPartSent`,
  `HoptalkRelay.quiets_recordIncompleteDeliveryStatus`,
  `HoptalkRelay.quiets_restartActiveSessionHead` — rounds;
* `HoptalkRelay.quiets_raiseReceiptsForMessage`, `HoptalkRelay.quiets_rearmReceiptsForRefresh`,
  `HoptalkRelay.quiets_recordReceiptConfirmation` — receipts;
* `HoptalkRelay.recordMessageConfirmation_eq` — the confirmation of a message;
* `HoptalkRelay.quiets_recordSendOutcome` — the outcome of a send.
-/

import HoptalkRelay.Writes

set_option relaxedAutoImplicit false
set_option autoImplicit false

namespace HoptalkRelay

open Relational

/-- One quiet write. -/
theorem Quiet.quiets {input : Input} {db db' : Db} (h : Quiet input db db') :
    Quiets input db db' := Relation.ReflTransGen.single h

/-! ### Rounds -/

section Rounds

variable {input : Input} {db : Db} {d : MessageDelivery}

theorem maskWithout_zero (removed : ℕ) : maskWithout 0 removed = 0 := by simp [maskWithout]

theorem completeDeliveryRound_of_mem (settings : RelaySettings) (hd : d ∈ db.deliveries)
    (hstate : d.state = .pending) (suggestedTimeout : Option ℕ) (now : Time) :
    ∃ due, completeDeliveryRound settings db d suggestedTimeout now =
      (db.putDelivery (roundCompletedDelivery d due), roundCompletedDelivery d due, true) := by
  refine ⟨calculateRoundCompletionDueTime settings d.attemptCount d.roundStartedAt d.lastSentAt
    suggestedTimeout now, ?_⟩
  unfold completeDeliveryRound
  rw [updateLockedDelivery_of_state hd (by simp [hstate])]
  rfl

/-- Completing a round of which nothing is left is a quiet write. -/
theorem quiet_roundCompleted (hd : d ∈ db.deliveries) (hstate : d.state = .pending)
    (hleft : findPartsLeftInRound d = 0) (due : Time) :
    Quiets input db (db.putDelivery (roundCompletedDelivery d due)) :=
  (Quiet.delivery hd (.roundCompleted due hstate hleft)).quiets

theorem findPartsLeftInRound_of_empty (hround : d.roundPendingPartsMask = 0) :
    findPartsLeftInRound d = 0 := by
  rw [findPartsLeftInRound, hround, maskWithout_zero]

/-- The part a packet carried was sent. -/
theorem quiets_recordDeliveryPartSent (hd : d ∈ db.deliveries) (hstate : d.state = .pending)
    {packet : OutboundPacket} {partNumber : ℕ} (hpacket : packet ∈ db.packets)
    (hprepared : packet.state = .prepared) (hdelivery : packet.messageDeliveryId = some d.id)
    (hpart : packet.partNumber = some partNumber)
    (harm : packet.armGeneration = some d.armGeneration)
    (hattempt : packet.attemptNumber = some d.attemptCount) (hevent : input.event.recordsOutcome)
    (suggestedTimeout : Option ℕ) (now : Time) :
    Quiets input db
      (recordDeliveryPartSent input.settings db d partNumber suggestedTimeout now).1 := by
  have hsent : RoundChange input db d (partSentDelivery d partNumber now) :=
    .partSent packet partNumber now hstate hpacket hprepared hdelivery hpart harm hattempt hevent
  have hmem : partSentDelivery d partNumber now ∈
      (db.putDelivery (partSentDelivery d partNumber now)).deliveries :=
    Table.mem_put_self hd hsent.key_eq
  have hquiet := (Quiet.delivery hd hsent).quiets
  unfold recordDeliveryPartSent
  dsimp only
  rw [updateLockedDelivery_of_state hd (by simp [hstate])]
  dsimp only
  split
  · next hdone =>
      have hempty : (partSentDelivery d partNumber now).roundPendingPartsMask = 0 := by
        simp only [Bool.and_eq_true, decide_eq_true_eq] at hdone
        exact hdone.2
      obtain ⟨due, hdue⟩ := completeDeliveryRound_of_mem input.settings hmem hstate
        suggestedTimeout now
      change Quiets input db (completeDeliveryRound input.settings
        (db.putDelivery (partSentDelivery d partNumber now)) (partSentDelivery d partNumber now)
        suggestedTimeout now).1
      rw [hdue]
      exact hquiet.trans (quiet_roundCompleted hmem hstate
        (findPartsLeftInRound_of_empty hempty) due)
  · exact hquiet

/-- Replacing a row by another one of the same key twice is replacing it once. -/
theorem putDelivery_putDelivery (db : Db) {d e : MessageDelivery} (hid : d.id = e.id) :
    (db.putDelivery d).putDelivery e = db.putDelivery e := by
  have hput : (db.deliveries.put d).put e = db.deliveries.put e := Table.put_put hid
  simp only [Db.putDelivery, hput]

theorem roundCompletedDelivery_of_empty (hround : d.roundPendingPartsMask = 0) (due : Time) :
    roundCompletedDelivery d due = rescheduledDelivery d (some due) := by
  unfold roundCompletedDelivery
  rw [← hround]
  rfl

/-- **A sent part** leaves the round; only the due time may change with it. -/
theorem recordDeliveryPartSent_of_mem (settings : RelaySettings) (hd : d ∈ db.deliveries)
    (hstate : d.state = .pending) (partNumber : ℕ) (suggestedTimeout : Option ℕ) (now : Time) :
    ∃ due, (recordDeliveryPartSent settings db d partNumber suggestedTimeout now).1 =
      db.putDelivery (rescheduledDelivery (partSentDelivery d partNumber now) due) := by
  have hmem : partSentDelivery d partNumber now ∈
      (db.putDelivery (partSentDelivery d partNumber now)).deliveries :=
    Table.mem_put_self hd rfl
  unfold recordDeliveryPartSent
  dsimp only
  rw [updateLockedDelivery_of_state hd (by simp [hstate])]
  dsimp only
  split
  · next hdone =>
      have hempty : (partSentDelivery d partNumber now).roundPendingPartsMask = 0 := by
        simp only [Bool.and_eq_true, decide_eq_true_eq] at hdone
        exact hdone.2
      obtain ⟨due, hdue⟩ := completeDeliveryRound_of_mem settings hmem hstate suggestedTimeout now
      refine ⟨some due, ?_⟩
      change (completeDeliveryRound settings (db.putDelivery (partSentDelivery d partNumber now))
        (partSentDelivery d partNumber now) suggestedTimeout now).1 = _
      rw [hdue, roundCompletedDelivery_of_empty hempty]
      exact putDelivery_putDelivery db rfl
  · exact ⟨d.nextAttemptAt, rfl⟩

/-- The report of a delivery is one of the delivery after another change. -/
theorem DeliveryReport.congr {db' : Db} {d' : MessageDelivery} {message : Message} {mask : ℕ}
    (h : DeliveryReport input db d message mask) (hmessages : db'.messages = db.messages)
    (hmessage : d'.messageId = d.messageId) (hdevice : d'.deviceId = d.deviceId) :
    DeliveryReport input db' d' message mask :=
  ⟨by rw [hmessages, hmessage, h.found], by rw [hdevice]; exact h.event⟩

/-- Completing the round a report emptied. -/
theorem quiets_completeReportedRound (input : Input) {db : Db} {d : MessageDelivery} (hd : d ∈ db.deliveries) (hstate : d.state = .pending)
    (roundHadPartsToSend : Bool) (now : Time) :
    Quiets input db (completeReportedRound input.settings db d roundHadPartsToSend now).1 ∧
      (completeReportedRound input.settings db d roundHadPartsToSend now).2 ∈
        (completeReportedRound input.settings db d roundHadPartsToSend now).1.deliveries ∧
      (completeReportedRound input.settings db d roundHadPartsToSend now).2.state = .pending := by
  unfold completeReportedRound
  split
  · next hdone =>
      have hempty : d.roundPendingPartsMask = 0 := by
        simp only [Bool.and_eq_true, decide_eq_true_eq] at hdone
        exact hdone.2
      obtain ⟨due, hdue⟩ := completeDeliveryRound_of_mem input.settings hd hstate
        (findLastRoundPacketSuggestedTimeout db d) now
      rw [hdue]
      exact ⟨quiet_roundCompleted hd hstate (findPartsLeftInRound_of_empty hempty) due,
        Table.mem_put_self hd rfl, hstate⟩
  · exact ⟨.refl, hd, hstate⟩

/-- The missing parts go soon. -/
theorem quiets_sendMissingPartsSoon (hd : d ∈ db.deliveries) (hstate : d.state = .pending)
    (now : Time) : Quiets input db (sendMissingPartsSoon input.settings db d now).1 := by
  unfold sendMissingPartsSoon
  split
  swap
  · exact .refl
  unfold bringNextRoundForward
  dsimp only
  split
  · rw [updateLockedDelivery_of_state hd (by simp [hstate])]
    exact (Quiet.delivery hd (.rescheduled _ hstate)).quiets
  · exact .refl

/-- A status with zeros. -/
theorem quiets_recordIncompleteDeliveryStatus (hd : d ∈ db.deliveries) {message : Message}
    {mask : ℕ} (hreport : DeliveryReport input db d message mask)
    (hmask : mask ≠ calculateAllPartsMask message.partCount) (now : Time) :
    Quiets input db (recordIncompleteDeliveryStatus input.settings db d mask now).1 := by
  unfold recordIncompleteDeliveryStatus
  by_cases hstate : d.state = .pending
  · have hreported := RoundChange.reportedPending message mask hstate hreport hmask
    have hmem : reportedDelivery d mask ∈
        (db.putDelivery (reportedDelivery d mask)).deliveries :=
      Table.mem_put_self hd hreported.key_eq
    rw [if_neg (not_not.2 hstate), updateLockedDelivery_of_state hd (by simp [hstate])]
    obtain ⟨hquiets, hmem', hstate'⟩ := quiets_completeReportedRound input hmem hstate
      (decide (d.roundPendingPartsMask ≠ 0)) now
    exact (Quiet.delivery hd hreported).quiets.trans
      (hquiets.trans (quiets_sendMissingPartsSoon hmem' hstate' now))
  · rw [if_pos hstate, updateLockedDelivery_of_mem hd]
    split
    · next hmem =>
        have hmem : d.state = .queuedForRefresh ∨ d.state = .failed := by simpa using hmem
        exact (Quiet.delivery hd (.reported message mask hmem hreport hmask)).quiets
    · exact .refl

/-- **A repeated refresh restarts the head** of the session, or finds it due anyway. -/
theorem restartActiveSessionHead_cases (input : Input) (db : Db) (refreshSessionId : ℕ)
    (now : Time) :
    restartActiveSessionHead input.settings db refreshSessionId now = db ∨
      ∃ d ∈ db.deliveries, d.refreshSessionId = some refreshSessionId ∧ d.state = .pending ∧
        ∃ e, RoundChange input db d e ∧
          restartActiveSessionHead input.settings db refreshSessionId now = db.putDelivery e := by
  unfold restartActiveSessionHead
  split
  · exact Or.inl rfl
  · next head hhead =>
      obtain ⟨hmem, hcond⟩ := Table.first?_eq_some hhead
      simp only [Bool.and_eq_true, decide_eq_true_eq] at hcond
      obtain ⟨howned, hstate⟩ := hcond
      unfold restartRefreshSessionHead
      rw [if_neg (by simp [howned])]
      split
      · split
        · exact Or.inl rfl
        · rw [updateLockedDelivery_of_state hmem (by simp [hstate])]
          exact Or.inr ⟨head, hmem, howned, hstate, _, .rescheduled now hstate, rfl⟩
      · rw [updateLockedDelivery_of_state hmem (by simp [hstate])]
        exact Or.inr ⟨head, hmem, howned, hstate, _, .restarted now hstate (by simp [howned]), rfl⟩

/-- It does so quietly. -/
theorem quiets_restartActiveSessionHead (refreshSessionId : ℕ) (now : Time) :
    Quiets input db (restartActiveSessionHead input.settings db refreshSessionId now) := by
  rcases restartActiveSessionHead_cases input db refreshSessionId now with
    hsame | ⟨d, hd, -, -, e, change, heq⟩
  · rw [hsame]
  · rw [heq]
    exact (Quiet.delivery hd change).quiets

end Rounds

/-! ### Receipts -/

section ReceiptFunctions

variable {input : Input} {db : Db} {r : ReceiptNotification}

theorem raiseReceiptToRead_of_mem (settings : RelaySettings) (hr : r ∈ db.receipts)
    (hconfirmed : r.confirmedLevel ≠ readLevel) (now : Time) :
    (raiseReceiptToRead settings db r now).1 =
      db.putReceipt (raisedReceipt settings r now) := by
  unfold raiseReceiptToRead
  rw [if_neg hconfirmed, updateLockedReceipt_of_state hr (by cases r.state <;> simp)]
  rfl

theorem startReceiptAttempt_of_mem (hr : r ∈ db.receipts) (hstate : r.state = .pending)
    (now : Time) :
    startReceiptAttempt db r now =
      (db.putReceipt (startedReceipt r now), startedReceipt r now, true) := by
  unfold startReceiptAttempt
  rw [updateLockedReceipt_of_state hr (by simp [hstate])]
  rfl

/-- The packet of a receipt's attempt was sent. -/
theorem quiets_recordReceiptPacketSent (hr : r ∈ db.receipts) (hstate : r.state = .pending)
    (hround : r.roundPending = true) (suggestedTimeout : Option ℕ) (now : Time) :
    Quiets input db (recordReceiptPacketSent input.settings db r suggestedTimeout now).1 := by
  unfold recordReceiptPacketSent
  dsimp only
  rw [updateLockedReceipt_of_state hr (by simp [hstate])]
  exact (Quiet.receipt hr (.sent now _ hstate hround)).quiets

theorem failReceiptAfterExhaustedAttempts_of_mem (hr : r ∈ db.receipts)
    (hstate : r.state = .pending) (now : Time) :
    (failReceiptAfterExhaustedAttempts db r now).1 =
      db.putReceipt { r with state := .failed, failedAt := some now, updatedAt := now } := by
  unfold failReceiptAfterExhaustedAttempts
  rw [updateLockedReceipt_of_state hr (by simp [hstate])]

/-- The confirmation time replaces the row. -/
theorem updateConfirmationTime_of_mem (hr : r ∈ db.receipts) (now : Time) :
    ({ db with
        receipts := db.receipts.updateWhere (fun row => row.id = r.id) fun row =>
          { row with lastConfirmationReceivedAt := some now } } : Db) =
      db.putReceipt { r with lastConfirmationReceivedAt := some now } := by
  unfold Db.putReceipt
  rw [Table.updateWhere_eq_put hr (by simp)
    fun row hrow h => Table.eq_of_key_eq hrow hr (by simpa using h)]

/-- A `C` of a device. -/
theorem quiets_recordReceiptConfirmation (hr : r ∈ db.receipts) (level : ℕ) (now : Time) :
    Quiets input db (recordReceiptConfirmation db r level now).1 := by
  have hacknowledged : Quiet input db (db.putReceipt { r with lastConfirmationReceivedAt := some now }) :=
    .receipt hr (.acknowledged now)
  have hmem : { r with lastConfirmationReceivedAt := some now } ∈
      (db.putReceipt { r with lastConfirmationReceivedAt := some now }).receipts :=
    Table.mem_put_self hr rfl
  unfold recordReceiptConfirmation
  rw [updateConfirmationTime_of_mem hr]
  dsimp only
  split
  · exact hacknowledged.quiets
  · next hlevel =>
      rw [updateLockedReceipt_of_mem hmem]
      split
      swap
      · exact hacknowledged.quiets
      next hstate =>
      have hstate : r.state = .pending ∨ r.state = .failed := by simpa using hstate
      have hup : r.confirmedLevel < max r.confirmedLevel (min level r.targetLevel) :=
        lt_of_le_of_ne (le_max_left _ _) (Ne.symm hlevel)
      have hcap : max r.confirmedLevel (min level r.targetLevel) ≤
          max r.confirmedLevel r.targetLevel := max_le_max le_rfl (min_le_right _ _)
      have hconfirmed : ReceiptChange input
          (db.putReceipt { r with lastConfirmationReceivedAt := some now })
          { r with lastConfirmationReceivedAt := some now } (confirmedReceipt _ _ now) :=
        .confirmed _ now hstate hup hcap
      refine hacknowledged.quiets.trans ?_
      simpa [confirmedReceipt] using (Quiet.receipt hmem hconfirmed).quiets

/-- A delivered or read message raises the receipts of the sender's devices; what it knows of the
receipts of the devices still to come. -/
def ReceiptsKnown (existing : List ReceiptNotification) (db : Db) (messageId : ℕ)
    (deviceIds : List ℕ) : Prop :=
  ∀ deviceId ∈ deviceIds,
    match existing.find? fun r => r.deviceId = deviceId with
    | none => ∀ r ∈ db.receipts, ¬ (r.messageId = messageId ∧ r.deviceId = deviceId)
    | some r => r ∈ db.receipts ∧ r.messageId = messageId ∧ r.deviceId = deviceId

/-- Two databases that differ in their receipts at most. -/
structure ReceiptsOnly (db db' : Db) : Prop where
  users : db'.users = db.users
  contacts : db'.contacts = db.contacts
  messages : db'.messages = db.messages
  deliveries : db'.deliveries = db.deliveries
  sessions : db'.sessions = db.sessions
  packets : db'.packets = db.packets

theorem ReceiptsOnly.refl (db : Db) : ReceiptsOnly db db := ⟨rfl, rfl, rfl, rfl, rfl, rfl⟩

theorem ReceiptsOnly.trans {db db' db'' : Db} (h : ReceiptsOnly db db')
    (h' : ReceiptsOnly db' db'') : ReceiptsOnly db db'' :=
  ⟨h'.users.trans h.users, h'.contacts.trans h.contacts, h'.messages.trans h.messages,
    h'.deliveries.trans h.deliveries, h'.sessions.trans h.sessions, h'.packets.trans h.packets⟩

/-- What raising the receipt of one device leaves alone. -/
structure OtherReceiptsKept (db db' : Db) (deviceId : ℕ) : Prop extends ReceiptsOnly db db' where
  receipts : ∀ r, r.deviceId ≠ deviceId → (r ∈ db'.receipts ↔ r ∈ db.receipts)

/-- The device has a receipt of the message; of a read message, one that is to be sent as read
unless the device had confirmed that before. -/
def HasRaisedReceipt (before : Table ReceiptNotification) (db : Db) (m : Message)
    (deviceId : ℕ) : Prop :=
  ∃ r ∈ db.receipts, r.messageId = m.id ∧ r.deviceId = deviceId ∧
    (readMessageLevel m = readLevel →
      r.state = .pending ∧ r.targetLevel = readLevel ∨ r ∈ before ∧ r.confirmedLevel = readLevel)

theorem ReceiptsKnown.tail {existing : List ReceiptNotification} {db db' : Db}
    {messageId deviceId : ℕ} {deviceIds : List ℕ} (hnot : deviceId ∉ deviceIds)
    (hkept : OtherReceiptsKept db db' deviceId)
    (h : ReceiptsKnown existing db messageId (deviceId :: deviceIds)) :
    ReceiptsKnown existing db' messageId deviceIds := by
  intro device hdevice
  have hne : device ≠ deviceId := by
    rintro rfl
    exact hnot hdevice
  have hknown := h device (List.mem_cons_of_mem _ hdevice)
  split at hknown
  · rintro r hr ⟨hm, hd⟩
    exact hknown r ((hkept.receipts r (hd ▸ hne)).1 hr) ⟨hm, hd⟩
  · next r _ =>
    obtain ⟨hr, hm, hd⟩ := hknown
    exact ⟨(hkept.receipts r (hd ▸ hne)).2 hr, hm, hd⟩

/-- Raising the receipt of one device. -/
theorem quiets_raiseReceiptOfDevice (input : Input) {db : Db} {m : Message} {deviceId : ℕ} {deviceIds : List ℕ}
    {existing : List ReceiptNotification} {before : Table ReceiptNotification}
    (hm : m ∈ db.messages) (haccepted : m.acceptedAt.isSome) (hlevel : 0 < readMessageLevel m)
    (hlinked : db.deviceUserId deviceId = some m.senderId)
    (hbefore : ∀ r ∈ existing, r ∈ before)
    (hknown : ReceiptsKnown existing db m.id (deviceId :: deviceIds)) (now : Time) :
    Quiets input db (raiseReceiptOfDevice input.settings m.id (readMessageLevel m) existing now db
        deviceId) ∧
      OtherReceiptsKept db (raiseReceiptOfDevice input.settings m.id (readMessageLevel m) existing
        now db deviceId) deviceId ∧
      HasRaisedReceipt before (raiseReceiptOfDevice input.settings m.id (readMessageLevel m)
        existing now db deviceId) m deviceId := by
  have hself := hknown deviceId List.mem_cons_self
  unfold raiseReceiptOfDevice
  cases hfind : existing.find? fun receipt => receipt.deviceId = deviceId with
  | none =>
      rw [hfind] at hself
      refine ⟨(Quiet.newReceipt hm haccepted hlevel hlinked hself).quiets,
        ⟨⟨rfl, rfl, rfl, rfl, rfl, rfl⟩, fun r hr => ?_⟩,
        _, Table.mem_insert.2 (Or.inr rfl), rfl, rfl, fun hread => Or.inl ⟨rfl, hread⟩⟩
      simp only [createReceipt, Table.mem_insert, or_iff_left_iff_imp]
      rintro rfl
      exact absurd rfl hr
  | some r =>
      rw [hfind] at hself
      obtain ⟨hr, hmessage, hdevice⟩ := hself
      dsimp only
      split
      swap
      · next hunread =>
          exact ⟨.refl, ⟨.refl db, fun _ _ => Iff.rfl⟩, r, hr, hmessage, hdevice,
            fun hread => absurd hread hunread⟩
      next hread =>
      by_cases hconfirmed : r.confirmedLevel = readLevel
      · simp only [raiseReceiptToRead, hconfirmed, if_true]
        exact ⟨.refl, ⟨.refl db, fun _ _ => Iff.rfl⟩, r, hr, hmessage, hdevice,
          fun _ => Or.inr ⟨hbefore r (List.mem_of_find?_eq_some hfind), hconfirmed⟩⟩
      · rw [raiseReceiptToRead_of_mem input.settings hr hconfirmed]
        have hlink : ReceiptLink db r m :=
          ⟨by rw [hmessage]; exact Table.get?_key hm, by rw [hdevice, hlinked]⟩
        have hkey : key (raisedReceipt input.settings r now) = key r := rfl
        refine ⟨(Quiet.receipt hr (.raised m now hlink hread hconfirmed)).quiets,
          ⟨⟨rfl, rfl, rfl, rfl, rfl, rfl⟩, fun q hq => ?_⟩,
          _, Table.mem_put_self hr hkey, hmessage, hdevice, fun _ => Or.inl ⟨rfl, rfl⟩⟩
        refine (Table.mem_put_iff hr hkey).trans ⟨?_, fun hq' => Or.inr ⟨hq', fun h => hq ?_⟩⟩
        · rintro (rfl | ⟨hq', -⟩)
          · exact absurd hdevice hq
          · exact hq'
        · rw [Table.eq_of_key_eq hq' hr h, hdevice]

/-- Raising the receipts of the devices, one after the other. -/
theorem quiets_raiseReceipts (input : Input) {m : Message} {existing : List ReceiptNotification}
    {before : Table ReceiptNotification} (hbefore : ∀ r ∈ existing, r ∈ before) (now : Time) :
    ∀ (deviceIds : List ℕ) (db : Db), deviceIds.Nodup → m ∈ db.messages → m.acceptedAt.isSome →
      0 < readMessageLevel m → (∀ d ∈ deviceIds, db.deviceUserId d = some m.senderId) →
      ReceiptsKnown existing db m.id deviceIds →
      let db' := deviceIds.foldl
        (raiseReceiptOfDevice input.settings m.id (readMessageLevel m) existing now) db
      Quiets input db db' ∧ ReceiptsOnly db db' ∧
        (∀ d ∈ deviceIds, HasRaisedReceipt before db' m d) ∧
        ∀ r, r.deviceId ∉ deviceIds → (r ∈ db'.receipts ↔ r ∈ db.receipts) := by
  intro deviceIds
  induction deviceIds with
  | nil => exact fun _ _ _ _ _ _ _ => ⟨.refl, .refl _, by simp, fun _ _ => Iff.rfl⟩
  | cons deviceId deviceIds ih =>
      intro db hnodup hm haccepted hlevel hlinked hknown
      obtain ⟨hnot, hnodup⟩ := List.nodup_cons.1 hnodup
      obtain ⟨hquiets, hkept, r, hr, hmessage, hdevice, hraised⟩ :=
        quiets_raiseReceiptOfDevice input hm haccepted hlevel
          (hlinked deviceId List.mem_cons_self) hbefore hknown now
      obtain ⟨hquiets', honly, hall, hrest⟩ := ih _ hnodup (hkept.messages ▸ hm) haccepted hlevel
        (fun d hd => by
          rw [Db.deviceUserId, hkept.contacts]
          exact hlinked d (List.mem_cons_of_mem _ hd))
        (hknown.tail hnot hkept)
      refine ⟨hquiets.trans hquiets', hkept.toReceiptsOnly.trans honly, fun d hd => ?_,
        fun q hq => ?_⟩
      · rcases List.mem_cons.1 hd with rfl | hd
        · exact ⟨r, (hrest r (hdevice ▸ hnot)).2 hr, hmessage, hdevice, hraised⟩
        · exact hall d hd
      · rw [List.mem_cons, not_or] at hq
        exact (hrest q hq.2).trans (hkept.receipts q hq.1)

theorem mem_deviceIdsOfUser {userId deviceId : ℕ} :
    deviceId ∈ db.deviceIdsOfUser userId ↔ db.deviceUserId deviceId = some userId := by
  simp only [Db.deviceIdsOfUser, Db.deviceUserId, List.mem_map, Table.mem_filter,
    decide_eq_true_eq]
  constructor
  · rintro ⟨c, ⟨hc, hu⟩, rfl⟩
    have := Table.get?_key hc
    simp only [key_contact] at this
    rw [this]
    exact hu
  · intro h
    obtain ⟨c, hc, hu⟩ := Option.bind_eq_some_iff.1 h
    exact ⟨c, ⟨Table.mem_of_get? hc, hu⟩, Table.key_of_get? hc⟩

theorem nodup_deviceIdsOfUser (userId : ℕ) : (db.deviceIdsOfUser userId).Nodup := by
  refine List.Nodup.map_on ?_ (Table.nodup_filter _ _)
  intro a ha b hb hab
  exact Table.eq_of_key_eq (Table.mem_filter.1 ha).1 (Table.mem_filter.1 hb).1 hab

/-- What was read of the receipts before the loop. -/
theorem receiptsKnown_selectReceiptsOfDevices (messageId : ℕ) (deviceIds : List ℕ) :
    ReceiptsKnown (selectReceiptsOfDevices db messageId deviceIds) db messageId deviceIds := by
  intro deviceId hdevice
  split
  · next hnone =>
      rintro r hr ⟨hm, hd⟩
      have hmem : r ∈ selectReceiptsOfDevices db messageId deviceIds := by
        simp [selectReceiptsOfDevices, hr, hm, hd, hdevice]
      simpa [hd] using List.find?_eq_none.1 hnone r hmem
  · next r hsome =>
      have hmem := List.mem_of_find?_eq_some hsome
      have hd := List.find?_some hsome
      simp only [selectReceiptsOfDevices, Table.mem_filter, Bool.and_eq_true,
        decide_eq_true_eq] at hmem hd
      exact ⟨hmem.1, hmem.2.1, hd⟩

/-- **A message was delivered or read**: quietly, every device of its sender gets its receipt. -/
theorem quiets_raiseReceiptsForMessage (input : Input) {db : Db} {m : Message} (hm : m ∈ db.messages)
    (haccepted : m.acceptedAt.isSome) (hlevel : 0 < readMessageLevel m) (now : Time) :
    Quiets input db (raiseReceiptsForMessage input.settings db m now) ∧
      ReceiptsOnly db (raiseReceiptsForMessage input.settings db m now) ∧
      ∀ deviceId, db.deviceUserId deviceId = some m.senderId →
        HasRaisedReceipt db.receipts (raiseReceiptsForMessage input.settings db m now) m
          deviceId := by
  obtain ⟨hquiets, honly, hall, -⟩ := quiets_raiseReceipts input
    (fun r hr => (Table.mem_filter.1 hr).1) now _ db (nodup_deviceIdsOfUser m.senderId) hm haccepted
    hlevel (fun _ hd => mem_deviceIdsOfUser.1 hd)
    (receiptsKnown_selectReceiptsOfDevices m.id (db.deviceIdsOfUser m.senderId))
  exact ⟨hquiets, honly, fun deviceId hlinked => hall deviceId (mem_deviceIdsOfUser.2 hlinked)⟩

theorem reviveCancelledReceipt_of_mem (settings : RelaySettings) (hr : r ∈ db.receipts)
    (hstate : r.state = .cancelled) (m : Message) (now : Time) :
    (reviveCancelledReceipt settings db r m now).1 =
      if r.confirmedLevel = max r.targetLevel (readMessageLevel m) then
        db.putReceipt
          (revivedConfirmedReceipt r (max r.targetLevel (readMessageLevel m)) now)
      else
        db.putReceipt (revivedReceipt settings r (max r.targetLevel (readMessageLevel m)) now) := by
  have hmem : r.state ∈ [ReceiptState.cancelled] := by simp [hstate]
  unfold reviveCancelledReceipt
  dsimp only
  split
  · rw [updateLockedReceipt_of_state hr hmem]
    rfl
  · rw [updateLockedReceipt_of_state hr hmem]
    rfl

theorem rearmLiveReceipt_of_mem (settings : RelaySettings) (hr : r ∈ db.receipts)
    (hstate : r.state = .pending ∨ r.state = .failed) (now : Time) :
    (updateLockedReceipt db r [.pending, .failed] now
      (buildFreshAttemptChanges settings now)).1 =
      db.putReceipt (freshReceipt settings r now) := by
  rw [updateLockedReceipt_of_state hr (by simpa using hstate)]
  rfl

/-- What a refresh rearms: the device is linked to the message's sender. -/
theorem mem_selectReceiptsARefreshRearms {deviceId senderId recipientId : ℕ}
    {receiptAndMessage : ReceiptNotification × Message}
    (h : receiptAndMessage ∈ selectReceiptsARefreshRearms db deviceId senderId recipientId) :
    receiptAndMessage.1 ∈ db.receipts ∧ receiptAndMessage.1.deviceId = deviceId ∧
      receiptAndMessage.1.state ∈ receiptStatesARefreshRearms ∧
      db.messages.get? receiptAndMessage.1.messageId = some receiptAndMessage.2 ∧
      receiptAndMessage.2.senderId = senderId := by
  simp only [selectReceiptsARefreshRearms, List.mem_filterMap, Table.mem_filter,
    Bool.and_eq_true, decide_eq_true_eq, List.contains_iff_mem] at h
  obtain ⟨r, ⟨hr, hdevice, hstate⟩, hbind⟩ := h
  obtain ⟨m, hm, hcond⟩ := Option.bind_eq_some_iff.1 hbind
  split at hcond
  · next hparties =>
      obtain rfl : (r, m) = receiptAndMessage := by simpa using hcond
      exact ⟨hr, hdevice, hstate, hm, hparties.1⟩
  · simp at hcond

/-- Every receipt is rearmed once. -/
theorem nodup_selectReceiptsARefreshRearms (deviceId senderId recipientId : ℕ) :
    ((selectReceiptsARefreshRearms db deviceId senderId recipientId).map
      fun receiptAndMessage => key receiptAndMessage.1).Nodup := by
  refine List.pairwise_map.2 (List.pairwise_filterMap.2 ?_)
  refine (Table.pairwise_filter db.receipts _).imp ?_
  intro a b hab x hx y hy
  obtain ⟨m, -, hm⟩ := Option.bind_eq_some_iff.1 hx
  obtain ⟨n, -, hn⟩ := Option.bind_eq_some_iff.1 hy
  simp only [Option.ite_none_right_eq_some, Option.some.injEq] at hm hn
  rw [← hm.2, ← hn.2]
  exact Nat.ne_of_lt hab

/-- Rearming one receipt is quiet, and leaves the other rows. -/
theorem quiets_rearmReceipt (input : Input) {db : Db} {r : ReceiptNotification} {m : Message} (hr : r ∈ db.receipts) (hlink : ReceiptLink db r m)
    (hstate : r.state ∈ receiptStatesARefreshRearms) (now : Time) :
    Quiets input db (rearmReceipt input.settings now db (r, m)) ∧
      ∃ r', key r' = key r ∧ rearmReceipt input.settings now db (r, m) = db.putReceipt r' := by
  unfold rearmReceipt
  dsimp only
  split
  · next hcancelled =>
      rw [reviveCancelledReceipt_of_mem input.settings hr hcancelled]
      split
      · next hlevel =>
          exact ⟨(Quiet.receipt hr (.revivedConfirmed m now hlink hcancelled hlevel)).quiets,
            revivedConfirmedReceipt r _ now, rfl, rfl⟩
      · next hlevel =>
          exact ⟨(Quiet.receipt hr (.revivedPending m now hlink hcancelled hlevel)).quiets,
            revivedReceipt input.settings r _ now, rfl, rfl⟩
  · next hlive =>
      have hlive' : r.state = .pending ∨ r.state = .failed := by
        simpa [receiptStatesARefreshRearms, hlive] using hstate
      rw [rearmLiveReceipt_of_mem input.settings hr hlive']
      exact ⟨(Quiet.receipt hr (.rearmed m now hlink hlive')).quiets,
        freshReceipt input.settings r now, rfl, rfl⟩

/-- A refresh of one peer restarts the device's receipts quietly. -/
theorem quiets_rearmReceiptsForRefresh (input : Input) {db : Db} {deviceId senderId : ℕ}
    (recipientId : ℕ) (hlinked : db.deviceUserId deviceId = some senderId) (now : Time) :
    let db' := rearmReceiptsForRefresh input.settings db deviceId senderId recipientId now
    Quiets input db db' ∧ ReceiptsOnly db db' := by
  refine foldl_rows (I := ReceiptsOnly db) Db.receipts Prod.fst _ _ ?_ db (.refl db)
    (nodup_selectReceiptsARefreshRearms _ _ _) fun a ha => (mem_selectReceiptsARefreshRearms ha).1
  rintro db' ⟨r, m⟩ ha honly hr
  obtain ⟨-, hdevice, hstate, hm, hsender⟩ := mem_selectReceiptsARefreshRearms ha
  have hlink : ReceiptLink db' r m :=
    ⟨by rw [honly.messages]; exact hm, by
      rw [Db.deviceUserId_congr honly.contacts, hdevice, hsender]; exact hlinked⟩
  obtain ⟨hquiets, r', hkey, heq⟩ := quiets_rearmReceipt input hr hlink hstate now
  refine ⟨hquiets, honly.trans ?_, fun q hq hne => ?_⟩
  · rw [heq]
    exact ⟨rfl, rfl, rfl, rfl, rfl, rfl⟩
  · rw [heq]
    exact (Table.mem_put_iff hr hkey).2 (Or.inr ⟨hq, hne⟩)

end ReceiptFunctions

/-! ### Messages -/

section MessageFunctions

variable {input : Input} {db : Db} {m : Message}

/-- Updating the row of a message by its key replaces this row. -/
theorem updateMessage_of_mem (hm : m ∈ db.messages) (f : Message → Message)
    (hid : ∀ row, (fun row : Message => decide (row.id = m.id)) row = true →
      key (f row) = key row) :
    ({ db with messages := db.messages.updateWhere (fun row => row.id = m.id) f hid } : Db) =
      db.putMessage (f m) := by
  unfold Db.putMessage
  rw [Table.updateWhere_eq_put hm (by simp)
    fun row hrow h => Table.eq_of_key_eq hrow hm (by simpa using h)]

/-- Confirming a message again changes nothing. -/
theorem confirmedMessage_self {now : Time} {isRead : Bool} (hdelivered : m.deliveredAt ≠ none)
    (hread : isRead = true → m.readAt ≠ none) : confirmedMessage m now isRead = m := by
  obtain ⟨delivered, hdelivered⟩ := Option.ne_none_iff_exists'.1 hdelivered
  cases m with
  | mk =>
      cases isRead with
      | false => simp_all [confirmedMessage]
      | true =>
          obtain ⟨read, hread⟩ := Option.ne_none_iff_exists'.1 (hread rfl)
          simp_all [confirmedMessage]

/-- **The confirmation of a message** sets what is new and keeps the rest. -/
theorem recordMessageConfirmation_eq (hm : m ∈ db.messages) (now : Time) (isRead : Bool) :
    recordMessageConfirmation db m now isRead =
      (db.putMessage (confirmedMessage m now isRead), confirmedMessage m now isRead,
        decide (m.deliveredAt = none) || (isRead && decide (m.readAt = none))) := by
  have hrow : applyMessageConfirmation (decide (m.deliveredAt = none))
      (isRead && decide (m.readAt = none)) now m = confirmedMessage m now isRead := by
    cases hd : m.deliveredAt <;> cases hr : m.readAt <;> cases isRead <;>
      simp [applyMessageConfirmation, confirmedMessage, hd, hr]
  unfold recordMessageConfirmation
  dsimp only
  rw [updateMessage_of_mem hm, hrow]
  cases hnew : decide (m.deliveredAt = none) || (isRead && decide (m.readAt = none)) with
  | true =>
      rw [if_neg]
      simpa [or_iff_not_imp_left] using hnew
  | false =>
      have hold : m.deliveredAt ≠ none ∧ (isRead = true → m.readAt ≠ none) := by
        simpa using hnew
      rw [confirmedMessage_self hold.1 hold.2, Db.putMessage, Table.put_self hm, if_pos]
      simpa [imp_iff_not_or] using hold

/-- Storing a part replaces the message's row. -/
theorem storePart_of_mem (hm : m ∈ db.messages) (part : MessagePartRequest) (now : Time) :
    storePart db m part now =
      (db.putMessage (messageWithPart m part now), messageWithPart m part now,
        decide (m.partTexts.getD (part.partNumber - 1) none = none)) := by
  have hrow := updateMessage_of_mem hm
    (fun row => { row with
      partTexts := (messageWithPart m part now).partTexts
      lastPartAt := (messageWithPart m part now).lastPartAt })
    fun _ _ => rfl
  exact congrArg (·, messageWithPart m part now, _) hrow

/-- A part of an accepted message is held already, and storing it changes nothing. -/
theorem messageWithPart_of_accepted (haccepted : m.acceptedAt ≠ none) {part : MessagePartRequest}
    (hheld : m.partTexts.getD (part.partNumber - 1) none ≠ none) (now : Time) :
    messageWithPart m part now = m := by
  rw [messageWithPart, if_neg hheld, if_neg haccepted]

/-- What locking or creating a message under the sender's id gives. -/
inductive LockedMessage (db : Db) (senderId recipientId deviceId : ℕ) (part : MessagePartRequest)
    (partCount : PartCount) (now : Time) : Db → Message → Prop
  | existing {m : Message} (hm : m ∈ db.messages) (hsender : m.senderId = senderId)
      (hid : m.clientMessageId.val = part.messageId) :
      LockedMessage db senderId recipientId deviceId part partCount now db m
  | created {clientMessageId : MessageId} (hid : clientMessageId.val = part.messageId)
      (hnew : ∀ m ∈ db.messages,
        ¬ (m.senderId = senderId ∧ m.clientMessageId = clientMessageId)) :
      LockedMessage db senderId recipientId deviceId part partCount now
        { db with
          messages := db.messages.insert
            (newMessage senderId recipientId deviceId clientMessageId partCount now)
            fun _ => rfl }
        (newMessage senderId recipientId deviceId clientMessageId partCount now
          db.messages.nextKey)

theorem lockOrCreateMessage_ok {senderId recipientId deviceId : ℕ} {part : MessagePartRequest}
    {partCount : PartCount} {now : Time} {db' : Db}
    (h : lockOrCreateMessage db senderId recipientId deviceId part partCount now =
      .ok (db', m)) :
    LockedMessage db senderId recipientId deviceId part partCount now db' m := by
  unfold lockOrCreateMessage at h
  split at h
  · next existing hexisting =>
      obtain ⟨hmem, hcond⟩ := Table.first?_eq_some hexisting
      simp only [Bool.and_eq_true, decide_eq_true_eq] at hcond
      simp only [Except.ok.injEq, Prod.mk.injEq] at h
      obtain ⟨rfl, rfl⟩ := h
      exact .existing hmem hcond.1 hcond.2
  · next hnone =>
      split at h
      swap
      · simp at h
      next hrange =>
      simp only [Except.ok.injEq, Prod.mk.injEq] at h
      obtain ⟨rfl, rfl⟩ := h
      have hnew : ∀ m ∈ db.messages,
          ¬ (m.senderId = senderId ∧ m.clientMessageId = ⟨part.messageId, hrange⟩) := by
        rintro m hm ⟨hsender, hid⟩
        have := Table.first?_eq_none.1 hnone m hm
        simp [hsender, hid] at this
      exact .created rfl hnew

/-- The locked message is there, under the sender's id. -/
theorem LockedMessage.spec {senderId recipientId deviceId : ℕ} {part : MessagePartRequest}
    {partCount : PartCount} {now : Time} {db' : Db}
    (h : LockedMessage db senderId recipientId deviceId part partCount now db' m) :
    m ∈ db'.messages ∧ m.senderId = senderId ∧ m.clientMessageId.val = part.messageId ∧
      db'.users = db.users ∧ db'.contacts = db.contacts := by
  cases h with
  | existing hm hsender hid => exact ⟨hm, hsender, hid, rfl, rfl⟩
  | created hid hnew =>
      exact ⟨(Table.mem_insert (h := fun _ => rfl)).2 (Or.inr rfl), rfl, hid, rfl, rfl⟩

/-- Locking or creating a message is quiet. -/
theorem LockedMessage.quiets {senderId recipientId deviceId : ℕ} {part : MessagePartRequest}
    {partCount : PartCount} {now : Time} {db' : Db}
    (upload : PartUpload input db deviceId part senderId recipientId now)
    (hcount : partCount.val = part.partCount)
    (h : LockedMessage db senderId recipientId deviceId part partCount now db' m) :
    Quiets input db db' := by
  cases h with
  | existing => exact .refl
  | created hid hnew => exact (Quiet.newMessage upload hid hcount hnew).quiets

theorem findPartConflict_of_empty {recipientId deviceId : ℕ} {part : MessagePartRequest}
    (hrecipient : m.recipientId = recipientId) (hcount : m.partCount.val = part.partCount)
    (hheld : m.partTexts.getD (part.partNumber - 1) none = none)
    (hdevice : m.senderDeviceId = some deviceId) :
    findPartConflict m recipientId deviceId part = [] := by
  unfold findPartConflict
  rw [if_neg (not_not.2 hrecipient), if_neg (not_not.2 hcount)]
  dsimp only
  rw [hheld, if_neg (by simp), if_neg (by simp [hdevice])]

/-- A message without parts has no conflict with the part it was created for. -/
theorem LockedMessage.no_conflict {senderId recipientId deviceId : ℕ} {part : MessagePartRequest}
    {partCount : PartCount} {now : Time} {db' : Db} (hcount : partCount.val = part.partCount)
    (h : LockedMessage db senderId recipientId deviceId part partCount now db' m)
    (hconflict : findPartConflict m recipientId deviceId part ≠ []) : db' = db := by
  cases h with
  | existing => rfl
  | @created clientMessageId hid hnew =>
      have hheld : (newMessage senderId recipientId deviceId clientMessageId partCount now
          db.messages.nextKey).partTexts.getD (part.partNumber - 1) none = none := by
        simp only [newMessage_partTexts, List.getD_eq_getElem?_getD, List.getElem?_replicate]
        split <;> rfl
      exact absurd (findPartConflict_of_empty rfl hcount hheld rfl) hconflict

end MessageFunctions

/-! ### Contacts -/

section ContactFunctions

variable {input : Input} {db : Db}

/-- An update of contacts that keeps their users is quiet. -/
theorem quiets_updateContacts (p : Contact → Bool) (f : Contact → Contact)
    (h : ∀ c, p c = true → key (f c) = key c) (hf : ∀ c, (f c).userId = c.userId) :
    Quiets input db { db with contacts := db.contacts.updateWhere p f h } := by
  refine (Quiet.contacts (t := db.contacts.updateWhere p f h) rfl fun k => ?_).quiets
  rw [Table.get?_updateWhere, Option.map_map]
  congr 1
  funext c
  simp only [Function.comp_apply]
  split
  · exact hf c
  · rfl

/-- The sessions' totals may change quietly. -/
theorem quiets_updateSessions (p : RefreshSession → Bool) (f : RefreshSession → RefreshSession)
    (h : ∀ s, p s = true → key (f s) = key s)
    (hf : ∀ s, (f s).deviceId = s.deviceId ∧ (f s).peerId = s.peerId ∧ (f s).state = s.state) :
    Quiets input db { db with sessions := db.sessions.updateWhere p f h } := by
  refine (Quiet.sessions (t := db.sessions.updateWhere p f h) rfl fun k => ?_).quiets
  rw [Table.get?_updateWhere, Option.map_map]
  congr 1
  funext s
  simp only [Function.comp_apply]
  split
  · rw [(hf s).1, (hf s).2.1, (hf s).2.2]
  · rfl

end ContactFunctions

/-! ### Packets -/

section PacketFunctions

variable {input : Input} {db : Db}

/-- Whatever happens to the packets is quiet. -/
theorem quiets_packets {db' : Db} (honly : db' = { db with packets := db'.packets })
    (hnext : db'.packets.nextKey = db.packets.nextKey)
    (hsame : SamePackets db'.packets db.packets) : Quiets input db db' := by
  rw [honly]
  exact (Quiet.packets hnext hsame).quiets

theorem quiets_countPacketAsSent {packet : OutboundPacket} (hpacket : packet ∈ db.packets)
    (hprepared : packet.state = .prepared) (hevent : input.event.recordsOutcome)
    (suggestedTimeout : Option ℕ) (now : Time) :
    Quiets input db (countPacketAsSent input.settings db packet suggestedTimeout now) := by
  unfold countPacketAsSent
  split
  · next deliveryId partNumber hdelivery hpart =>
      split
      · exact .refl
      · next d hd =>
          obtain ⟨hmem, hcond⟩ := Table.first?_eq_some hd
          simp only [Bool.and_eq_true, decide_eq_true_eq] at hcond
          obtain ⟨⟨⟨hid, hstate⟩, harm⟩, hattempt⟩ := hcond
          exact quiets_recordDeliveryPartSent hmem hstate hpacket hprepared (hid ▸ hdelivery)
            hpart harm hattempt hevent suggestedTimeout now
  · split
    · exact .refl
    · next r hr =>
        obtain ⟨hmem, hcond⟩ := Table.first?_eq_some hr
        simp only [Bool.and_eq_true, decide_eq_true_eq] at hcond
        exact quiets_recordReceiptPacketSent hmem hcond.1.1.1.2 hcond.2 suggestedTimeout now
  · exact .refl

theorem quiets_markContactMissingOnNode (contactId : ℕ) :
    Quiets input db (markContactMissingOnNode db contactId) := by
  refine quiets_updateContacts _ _ _ fun _ => ?_
  rfl

theorem quiets_recordOutcomeBesidePacket {packet : OutboundPacket} (hpacket : packet ∈ db.packets)
    (hprepared : packet.state = .prepared) (hevent : input.event.recordsOutcome)
    (outcome : NodeSendOutcome) (now : Time) :
    Quiets input db (recordOutcomeBesidePacket input.settings db packet outcome now) := by
  have hcount : ∀ db₁ : Db, db₁.packets = db.packets → Quiets input db db₁ →
      Quiets input db (if countsAsSent outcome = true then
        countPacketAsSent input.settings db₁ packet (suggestedTimeoutOfOutcome outcome) now
        else db₁) := by
    intro db₁ hpackets hquiets
    split
    · exact hquiets.trans (quiets_countPacketAsSent (hpackets ▸ hpacket) hprepared hevent _ _)
    · exact hquiets
  unfold recordOutcomeBesidePacket
  dsimp only
  cases packet.contactId with
  | none => exact hcount db rfl .refl
  | some contactId =>
      by_cases hmissing : outcome = .rejectedByNode errCodeNotFound
      · simp only [if_pos hmissing]
        exact hcount _ rfl (quiets_markContactMissingOnNode contactId)
      · simp only [if_neg hmissing]
        exact hcount db rfl .refl

/-- The node's answer to a send is recorded quietly. -/
theorem quiets_recordSendOutcome (hevent : input.event.recordsOutcome) (packetId : ℕ)
    (outcome : NodeSendOutcome) (now : Time) :
    Quiets input db (recordSendOutcome input.settings db packetId outcome now).1 := by
  unfold recordSendOutcome
  split
  · exact .refl
  next packet hpacket =>
  split
  · exact .refl
  next hprepared =>
  refine (quiets_recordOutcomeBesidePacket (Table.mem_of_get? hpacket) (not_not.1 hprepared)
    hevent outcome now).trans ?_
  refine quiets_packets rfl rfl (samePackets_updateWhere
    (fun row _ => id_buildPacketOutcomeChanges input.settings outcome now row)
    fun p _ hmatch => ?_)
  have hlife : PacketLife p (buildPacketOutcomeChanges input.settings outcome now p) := by
    simp only [Bool.and_eq_true, decide_eq_true_eq] at hmatch
    exact packetLife_outcome input.settings outcome now hmatch.2
  cases outcome <;> exact .of_state (by simp [buildPacketOutcomeChanges]) rfl hlife

end PacketFunctions

/-! ### Created deliveries -/

/-- The delivery of a message to a device. -/
def IsDeliveryOf (messageId deviceId : ℕ) (d : MessageDelivery) : Prop :=
  d.messageId = messageId ∧ d.deviceId = deviceId

/-- Two databases that differ in their deliveries at most. -/
structure DeliveriesOnly (db db' : Db) : Prop where
  users : db'.users = db.users
  contacts : db'.contacts = db.contacts
  messages : db'.messages = db.messages
  receipts : db'.receipts = db.receipts
  sessions : db'.sessions = db.sessions
  packets : db'.packets = db.packets

theorem DeliveriesOnly.refl (db : Db) : DeliveriesOnly db db := ⟨rfl, rfl, rfl, rfl, rfl, rfl⟩

theorem DeliveriesOnly.trans {db db' db'' : Db} (h : DeliveriesOnly db db')
    (h' : DeliveriesOnly db' db'') : DeliveriesOnly db db'' :=
  ⟨h'.users.trans h.users, h'.contacts.trans h.contacts, h'.messages.trans h.messages,
    h'.receipts.trans h.receipts, h'.sessions.trans h.sessions, h'.packets.trans h.packets⟩

theorem DeliveriesOnly.putDelivery (db : Db) (d : MessageDelivery) :
    DeliveriesOnly db (db.putDelivery d) := ⟨rfl, rfl, rfl, rfl, rfl, rfl⟩

theorem DeliveriesOnly.updateLockedDelivery (db : Db) (d : MessageDelivery)
    (fromStates : List DeliveryState)
    (changes : MessageDelivery → MessageDelivery → MessageDelivery)
    (keepsId : ∀ stored row, (changes stored row).id = row.id) :
    DeliveriesOnly db (updateLockedDelivery db d fromStates changes keepsId).1 := by
  unfold HoptalkRelay.updateLockedDelivery
  split
  · exact .refl db
  · dsimp only
    split
    · exact .refl db
    · exact ⟨rfl, rfl, rfl, rfl, rfl, rfl⟩

theorem DeliveriesOnly.of_updateLockedDelivery {db db' : Db} {d d' : MessageDelivery}
    {wasUpdated : Bool} {fromStates : List DeliveryState}
    {changes : MessageDelivery → MessageDelivery → MessageDelivery}
    {keepsId : ∀ stored row, (changes stored row).id = row.id}
    (h : HoptalkRelay.updateLockedDelivery db d fromStates changes keepsId =
      (db', d', wasUpdated)) : DeliveriesOnly db db' := by
  have honly := DeliveriesOnly.updateLockedDelivery db d fromStates changes keepsId
  rwa [h] at honly

theorem DeliveriesOnly.completeReportedRound (settings : RelaySettings) (db : Db)
    (d : MessageDelivery) (roundHadPartsToSend : Bool) (now : Time) :
    DeliveriesOnly db
      (HoptalkRelay.completeReportedRound settings db d roundHadPartsToSend now).1 := by
  unfold HoptalkRelay.completeReportedRound
  split
  · exact .updateLockedDelivery db d _ _ _
  · exact .refl db

theorem DeliveriesOnly.sendMissingPartsSoon (settings : RelaySettings) (db : Db)
    (d : MessageDelivery) (now : Time) :
    DeliveriesOnly db (HoptalkRelay.sendMissingPartsSoon settings db d now).1 := by
  unfold HoptalkRelay.sendMissingPartsSoon bringNextRoundForward
  split
  · dsimp only
    split
    · exact .updateLockedDelivery db d _ _ _
    · exact .refl db
  · exact .refl db

/-- A status with zeros concerns its delivery only. -/
theorem DeliveriesOnly.recordIncompleteDeliveryStatus (settings : RelaySettings) (db : Db)
    (d : MessageDelivery) (receivedPartsMask : ℕ) (now : Time) :
    DeliveriesOnly db
      (HoptalkRelay.recordIncompleteDeliveryStatus settings db d receivedPartsMask now).1 := by
  unfold HoptalkRelay.recordIncompleteDeliveryStatus
  split
  · exact .updateLockedDelivery db d _ _ _
  dsimp only
  split
  · next db₁ d₁ hupdate =>
      exact .of_updateLockedDelivery hupdate
  · next db₁ d₁ hupdate =>
      exact ((DeliveriesOnly.of_updateLockedDelivery hupdate).trans
        (.completeReportedRound settings db₁ d₁ _ now)).trans (.sendMissingPartsSoon settings _ _ now)

/-- The deliveries created for the elements of a list, and nothing else, are new. -/
structure CreatesDeliveries {α : Type} (db db' : Db) (l : List α)
    (row : α → MessageDelivery → Prop) : Prop extends DeliveriesOnly db db' where
  kept : ∀ d ∈ db.deliveries, d ∈ db'.deliveries
  created : ∀ a ∈ l, ∃ d ∈ db'.deliveries, row a d
  only : ∀ d ∈ db'.deliveries, d ∈ db.deliveries ∨ ∃ a ∈ l, row a d

namespace CreatesDeliveries

variable {db db' db'' : Db} {α : Type} {row : α → MessageDelivery → Prop}

theorem nil : CreatesDeliveries db db [] row :=
  ⟨.refl db, fun _ h => h, by simp, fun _ h => Or.inl h⟩

/-- One more delivery. -/
theorem cons {a : α} {l : List α} (h : CreatesDeliveries db db' [a] row)
    (h' : CreatesDeliveries db' db'' l row) : CreatesDeliveries db db'' (a :: l) row where
  toDeliveriesOnly := h.toDeliveriesOnly.trans h'.toDeliveriesOnly
  kept d hd := h'.kept d (h.kept d hd)
  created b hb := by
    rcases List.mem_cons.1 hb with rfl | hb
    · obtain ⟨d, hd, hrow⟩ := h.created b List.mem_cons_self
      exact ⟨d, h'.kept d hd, hrow⟩
    · exact h'.created b hb
  only d hd := by
    rcases h'.only d hd with hd | ⟨b, hb, hrow⟩
    · rcases h.only d hd with hd | ⟨b, hb, hrow⟩
      · exact Or.inl hd
      · exact Or.inr ⟨b, List.mem_cons.2 (Or.inl (List.mem_singleton.1 hb)), hrow⟩
    · exact Or.inr ⟨b, List.mem_cons_of_mem _ hb, hrow⟩

/-- Inserting one delivery. -/
theorem insert {mk : ℕ → MessageDelivery} {hkey : ∀ k, key (mk k) = k} {a : α}
    (hrow : ∀ k, row a (mk k)) :
    CreatesDeliveries db { db with deliveries := db.deliveries.insert mk hkey } [a] row where
  toDeliveriesOnly := ⟨rfl, rfl, rfl, rfl, rfl, rfl⟩
  kept d hd := (Table.mem_insert (h := hkey)).2 (Or.inl hd)
  created b hb := by
    obtain rfl := List.mem_singleton.1 hb
    exact ⟨_, (Table.mem_insert (h := hkey)).2 (Or.inr rfl), hrow _⟩
  only d hd := by
    rcases (Table.mem_insert (h := hkey)).1 hd with hd | rfl
    · exact Or.inl hd
    · exact Or.inr ⟨a, List.mem_singleton_self a, hrow _⟩

end CreatesDeliveries

end HoptalkRelay
