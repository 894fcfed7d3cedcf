/-
**Preparing a packet never fails.**

The scheduler formats a part or a receipt from stored rows.  What was checked when a row was
written suffices when it is read again: every stored part is a valid part text, every receipt has a
level, and a round only holds parts of its message.  So work that is due is either prepared,
given up because its attempts ran out, or left to wait for a free place.

Main definitions:

* `HoptalkRelay.PreparationOk` — what the scheduler relies on;
* `HoptalkRelay.DeliveryPrepared`, `HoptalkRelay.ReceiptPrepared` — what becomes of a due row.

Main results:

* `HoptalkRelay.findLowestPartNumber_spec` — the lowest part of a mask;
* `HoptalkRelay.PreparationOk.writes`, `HoptalkRelay.preparationOk_of_reachable` — it holds
  whenever the scheduler runs;
* `HoptalkRelay.prepareDeliveryPacket_isOk`, `HoptalkRelay.prepareReceiptPacket_isOk` — **what is due
  is prepared, given up or left to wait**.
-/

import HoptalkRelay.Invariants.Masks
import HoptalkRelay.Invariants.Receipts
import HoptalkRelay.Invariants.Timestamps
import HoptalkRelay.Protocol.MessageSizes

set_option relaxedAutoImplicit false
set_option autoImplicit false

namespace HoptalkRelay

open Relational Transition

/-! ### The rows a packet is made from -/

/-- Every stored part is a valid part text. -/
def PartTextsOk (db : Db) : Prop :=
  ∀ m ∈ db.messages, ∀ partText, some partText ∈ m.partTexts → isValidPartText partText = true

/-- Every receipt has a level to report. -/
def TargetsOk (db : Db) : Prop :=
  ∀ r ∈ db.receipts, 0 < r.targetLevel ∧ r.targetLevel ≤ readLevel

/-- What the scheduler relies on. -/
structure PreparationOk (db : Db) : Prop where
  consistent : Consistent db
  rounds : DeliveryRoundsOk db
  parts : PartTextsOk db
  targets : TargetsOk db

theorem PreparationOk.empty : PreparationOk Db.empty where
  consistent := .empty
  rounds := .empty
  parts _ h := absurd h (Table.not_mem_empty _)
  targets _ h := absurd h (Table.not_mem_empty _)

section Write

variable {input : Input} {a b : Phase × Db} {db : Db} {m n : Message}
  {r q : ReceiptNotification}

/-- A part that is stored is a valid one. -/
theorem MessageChange.partText (h : MessageChange input db m n) {partText : Text}
    (hmem : some partText ∈ n.partTexts) :
    some partText ∈ m.partTexts ∨ isValidPartText partText = true := by
  cases h with
  | confirmed | accepted | forgotten => exact Or.inl hmem
  | partStored hopen upload =>
      rw [messageWithPart_partTexts] at hmem
      split at hmem
      · rcases List.mem_or_eq_of_mem_set hmem with hold | hnew
        · exact Or.inl hold
        · obtain rfl := Option.some.inj hnew
          exact Or.inr upload.text
      · exact Or.inl hmem

theorem PartTextsOk.write (hok : PartTextsOk a.2) (h : Write input a b) : PartTextsOk b.2 := by
  intro n hn partText hmem
  rcases h.messages.origin hn with hn' | ⟨m, hm, -, hchange⟩ | ⟨-, hcreated⟩
  · exact hok n hn' partText hmem
  · rcases hchange.partText hmem with hold | hvalid
    · exact hok m hm partText hold
    · exact hvalid
  · cases hcreated with
    | first => simp [newMessage] at hmem

/-- A change of a receipt leaves it a level. -/
theorem ReceiptChange.target (h : ReceiptChange input db r q)
    (hok : 0 < r.targetLevel ∧ r.targetLevel ≤ readLevel) :
    0 < q.targetLevel ∧ q.targetLevel ≤ readLevel := by
  have hraised : ∀ message, 0 < max r.targetLevel (readMessageLevel message) ∧
      max r.targetLevel (readMessageLevel message) ≤ readLevel := by
    intro message
    have hle := readMessageLevel_le message
    omega
  cases h with
  | started | sent | exhausted | acknowledged | confirmed | rearmed => exact hok
  | raised => exact ⟨Nat.zero_lt_two, le_rfl⟩
  | revivedConfirmed message | revivedPending message => exact hraised message

theorem TargetsOk.write (hok : TargetsOk a.2) (h : Write input a b) : TargetsOk b.2 := by
  intro q hq
  rcases h.receipts.origin hq with hq' | ⟨r, hr, -, hchange⟩ | ⟨-, hcreated⟩
  · exact hok q hq'
  · cases hchange with
    | changed change => exact change.target (hok r hr)
    | cancelled => exact hok r hr
  · cases hcreated with
    | @first m deviceId now hm haccepted hlevel => exact ⟨hlevel, readMessageLevel_le m⟩

/-- **No write breaks what the scheduler relies on.** -/
theorem PreparationOk.write (hok : PreparationOk a.2) (h : Write input a b) :
    PreparationOk b.2 where
  consistent := h.consistent hok.consistent
  rounds := hok.rounds.write hok.consistent h
  parts := hok.parts.write h
  targets := hok.targets.write h

theorem PreparationOk.writes (hok : PreparationOk a.2) (h : Writes input a b) :
    PreparationOk b.2 := by
  induction h with
  | refl => exact hok
  | tail _ hwrite ih => exact ih.write hwrite

end Write

theorem preparationOk_of_reachable {hashing : PasswordHashing} {db : Db}
    (h : (engine hashing).Reachable db) : PreparationOk db :=
  (reachable_invariant h .empty fun _ _ _ _ hok hwrite => hok.write hwrite).2

/-! ### The lowest part -/

/-- The lowest part of a mask, if it has one. -/
theorem findLowestPartNumber_spec {mask : ℕ} (h : mask ≠ 0) :
    ∃ partNumber, findLowestPartNumber mask = some partNumber ∧ 1 ≤ partNumber ∧
      mask.testBit (partNumber - 1) = true ∧ ∀ i < partNumber - 1, mask.testBit i = false := by
  unfold findLowestPartNumber
  cases hfind : (List.range (mask.log2 + 1)).find? fun partIndex => mask.testBit partIndex with
  | none =>
      rw [List.find?_eq_none] at hfind
      have htop := hfind mask.log2 (List.mem_range.mpr (Nat.lt_succ_self _))
      rw [Nat.testBit_log2 h] at htop
      exact absurd rfl htop
  | some partIndex =>
      refine ⟨partIndex + 1, rfl, by omega, List.find?_some hfind, fun i hi => ?_⟩
      rw [List.find?_range_eq_some] at hfind
      have hlow := hfind.2.2 i hi
      simpa using hlow

/-! ### The packet -/

section Preparation

variable {settings : RelaySettings} {db : Db} {d : MessageDelivery} {r : ReceiptNotification}
  {m : Message} {sender recipient : User} {device : Contact}

/-- No stored packet has the next timestamp, so a sendable text is inserted. -/
theorem insertPreparedPacket_ne_error {mk : ℕ → ℤ → OutboundPacket}
    {keepsId : ∀ id timestamp, (mk id timestamp).id = id} {now : Time}
    {serviceError : ServiceError} (hsendable : ∀ id timestamp,
      ensureDirectMessageTextIsSendable (mk id timestamp).text = .ok ()) :
    insertPreparedPacket db mk keepsId now ≠ .error serviceError := by
  have hunused : (db.packets.any fun stored =>
      decide (stored.senderTimestamp = allocateSenderTimestamp db now)) ≠ true := by
    rw [ne_eq, Table.any_eq_true]
    rintro ⟨stored, hstored, heq⟩
    have hlt : stored.senderTimestamp < allocateSenderTimestamp db now :=
      lt_allocateSenderTimestamp.2 (Or.inr ⟨stored, hstored, le_rfl⟩)
    exact absurd (of_decide_eq_true heq) (ne_of_lt hlt)
  unfold insertPreparedPacket
  simp only [hsendable]
  rw [if_neg hunused]
  simp

/-- A part of an accepted message can be sent. -/
theorem formatDeliveryPart_isOk (hok : PreparationOk db) (hm : m ∈ db.messages)
    (haccepted : m.acceptedAt.isSome) (sender : User) {partNumber : ℕ} (hpos : 1 ≤ partNumber)
    (hle : partNumber ≤ m.partCount.val) :
    ∃ partText, m.partTexts.getD (partNumber - 1) none = some partText ∧
      IsFormattable id (.deliveryPart sender.username.val m.clientMessageId.val partNumber
        m.partCount.val partText) := by
  have hmessage := hok.consistent.messages m hm
  have hindex : partNumber - 1 < m.partTexts.length := by
    rw [hmessage.parts]
    omega
  have hmem : m.partTexts[partNumber - 1] ∈ m.partTexts := List.getElem_mem hindex
  obtain ⟨partText, htext⟩ :=
    Option.isSome_iff_exists.mp (hmessage.accepted_parts haccepted _ hmem)
  refine ⟨partText, ?_, sender.username.property, m.clientMessageId.property, ?_,
    hok.parts m hm partText (htext ▸ hmem)⟩
  · rw [List.getD_eq_getElem?_getD, List.getElem?_eq_getElem hindex, htext]
    rfl
  · have hmax := m.partCount.property.2
    simp only [isValidPartNumbering, Bool.and_eq_true, decide_eq_true_eq]
    omega

/-- The packet of a part left in the round is prepared. -/
theorem prepareDeliveryPart_isOk (hok : PreparationOk db) (hd : d ∈ db.deliveries)
    (hm : db.messages.get? d.messageId = some m) (hleft : findPartsLeftInRound d ≠ 0)
    (sender : User) (device : Contact) (now : Time) (connectionGeneration : ℕ) :
    ∃ db' packetDescriptor, prepareDeliveryPart db d m sender device now connectionGeneration =
      .ok (db', some packetDescriptor) := by
  obtain ⟨m', hm', haccepted⟩ := (hok.consistent.deliveries d hd).message
  obtain rfl := Option.some.inj (hm.symm.trans hm')
  obtain ⟨partNumber, hpart, hpos, hbit, -⟩ := findLowestPartNumber_spec hleft
  have hlt : partNumber - 1 < m.partCount.val :=
    testBit_of_lt (maskWithout_lt (hok.rounds d hd m hm).round_lt _) hbit
  obtain ⟨partText, htext, hformattable⟩ :=
    formatDeliveryPart_isOk hok (Table.mem_of_get? hm) haccepted sender hpos (by omega)
  obtain ⟨hformat, -⟩ := formatProtocolMessage_of_isFormattable
    (by simp [ProtocolMessage.IsServerMessage, ProtocolMessage.messageType]) hformattable
  have hsendable := ensureDirectMessageTextIsSendable_messageText
    (isSendable_of_isFormattable
      (by simp [ProtocolMessage.IsServerMessage, ProtocolMessage.messageType]) hformattable)
  have hformat' : formatDeliveryPart sender.username.val m.clientMessageId.val partNumber
      m.partCount.val partText = _ := hformat
  unfold prepareDeliveryPart
  simp only [hpart, htext, hformat', bind, Except.bind, pure, Except.pure]
  split
  · rename_i herror
    exact absurd herror (insertPreparedPacket_ne_error fun _ _ => hsendable)
  · exact ⟨_, _, rfl⟩

/-! ### What becomes of a due delivery -/

/-- What becomes of a due delivery: its packet is prepared, its attempts ran out, or its device has
no free place. -/
inductive DeliveryPrepared (settings : RelaySettings) (db : Db) (d : MessageDelivery) (now : Time) :
    Db × Option PacketDescriptor → Prop
  | packet (db' : Db) (packetDescriptor : PacketDescriptor) :
      DeliveryPrepared settings db d now (db', some packetDescriptor)
  | exhausted (hround : d.roundPendingPartsMask = 0)
      (hattempts : d.maximumAttempts ≤ d.attemptCount) :
      DeliveryPrepared settings db d now (failExhaustedDelivery db d now, none)
  | noPlace (hround : d.roundPendingPartsMask = 0) (hattempts : d.attemptCount < d.maximumAttempts)
      (hstarted : d.roundStartedAt = none)
      (hfull : settings.maximumActiveDeliveriesPerDevice ≤
        countDeliveriesInProgress db d.deviceId) :
      DeliveryPrepared settings db d now (db, none)

/-- Nothing left of a round in progress is nothing in progress. -/
theorem RoundsOk.round_eq_zero (h : RoundsOk d m) (hstate : d.state = .pending)
    (hleft : findPartsLeftInRound d = 0) : d.roundPendingPartsMask = 0 := by
  rwa [findPartsLeftInRound, maskWithout_of_disjoint (h.disjoint hstate)] at hleft

/-- A round that starts has a part to send. -/
theorem RoundsOk.findPartsLeftInRound_roundStarted (h : RoundsOk d m) (hstate : d.state = .pending)
    (now : Time) : findPartsLeftInRound (roundStartedDelivery d m.partCount now) ≠ 0 := by
  intro hleft
  have hzero : maskWithout (calculateAllPartsMask m.partCount) d.partsReceivedMask = 0 := by
    have hround := maskWithout_of_disjoint
      (maskWithout_and_self (calculateAllPartsMask m.partCount) d.partsReceivedMask)
    rw [← hround]
    exact hleft
  rw [maskWithout_calculateAllPartsMask_eq_zero h.received_lt] at hzero
  exact h.incomplete (by simp [hstate]) hzero

/-- **A due delivery** is prepared, given up or left to wait. -/
theorem prepareDeliveryPacket_isOk (hok : PreparationOk db) (hd : d ∈ db.deliveries)
    (hstate : d.state = .pending) (settings : RelaySettings) (now : Time)
    (connectionGeneration : ℕ) :
    ∃ result, prepareDeliveryPacket settings db d now connectionGeneration = .ok result ∧
      DeliveryPrepared settings db d now result := by
  have hdelivery := hok.consistent.deliveries d hd
  obtain ⟨m, hm, haccepted⟩ := hdelivery.message
  obtain ⟨device, hdevice⟩ := Option.isSome_iff_exists.mp hdelivery.device
  obtain ⟨sender, hsender⟩ := Option.isSome_iff_exists.mp
    (hok.consistent.messages m (Table.mem_of_get? hm)).sender
  have hrounds := hok.rounds d hd m hm
  unfold prepareDeliveryPacket
  simp only [hm, hdevice, hsender]
  by_cases hleft : findPartsLeftInRound d = 0
  swap
  · obtain ⟨db', packetDescriptor, hprepared⟩ := prepareDeliveryPart_isOk hok hd hm hleft sender
      device now connectionGeneration
    rw [if_neg hleft, hprepared]
    exact ⟨_, rfl, .packet db' packetDescriptor⟩
  have hround := hrounds.round_eq_zero hstate hleft
  rw [if_pos hleft]
  unfold advanceDeliveryToNewRound
  rw [if_neg (not_not.mpr hround)]
  by_cases hattempts : d.maximumAttempts ≤ d.attemptCount
  · rw [if_pos hattempts]
    exact ⟨_, rfl, .exhausted hround hattempts⟩
  rw [if_neg hattempts]
  by_cases hfull : d.roundStartedAt = none ∧
      settings.maximumActiveDeliveriesPerDevice ≤ countDeliveriesInProgress db d.deviceId
  · rw [if_pos hfull]
    exact ⟨_, rfl, .noPlace hround (not_le.mp hattempts) hfull.1 hfull.2⟩
  rw [if_neg hfull, startDeliveryRound_of_mem hd hstate]
  -- the state behind the write that starts the round is one the scheduler may rely on as well
  let input : Input := ⟨settings, .prepareNextPacket connectionGeneration now⟩
  have hstarted : Quiet input db (db.putDelivery (roundStartedDelivery d m.partCount now)) :=
    .delivery hd (.roundStarted m now ⟨connectionGeneration, rfl⟩ hm hstate hround
      (not_le.mp hattempts) fun hfree => not_le.mp fun hle => hfull ⟨hfree, hle⟩)
  have hok' := hok.writes (hstarted.quiets.writes .settled)
  have hmem : roundStartedDelivery d m.partCount now ∈
      (db.putDelivery (roundStartedDelivery d m.partCount now)).deliveries :=
    Table.mem_put_self hd rfl
  obtain ⟨db', packetDescriptor, hprepared⟩ := prepareDeliveryPart_isOk hok' hmem hm
    (hrounds.findPartsLeftInRound_roundStarted hstate now) sender device now connectionGeneration
  dsimp only
  rw [hprepared]
  exact ⟨_, rfl, .packet db' packetDescriptor⟩

/-! ### What becomes of a due receipt -/

/-- What becomes of a due receipt: its packet is prepared, or its attempts ran out. -/
inductive ReceiptPrepared (db : Db) (r : ReceiptNotification) (now : Time) :
    Db × Option PacketDescriptor → Prop
  | packet (db' : Db) (packetDescriptor : PacketDescriptor) :
      ReceiptPrepared db r now (db', some packetDescriptor)
  | exhausted (hround : r.roundPending = false) (hattempts : r.maximumAttempts ≤ r.attemptCount) :
      ReceiptPrepared db r now ((failReceiptAfterExhaustedAttempts db r now).1, none)

/-- A level in range has a name. -/
theorem receiptLevel_of_target {level : ℕ} (h : 0 < level ∧ level ≤ readLevel) :
    ∃ receiptLevel, receiptLevelByNumber level = some receiptLevel := by
  obtain ⟨hpos, hle⟩ := h
  unfold readLevel at hle
  obtain rfl | rfl : level = 1 ∨ level = 2 := by omega
  · exact ⟨.delivered, rfl⟩
  · exact ⟨.read, rfl⟩

/-- A receipt's packet is prepared. -/
theorem prepareReceiptPush_isOk (hok : PreparationOk db) (hr : r ∈ db.receipts)
    (m : Message) (recipient : User) (device : Contact) (now : Time) (connectionGeneration : ℕ) :
    ∃ db' packetDescriptor, prepareReceiptPush db r m recipient device now connectionGeneration =
      .ok (db', some packetDescriptor) := by
  obtain ⟨level, hlevel⟩ := receiptLevel_of_target (hok.targets r hr)
  have hserver : (ProtocolMessage.receiptPush recipient.username.val m.clientMessageId.val
      level).IsServerMessage := by
    simp [ProtocolMessage.IsServerMessage, ProtocolMessage.messageType]
  have hformattable : IsFormattable id (.receiptPush recipient.username.val
      m.clientMessageId.val level) := ⟨recipient.username.property, m.clientMessageId.property⟩
  obtain ⟨hformat, -⟩ := formatProtocolMessage_of_isFormattable hserver hformattable
  have hsendable := ensureDirectMessageTextIsSendable_messageText
    (isSendable_of_isFormattable hserver hformattable)
  have hformat' : formatReceiptPush recipient.username.val m.clientMessageId.val level = _ :=
    hformat
  unfold prepareReceiptPush
  simp only [hlevel, hformat', bind, Except.bind, pure, Except.pure]
  split
  · rename_i herror
    exact absurd herror (insertPreparedPacket_ne_error fun _ _ => hsendable)
  · exact ⟨_, _, rfl⟩

/-- **A due receipt** is prepared or given up. -/
theorem prepareReceiptPacket_isOk (hok : PreparationOk db) (hr : r ∈ db.receipts)
    (hstate : r.state = .pending) (settings : RelaySettings) (now : Time)
    (connectionGeneration : ℕ) :
    ∃ result, prepareReceiptPacket db r now connectionGeneration = .ok result ∧
      ReceiptPrepared db r now result := by
  have hreceipt := hok.consistent.receipts r hr
  obtain ⟨m, hm, haccepted⟩ := hreceipt.message
  obtain ⟨device, hdevice⟩ := Option.isSome_iff_exists.mp hreceipt.device
  obtain ⟨recipient, hrecipient⟩ := Option.isSome_iff_exists.mp
    (hok.consistent.messages m (Table.mem_of_get? hm)).recipient
  unfold prepareReceiptPacket
  simp only [hm, hdevice, hrecipient]
  cases hround : r.roundPending with
  | true =>
      obtain ⟨db', packetDescriptor, hprepared⟩ := prepareReceiptPush_isOk hok hr m recipient device
        now connectionGeneration
      rw [if_pos rfl, hprepared]
      exact ⟨_, rfl, .packet db' packetDescriptor⟩
  | false =>
      rw [if_neg (by simp)]
      by_cases hattempts : r.maximumAttempts ≤ r.attemptCount
      · rw [if_pos hattempts]
        exact ⟨_, rfl, .exhausted hround hattempts⟩
      rw [if_neg hattempts, startReceiptAttempt_of_mem hr hstate]
      let input : Input := ⟨settings, .prepareNextPacket connectionGeneration now⟩
      have hstarted : Quiet input db (db.putReceipt (startedReceipt r now)) :=
        .receipt hr (.started now hstate hround (not_le.mp hattempts))
      have hok' := hok.writes (hstarted.quiets.writes .settled)
      have hmem : startedReceipt r now ∈ (db.putReceipt (startedReceipt r now)).receipts :=
        Table.mem_put_self hr rfl
      obtain ⟨db', packetDescriptor, hprepared⟩ := prepareReceiptPush_isOk hok' hmem m recipient
        device now connectionGeneration
      dsimp only
      rw [hprepared]
      exact ⟨_, rfl, .packet db' packetDescriptor⟩

end Preparation

end HoptalkRelay
