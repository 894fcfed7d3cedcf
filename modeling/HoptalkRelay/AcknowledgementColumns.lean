/-
**The acknowledgement columns of the packets.**

Whether a packet is queued, under which code, when, and until when its acknowledgement is waited
for.  The three transactions of `messaging/outbound_packets.py` that the tracker calls are functions
of these columns, packet by packet.

Main definitions:

* `HoptalkRelay.AcknowledgementColumns` — the columns of one packet, and what a transaction makes of
  them;
* `HoptalkRelay.Db.acknowledgementColumns` — those of the packet with an id.

Main results:

* `HoptalkRelay.acknowledgementColumns_recordNodeAcknowledgement`,
  `HoptalkRelay.mem_acknowledged_iff` — a push;
* `HoptalkRelay.acknowledgementColumns_recordAcknowledgementDeadlinePassed` — a deadline;
* `HoptalkRelay.recordSendOutcome_of_prepared` — the node's answer to a prepared packet.
-/

import HoptalkRelay.OutboundPackets

set_option relaxedAutoImplicit false
set_option autoImplicit false

namespace HoptalkRelay

open Relational

/-! ### The columns of one packet -/

/-- The columns an acknowledgement is matched by, and those it decides. -/
structure AcknowledgementColumns where
  packetId : ℕ
  state : PacketState
  expectedAcknowledgementCode : Text
  queuedAt : Option Time
  acknowledgementDeadlineAt : Option Time
  deriving DecidableEq

def OutboundPacket.acknowledgementColumns (packet : OutboundPacket) : AcknowledgementColumns :=
  ⟨packet.id, packet.state, packet.expectedAcknowledgementCode, packet.queuedAt,
    packet.acknowledgementDeadlineAt⟩

namespace AcknowledgementColumns

variable (settings : RelaySettings) (outcome : NodeSendOutcome) (code : Text) (now : Time)
  (columns : AcknowledgementColumns)

/-- The rows a code is looked up in. -/
def isMatchedBy : Bool :=
  columns.expectedAcknowledgementCode = code.map Char.toLower &&
    packetStatesAwaitingAcknowledgement.contains columns.state &&
    columns.queuedAt.any
      fun queuedAt => now - durationOfMinutes lateAcknowledgementMatchMinutes ≤ queuedAt

def acknowledge : AcknowledgementColumns :=
  if columns.isMatchedBy code now then { columns with state := .nodeAcknowledged } else columns

def passDeadline : AcknowledgementColumns :=
  if columns.state = .queuedOnNode then { columns with state := .acknowledgementTimedOut }
  else columns

def answer : AcknowledgementColumns :=
  match outcome with
  | .queuedOnNode _ expectedAcknowledgementCode suggestedTimeoutMilliseconds =>
      { columns with
        state := .queuedOnNode
        expectedAcknowledgementCode := expectedAcknowledgementCode.map Char.toLower
        queuedAt := some now
        acknowledgementDeadlineAt :=
          some (now + calculateAcknowledgementWait settings.engineTiming
            (some suggestedTimeoutMilliseconds)) }
  | .rejectedByNode _ => { columns with state := .rejectedByNode }
  | .outcomeUnknown => { columns with state := .outcomeUnknown }

/-- Only a packet the node queued has a time at which it did. -/
def IsSound : Prop :=
  columns.queuedAt ≠ none →
    columns.state ∈ packetStatesAwaitingAcknowledgement ∨ columns.state = .nodeAcknowledged

end AcknowledgementColumns

/-! ### The transactions -/

/-- The columns of the packet with this id. -/
def Db.acknowledgementColumns (db : Db) (packetId : ℕ) : Option AcknowledgementColumns :=
  (db.packets.get? packetId).map OutboundPacket.acknowledgementColumns

section Transactions

variable {db : Db} {settings : RelaySettings} {outcome : NodeSendOutcome} {now : Time}
  {packetId : ℕ} {code : Text} {columns : AcknowledgementColumns}

theorem packetId_of_acknowledgementColumns (h : db.acknowledgementColumns packetId = some columns) :
    columns.packetId = packetId := by
  obtain ⟨packet, hpacket, rfl⟩ := Option.map_eq_some_iff.1 h
  exact Table.key_of_get? hpacket

/-- An update of the packets that the columns follow. -/
theorem acknowledgementColumns_updateWhere {p : OutboundPacket → Bool}
    {f : OutboundPacket → OutboundPacket} {h : ∀ r, p r = true → key (f r) = key r}
    {g : AcknowledgementColumns → AcknowledgementColumns}
    (hfollow : ∀ packet, (if p packet = true then f packet else packet).acknowledgementColumns =
      g packet.acknowledgementColumns) (k : ℕ) :
    Db.acknowledgementColumns { db with packets := db.packets.updateWhere p f h } k =
      (db.acknowledgementColumns k).map g := by
  unfold Db.acknowledgementColumns
  rw [Table.get?_updateWhere, Option.map_map, Option.map_map]
  exact Option.map_congr fun packet _ => hfollow packet

theorem acknowledgementColumns_recordNodeAcknowledgement (code : Text)
    (roundTripMilliseconds : Option ℕ) (now : Time) (k : ℕ) :
    (recordNodeAcknowledgement db code roundTripMilliseconds now).1.acknowledgementColumns k =
      (db.acknowledgementColumns k).map fun columns => columns.acknowledge code now := by
  refine acknowledgementColumns_updateWhere (fun packet => ?_) k
  by_cases hmatch : packet.acknowledgementColumns.isMatchedBy code now = true
  · rw [if_pos (by exact hmatch), AcknowledgementColumns.acknowledge, if_pos hmatch]
    rfl
  · rw [if_neg (by exact hmatch), AcknowledgementColumns.acknowledge, if_neg hmatch]

/-- The packets that are told apart as acknowledged are those that matched. -/
theorem mem_acknowledged_iff (roundTripMilliseconds : Option ℕ) :
    (∃ acknowledged ∈ (recordNodeAcknowledgement db code roundTripMilliseconds now).2,
        acknowledged.packetId = packetId) ↔
      ∃ columns, db.acknowledgementColumns packetId = some columns ∧
        columns.isMatchedBy code now := by
  unfold recordNodeAcknowledgement Db.acknowledgementColumns
  simp only [List.mem_map, Table.mem_filter, exists_exists_and_eq_and]
  constructor
  · rintro ⟨packet, ⟨hmem, hmatch⟩, rfl⟩
    refine ⟨packet.acknowledgementColumns, ?_, hmatch⟩
    have hfound : db.packets.get? packet.id = some packet := Table.get?_key hmem
    rw [hfound, Option.map_some]
  · rintro ⟨columns, hcolumns, hmatch⟩
    obtain ⟨packet, hpacket, rfl⟩ := Option.map_eq_some_iff.1 hcolumns
    exact ⟨packet, ⟨Table.mem_of_get? hpacket, hmatch⟩, Table.key_of_get? hpacket⟩

theorem acknowledgementColumns_recordAcknowledgementDeadlinePassed (packetId : ℕ) (now : Time)
    (k : ℕ) :
    (recordAcknowledgementDeadlinePassed db packetId now).1.acknowledgementColumns k =
      if k = packetId then
        (db.acknowledgementColumns k).map AcknowledgementColumns.passDeadline
      else db.acknowledgementColumns k := by
  unfold recordAcknowledgementDeadlinePassed
  split
  · next hnone =>
      split
      · next hk =>
          cases hcolumns : db.acknowledgementColumns k with
          | none => rfl
          | some columns =>
              obtain ⟨packet, hpacket, rfl⟩ := Option.map_eq_some_iff.1 hcolumns
              have hid : packet.id = packetId := (Table.key_of_get? hpacket).trans hk
              have hnot := Table.first?_eq_none.1 hnone packet (Table.mem_of_get? hpacket)
              have hstate : packet.acknowledgementColumns.state ≠ .queuedOnNode := by
                simpa [hid, OutboundPacket.acknowledgementColumns] using hnot
              rw [Option.map_some, AcknowledgementColumns.passDeadline, if_neg hstate]
      · rfl
  · next found _ =>
      refine (acknowledgementColumns_updateWhere
        (g := fun columns =>
          if columns.packetId = packetId then columns.passDeadline else columns)
        (fun packet => ?_) k).trans ?_
      · by_cases hid : packet.id = packetId
        · by_cases hstate : packet.state = .queuedOnNode
          · simp [hid, hstate, OutboundPacket.acknowledgementColumns,
              AcknowledgementColumns.passDeadline]
          · simp [hstate, OutboundPacket.acknowledgementColumns,
              AcknowledgementColumns.passDeadline]
        · simp [hid, OutboundPacket.acknowledgementColumns]
      · cases hcolumns : db.acknowledgementColumns k with
        | none => simp
        | some columns =>
            rw [Option.map_some, Option.map_some, packetId_of_acknowledgementColumns hcolumns]
            split <;> rfl

/-! The answer of the node. -/

theorem packets_updateLockedDelivery (delivery : MessageDelivery) (fromStates : List DeliveryState)
    (changes : MessageDelivery → MessageDelivery → MessageDelivery)
    (keepsId : ∀ stored row, (changes stored row).id = row.id) :
    (updateLockedDelivery db delivery fromStates changes keepsId).1.packets = db.packets := by
  unfold updateLockedDelivery
  dsimp only
  split
  · rfl
  · split <;> rfl

theorem packets_countPacketAsSent (packet : OutboundPacket) (suggestedTimeout : Option ℕ) :
    (countPacketAsSent settings db packet suggestedTimeout now).packets = db.packets := by
  unfold countPacketAsSent
  split
  · split
    · rfl
    · next delivery _ =>
        unfold recordDeliveryPartSent completeDeliveryRound
        dsimp only
        split
        · exact (packets_updateLockedDelivery _ _ _ _).trans (packets_updateLockedDelivery _ _ _ _)
        · exact packets_updateLockedDelivery _ _ _ _
  · split
    · rfl
    · unfold recordReceiptPacketSent updateLockedReceipt
      dsimp only
      split
      · rfl
      · split <;> rfl
  · rfl

theorem packets_recordOutcomeBesidePacket (packet : OutboundPacket) :
    (recordOutcomeBesidePacket settings db packet outcome now).packets = db.packets := by
  have hcount : ∀ db₁ : Db, db₁.packets = db.packets →
      (if countsAsSent outcome = true then
        countPacketAsSent settings db₁ packet (suggestedTimeoutOfOutcome outcome) now
        else db₁).packets = db.packets := by
    intro db₁ hsame
    split
    · exact (packets_countPacketAsSent packet _).trans hsame
    · exact hsame
  unfold recordOutcomeBesidePacket
  dsimp only
  cases packet.contactId with
  | none => exact hcount db rfl
  | some contactId =>
      refine hcount _ ?_
      dsimp only
      split <;> rfl

/-- **The answer is recorded for a prepared packet**, and the sender is told so. -/
theorem recordSendOutcome_of_prepared (settings : RelaySettings) (outcome : NodeSendOutcome)
    (now : Time) (hcolumns : db.acknowledgementColumns packetId = some columns)
    (hprepared : columns.state = .prepared) :
    (∀ k, (recordSendOutcome settings db packetId outcome now).1.acknowledgementColumns k =
        if k = packetId then some (columns.answer settings outcome now)
        else db.acknowledgementColumns k) ∧
      ∃ recordedOutcome, (recordSendOutcome settings db packetId outcome now).2 =
          some recordedOutcome ∧
        recordedOutcome.packetId = packetId ∧
        recordedOutcome.packetState = (columns.answer settings outcome now).state ∧
        recordedOutcome.expectedAcknowledgementCode =
          (columns.answer settings outcome now).expectedAcknowledgementCode ∧
        recordedOutcome.acknowledgementDeadlineAt =
          if (columns.answer settings outcome now).state = .queuedOnNode then
            (columns.answer settings outcome now).acknowledgementDeadlineAt else none := by
  obtain ⟨packet, hpacket, rfl⟩ := Option.map_eq_some_iff.1 hcolumns
  have hstate : packet.state = .prepared := hprepared
  have hid : packet.id = packetId := Table.key_of_get? hpacket
  have hanswer : (buildPacketOutcomeChanges settings outcome now packet).acknowledgementColumns =
      packet.acknowledgementColumns.answer settings outcome now := by
    cases outcome <;> rfl
  unfold recordSendOutcome
  rw [hpacket]
  dsimp only
  rw [if_neg (not_not.2 hstate)]
  refine ⟨fun k => ?_, _, rfl, ?_, ?_, ?_, ?_⟩
  · unfold Db.acknowledgementColumns
    dsimp only
    rw [Table.get?_updateWhere, packets_recordOutcomeBesidePacket]
    split
    · next hk =>
        rw [hk, hpacket, Option.map_some, Option.map_some, if_pos (by simp [hid, hstate]), hanswer]
    · next hk =>
        cases hfound : db.packets.get? k with
        | none => rfl
        | some other =>
            have hother : other.id ≠ packetId := by
              rw [show other.id = k from Table.key_of_get? hfound]
              exact hk
            rw [Option.map_some, if_neg (by simp [hother])]
  · exact (id_buildPacketOutcomeChanges settings outcome now packet).trans hid
  · exact congrArg AcknowledgementColumns.state hanswer
  · exact congrArg AcknowledgementColumns.expectedAcknowledgementCode hanswer
  · rw [← hanswer]
    rfl

end Transactions

end HoptalkRelay
