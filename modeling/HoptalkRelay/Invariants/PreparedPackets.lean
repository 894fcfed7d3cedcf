/-
**Prepared packets and pending acknowledgements.**

Which transactions make a packet prepared, and which give one a deadline that is not acknowledged:
only the sender's own.  The scheduler and a reply prepare at most the packet they return, and only
the recorded outcome of a prepared packet gives it a deadline.

Main definitions:

* `HoptalkRelay.AddsNone` — no packet becomes prepared, or begins to await its acknowledgement;
* `HoptalkRelay.AddsPrepared` — one prepared packet is added, or none.

Main results:

* `HoptalkRelay.addsPrepared_prepareNextPacket`, `HoptalkRelay.addsPrepared_prepareReplyPacket` —
  **what the sender prepares**;
* `HoptalkRelay.addsNone_recordNodeAcknowledgement`,
  `HoptalkRelay.addsNone_recordAcknowledgementDeadlinePassed`, … — what the other tasks do;
* `HoptalkRelay.prepared_recordSendOutcome` — a recorded packet is not prepared any more.
-/

import HoptalkRelay.AcknowledgementColumns
import HoptalkRelay.SenderLoop

set_option relaxedAutoImplicit false
set_option autoImplicit false

namespace HoptalkRelay

open Relational

/-! ### Tables -/

/-- The packet has a deadline and is not acknowledged. -/
def OutboundPacket.IsUnacknowledgedUntil (packet : OutboundPacket) (deadline : Time) : Prop :=
  packet.acknowledgementDeadlineAt = some deadline ∧ packet.acknowledgedAt = none

/-- **No packet becomes prepared, and none begins to await its acknowledgement.** -/
structure AddsNone (t u : Table OutboundPacket) : Prop where
  prepared : ∀ q ∈ u, q.state = .prepared → ∃ p ∈ t, p.id = q.id ∧ p.state = .prepared
  awaiting : ∀ q ∈ u, ∀ deadline, q.IsUnacknowledgedUntil deadline →
    ∃ p ∈ t, p.IsUnacknowledgedUntil deadline

/-- **A prepared packet is added**, or none; nothing else happens to the packets. -/
structure AddsPrepared (t u : Table OutboundPacket) (packetId : Option ℕ) : Prop where
  prepared : ∀ q ∈ u, q.state = .prepared →
    (∃ p ∈ t, p.id = q.id ∧ p.state = .prepared) ∨ packetId = some q.id
  awaiting : ∀ q ∈ u, ∀ deadline, q.IsUnacknowledgedUntil deadline →
    ∃ p ∈ t, p.IsUnacknowledgedUntil deadline

section Tables

variable {t u : Table OutboundPacket} {db db' : Db} {now : Time} {packetId : ℕ}

theorem AddsNone.refl (t : Table OutboundPacket) : AddsNone t t :=
  ⟨fun q hq hstate => ⟨q, hq, rfl, hstate⟩, fun q hq _ hawaits => ⟨q, hq, hawaits⟩⟩

theorem AddsNone.of_eq (h : u = t) : AddsNone t u := h ▸ .refl t

/-- An update that prepares no packet and leaves deadlines and acknowledgements. -/
theorem addsNone_updateWhere {p : OutboundPacket → Bool} {f : OutboundPacket → OutboundPacket}
    (h : ∀ r, p r = true → key (f r) = key r)
    (hstate : ∀ r, p r = true → (f r).state = .prepared → r.state = .prepared)
    (hdeadline : ∀ r, p r = true →
      (f r).acknowledgementDeadlineAt = r.acknowledgementDeadlineAt)
    (hacknowledged : ∀ r, p r = true → (f r).acknowledgedAt = none → r.acknowledgedAt = none) :
    AddsNone t (t.updateWhere p f h) := by
  refine ⟨fun q hq hprepared => ?_, fun q hq deadline hawaits => ?_⟩
  · obtain ⟨r, hr, rfl⟩ := Table.mem_updateWhere.1 hq
    split at hprepared
    · next hp =>
        refine ⟨r, hr, ?_, hstate r hp hprepared⟩
        rw [if_pos hp]
        exact (h r hp).symm
    · next hp =>
        refine ⟨r, hr, ?_, hprepared⟩
        rw [if_neg hp]
  · obtain ⟨r, hr, rfl⟩ := Table.mem_updateWhere.1 hq
    split at hawaits
    · next hp =>
        exact ⟨r, hr, (hdeadline r hp).symm.trans hawaits.1, hacknowledged r hp hawaits.2⟩
    · exact ⟨r, hr, hawaits⟩

theorem LeavesPackets.addsNone (h : LeavesPackets t u) : AddsNone t u := by
  refine ⟨fun q hq hprepared => ?_, fun q hq deadline hawaits => ?_⟩
  · obtain ⟨p, hp, hid, hstate, -, -⟩ := h q hq
    exact ⟨p, hp, hid.symm, hstate.symm.trans hprepared⟩
  · obtain ⟨p, hp, -, -, hdeadline, hacknowledged⟩ := h q hq
    exact ⟨p, hp, hdeadline.symm.trans hawaits.1, hacknowledged.symm.trans hawaits.2⟩

/-! ### The transactions of the other tasks -/

theorem addsNone_recordNodeAcknowledgement (code : Text) (roundTripMilliseconds : Option ℕ)
    (now : Time) :
    AddsNone db.packets
      (recordNodeAcknowledgement db code roundTripMilliseconds now).1.packets := by
  refine addsNone_updateWhere (by intros; rfl) (fun _ _ hstate => ?_) (fun _ _ => rfl)
    fun _ _ hnone => ?_
  · cases hstate
  · cases hnone

theorem addsNone_recordAcknowledgementDeadlinePassed (packetId : ℕ) (now : Time) :
    AddsNone db.packets (recordAcknowledgementDeadlinePassed db packetId now).1.packets := by
  unfold recordAcknowledgementDeadlinePassed
  split
  · exact .refl _
  · refine addsNone_updateWhere (by intros; rfl) (fun _ _ hstate => ?_) (fun _ _ => rfl)
      fun _ _ hnone => hnone
    cases hstate

theorem addsNone_markPacketsAwaitingAcknowledgementDropped (now : Time) :
    AddsNone db.packets (markPacketsAwaitingAcknowledgementDropped db now).packets := by
  refine addsNone_updateWhere (by intros; rfl) (fun _ _ hstate => ?_) (fun _ _ => rfl)
    fun _ _ hnone => hnone
  cases hstate

theorem addsNone_dropPendingRouteResets (now : Time) :
    AddsNone db.packets (dropPendingRouteResets db now).packets := by
  refine addsNone_updateWhere (by intros; rfl) (fun _ _ hstate => ?_) (fun _ _ => rfl)
    fun _ _ hnone => hnone
  exact hstate

/-- After the start-up recovery no packet is prepared. -/
theorem not_prepared_recoverOutboundPacketsAtStartup (db : Db) (now : Time) {q : OutboundPacket}
    (hq : q ∈ (recoverOutboundPacketsAtStartup db now).packets) : q.state ≠ .prepared := by
  intro hstate
  obtain ⟨p, hp, -, hprepared⟩ := (addsNone_dropPendingRouteResets now).prepared q hq hstate
  obtain ⟨r, hr, -, hprepared'⟩ :=
    (addsNone_markPacketsAwaitingAcknowledgementDropped now).prepared p hp hprepared
  obtain ⟨s, -, rfl⟩ := (Table.mem_updateWhere (h := by intros; rfl)).1 hr
  split at hprepared'
  · cases hprepared'
  · next hnot => exact hnot (decide_eq_true hprepared')

/-! ### The outcome -/

/-- A packet whose outcome was recorded is not prepared any more. -/
theorem prepared_recordSendOutcome (settings : RelaySettings) (packetId : ℕ)
    (outcome : NodeSendOutcome) (now : Time) {q : OutboundPacket}
    (hq : q ∈ (recordSendOutcome settings db packetId outcome now).1.packets)
    (hstate : q.state = .prepared) :
    q.id ≠ packetId ∧ ∃ p ∈ db.packets, p.id = q.id ∧ p.state = .prepared := by
  unfold recordSendOutcome at hq
  split at hq
  · next hnone =>
      refine ⟨fun hid => ?_, q, hq, rfl, hstate⟩
      exact Table.get?_eq_none.1 hnone q hq hid
  · next packet hpacket =>
      split at hq
      · next hrecorded =>
          refine ⟨fun hid => hrecorded ?_, q, hq, rfl, hstate⟩
          rw [Table.eq_of_key_eq (Table.mem_of_get? hpacket) hq
            ((Table.key_of_get? hpacket).trans hid.symm), hstate]
      · obtain ⟨r, hr, rfl⟩ := (Table.mem_updateWhere
          (h := fun row _ => id_buildPacketOutcomeChanges settings outcome now row)).1 hq
        rw [packets_recordOutcomeBesidePacket] at hr
        split at hstate
        · cases outcome <;> cases hstate
        · next hother =>
            rw [if_neg hother]
            refine ⟨fun hid => hother ?_, r, hr, rfl, hstate⟩
            rw [Bool.and_eq_true, decide_eq_true_eq, decide_eq_true_eq]
            exact ⟨hid, hstate⟩

/-! ### The packets the sender prepares -/

theorem AddsPrepared.of_eq (h : u = t) (packetId : Option ℕ) : AddsPrepared t u packetId := by
  subst h
  exact ⟨fun q hq hstate => Or.inl ⟨q, hq, rfl, hstate⟩, fun q hq _ hawaits => ⟨q, hq, hawaits⟩⟩

theorem addsPrepared_insertPreparedPacket {mk : ℕ → ℤ → OutboundPacket}
    {keepsId : ∀ id timestamp, (mk id timestamp).id = id} {packet : OutboundPacket}
    (hdeadline : ∀ id timestamp, (mk id timestamp).acknowledgementDeadlineAt = none)
    (h : insertPreparedPacket db mk keepsId now = .ok (db', packet)) :
    AddsPrepared db.packets db'.packets (some packet.id) := by
  unfold insertPreparedPacket at h
  dsimp only at h
  split at h
  · cases h
  · split at h
    · cases h
    · obtain ⟨rfl, rfl⟩ := Prod.mk.inj (Except.ok.inj h)
      have hmem : ∀ q, q ∈ db.packets.insert (fun id => mk id (allocateSenderTimestamp db now))
          (fun id => keepsId id _) ↔
            q ∈ db.packets ∨ q = mk db.packets.nextKey (allocateSenderTimestamp db now) :=
        fun q => Table.mem_insert (h := fun id => keepsId id _)
      refine ⟨fun q hq hstate => ?_, fun q hq deadline hawaits => ?_⟩
      · rcases (hmem q).1 hq with hq | rfl
        · exact Or.inl ⟨q, hq, rfl, hstate⟩
        · exact Or.inr rfl
      · rcases (hmem q).1 hq with hq | rfl
        · exact ⟨q, hq, hawaits⟩
        · rw [OutboundPacket.IsUnacknowledgedUntil, hdeadline] at hawaits
          cases hawaits.1

theorem packets_updateLockedReceipt (receipt : ReceiptNotification)
    (fromStates : List ReceiptState) (now : Time)
    (changes : ReceiptNotification → ReceiptNotification → ReceiptNotification)
    (keepsId : ∀ stored row, (changes stored row).id = row.id) :
    (updateLockedReceipt db receipt fromStates now changes keepsId).1.packets = db.packets := by
  unfold updateLockedReceipt
  dsimp only
  split
  · rfl
  · split <;> rfl

theorem packets_stopRefreshSession (refreshSessionId : ℕ) :
    (stopRefreshSession db refreshSessionId now).packets = db.packets := by
  have hfold : ∀ (deliveries : List MessageDelivery) (db : Db),
      (deliveries.foldl (fun db d => (failDeliveryOfStoppedRefresh db d now).1) db).packets =
        db.packets := by
    intro deliveries
    induction deliveries with
    | nil => exact fun _ => rfl
    | cons d deliveries ih =>
        exact fun db => (ih _).trans (packets_updateLockedDelivery _ _ _ _)
  exact hfold _ db

theorem packets_advanceDeliveryToNewRound (settings : RelaySettings) (delivery : MessageDelivery)
    (partCount : PartCount) :
    (advanceDeliveryToNewRound settings db delivery partCount now).1.packets = db.packets := by
  unfold advanceDeliveryToNewRound
  split
  · exact packets_updateLockedDelivery _ _ _ _
  · split
    · have hfailed : (updateLockedDelivery db delivery [.pending] (fun _ row =>
          { row with
            state := .failed
            failedAt := some now
            failureReason := some .attemptsExhausted }) fun _ _ => rfl).1.packets = db.packets :=
        packets_updateLockedDelivery _ _ _ _
      unfold failExhaustedDelivery
      dsimp only
      split
      · exact hfailed
      · exact (packets_stopRefreshSession _).trans hfailed
    · split
      · rfl
      · exact packets_updateLockedDelivery _ _ _ _

/-- The id of the packet a call returned. -/
def preparedPacketId (packetDescriptor : Option PacketDescriptor) : Option ℕ :=
  packetDescriptor.map PacketDescriptor.packetId

variable {packetDescriptor : Option PacketDescriptor} {connectionGeneration : ℕ}

theorem addsPrepared_prepareDeliveryPart {delivery : MessageDelivery} {message : Message}
    {sender : User} {device : Contact}
    (h : prepareDeliveryPart db delivery message sender device now connectionGeneration =
      .ok (db', packetDescriptor)) :
    AddsPrepared db.packets db'.packets (preparedPacketId packetDescriptor) := by
  unfold prepareDeliveryPart at h
  split at h
  · obtain ⟨rfl, rfl⟩ := Prod.mk.inj (Except.ok.inj h)
    exact .of_eq rfl _
  · split at h
    · cases h
    · split at h
      · cases h
      · simp only [bind, Except.bind, pure, Except.pure] at h
        split at h
        · cases h
        · next inserted hinserted =>
            obtain ⟨rfl, rfl⟩ := Prod.mk.inj (Except.ok.inj h)
            exact addsPrepared_insertPreparedPacket (fun _ _ => rfl) hinserted

theorem addsPrepared_prepareReceiptPush {receipt : ReceiptNotification} {message : Message}
    {recipient : User} {device : Contact}
    (h : prepareReceiptPush db receipt message recipient device now connectionGeneration =
      .ok (db', packetDescriptor)) :
    AddsPrepared db.packets db'.packets (preparedPacketId packetDescriptor) := by
  unfold prepareReceiptPush at h
  split at h
  · cases h
  · split at h
    · cases h
    · simp only [bind, Except.bind, pure, Except.pure] at h
      split at h
      · cases h
      · next inserted hinserted =>
          obtain ⟨rfl, rfl⟩ := Prod.mk.inj (Except.ok.inj h)
          exact addsPrepared_insertPreparedPacket (fun _ _ => rfl) hinserted

theorem addsPrepared_prepareDeliveryPacket {settings : RelaySettings} {delivery : MessageDelivery}
    (h : prepareDeliveryPacket settings db delivery now connectionGeneration =
      .ok (db', packetDescriptor)) :
    AddsPrepared db.packets db'.packets (preparedPacketId packetDescriptor) := by
  unfold prepareDeliveryPacket at h
  split at h
  · next message device _ _ =>
      split at h
      · cases h
      · split at h
        · have hpackets : (advanceDeliveryToNewRound settings db delivery message.partCount
              now).1.packets = db.packets := packets_advanceDeliveryToNewRound _ _ _
          generalize advanceDeliveryToNewRound settings db delivery message.partCount now =
            advanced at h hpackets
          obtain ⟨db₁, d₁, isStarted⟩ := advanced
          cases isStarted with
          | false =>
              obtain ⟨rfl, rfl⟩ := Prod.mk.inj (Except.ok.inj h)
              exact .of_eq hpackets _
          | true => exact hpackets ▸ addsPrepared_prepareDeliveryPart h
        · exact addsPrepared_prepareDeliveryPart h
  · cases h

theorem addsPrepared_prepareReceiptPacket {receipt : ReceiptNotification}
    (h : prepareReceiptPacket db receipt now connectionGeneration = .ok (db', packetDescriptor)) :
    AddsPrepared db.packets db'.packets (preparedPacketId packetDescriptor) := by
  unfold prepareReceiptPacket at h
  split at h
  · split at h
    · cases h
    · split at h
      · exact addsPrepared_prepareReceiptPush h
      · split at h
        · obtain ⟨rfl, rfl⟩ := Prod.mk.inj (Except.ok.inj h)
          exact .of_eq (packets_updateLockedReceipt _ _ _ _ _) _
        · have hpackets : (startReceiptAttempt db receipt now).1.packets = db.packets :=
            packets_updateLockedReceipt _ _ _ _ _
          generalize startReceiptAttempt db receipt now = started at h hpackets
          obtain ⟨db₁, r₁, isStarted⟩ := started
          cases isStarted with
          | false =>
              obtain ⟨rfl, rfl⟩ := Prod.mk.inj (Except.ok.inj h)
              exact .of_eq hpackets _
          | true => exact hpackets ▸ addsPrepared_prepareReceiptPush h
  · cases h

theorem addsPrepared_prepareFirstPacket {settings : RelaySettings} {candidates : List Candidate}
    (h : prepareFirstPacket settings now connectionGeneration db candidates =
      .ok (db', packetDescriptor)) :
    AddsPrepared db.packets db'.packets (preparedPacketId packetDescriptor) := by
  induction candidates generalizing db with
  | nil =>
      obtain ⟨rfl, rfl⟩ := Prod.mk.inj (Except.ok.inj h)
      exact .of_eq rfl _
  | cons candidate candidates ih =>
      have hone : ∀ {db₁ : Db} {descriptor : Option PacketDescriptor},
          prepareCandidatePacket settings db candidate now connectionGeneration =
              .ok (db₁, descriptor) →
            AddsPrepared db.packets db₁.packets (preparedPacketId descriptor) := by
        intro db₁ descriptor hprepared
        cases candidate with
        | delivery delivery => exact addsPrepared_prepareDeliveryPacket hprepared
        | receipt receipt => exact addsPrepared_prepareReceiptPacket hprepared
      unfold prepareFirstPacket at h
      split at h
      · cases h
      · next db₁ descriptor hprepared =>
          obtain ⟨rfl, rfl⟩ := Prod.mk.inj (Except.ok.inj h)
          exact hone hprepared
      · next db₁ hprepared =>
          have hfirst := hone hprepared
          have hrest := ih h
          refine ⟨fun q hq hstate => ?_, fun q hq deadline hawaits => ?_⟩
          · rcases hrest.prepared q hq hstate with ⟨p, hp, hid, hprepared'⟩ | hlast
            · rcases hfirst.prepared p hp hprepared' with ⟨r, hr, hid', hprepared''⟩ | hnone
              · exact Or.inl ⟨r, hr, hid'.trans hid, hprepared''⟩
              · cases hnone
            · exact Or.inr hlast
          · obtain ⟨p, hp, hawaits'⟩ := hrest.awaiting q hq deadline hawaits
            exact hfirst.awaiting p hp deadline hawaits'

/-- **The next packet** is the only one that is prepared. -/
theorem addsPrepared_prepareNextPacket {settings : RelaySettings}
    (h : prepareNextPacket settings db now connectionGeneration = .ok (db', packetDescriptor)) :
    AddsPrepared db.packets db'.packets (preparedPacketId packetDescriptor) :=
  addsPrepared_prepareFirstPacket h

/-- **A reply's packet** is the only one that is prepared. -/
theorem addsPrepared_prepareReplyPacket {contactId : ℕ} {replyKey text : Text}
    (h : prepareReplyPacket db contactId replyKey text now connectionGeneration =
      .ok (db', packetDescriptor)) :
    AddsPrepared db.packets db'.packets (preparedPacketId packetDescriptor) := by
  unfold prepareReplyPacket at h
  split at h
  · cases h
  · split at h
    · obtain ⟨rfl, rfl⟩ := Prod.mk.inj (Except.ok.inj h)
      exact .of_eq rfl _
    · split at h
      · obtain ⟨rfl, rfl⟩ := Prod.mk.inj (Except.ok.inj h)
        exact .of_eq rfl _
      · simp only [bind, Except.bind, pure, Except.pure] at h
        split at h
        · cases h
        · next inserted hinserted =>
            obtain ⟨rfl, rfl⟩ := Prod.mk.inj (Except.ok.inj h)
            exact addsPrepared_insertPreparedPacket (fun _ _ => rfl) hinserted

end Tables

end HoptalkRelay
