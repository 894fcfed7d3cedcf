/-
**The transactions of the sender.**

The sender walks the due deliveries and receipts until one of them gives a packet.  A delivery with
nothing left in its round completes it, starts the next one, waits for a free place or fails; a
failed head takes its refresh session with it.  The packet is the last write of the transaction.

Main definitions:

* `HoptalkRelay.InsertsPacket` — a packet is prepared;
* `HoptalkRelay.PacketWork` — what a packet that is not a reply carries.

Main results:

* `HoptalkRelay.writes_failExhaustedDelivery` — a delivery whose attempts ran out;
* `HoptalkRelay.prepareNextPacket_ok` — **what a call of the scheduler does**;
* `HoptalkRelay.prepareReplyPacket_ok` — a prepared reply.
-/

import HoptalkRelay.Transactions.Quiet

set_option relaxedAutoImplicit false
set_option autoImplicit false

namespace HoptalkRelay

open Relational

variable {input : Input} {db : Db} {d : MessageDelivery}

/-! ### The packet's row -/

theorem insertPreparedPacket_ok {mk : ℕ → ℤ → OutboundPacket}
    {keepsId : ∀ id timestamp, (mk id timestamp).id = id} {now : Time} {db' : Db}
    {packet : OutboundPacket} (hmk : ∀ id timestamp, (mk id timestamp).senderTimestamp = timestamp ∧
      (mk id timestamp).state = .prepared ∧
      (mk id timestamp).routeResetState = .notApplicable ∧
      (mk id timestamp).preparedAt = some now ∧ (mk id timestamp).queuedAt = none)
    (h : insertPreparedPacket db mk keepsId now = .ok (db', packet)) :
    InsertsPacket db db' packet now ∧
      packet = mk db.packets.nextKey (allocateSenderTimestamp db now) := by
  unfold insertPreparedPacket at h
  dsimp only at h
  split at h
  · simp at h
  split at h
  · simp at h
  next hunused =>
  obtain ⟨rfl, rfl⟩ := Prod.mk.injEq .. ▸ Except.ok.inj h
  obtain ⟨htimestamp, hstate, hreset, hprepared, hqueued⟩ :=
    hmk db.packets.nextKey (allocateSenderTimestamp db now)
  refine ⟨⟨⟨_, _, rfl, rfl⟩, htimestamp, fun p hp heq => hunused ?_, hstate, hreset, hprepared,
    hqueued⟩, rfl⟩
  rw [Table.any_eq_true]
  exact ⟨p, hp, by simpa [htimestamp] using heq⟩

/-! ### A delivery whose attempts ran out -/

/-- A pending row that a transaction did not work on. -/
def Candidate.IsLive (db : Db) : Candidate → Prop
  | .delivery d => d ∈ db.deliveries ∧ d.state = .pending
  | .receipt r => r ∈ db.receipts ∧ r.state = .pending

/-- Work on one candidate leaves the other live ones and the packets. -/
structure KeepsOthers (db db' : Db) (candidate : Candidate) : Prop where
  live : ∀ other, other ≠ candidate → other.IsLive db → other.IsLive db'
  packets : db'.packets = db.packets

theorem KeepsOthers.refl (db : Db) (candidate : Candidate) : KeepsOthers db db candidate :=
  ⟨fun _ _ h => h, rfl⟩

/-- Replacing the candidate's delivery leaves the others. -/
theorem KeepsOthers.putDelivery {d' : MessageDelivery} (hd : d ∈ db.deliveries)
    (hkey : key d' = key d) : KeepsOthers db (db.putDelivery d') (.delivery d) := by
  refine ⟨?_, rfl⟩
  rintro (e | r) hne hlive
  · refine ⟨(Table.mem_put_iff hd hkey).2 (Or.inr ⟨hlive.1, fun h => hne ?_⟩), hlive.2⟩
    rw [Table.eq_of_key_eq hlive.1 hd h]
  · exact hlive

/-- Replacing the candidate's receipt leaves the others. -/
theorem KeepsOthers.putReceipt {r r' : ReceiptNotification} (hr : r ∈ db.receipts)
    (hkey : key r' = key r) : KeepsOthers db (db.putReceipt r') (.receipt r) := by
  refine ⟨?_, rfl⟩
  rintro (e | q) hne hlive
  · exact hlive
  · refine ⟨(Table.mem_put_iff hr hkey).2 (Or.inr ⟨hlive.1, fun h => hne ?_⟩), hlive.2⟩
    rw [Table.eq_of_key_eq hlive.1 hr h]

/-- The messages queued behind a given-up head fail, and the session stops. -/
theorem writes_stopRefreshSession {now : Time} (hevent : IsScheduling input now) (db : Db)
    (refreshSessionId : ℕ) :
    Writes input (.stopping refreshSessionId, db)
        (.settled, stopRefreshSession db refreshSessionId now) ∧
      (stopRefreshSession db refreshSessionId now).receipts = db.receipts ∧
      (stopRefreshSession db refreshSessionId now).packets = db.packets ∧
      ∀ r ∈ db.deliveries, ¬ IsQueuedIn refreshSessionId r →
        r ∈ (stopRefreshSession db refreshSessionId now).deliveries := by
  have hqueued : ∀ d, d ∈ db.deliveries.filter (fun delivery =>
      delivery.refreshSessionId = some refreshSessionId && delivery.state = .queuedForRefresh) ↔
      d ∈ db.deliveries ∧ IsQueuedIn refreshSessionId d := by
    simp [IsQueuedIn]
  have hwork : ∀ db', ∀ d ∈ db.deliveries.filter (fun delivery =>
      delivery.refreshSessionId = some refreshSessionId && delivery.state = .queuedForRefresh),
      DeliveriesOnly db db' → d ∈ db'.deliveries →
      Relation.ReflTransGen
          (fun a b => Write input (.stopping refreshSessionId, a) (.stopping refreshSessionId, b)) db'
          (failDeliveryOfStoppedRefresh db' d now).1 ∧
        DeliveriesOnly db (failDeliveryOfStoppedRefresh db' d now).1 ∧
        (failDeliveryOfStoppedRefresh db' d now).1.deliveries =
          db'.deliveries.put (failedDelivery d .refreshStopped now) := by
    intro db' d hd honly hmem
    have hd := ((hqueued d).1 hd).2
    rw [failDeliveryOfStoppedRefresh_of_mem hmem hd.2]
    exact ⟨.single (.delivery hmem (.stopped refreshSessionId now hevent hd)),
      honly.trans (.putDelivery _ _), rfl⟩
  obtain ⟨hsteps, honly, hall⟩ := foldl_put Db.deliveries (failedDelivery · .refreshStopped now)
    (fun db d => (failDeliveryOfStoppedRefresh db d now).1) _ (fun _ => rfl) hwork db (.refl db)
    ((Table.nodup_filter _ _).map_on fun a ha b hb hab =>
      Table.eq_of_key_eq (Table.mem_filter.1 ha).1 (Table.mem_filter.1 hb).1 hab)
    fun d hd => (Table.mem_filter.1 hd).1
  unfold stopRefreshSession
  refine ⟨(hsteps.lift (fun db => (Phase.stopping refreshSessionId, db)) fun _ _ h => h).tail
    (.stopped fun e he hequeued => ?_), honly.receipts, honly.packets, fun r hr hnot => ?_⟩
  · rcases (hall e).1 he with ⟨q, -, rfl⟩ | ⟨he, hnot⟩
    · simp [IsQueuedIn] at hequeued
    · exact hnot (List.mem_map_of_mem ((hqueued e).2 ⟨he, hequeued⟩))
  · refine (hall r).2 (Or.inr ⟨hr, fun hkey => hnot ?_⟩)
    obtain ⟨q, hq, hkey⟩ := List.mem_map.1 hkey
    obtain ⟨hq, hqueued'⟩ := (hqueued q).1 hq
    exact Table.eq_of_key_eq hq hr hkey ▸ hqueued'

/-- **A delivery whose attempts ran out** fails, and a head takes its session with it. -/
theorem writes_failExhaustedDelivery {now : Time} (hevent : IsScheduling input now) {db : Db}
    {d : MessageDelivery} (hd : d ∈ db.deliveries) (hstate : d.state = .pending)
    (hround : d.roundPendingPartsMask = 0) (hattempts : d.maximumAttempts ≤ d.attemptCount) :
    Writes input (.settled, db) (.settled, failExhaustedDelivery db d now) ∧
      KeepsOthers db (failExhaustedDelivery db d now) (.delivery d) := by
  have hfail : Write input (.settled, db)
      (.afterFailure (findActiveRefreshSessionId db d),
        db.putDelivery (failedDelivery d .attemptsExhausted now)) :=
    .delivery hd (.exhausted now hevent hstate hround hattempts)
  have hkeeps : KeepsOthers db (db.putDelivery (failedDelivery d .attemptsExhausted now))
      (.delivery d) := .putDelivery hd rfl
  unfold failExhaustedDelivery
  dsimp only
  rw [failDeliveryAfterExhaustedAttempts_of_mem hd hstate]
  cases hhead : findActiveRefreshSessionId db d with
  | none =>
      rw [hhead] at hfail
      exact ⟨hfail.writes, hkeeps⟩
  | some refreshSessionId =>
      rw [hhead] at hfail
      obtain ⟨hstop, hreceipts, hpackets, hkept⟩ := writes_stopRefreshSession hevent
        (db.putDelivery (failedDelivery d .attemptsExhausted now)) refreshSessionId
      refine ⟨hfail.writes.trans hstop, ?_, hpackets⟩
      rintro (e | r) hne hlive
      · have he := hkeeps.live (.delivery e) hne hlive
        exact ⟨hkept e he.1 fun hqueued => absurd (he.2.symm.trans hqueued.2) (by simp), he.2⟩
      · exact ⟨hreceipts ▸ hlive.1, hlive.2⟩

/-! ### A delivery -/

/-- What the scheduler does with one candidate: it writes, and prepares a packet or goes on to the
next candidate. -/
inductive CandidateWorked (input : Input) (db : Db) (candidate : Candidate) (now : Time)
    (db' : Db) : Option PacketDescriptor → Prop
  | nothing (hwrites : Writes input (.settled, db) (.settled, db'))
      (hkeeps : KeepsOthers db db' candidate) : CandidateWorked input db candidate now db' none
  | packet {db₁ : Db} {packet : OutboundPacket} {device : Contact}
      (hwrites : Writes input (.settled, db) (.settled, db₁)) (hpackets : db₁.packets = db.packets)
      (hinserts : InsertsPacket db₁ db' packet now) (hwork : PacketWork db₁ packet)
      (hdevice : device ∈ db₁.contacts) (hcontact : packet.contactId = some device.id) :
      CandidateWorked input db candidate now db' (some (buildPacketDescriptor packet device))

/-- The packet of the lowest part left in a round. -/
theorem prepareDeliveryPart_ok {start : Db} {candidate : Candidate} {m : Message} {sender : User}
    {device : Contact} {now : Time} {connectionGeneration : ℕ} {db' : Db}
    {packetDescriptor : Option PacketDescriptor}
    (hwrites : Writes input (.settled, start) (.settled, db))
    (hkeeps : KeepsOthers start db candidate)
    (hd : d ∈ db.deliveries) (hstate : d.state = .pending)
    (hm : db.messages.get? d.messageId = some m) (hsender : db.users.get? m.senderId = some sender)
    (hdevice : db.contacts.get? d.deviceId = some device)
    (h : prepareDeliveryPart db d m sender device now connectionGeneration =
      .ok (db', packetDescriptor)) :
    CandidateWorked input start candidate now db' packetDescriptor := by
  unfold prepareDeliveryPart at h
  split at h
  · obtain ⟨rfl, rfl⟩ := Prod.mk.injEq .. ▸ Except.ok.inj h
    exact .nothing hwrites hkeeps
  next partNumber hpart =>
  split at h
  · simp at h
  next partText hpartText =>
  split at h
  · simp at h
  next text htext =>
  simp only [bind, Except.bind, pure, Except.pure] at h
  split at h
  · simp at h
  next inserted hinserted =>
  obtain ⟨rfl, rfl⟩ := Prod.mk.injEq .. ▸ Except.ok.inj h
  obtain ⟨hinserts, hpacket⟩ :=
    insertPreparedPacket_ok (fun _ _ => ⟨rfl, rfl, rfl, rfl, rfl⟩) hinserted
  have hid : device.id = d.deviceId := Table.key_of_get? hdevice
  refine .packet hwrites hkeeps.packets hinserts (.delivery d m sender partNumber partText hd hstate
    hm hsender hpart hpartText ?_ ?_ ?_ ?_ ?_ ?_ ?_ ?_) (Table.mem_of_get? hdevice) ?_ <;> rw [hpacket]
  · exact htext
  · rw [hid]

theorem startDeliveryRound_of_mem (hd : d ∈ db.deliveries) (hstate : d.state = .pending)
    (partCount : PartCount) (now : Time) :
    startDeliveryRound db d partCount now =
      (db.putDelivery (roundStartedDelivery d partCount now), roundStartedDelivery d partCount now,
        true) := by
  unfold startDeliveryRound
  dsimp only
  rw [updateLockedDelivery_of_state hd (by simp [hstate])]
  rfl

/-- **What the scheduler does with a due delivery.** -/
theorem prepareDeliveryPacket_ok {now : Time} (hevent : IsScheduling input now)
    (hd : d ∈ db.deliveries) (hstate : d.state = .pending) {connectionGeneration : ℕ} {db' : Db} {packetDescriptor : Option PacketDescriptor}
    (h : prepareDeliveryPacket input.settings db d now connectionGeneration =
      .ok (db', packetDescriptor)) :
    CandidateWorked input db (.delivery d) now db' packetDescriptor := by
  unfold prepareDeliveryPacket at h
  split at h
  swap
  · simp at h
  next m device hm hdevice =>
  split at h
  · simp at h
  next sender hsender =>
  split at h
  swap
  · exact prepareDeliveryPart_ok .refl (.refl db _) hd hstate hm hsender hdevice h
  next hleft =>
  unfold advanceDeliveryToNewRound at h
  by_cases hround : d.roundPendingPartsMask = 0
  swap
  · -- what was left of the round was reported meanwhile
    obtain ⟨due, hcompleted⟩ := completeDeliveryRound_of_mem input.settings hd hstate
      (findLastRoundPacketSuggestedTimeout db d) now
    rw [if_pos hround, hcompleted] at h
    obtain ⟨rfl, rfl⟩ := Prod.mk.injEq .. ▸ Except.ok.inj h
    exact .nothing ((quiet_roundCompleted hd hstate hleft due).writes .settled)
      (.putDelivery hd rfl)
  rw [if_neg (not_not.2 hround)] at h
  by_cases hattempts : d.maximumAttempts ≤ d.attemptCount
  · rw [if_pos hattempts] at h
    obtain ⟨rfl, rfl⟩ := Prod.mk.injEq .. ▸ Except.ok.inj h
    obtain ⟨hwrites, hkeeps⟩ := writes_failExhaustedDelivery hevent hd hstate hround hattempts
    exact .nothing hwrites hkeeps
  rw [if_neg hattempts] at h
  by_cases hfull : d.roundStartedAt = none ∧ input.settings.maximumActiveDeliveriesPerDevice ≤
      countDeliveriesInProgress db d.deviceId
  · rw [if_pos hfull] at h
    obtain ⟨rfl, rfl⟩ := Prod.mk.injEq .. ▸ Except.ok.inj h
    exact .nothing .refl (.refl db _)
  rw [if_neg hfull, startDeliveryRound_of_mem hd hstate] at h
  have hstarted : Quiet input db (db.putDelivery (roundStartedDelivery d m.partCount now)) :=
    .delivery hd (.roundStarted m now hevent hm hstate hround (not_le.1 hattempts)
      fun hfree => not_le.1 fun hle => hfull ⟨hfree, hle⟩)
  have hmem : roundStartedDelivery d m.partCount now ∈
      (db.putDelivery (roundStartedDelivery d m.partCount now)).deliveries :=
    Table.mem_put_self hd rfl
  exact prepareDeliveryPart_ok (hstarted.quiets.writes .settled) (.putDelivery hd rfl) hmem hstate
    hm hsender hdevice h

/-! ### A receipt -/

/-- The packet of a receipt's attempt. -/
theorem prepareReceiptPush_ok {start : Db} {candidate : Candidate} {r : ReceiptNotification}
    {m : Message} {recipient : User} {device : Contact} {now : Time} {connectionGeneration : ℕ}
    {db' : Db} {packetDescriptor : Option PacketDescriptor}
    (hwrites : Writes input (.settled, start) (.settled, db)) (hpackets : db.packets = start.packets)
    (hr : r ∈ db.receipts) (hstate : r.state = .pending)
    (hm : db.messages.get? r.messageId = some m)
    (hrecipient : db.users.get? m.recipientId = some recipient)
    (hdevice : db.contacts.get? r.deviceId = some device)
    (h : prepareReceiptPush db r m recipient device now connectionGeneration =
      .ok (db', packetDescriptor)) :
    CandidateWorked input start candidate now db' packetDescriptor := by
  unfold prepareReceiptPush at h
  split at h
  · simp at h
  next receiptLevel hlevel =>
  split at h
  · simp at h
  next text htext =>
  simp only [bind, Except.bind, pure, Except.pure] at h
  split at h
  · simp at h
  next inserted hinserted =>
  obtain ⟨rfl, rfl⟩ := Prod.mk.injEq .. ▸ Except.ok.inj h
  obtain ⟨hinserts, hpacket⟩ :=
    insertPreparedPacket_ok (fun _ _ => ⟨rfl, rfl, rfl, rfl, rfl⟩) hinserted
  have hid : device.id = r.deviceId := Table.key_of_get? hdevice
  refine .packet hwrites hpackets hinserts (.receipt r m recipient receiptLevel hr hstate hm hrecipient hlevel
    ?_ ?_ ?_ ?_ ?_ ?_ ?_ ?_) (Table.mem_of_get? hdevice) ?_ <;> rw [hpacket]
  · exact htext
  · rw [hid]

/-- **What the scheduler does with a due receipt.** -/
theorem prepareReceiptPacket_ok {r : ReceiptNotification} (hr : r ∈ db.receipts)
    (hstate : r.state = .pending) {now : Time} {connectionGeneration : ℕ} {db' : Db}
    {packetDescriptor : Option PacketDescriptor}
    (h : prepareReceiptPacket db r now connectionGeneration = .ok (db', packetDescriptor)) :
    CandidateWorked input db (.receipt r) now db' packetDescriptor := by
  unfold prepareReceiptPacket at h
  split at h
  swap
  · simp at h
  next m device hm hdevice =>
  split at h
  · simp at h
  next recipient hrecipient =>
  split at h
  · exact prepareReceiptPush_ok .refl rfl hr hstate hm hrecipient hdevice h
  next hround =>
  split at h
  · next hattempts =>
      obtain ⟨rfl, rfl⟩ := Prod.mk.injEq .. ▸ Except.ok.inj h
      rw [failReceiptAfterExhaustedAttempts_of_mem hr hstate]
      exact .nothing ((Quiet.receipt hr (.exhausted now hstate hattempts)).quiets.writes .settled)
        (.putReceipt hr rfl)
  next hattempts =>
  rw [startReceiptAttempt_of_mem hr hstate] at h
  have hstarted : Quiet input db (db.putReceipt (startedReceipt r now)) :=
    .receipt hr (.started now hstate (by simpa using hround) (not_le.1 hattempts))
  have hmem : startedReceipt r now ∈ (db.putReceipt (startedReceipt r now)).receipts :=
    Table.mem_put_self hr rfl
  exact prepareReceiptPush_ok (hstarted.quiets.writes .settled) rfl hmem hstate hm hrecipient
    hdevice h

/-! ### The next packet -/

/-- What a call of the scheduler does: it writes, and prepares at most one packet as its last
write. -/
inductive NextPacket (input : Input) (db : Db) (now : Time) (db' : Db) :
    Option PacketDescriptor → Prop
  | nothing (hwrites : Writes input (.settled, db) (.settled, db'))
      (hpackets : db'.packets = db.packets) : NextPacket input db now db' none
  | packet {db₁ : Db} {packet : OutboundPacket} {device : Contact}
      (hwrites : Writes input (.settled, db) (.settled, db₁)) (hpackets : db₁.packets = db.packets)
      (hinserts : InsertsPacket db₁ db' packet now) (hwork : PacketWork db₁ packet)
      (hdevice : device ∈ db₁.contacts) (hcontact : packet.contactId = some device.id) :
      NextPacket input db now db' (some (buildPacketDescriptor packet device))

theorem prepareCandidatePacket_ok {now : Time} (hevent : IsScheduling input now)
    {candidate : Candidate} (hlive : candidate.IsLive db) {connectionGeneration : ℕ} {db' : Db} {packetDescriptor : Option PacketDescriptor}
    (h : prepareCandidatePacket input.settings db candidate now connectionGeneration =
      .ok (db', packetDescriptor)) :
    CandidateWorked input db candidate now db' packetDescriptor := by
  cases candidate with
  | delivery d => exact prepareDeliveryPacket_ok hevent hlive.1 hlive.2 h
  | receipt r => exact prepareReceiptPacket_ok hlive.1 hlive.2 h

/-- The walk over the candidates. -/
theorem prepareFirstPacket_ok {now : Time} (hevent : IsScheduling input now)
    {connectionGeneration : ℕ} {db' : Db}
    {packetDescriptor : Option PacketDescriptor} (candidates : List Candidate) (db : Db)
    (hnodup : candidates.Nodup) (hlive : ∀ candidate ∈ candidates, candidate.IsLive db)
    (h : prepareFirstPacket input.settings now connectionGeneration db candidates =
      .ok (db', packetDescriptor)) : NextPacket input db now db' packetDescriptor := by
  induction candidates generalizing db with
  | nil =>
      obtain ⟨rfl, rfl⟩ := Prod.mk.injEq .. ▸ Except.ok.inj h
      exact .nothing .refl rfl
  | cons candidate candidates ih =>
      obtain ⟨hnot, hnodup⟩ := List.nodup_cons.1 hnodup
      unfold prepareFirstPacket at h
      split at h
      · simp at h
      · next db₁ descriptor hprepared =>
          obtain ⟨rfl, rfl⟩ := Prod.mk.injEq .. ▸ Except.ok.inj h
          have hworked := prepareCandidatePacket_ok hevent (hlive candidate List.mem_cons_self) hprepared
          generalize hresult : some descriptor = result at hworked
          cases hworked with
          | nothing => simp at hresult
          | packet hwrites hpackets hinserts hwork hdevice hcontact =>
              obtain rfl := Option.some.inj hresult
              exact .packet hwrites hpackets hinserts hwork hdevice hcontact
      · next db₁ hprepared =>
          have hworked := prepareCandidatePacket_ok hevent (hlive candidate List.mem_cons_self) hprepared
          generalize hresult : none = result at hworked
          cases hworked with
          | packet => simp at hresult
          | nothing hwrites hkeeps =>
              have hnext := ih db₁ hnodup (fun other hother => hkeeps.live other
                (fun heq => hnot (heq ▸ hother)) (hlive other (List.mem_cons_of_mem _ hother))) h
              cases hnext with
              | nothing hwrites' hpackets =>
                  exact .nothing (hwrites.trans hwrites') (hpackets.trans hkeeps.packets)
              | packet hwrites' hpackets hinserts hwork hdevice hcontact =>
                  exact .packet (hwrites.trans hwrites') (hpackets.trans hkeeps.packets) hinserts
                    hwork hdevice hcontact

theorem mem_lockDueCandidates {now : Time} {maximumActiveDeliveriesPerDevice : ℕ}
    {candidate : Candidate}
    (h : candidate ∈ lockDueCandidates db now maximumActiveDeliveriesPerDevice) :
    candidate.IsLive db := by
  simp only [lockDueCandidates, mem_orderBy, List.mem_append, List.mem_map] at h
  rcases h with ⟨d, hd, rfl⟩ | ⟨r, hr, rfl⟩
  · have hd := mem_orderBy.1 (List.mem_of_mem_take hd)
    simp only [Table.mem_filter, isDueDeliveryCandidate, Bool.and_eq_true, decide_eq_true_eq] at hd
    exact ⟨hd.1, hd.2.1.1.1⟩
  · have hr := mem_orderBy.1 (List.mem_of_mem_take hr)
    simp only [Table.mem_filter, isDueReceiptCandidate, Bool.and_eq_true, decide_eq_true_eq] at hr
    exact ⟨hr.1, hr.2.1.1⟩

theorem nodup_lockDueCandidates (db : Db) (now : Time) (maximumActiveDeliveriesPerDevice : ℕ) :
    (lockDueCandidates db now maximumActiveDeliveriesPerDevice).Nodup := by
  have hdue : ∀ {ρ κ : Type} [Keyed ρ] [LinearOrder κ] (f : ρ → κ) (t : Table ρ) (p : ρ → Bool),
      ((orderBy f (t.filter p)).take candidateLimitPerKind).Nodup :=
    fun f t p => ((orderBy_perm f _).nodup_iff.2 (Table.nodup_filter t p)).sublist
      (List.take_sublist _ _)
  refine (orderBy_perm _ _).nodup_iff.2 (List.Nodup.append ?_ ?_ ?_)
  · exact (hdue _ _ _).map fun a b hab => Candidate.delivery.inj hab
  · exact (hdue _ _ _).map fun a b hab => Candidate.receipt.inj hab
  · intro candidate hd hr
    obtain ⟨d, -, rfl⟩ := List.mem_map.1 hd
    obtain ⟨r, -, hr⟩ := List.mem_map.1 hr
    cases hr

/-- **A call of the scheduler** writes, and prepares at most one packet as its last write. -/
theorem prepareNextPacket_ok {now : Time} (hevent : IsScheduling input now)
    {connectionGeneration : ℕ} {db' : Db}
    {packetDescriptor : Option PacketDescriptor}
    (h : prepareNextPacket input.settings db now connectionGeneration =
      .ok (db', packetDescriptor)) : NextPacket input db now db' packetDescriptor :=
  prepareFirstPacket_ok hevent _ db (nodup_lockDueCandidates _ _ _) (fun _ => mem_lockDueCandidates) h

theorem NextPacket.writes {now : Time} {db' : Db} {packetDescriptor : Option PacketDescriptor}
    (h : NextPacket input db now db' packetDescriptor)
    (hevent : input.event.preparesAt? = some now) :
    Writes input (.settled, db) (.settled, db') := by
  cases h with
  | nothing hwrites => exact hwrites
  | packet hwrites hpackets hinserts hwork =>
      exact hwrites.tail (.quiet .settled (.packetPrepared hevent hinserts (Or.inl hwork)))

/-- A packet that was not there before is the one the call prepared. -/
theorem NextPacket.prepared {now : Time} {db' : Db} {packetDescriptor : Option PacketDescriptor}
    (h : NextPacket input db now db' packetDescriptor) {packet : OutboundPacket}
    (hpacket : packet ∈ db'.packets) (hnew : db.packets.get? packet.id = none) :
    ∃ db₁ device, Writes input (.settled, db) (.settled, db₁) ∧ InsertsPacket db₁ db' packet now ∧
      PacketWork db₁ packet ∧ packetDescriptor = some (buildPacketDescriptor packet device) ∧
      db₁.packets = db.packets := by
  have hstored : ∀ db₁ : Db, db₁.packets = db.packets → packet ∉ db₁.packets := by
    intro db₁ hpackets hmem
    rw [hpackets] at hmem
    have hfound := Table.get?_key hmem
    rw [key_packet, hnew] at hfound
    cases hfound
  cases h with
  | nothing hwrites hpackets => exact absurd hpacket (hstored db' hpackets)
  | packet hwrites hpackets hinserts hwork hdevice hcontact =>
      rcases hinserts.mem_iff.1 hpacket with hold | rfl
      · exact absurd hold (hstored _ hpackets)
      · exact ⟨_, _, hwrites, hinserts, hwork, rfl, hpackets⟩

/-! ### A reply -/

/-- **A prepared reply**: a packet for a contact on the node, or nothing. -/
theorem prepareReplyPacket_ok {contactId : ℕ} {replyKey text : Text} {now : Time}
    {connectionGeneration : ℕ} {db' : Db} {packetDescriptor : Option PacketDescriptor}
    (h : prepareReplyPacket db contactId replyKey text now connectionGeneration =
      .ok (db', packetDescriptor)) :
    db' = db ∧ packetDescriptor = none ∨ ∃ packet contact, InsertsPacket db db' packet now ∧
      IsReplyPacket packet ∧ packet.contactId = some contactId ∧ packet.text = text ∧
      packetDescriptor = some (buildPacketDescriptor packet contact) := by
  unfold prepareReplyPacket at h
  split at h
  · simp at h
  split at h
  · obtain ⟨rfl, rfl⟩ := Prod.mk.injEq .. ▸ Except.ok.inj h
    exact Or.inl ⟨rfl, rfl⟩
  next contact hcontact =>
  split at h
  · obtain ⟨rfl, rfl⟩ := Prod.mk.injEq .. ▸ Except.ok.inj h
    exact Or.inl ⟨rfl, rfl⟩
  simp only [bind, Except.bind, pure, Except.pure] at h
  split at h
  · simp at h
  next inserted hinserted =>
  obtain ⟨rfl, rfl⟩ := Prod.mk.injEq .. ▸ Except.ok.inj h
  obtain ⟨hinserts, hpacket⟩ :=
    insertPreparedPacket_ok (fun _ _ => ⟨rfl, rfl, rfl, rfl, rfl⟩) hinserted
  refine Or.inr ⟨_, contact, hinserts, ⟨?_, ?_, ?_⟩, ?_, ?_, rfl⟩ <;> rw [hpacket]
  exact congrArg some (Table.key_of_get? hcontact)

end HoptalkRelay
