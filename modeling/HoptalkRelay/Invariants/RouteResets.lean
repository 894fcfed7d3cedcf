/-
**Packets and their route resets move one way.**

The transactions of the relay, the settlements between them and restarts are taken in any order.
Every stored packet only gets older: it leaves each of its states once, and the decision about its
route is opened once and taken once.  So the packets of a settlement that recorded its reset never
are part of another one.

Main definitions:

* `HoptalkRelay.PacketsFollow` — every packet of a table is a later one of another table, or new;
* `HoptalkRelay.logPacket`, `HoptalkRelay.PassesOnce` — a packet over time;
* `HoptalkRelay.ReachedStage`, `HoptalkRelay.SettlementMoved` — what settlements leave behind.

Main results:

* `HoptalkRelay.step_packetsFollow`, `HoptalkRelay.settlingStep_packetsFollow` — no transaction
  takes a packet back;
* `HoptalkRelay.SettlementsOk.step` — the settlements stay apart;
* `HoptalkRelay.packet_life_cycle` — **every packet goes one way**.
-/

import HoptalkRelay.AcknowledgementTracker
import HoptalkRelay.Transactions.Steps
import HoptalkRelay.Transition.Stages

set_option relaxedAutoImplicit false
set_option autoImplicit false

namespace HoptalkRelay

open Relational Transition

/-! ### Packets get older -/

/-- Every packet of the later table is a later row of one of the earlier table, or a new packet. -/
structure PacketsFollow (t u : Table OutboundPacket) : Prop where
  nextKey : t.nextKey ≤ u.nextKey
  later : ∀ q ∈ u, (∃ p ∈ t, p.id = q.id ∧ PacketLife p q) ∨ t.nextKey ≤ q.id ∧ ColumnsOk q

/-- The columns of every packet fit. -/
def PacketsOk (t : Table OutboundPacket) : Prop := ∀ p ∈ t, ColumnsOk p

section Follow

variable {t u v : Table OutboundPacket} {hashing : PasswordHashing} {input : Input} {db db' : Db}

theorem PacketsFollow.refl (t : Table OutboundPacket) : PacketsFollow t t :=
  ⟨le_rfl, fun q hq => Or.inl ⟨q, hq, rfl, .refl q⟩⟩

theorem PacketsFollow.trans (h : PacketsFollow t u) (h' : PacketsFollow u v) :
    PacketsFollow t v := by
  refine ⟨h.nextKey.trans h'.nextKey, fun r hr => ?_⟩
  rcases h'.later r hr with ⟨q, hq, hid, hlife⟩ | ⟨hnew, hok⟩
  · rcases h.later q hq with ⟨p, hp, hid', hlife'⟩ | ⟨hnew, hok⟩
    · exact Or.inl ⟨p, hp, hid'.trans hid, hlife'.trans hlife⟩
    · exact Or.inr ⟨hid ▸ hnew, (hlife hok).1⟩
  · exact Or.inr ⟨h.nextKey.trans hnew, hok⟩

theorem PacketsFollow.ok (h : PacketsFollow t u) (hok : PacketsOk t) : PacketsOk u := by
  intro q hq
  rcases h.later q hq with ⟨p, hp, -, hlife⟩ | ⟨-, hnew⟩
  · exact (hlife (hok p hp)).1
  · exact hnew

/-- A write takes no packet back. -/
theorem Write.packetsFollow {a b : Phase × Db} (h : Write input a b) :
    PacketsFollow a.2.packets b.2.packets := by
  refine ⟨h.packets.nextKey, fun q hq => ?_⟩
  rcases h.packets.origin hq with hq' | ⟨p, hp, hkey, hchange⟩ | ⟨hnew, hcreated⟩
  · exact Or.inl ⟨q, hq', rfl, .refl q⟩
  · exact Or.inl ⟨p, hp, hkey, hchange.life⟩
  · obtain ⟨_, _, -, hinserts⟩ := hcreated.inserted
    refine Or.inr ⟨hnew, ⟨fun _ _ => hinserts.reset, fun hpending => ?_,
      fun hqueued => absurd hinserts.queuedAt hqueued⟩⟩
    rw [hinserts.reset] at hpending
    cases hpending

theorem Writes.packetsFollow {a b : Phase × Db} (h : Writes input a b) (ha : Consistent a.2) :
    Consistent b.2 ∧ PacketsFollow a.2.packets b.2.packets :=
  h.invariant ha (P := fun b => PacketsFollow a.2.packets b.2.packets) (.refl _)
    fun _ _ _ hold hwrite => hold.trans hwrite.packetsFollow

/-- **No transaction takes a packet back.** -/
theorem step_packetsFollow (hashing : PasswordHashing) (input : Input) (hdb : Consistent db) :
    Consistent (step hashing db input).1 ∧
      PacketsFollow db.packets (step hashing db input).1.packets := by
  obtain ⟨phase, -, hwrites⟩ := step_writes hashing input hdb
  exact hwrites.packetsFollow hdb

end Follow

/-! ### The transactions of a settlement -/

section Settling

variable {hashing : PasswordHashing} {settings : RelaySettings} {input : Input} {db : Db}
  {state : RelayDb} {now : Time} {k : ℕ}

/-- Deciding pending resets is quiet. -/
theorem quiets_decided (input : Input) (db : Db) {p : OutboundPacket → Bool}
    {routeResetState : RouteResetState} (hdecided : routeResetState ≠ .pending) (now : Time)
    (hpending : ∀ row, p row = true → row.routeResetState = .pending) :
    Quiets input db
      { db with
        packets := db.packets.updateWhere p fun row =>
          { row with routeResetState, routeResetDecidedAt := some now } } := by
  refine quiets_packets rfl rfl (samePackets_updateWhere ?_ fun row _ hrow => ?_)
  · exact fun _ _ => rfl
  · exact ⟨rfl, rfl, rfl, rfl, rfl, rfl, rfl, rfl, rfl, rfl, fun h => h,
      packetLife_decided (hpending row hrow) rfl hdecided⟩

theorem quiets_settlePackets (input : Input) (lastPathUpdateAt : Option Time) (now : Time)
    (packets : List OutboundPacket) (state : RelayDb) :
    Quiets input state.db (settlePackets lastPathUpdateAt now state packets).1.db := by
  induction packets generalizing state with
  | nil => exact .refl
  | cons packet packets ih =>
      unfold settlePackets
      split
      · refine Relation.ReflTransGen.trans ?_ (ih _)
        exact quiets_decided input state.db (by simp) now fun row hrow => by simp_all
      · split
        · refine Relation.ReflTransGen.trans ?_ (ih _)
          exact quiets_decided input state.db (by simp) now fun row hrow => by simp_all
        · exact ih state

theorem quiets_settlePendingRouteResets (input : Input) (settings : RelaySettings)
    (state : RelayDb) (contactId : ℕ) (now : Time) :
    Quiets input state.db (settlePendingRouteResets settings state contactId now).1.db :=
  quiets_settlePackets input _ now _ state

theorem quiets_recordRouteResetPerformed (input : Input) (db : Db) (packetIds : List ℕ)
    (now : Time) : Quiets input db (recordRouteResetPerformed db packetIds now).1 :=
  quiets_decided input db (by simp) now fun row hrow => by simp_all

/-- **No event takes a packet back.** -/
theorem settlingStep_packetsFollow (hashing : PasswordHashing) {relay : SettlingRelay}
    (event : SettlingEvent) (hdb : Consistent relay.state.db) :
    Consistent (settlingStep hashing relay event).1.state.db ∧
      PacketsFollow relay.state.db.packets
        (settlingStep hashing relay event).1.state.db.packets := by
  have hsame : Consistent relay.state.db ∧
      PacketsFollow relay.state.db.packets relay.state.db.packets := ⟨hdb, .refl _⟩
  -- a settlement's own transactions need no input of the engine
  have hquiets : ∀ db', (∀ input, Quiets input relay.state.db db') →
      Consistent db' ∧ PacketsFollow relay.state.db.packets db'.packets := fun db' h =>
    ((h ⟨sampleSettings, .recoverAtStartup 0⟩).writes .settled).packetsFollow hdb
  unfold settlingStep
  split
  · exact step_packetsFollow hashing _ hdb
  · exact hsame
  · exact hsame
  · next settings contactId publicKey now _ =>
      exact hquiets _ fun input =>
        quiets_settlePendingRouteResets input settings relay.state contactId now
  · exact hsame
  · split <;> exact hsame
  · exact hquiets _ fun input => quiets_recordRouteResetPerformed input _ _ _
  · exact hsame
  · exact hsame
  · exact hsame
  · exact hsame
  · exact hquiets _ fun input => quiets_recoverOutboundPacketsAtStartup _
  · exact hsame

end Settling

/-! ### A packet over time -/

/-- The rows the packet was stored with, after one event more. -/
def logPacket (k : ℕ) (log : List OutboundPacket) (_ : SettlingRelay) (_ : SettlingEvent)
    (after : SettlingRelay) : List OutboundPacket :=
  match after.state.db.packets.get? k with
  | some packet => packet :: log
  | none => log

/-- The packet passes each of its states once, and the decision about its route is opened and taken
once. -/
structure PassesOnce (log : List OutboundPacket) : Prop where
  leavesPrepared : departures (fun packet => packet.state = .prepared) log ≤ 1
  leavesQueued : departures (fun packet => packet.state = .queuedOnNode) log ≤ 1
  final : log.Pairwise fun newer older =>
    older.state ∈ [.nodeAcknowledged, .rejectedByNode, .outcomeUnknown] →
      newer.state = older.state
  entersPending : arrivals (fun packet => packet.routeResetState = .pending) log ≤ 1
  leavesPending : departures (fun packet => packet.routeResetState = .pending) log ≤ 1

/-- The rows of the log get older, and the stored one is the oldest. -/
structure LogOk (k : ℕ) (log : List OutboundPacket) (db : Db) : Prop where
  later : log.Pairwise fun newer older => LaterColumns older newer
  ok : ∀ q ∈ log, ColumnsOk q
  stored : ∀ p, db.packets.get? k = some p → ∀ q ∈ log, LaterColumns q p
  unborn : db.packets.nextKey ≤ k → log = []

section Log

variable {k : ℕ} {log : List OutboundPacket} {db db' : Db}

theorem LogOk.nil (k : ℕ) (db : Db) : LogOk k [] db := ⟨.nil, by simp, by simp, fun _ => rfl⟩

/-- Later packets keep the log. -/
theorem LogOk.follow (h : LogOk k log db) (hok : PacketsOk db.packets)
    (hfollow : PacketsFollow db.packets db'.packets) : LogOk k log db' where
  later := h.later
  ok := h.ok
  unborn := fun hle => h.unborn (hfollow.nextKey.trans hle)
  stored := by
    intro p hp q hq
    have hid : p.id = k := Table.key_of_get? hp
    rcases hfollow.later p (Table.mem_of_get? hp) with ⟨p', hp', hid', hlife⟩ | ⟨hnew, -⟩
    · have hfound : db.packets.get? k = some p' := by
        rw [← hid, ← hid']
        exact Table.get?_key hp'
      exact (h.stored p' hfound q hq).trans (hlife (hok p' hp')).2
    · rw [h.unborn (hid ▸ hnew)] at hq
      cases hq

/-- The stored row is logged. -/
theorem LogOk.cons (h : LogOk k log db) (hok : PacketsOk db.packets) {p : OutboundPacket}
    (hp : db.packets.get? k = some p) : LogOk k (p :: log) db where
  later := List.pairwise_cons.2 ⟨h.stored p hp, h.later⟩
  ok := by
    intro q hq
    rcases List.mem_cons.1 hq with rfl | hq
    · exact hok q (Table.mem_of_get? hp)
    · exact h.ok q hq
  stored := by
    intro p' hp' q hq
    obtain rfl := Option.some.inj (hp.symm.trans hp')
    rcases List.mem_cons.1 hq with rfl | hq
    · exact .refl q
    · exact h.stored p hp q hq
  unborn := fun hle => absurd hp (by
    rw [Table.get?_eq_none.2 fun q hq => ((db.packets.below q hq).trans_le hle).ne]
    simp)

theorem pending_iff_resetStage {p : OutboundPacket} (h : ColumnsOk p) :
    p.routeResetState = .pending ↔ p.resetStage = 1 := by
  constructor
  · intro hpending
    simp [OutboundPacket.resetStage, (h.pending hpending).1, PacketState.stage, hpending]
  · intro hstage
    unfold OutboundPacket.resetStage at hstage
    split at hstage
    · cases hstage
    · by_contra hnot
      rw [if_neg hnot] at hstage
      cases hstage

/-- **A packet passes each stage once.** -/
theorem LogOk.passesOnce (h : LogOk k log db) : PassesOnce log where
  leavesPrepared := by
    refine departures_le_one (fun packet => packet.state.stage) 0 (fun p _ => ?_)
      (h.later.imp LaterColumns.state)
    cases hstate : p.state <;> simp [PacketState.stage]
  leavesQueued := by
    refine departures_le_one (fun packet => packet.state.stage) 1 (fun p _ => ?_)
      (h.later.imp LaterColumns.state)
    cases hstate : p.state <;> simp [PacketState.stage]
  final := by
    refine h.later.imp fun {newer older} hlater hfinal => hlater.final ?_
    simp only [List.mem_cons, List.not_mem_nil, or_false] at hfinal
    rcases hfinal with hstate | hstate | hstate <;> rw [hstate] <;> rfl
  entersPending := arrivals_le_one OutboundPacket.resetStage 1
    (fun p hp => by simpa using pending_iff_resetStage (h.ok p hp))
    (h.later.imp LaterColumns.reset)
  leavesPending := departures_le_one OutboundPacket.resetStage 1
    (fun p hp => by simpa using pending_iff_resetStage (h.ok p hp))
    (h.later.imp LaterColumns.reset)

end Log

/-! ### What settlements did -/

/-- The packets the route was reset for. -/
def SettlingOutcome.resetPackets : SettlingOutcome → List ℕ
  | .routeReset packetIds => packetIds
  | _ => []

/-- The packets a reset was recorded for. -/
def SettlingOutcome.recordedPackets : SettlingOutcome → List ℕ
  | .resetRecorded packetIds => packetIds
  | _ => []

/-- The reply packets that are sent again. -/
def SettlingOutcome.resentPackets : SettlingOutcome → List ℕ
  | .repliesQueued packetIds => packetIds
  | _ => []

/-- The decision about the packet is as far as this, or further. -/
def ReachedStage (stage : ℕ) (db : Db) (k : ℕ) : Prop :=
  k < db.packets.nextKey ∧ ∀ p ∈ db.packets, p.id = k → stage ≤ p.resetStage

section Stages

variable {k n : ℕ} {db db' : Db}

/-- **A stage that is reached stays reached.** -/
theorem ReachedStage.follow (h : ReachedStage n db k) (hok : PacketsOk db.packets)
    (hfollow : PacketsFollow db.packets db'.packets) : ReachedStage n db' k := by
  refine ⟨h.1.trans_le hfollow.nextKey, fun q hq hid => ?_⟩
  rcases hfollow.later q hq with ⟨p, hp, hsame, hlife⟩ | ⟨hnew, -⟩
  · exact (h.2 p hp (hsame.trans hid)).trans (hlife (hok p hp)).2.reset
  · have hlt := h.1
    omega

/-- A packet that was considered and is not pending is decided. -/
theorem ReachedStage.decided (h : ReachedStage 1 db k) (hok : PacketsOk db.packets)
    (hnot : ∀ p ∈ db.packets, p.id = k → p.routeResetState ≠ .pending) : ReachedStage 2 db k := by
  refine ⟨h.1, fun p hp hid => ?_⟩
  have hone := h.2 p hp hid
  have hne : p.resetStage ≠ 1 := fun hstage =>
    hnot p hp hid ((pending_iff_resetStage (hok p hp)).2 hstage)
  omega

/-- A pending packet was considered, and is not decided. -/
theorem reachedStage_of_pending (hok : PacketsOk db.packets) {p : OutboundPacket}
    (hp : p ∈ db.packets) (hpending : p.routeResetState = .pending) :
    ReachedStage 1 db p.id ∧ ¬ ReachedStage 2 db p.id := by
  have hstage := (pending_iff_resetStage (hok p hp)).1 hpending
  refine ⟨⟨db.packets.below p hp, fun q hq hid => ?_⟩, fun h => ?_⟩
  · obtain rfl := Table.eq_of_key_eq hq hp hid
    exact hstage.ge
  · have htwo := h.2 p hp rfl
    omega

end Stages

/-! ### The packets of a settlement -/

theorem settlePackets_sublist (lastPathUpdateAt : Option Time) (now : Time)
    (packets : List OutboundPacket) (state : RelayDb) :
    (settlePackets lastPathUpdateAt now state packets).2.Sublist packets := by
  induction packets generalizing state with
  | nil => exact .slnil
  | cons packet packets ih =>
      unfold settlePackets
      split
      · exact (ih _).cons packet
      · split
        · exact (ih _).cons packet
        · exact (ih state).cons_cons packet

theorem packetId_of_findReplyToResend? {settings : RelaySettings} {db : Db} {now : Time}
    {packet : OutboundPacket} {reply : ReplyResendCandidate}
    (h : findReplyToResend? settings db now packet = some reply) : reply.packetId = packet.id := by
  unfold findReplyToResend? at h
  split at h
  · split at h
    · cases h
    · split at h
      · cases h
      · rw [← Option.some.inj h]
  · cases h

theorem repliesToResend_sublist (settings : RelaySettings) (db : Db) (now : Time)
    (packets : List OutboundPacket) :
    ((packets.filterMap (findReplyToResend? settings db now)).map
      ReplyResendCandidate.packetId).Sublist (packets.map OutboundPacket.id) := by
  induction packets with
  | nil => exact .slnil
  | cons packet packets ih =>
      cases hreply : findReplyToResend? settings db now packet with
      | none =>
          rw [List.filterMap_cons_none hreply]
          exact ih.cons _
      | some reply =>
          rw [List.filterMap_cons_some hreply, List.map_cons, List.map_cons,
            packetId_of_findReplyToResend? hreply]
          exact ih.cons_cons _

theorem queueFloodResends_sublist (timing : WorkerTiming) (now : Seconds)
    (replies : List ReplyResendCandidate) (queue : ReplyQueue) :
    (queueFloodResends timing now queue replies).2.Sublist
      (replies.map ReplyResendCandidate.packetId) := by
  induction replies generalizing queue with
  | nil => exact .slnil
  | cons reply replies ih =>
      unfold queueFloodResends
      split
      · exact (ih _).cons _
      · exact (ih _).cons_cons _

/-- What is known of a settlement as long as it lasts. -/
structure SettlementOk (settlement : RouteResetSettlement) (db : Db) : Prop where
  distinct : settlement.packetIdsNeedingReset.Nodup
  replies : (settlement.repliesToResend.map ReplyResendCandidate.packetId).Sublist
    settlement.packetIdsNeedingReset
  considered : ∀ k ∈ settlement.packetIdsNeedingReset, ReachedStage 1 db k

/-- **A settlement is about pending packets.** -/
theorem settlePendingRouteResets_spec {state : RelayDb} (hdb : Consistent state.db)
    (hok : PacketsOk state.db.packets) (settings : RelaySettings) (contactId : ℕ) (now : Time) :
    SettlementOk (settlePendingRouteResets settings state contactId now).2
        (settlePendingRouteResets settings state contactId now).1.db ∧
      ∀ k ∈ (settlePendingRouteResets settings state contactId now).2.packetIdsNeedingReset,
        ¬ ReachedStage 2 state.db k := by
  have hfollow := ((quiets_settlePendingRouteResets ⟨sampleSettings, .recoverAtStartup 0⟩ settings
    state contactId now).writes .settled).packetsFollow hdb
  have hsublist := settlePackets_sublist
    ((state.db.contacts.get? contactId).bind Contact.lastPathUpdateAt) now
    (state.db.packets.filter fun packet =>
      packet.contactId = some contactId && packet.routeResetState = .pending) state
  have hpending : ∀ k ∈
      (settlePendingRouteResets settings state contactId now).2.packetIdsNeedingReset,
      ∃ p ∈ state.db.packets, p.id = k ∧ p.routeResetState = .pending := by
    intro k hk
    obtain ⟨p, hp, rfl⟩ := List.mem_map.1 hk
    have hmem := hsublist.subset hp
    simp only [Table.mem_filter, Bool.and_eq_true, decide_eq_true_eq] at hmem
    exact ⟨p, hmem.1, rfl, hmem.2.2⟩
  refine ⟨⟨?_, ?_, fun k hk => ?_⟩, fun k hk => ?_⟩
  · refine (hsublist.map OutboundPacket.id).nodup ?_
    exact List.pairwise_map.2 ((Table.pairwise_filter _ _).imp fun hlt => hlt.ne)
  · exact repliesToResend_sublist settings _ now _
  · obtain ⟨p, hp, rfl, hreset⟩ := hpending k hk
    exact (reachedStage_of_pending hok hp hreset).1.follow hok hfollow.2
  · obtain ⟨p, hp, rfl, hreset⟩ := hpending k hk
    exact (reachedStage_of_pending hok hp hreset).2

/-! ### What an event does to the settlement -/

/-- No packet waits for a decision after a start. -/
theorem recoverOutboundPacketsAtStartup_ne_pending {db : Db} {now : Time} :
    ∀ p ∈ (recoverOutboundPacketsAtStartup db now).packets, p.routeResetState ≠ .pending := by
  intro p hp
  unfold recoverOutboundPacketsAtStartup dropPendingRouteResets at hp
  dsimp only at hp
  obtain ⟨q, -, rfl⟩ := Table.mem_updateWhere.1 hp
  split
  · simp
  · next hnot => simpa using hnot

/-- The packets a reset is recorded for wait no longer. -/
theorem recordRouteResetPerformed_ne_pending {db : Db} {packetIds : List ℕ} {now : Time} :
    ∀ p ∈ (recordRouteResetPerformed db packetIds now).1.packets, p.id ∈ packetIds →
      p.routeResetState ≠ .pending := by
  intro p hp hid
  unfold recordRouteResetPerformed at hp
  dsimp only at hp
  obtain ⟨q, -, rfl⟩ := Table.mem_updateWhere.1 hp
  split
  · simp
  · next hnot =>
      rw [if_neg hnot] at hid
      simpa [hid] using hnot

/-- What one event does to the settlement there is, and what it yields. -/
inductive SettlementMoved (relay relay' : SettlingRelay) : SettlingOutcome → Prop
  | other (hsame : relay'.settlement = relay.settlement) : SettlementMoved relay relay' .nothing
  | opened (settlement : RouteResetSettlement) (publicKey : Option Text)
      (hfree : relay.settlement = none)
      (hopened : relay'.settlement = some (.decided settlement publicKey))
      (hok : SettlementOk settlement relay'.state.db)
      (hpending : ∀ k ∈ settlement.packetIdsNeedingReset, ¬ ReachedStage 2 relay.state.db k) :
      SettlementMoved relay relay' .nothing
  | keyFound (settlement : RouteResetSettlement) (publicKey : Option Text)
      (hbefore : relay.settlement = some (.decided settlement publicKey))
      (hafter : relay'.settlement = some (.resetting settlement)) :
      SettlementMoved relay relay' .nothing
  | routeReset (settlement : RouteResetSettlement)
      (hbefore : relay.settlement = some (.resetting settlement))
      (hafter : relay'.settlement = some (.recording settlement)) :
      SettlementMoved relay relay' (.routeReset settlement.packetIdsNeedingReset)
  | recorded (settlement : RouteResetSettlement)
      (hbefore : relay.settlement = some (.recording settlement))
      (hafter : relay'.settlement = some (.recorded settlement))
      (hdecided : ∀ k ∈ settlement.packetIdsNeedingReset, ReachedStage 1 relay'.state.db k →
        ReachedStage 2 relay'.state.db k) :
      SettlementMoved relay relay' (.resetRecorded settlement.packetIdsNeedingReset)
  | queued (settlement : RouteResetSettlement) (packetIds : List ℕ)
      (hbefore : relay.settlement = some (.recorded settlement))
      (hafter : relay'.settlement = none)
      (hqueued : packetIds.Sublist
        (settlement.repliesToResend.map ReplyResendCandidate.packetId)) :
      SettlementMoved relay relay' (.repliesQueued packetIds)
  | lost (settlement : RouteResetSettlement)
      (hbefore : relay.settlement = some (.recording settlement))
      (hafter : relay'.settlement = none) : SettlementMoved relay relay' .resetNotRecorded
  | ended (hbefore : ∀ settlement, relay.settlement ≠ some (.recording settlement))
      (hafter : relay'.settlement = none) : SettlementMoved relay relay' .nothing
  | restarted (hafter : relay'.settlement = none)
      (hdecided : ∀ k, ReachedStage 1 relay'.state.db k → ReachedStage 2 relay'.state.db k) :
      SettlementMoved relay relay' .nothing

/-- **What an event does to the settlement.** -/
theorem settlingStep_moved (hashing : PasswordHashing) {relay : SettlingRelay}
    (event : SettlingEvent) (hdb : Consistent relay.state.db)
    (hok : PacketsOk relay.state.db.packets) :
    SettlementMoved relay (settlingStep hashing relay event).1
      (settlingStep hashing relay event).2 := by
  have hok' := (settlingStep_packetsFollow hashing event hdb).2.ok hok
  revert hok'
  unfold settlingStep
  split
  · exact fun _ => .other rfl
  · exact fun _ => .other rfl
  · exact fun _ => .other rfl
  · next settings contactId publicKey now hfree =>
      intro _
      obtain ⟨hsettlement, hpending⟩ :=
        settlePendingRouteResets_spec hdb hok settings contactId now
      dsimp only
      split
      · exact .opened _ publicKey hfree rfl hsettlement hpending
      · exact .ended (fun settlement => by simp [hfree]) rfl
  · next settlement publicKey hbefore =>
      intro _
      dsimp only
      split
      · exact .keyFound settlement publicKey hbefore rfl
      · exact .ended (fun settlement => by simp [hbefore]) rfl
  · next succeeded settlement hbefore =>
      intro _
      split
      · exact .routeReset settlement hbefore rfl
      · exact .ended (fun settlement => by simp [hbefore]) rfl
  · next now settlement hbefore =>
      intro hok'
      refine .recorded settlement hbefore rfl fun k hk hreached => hreached.decided hok' ?_
      rintro p hp rfl
      exact recordRouteResetPerformed_ne_pending p hp hk
  · next timing now settlement hbefore =>
      exact fun _ => .queued settlement _ hbefore rfl (queueFloodResends_sublist timing now _ _)
  · next settlement hbefore => exact fun _ => .lost settlement hbefore rfl
  · next hbefore => exact fun _ => .ended (fun settlement => by simp [hbefore]) rfl
  · next hbefore => exact fun _ => .ended (fun settlement => by simp [hbefore]) rfl
  · next now =>
      intro hok'
      refine .restarted rfl fun k hreached => hreached.decided hok' fun p hp _ => ?_
      exact recoverOutboundPacketsAtStartup_ne_pending p hp
  · exact fun _ => .other rfl

/-! ### Settlements stay apart -/

/-- The packets that were part of a reset, of a recorded one, and the replies sent again. -/
def resetLog (history : List (SettlingEvent × SettlingOutcome)) : List ℕ :=
  history.flatMap fun entry => entry.2.resetPackets

def recordedLog (history : List (SettlingEvent × SettlingOutcome)) : List ℕ :=
  history.flatMap fun entry => entry.2.recordedPackets

def resentLog (history : List (SettlingEvent × SettlingOutcome)) : List ℕ :=
  history.flatMap fun entry => entry.2.resentPackets

/-- What the settlements of a run leave behind. -/
structure SettlementsOk (history : List (SettlingEvent × SettlingOutcome)) (relay : SettlingRelay) :
    Prop where
  recordedOnce : (recordedLog history).Nodup
  recordedDecided : ∀ k ∈ recordedLog history, ReachedStage 2 relay.state.db k
  resentOnce : (resentLog history).Nodup
  resentRecorded : ∀ k ∈ resentLog history, k ∈ recordedLog history
  inProgress : ∀ phase, relay.settlement = some phase →
    SettlementOk phase.settlement relay.state.db
  /-- Before its reset is recorded the packets of a settlement were part of no recorded one. -/
  unrecorded : ∀ phase, relay.settlement = some phase →
    (∀ settlement, phase ≠ .recorded settlement) →
      ∀ k ∈ phase.settlement.packetIdsNeedingReset, k ∉ recordedLog history
  /-- After it, its replies are still to be queued. -/
  recorded : ∀ settlement, relay.settlement = some (.recorded settlement) →
    ∀ k ∈ settlement.packetIdsNeedingReset, k ∈ recordedLog history ∧ k ∉ resentLog history

/-- When every successful reset is recorded, or the process restarts, no packet is part of two. -/
structure ResetsOk (history : List (SettlingEvent × SettlingOutcome)) (relay : SettlingRelay) :
    Prop where
  resetOnce : (resetLog history).Nodup
  resetDecided : ∀ k ∈ resetLog history, ReachedStage 2 relay.state.db k ∨
    ∃ settlement, relay.settlement = some (.recording settlement) ∧
      k ∈ settlement.packetIdsNeedingReset
  unreset : ∀ phase, relay.settlement = some phase →
    (∀ settlement, phase ≠ .recorded settlement ∧ phase ≠ .recording settlement) →
      ∀ k ∈ phase.settlement.packetIdsNeedingReset, k ∉ resetLog history

section Settlements

variable {history : List (SettlingEvent × SettlingOutcome)} {relay relay' : SettlingRelay}
  {event : SettlingEvent} {outcome : SettlingOutcome}

@[simp] theorem resetLog_snoc : resetLog (history ++ [(event, outcome)]) =
    resetLog history ++ outcome.resetPackets := by simp [resetLog]

@[simp] theorem recordedLog_snoc : recordedLog (history ++ [(event, outcome)]) =
    recordedLog history ++ outcome.recordedPackets := by simp [recordedLog]

@[simp] theorem resentLog_snoc : resentLog (history ++ [(event, outcome)]) =
    resentLog history ++ outcome.resentPackets := by simp [resentLog]

theorem SettlementOk.follow {settlement : RouteResetSettlement} {db db' : Db}
    (h : SettlementOk settlement db) (hok : PacketsOk db.packets)
    (hfollow : PacketsFollow db.packets db'.packets) : SettlementOk settlement db' :=
  ⟨h.distinct, h.replies, fun k hk => (h.considered k hk).follow hok hfollow⟩

/-- An event that records nothing and sends nothing again. -/
theorem SettlementsOk.move (h : SettlementsOk history relay)
    (hok : PacketsOk relay.state.db.packets)
    (hfollow : PacketsFollow relay.state.db.packets relay'.state.db.packets)
    (hrecorded : outcome.recordedPackets = []) (hresent : outcome.resentPackets = [])
    (hprogress : ∀ phase, relay'.settlement = some phase →
      SettlementOk phase.settlement relay'.state.db)
    (hunrecorded : ∀ phase, relay'.settlement = some phase →
      (∀ settlement, phase ≠ .recorded settlement) →
        ∀ k ∈ phase.settlement.packetIdsNeedingReset, k ∉ recordedLog history)
    (hphase : ∀ settlement, relay'.settlement = some (.recorded settlement) →
      relay.settlement = some (.recorded settlement)) :
    SettlementsOk (history ++ [(event, outcome)]) relay' := by
  refine ⟨?_, ?_, ?_, ?_, hprogress, ?_, ?_⟩ <;>
    simp only [recordedLog_snoc, resentLog_snoc, hrecorded, hresent, List.append_nil]
  · exact h.recordedOnce
  · exact fun k hk => (h.recordedDecided k hk).follow hok hfollow
  · exact h.resentOnce
  · exact h.resentRecorded
  · exact hunrecorded
  · exact fun settlement hsettlement => h.recorded settlement (hphase settlement hsettlement)

/-- An event after which no settlement is in progress. -/
theorem SettlementsOk.ended (h : SettlementsOk history relay)
    (hok : PacketsOk relay.state.db.packets)
    (hfollow : PacketsFollow relay.state.db.packets relay'.state.db.packets)
    (hrecorded : outcome.recordedPackets = []) (hresent : outcome.resentPackets = [])
    (hafter : relay'.settlement = none) : SettlementsOk (history ++ [(event, outcome)]) relay' := by
  refine h.move hok hfollow hrecorded hresent ?_ ?_ ?_ <;> simp [hafter]

/-- **Settlements stay apart.** -/
theorem SettlementsOk.step (h : SettlementsOk history relay)
    (hok : PacketsOk relay.state.db.packets)
    (hfollow : PacketsFollow relay.state.db.packets relay'.state.db.packets)
    (hmoved : SettlementMoved relay relay' outcome) :
    SettlementsOk (history ++ [(event, outcome)]) relay' := by
  have hprogress : ∀ phase, relay.settlement = some phase →
      SettlementOk phase.settlement relay'.state.db := fun phase hphase =>
    (h.inProgress phase hphase).follow hok hfollow
  cases hmoved with
  | other hsame =>
      exact h.move hok hfollow rfl rfl (fun phase hphase => hprogress phase (hsame ▸ hphase))
        (fun phase hphase => h.unrecorded phase (hsame ▸ hphase))
        fun settlement hphase => hsame ▸ hphase
  | opened settlement publicKey hfree hopened hsettlement hpending =>
      refine h.move hok hfollow rfl rfl (fun phase hphase => ?_)
        (fun phase hphase _ k hk hmem => ?_) fun settlement hphase => ?_
      · obtain rfl := Option.some.inj (hopened.symm.trans hphase)
        exact hsettlement
      · obtain rfl := Option.some.inj (hopened.symm.trans hphase)
        exact hpending k hk (h.recordedDecided k hmem)
      · rw [hopened] at hphase
        cases hphase
  | keyFound settlement publicKey hbefore hafter =>
      refine h.move hok hfollow rfl rfl (fun phase hphase => ?_) (fun phase hphase _ => ?_)
        fun settlement hphase => ?_
      · obtain rfl := Option.some.inj (hafter.symm.trans hphase)
        exact hprogress (.decided settlement publicKey) hbefore
      · obtain rfl := Option.some.inj (hafter.symm.trans hphase)
        exact h.unrecorded (.decided settlement publicKey) hbefore (by simp)
      · rw [hafter] at hphase
        cases hphase
  | routeReset settlement hbefore hafter =>
      refine h.move hok hfollow rfl rfl (fun phase hphase => ?_) (fun phase hphase _ => ?_)
        fun settlement hphase => ?_
      · obtain rfl := Option.some.inj (hafter.symm.trans hphase)
        exact hprogress (.resetting settlement) hbefore
      · obtain rfl := Option.some.inj (hafter.symm.trans hphase)
        exact h.unrecorded (.resetting settlement) hbefore (by simp)
      · rw [hafter] at hphase
        cases hphase
  | recorded settlement hbefore hafter hnow =>
      have hsettlement := hprogress _ hbefore
      have hnew := h.unrecorded _ hbefore (by simp)
      have hafterOk : ∀ phase, relay'.settlement = some phase →
          SettlementOk phase.settlement relay'.state.db := by
        intro phase hphase
        obtain rfl := Option.some.inj (hafter.symm.trans hphase)
        exact hsettlement
      refine ⟨?_, ?_, ?_, ?_, hafterOk, fun phase hphase hnot => ?_, fun other hother => ?_⟩ <;>
        simp only [recordedLog_snoc, resentLog_snoc, SettlingOutcome.recordedPackets,
          SettlingOutcome.resentPackets, List.append_nil]
      · exact List.nodup_append'.2 ⟨h.recordedOnce, hsettlement.distinct,
          fun k hk hmem => hnew k hmem hk⟩
      · intro k hk
        rcases List.mem_append.1 hk with hk | hk
        · exact (h.recordedDecided k hk).follow hok hfollow
        · exact hnow k hk (hsettlement.considered k hk)
      · exact h.resentOnce
      · exact fun k hk => List.mem_append_left _ (h.resentRecorded k hk)
      · obtain rfl := Option.some.inj (hafter.symm.trans hphase)
        exact absurd rfl (hnot settlement)
      · obtain rfl := SettlementPhase.recorded.inj (Option.some.inj (hafter.symm.trans hother))
        exact fun k hk => ⟨List.mem_append_right _ hk,
          fun hmem => hnew k hk (h.resentRecorded k hmem)⟩
  | queued settlement packetIds hbefore hafter hqueued =>
      have hsettlement := hprogress _ hbefore
      have hold := h.recorded settlement hbefore
      have hsublist := hqueued.trans hsettlement.replies
      refine ⟨?_, ?_, ?_, ?_, by simp [hafter], fun phase hphase => ?_, fun other hother => ?_⟩ <;>
        simp only [recordedLog_snoc, resentLog_snoc, SettlingOutcome.recordedPackets,
          SettlingOutcome.resentPackets, List.append_nil]
      · exact h.recordedOnce
      · exact fun k hk => (h.recordedDecided k hk).follow hok hfollow
      · exact List.nodup_append'.2 ⟨h.resentOnce, hsublist.nodup hsettlement.distinct,
          fun k hk hmem => (hold k (hsublist.subset hmem)).2 hk⟩
      · intro k hk
        rcases List.mem_append.1 hk with hk | hk
        · exact h.resentRecorded k hk
        · exact (hold k (hsublist.subset hk)).1
      · simp [hafter] at hphase
      · simp [hafter] at hother
  | lost settlement hbefore hafter => exact h.ended hok hfollow rfl rfl hafter
  | ended hbefore hafter => exact h.ended hok hfollow rfl rfl hafter
  | restarted hafter hnow => exact h.ended hok hfollow rfl rfl hafter

/-- **Resets stay apart**, as long as each of them is recorded. -/
theorem ResetsOk.step (h : SettlementsOk history relay) (hresets : ResetsOk history relay)
    (hok : PacketsOk relay.state.db.packets)
    (hfollow : PacketsFollow relay.state.db.packets relay'.state.db.packets)
    (hmoved : SettlementMoved relay relay' outcome) (hkept : outcome ≠ .resetNotRecorded) :
    ResetsOk (history ++ [(event, outcome)]) relay' := by
  -- outside the recording phase every packet that was part of a reset is decided
  have hdecided : (∀ settlement, relay.settlement ≠ some (.recording settlement)) →
      ∀ k ∈ resetLog history, ReachedStage 2 relay.state.db k := by
    intro hphase k hk
    rcases hresets.resetDecided k hk with hreached | ⟨settlement, hrecording, -⟩
    · exact hreached
    · exact absurd hrecording (hphase settlement)
  have hconsidered : ∀ settlement, relay.settlement = some (.recording settlement) →
      ∀ k ∈ settlement.packetIdsNeedingReset, ReachedStage 1 relay'.state.db k :=
    fun settlement hphase k hk =>
      ((h.inProgress _ hphase).considered k hk).follow hok hfollow
  cases hmoved with
  | lost => exact absurd rfl hkept
  | other hsame =>
      refine ⟨?_, ?_, ?_⟩ <;>
        simp only [resetLog_snoc, SettlingOutcome.resetPackets, List.append_nil, hsame]
      · exact hresets.resetOnce
      · exact fun k hk => (hresets.resetDecided k hk).imp_left fun hreached =>
          hreached.follow hok hfollow
      · exact hresets.unreset
  | opened settlement publicKey hfree hopened hsettlement hpending =>
      have hall := hdecided (by simp [hfree])
      refine ⟨?_, ?_, fun phase hphase _ => ?_⟩ <;>
        simp only [resetLog_snoc, SettlingOutcome.resetPackets, List.append_nil]
      · exact hresets.resetOnce
      · exact fun k hk => Or.inl ((hall k hk).follow hok hfollow)
      · obtain rfl := Option.some.inj (hopened.symm.trans hphase)
        exact fun k hk hmem => hpending k hk (hall k hmem)
  | keyFound settlement publicKey hbefore hafter =>
      have hall := hdecided (by simp [hbefore])
      refine ⟨?_, ?_, fun phase hphase _ => ?_⟩ <;>
        simp only [resetLog_snoc, SettlingOutcome.resetPackets, List.append_nil]
      · exact hresets.resetOnce
      · exact fun k hk => Or.inl ((hall k hk).follow hok hfollow)
      · obtain rfl := Option.some.inj (hafter.symm.trans hphase)
        exact hresets.unreset (.decided settlement publicKey) hbefore (by simp)
  | routeReset settlement hbefore hafter =>
      have hall := hdecided (by simp [hbefore])
      have hnew := hresets.unreset _ hbefore (by simp)
      refine ⟨?_, ?_, fun phase hphase hnot => ?_⟩ <;>
        simp only [resetLog_snoc, SettlingOutcome.resetPackets]
      · exact List.nodup_append'.2 ⟨hresets.resetOnce, (h.inProgress _ hbefore).distinct,
          fun k hk hmem => hnew k hmem hk⟩
      · intro k hk
        rcases List.mem_append.1 hk with hk | hk
        · exact Or.inl ((hall k hk).follow hok hfollow)
        · exact Or.inr ⟨settlement, hafter, hk⟩
      · obtain rfl := Option.some.inj (hafter.symm.trans hphase)
        exact absurd rfl (hnot settlement).2
  | recorded settlement hbefore hafter hnow =>
      refine ⟨?_, fun k hk => Or.inl ?_, fun phase hphase hnot => ?_⟩ <;>
        simp only [resetLog_snoc, SettlingOutcome.resetPackets, List.append_nil] at *
      · exact hresets.resetOnce
      · rcases hresets.resetDecided k hk with hreached | ⟨other, hrecording, hmem⟩
        · exact hreached.follow hok hfollow
        · obtain rfl := SettlementPhase.recording.inj
            (Option.some.inj (hbefore.symm.trans hrecording))
          exact hnow k hmem (hconsidered settlement hbefore k hmem)
      · obtain rfl := Option.some.inj (hafter.symm.trans hphase)
        exact absurd rfl (hnot settlement).1
  | queued settlement packetIds hbefore hafter hqueued =>
      have hall := hdecided (by simp [hbefore])
      refine ⟨?_, ?_, fun phase hphase _ => ?_⟩ <;>
        simp only [resetLog_snoc, SettlingOutcome.resetPackets, List.append_nil]
      · exact hresets.resetOnce
      · exact fun k hk => Or.inl ((hall k hk).follow hok hfollow)
      · simp [hafter] at hphase
  | ended hbefore hafter =>
      have hall := hdecided hbefore
      refine ⟨?_, ?_, fun phase hphase _ => ?_⟩ <;>
        simp only [resetLog_snoc, SettlingOutcome.resetPackets, List.append_nil]
      · exact hresets.resetOnce
      · exact fun k hk => Or.inl ((hall k hk).follow hok hfollow)
      · simp [hafter] at hphase
  | restarted hafter hnow =>
      refine ⟨?_, fun k hk => Or.inl ?_, fun phase hphase _ => ?_⟩ <;>
        simp only [resetLog_snoc, SettlingOutcome.resetPackets, List.append_nil] at *
      · exact hresets.resetOnce
      · rcases hresets.resetDecided k hk with hreached | ⟨settlement, hrecording, hmem⟩
        · exact hreached.follow hok hfollow
        · exact hnow k (hconsidered settlement hrecording k hmem)
      · simp [hafter] at hphase

end Settlements

/-! ### Every packet goes one way -/

/-- The relay as its settlements see it, with the rows of one packet over time. -/
def loggingRelay (hashing : PasswordHashing) (k : ℕ) :
    Machine (SettlingRelay × List OutboundPacket) SettlingEvent SettlingOutcome :=
  (settlingRelay hashing).instrument [] (logPacket k)

/-- **The columns of every packet fit**, in every database the relay reaches. -/
theorem packetsOk_of_reachable {hashing : PasswordHashing} {relay : SettlingRelay}
    (h : (settlingRelay hashing).Reachable relay) : PacketsOk relay.state.db.packets := by
  obtain ⟨history, run⟩ := h
  have hboth := run.invariant'
    (P := fun relay => Consistent relay.state.db ∧ PacketsOk relay.state.db.packets)
    ⟨.empty, fun p hp => absurd hp (Table.not_mem_empty p)⟩ fun relay event ⟨hdb, hok⟩ => by
      obtain ⟨hdb', hfollow⟩ := settlingStep_packetsFollow hashing event hdb
      exact ⟨hdb', hfollow.ok hok⟩
  exact hboth.2

/-- What every run of it keeps. -/
structure LifeCycleOk (k : ℕ) (history : List (SettlingEvent × SettlingOutcome))
    (s : SettlingRelay × List OutboundPacket) : Prop where
  consistent : Consistent s.1.state.db
  packets : PacketsOk s.1.state.db.packets
  log : LogOk k s.2 s.1.state.db
  settlements : SettlementsOk history s.1
  resets : (∀ entry ∈ history, entry.2 ≠ .resetNotRecorded) → ResetsOk history s.1

theorem lifeCycleOk_of_run {hashing : PasswordHashing} {k : ℕ}
    {history : List (SettlingEvent × SettlingOutcome)} {s : SettlingRelay × List OutboundPacket}
    (run : (loggingRelay hashing k).Run ((settlingRelay hashing).init, []) history s) :
    LifeCycleOk k history s := by
  refine run.invariant (P := LifeCycleOk k) ?_ ?_
  · refine ⟨.empty, fun p hp => absurd hp (Table.not_mem_empty p), .nil k _,
      ⟨?_, ?_, ?_, ?_, ?_, ?_, ?_⟩, fun _ => ⟨?_, ?_, ?_⟩⟩ <;>
      simp [settlingRelay, recordedLog, resentLog, resetLog]
  · rintro before ⟨relay, log⟩ event - - h
    obtain ⟨hdb, hfollow⟩ := settlingStep_packetsFollow hashing event h.consistent
    have hmoved := settlingStep_moved hashing event h.consistent h.packets
    have hok := hfollow.ok h.packets
    refine ⟨hdb, hok, ?_, h.settlements.step h.packets hfollow hmoved, fun hkept => ?_⟩
    · have hlog := h.log.follow h.packets hfollow
      change LogOk k (logPacket k log relay event (settlingStep hashing relay event).1) _
      unfold logPacket
      split
      · next p hp => exact hlog.cons hok hp
      · exact hlog
    · refine (h.resets fun entry hentry => hkept entry (List.mem_append_left _ hentry)).step
        h.settlements h.packets hfollow hmoved ?_
      exact hkept _ (List.mem_append_right _ List.mem_cons_self)

/-- **Every packet goes one way.**  Whatever the order of outcomes, acknowledgements, deadlines,
settlements, teardowns and starts: a packet leaves `prepared` and `queued_on_node` once, its final
states are final, and the decision about its route is pending only after a deadline of a packet that
was sent direct, once, and never again.  A reset is recorded once for a packet and its reply is sent
again once; when each successful reset is recorded, unless the process ends, one reset is all it
gets. -/
theorem packet_life_cycle {hashing : PasswordHashing} {k : ℕ}
    {history : List (SettlingEvent × SettlingOutcome)} {relay : SettlingRelay}
    {log : List OutboundPacket}
    (run : (loggingRelay hashing k).Run ((settlingRelay hashing).init, []) history (relay, log)) :
    PassesOnce log ∧
      (∀ p ∈ relay.state.db.packets,
        (p.routeResetState = .pending →
          p.state = .acknowledgementTimedOut ∧ p.route = some .direct) ∧
        (p.state = .nodeAcknowledged → p.routeResetState ≠ .pending)) ∧
      (recordedLog history).Nodup ∧ (resentLog history).Nodup ∧
      ((∀ entry ∈ history, entry.2 ≠ .resetNotRecorded) → (resetLog history).Nodup) := by
  have h := lifeCycleOk_of_run run
  refine ⟨h.log.passesOnce, fun p hp => ⟨(h.packets p hp).pending, fun hstate hpending => ?_⟩,
    h.settlements.recordedOnce, h.settlements.resentOnce, fun hkept => (h.resets hkept).resetOnce⟩
  have htimedOut := ((h.packets p hp).pending hpending).1
  rw [hstate] at htimedOut
  cases htimedOut

/-- A reply to alice's device gets no acknowledgement in time, so her route is reset. -/
def sampleReset : List SettlingEvent :=
  (sampleInputs (sampleSignIns ++
    [.prepareReplyPacket 1 ['A'] "HT1 i 00000000 0 0".toList 1 (sampleTime 10),
      .recordSendOutcome 1 (.queuedOnNode .direct ['0', 'a'] 4000) (sampleTime 11),
      .recordAcknowledgementDeadlinePassed 1 (sampleTime 20)])).map SettlingEvent.transaction ++
  [.settleRouteResets sampleSettings 1 none (sampleTime 21), .readContactPublicKey,
    .resetPath true, .recordRouteResetPerformed (sampleTime 22), .queueFloodResends {} 22]

/-- Packet 1 was reset once and is sent again once. -/
theorem packet_life_cycle_sampleReset :
    let reached := (loggingRelay sampleHashing 1).exec ((settlingRelay sampleHashing).init, [])
      sampleReset
    resetLog reached.1 = [1] ∧ resentLog reached.1 = [1] ∧ PassesOnce reached.2.2 ∧
      (resetLog reached.1).Nodup := by
  have hrun := (loggingRelay sampleHashing 1).run_exec ((settlingRelay sampleHashing).init, [])
    sampleReset
  have h := packet_life_cycle hrun
  exact ⟨by decide +kernel, by decide +kernel, h.1, h.2.2.2.2 (by decide +kernel)⟩

end HoptalkRelay
