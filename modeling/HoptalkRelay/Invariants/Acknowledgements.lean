/-
**Every acknowledgement reaches its packet.**

The sender, the pushes of the node and the loop over the deadlines meet at the tracker, in any order
their awaits allow.  A push that comes between the moment the packet is given to the node and ten
minutes after the node queued it acknowledges the packet.

A push that comes before the node's answer is recorded, though, is looked up at once.  When another
packet has the same code then, that one is taken to be meant, and nothing is kept for the packet to
come.

Main definitions:

* `HoptalkRelay.IsTimelyPush` — the push of a packet's code, in time.

Main results:

* `HoptalkRelay.columnsSound_of_reachable` — every database the relay reaches is one to start from;
* `HoptalkRelay.acknowledged_of_timelyPush` — a timely push acknowledges its packet;
* `HoptalkRelay.acknowledgements_reach_their_packets` — **no acknowledgement is lost or
  misapplied**;
* `HoptalkRelay.not_acknowledgements_reach_their_packets` — but one before the answer of its packet
  is, when its code is that of another packet.
-/

import HoptalkRelay.Invariants.EarlyPushes
import HoptalkRelay.Invariants.RouteResets

set_option relaxedAutoImplicit false
set_option autoImplicit false

namespace HoptalkRelay

open Relational Transition AcknowledgingRelay

/-! ### The pushes of a run -/

/-- In every database the relay reaches, only a packet the node queued has a time at which it did. -/
theorem columnsSound_of_reachable {hashing : PasswordHashing} {relay : SettlingRelay}
    (h : (settlingRelay hashing).Reachable relay) : ColumnsSound relay.state.db := by
  intro packetId p hp
  obtain ⟨packet, hpacket, rfl⟩ := Option.map_eq_some_iff.1 hp
  exact (packetsOk_of_reachable h packet (Table.mem_of_get? hpacket)).queued

section Claims

variable {relay final : AcknowledgingRelay} {db : Db} {now : Time} {packet : OutboundPacket}
  {acknowledgement : NodeAcknowledgement} {packetId : ℕ}
  {before after history : List (AcknowledgingEvent × RegisteredPacket)}

/-- The node was given the packet. -/
def AcknowledgingRelay.HasHanded (relay : AcknowledgingRelay) (packetId : ℕ) : Prop :=
  relay.sender = .handed packetId ∨ relay.sender = .recording packetId ∨
    ∃ p, relay.db.acknowledgementColumns packetId = some p ∧ p.state ≠ .prepared

/-- The push of the packet's code comes after the packet was handed to the node, and not later than
ten minutes after it was queued; when it comes before the node's answer, the packet is registered
within a minute. -/
structure IsTimelyPush (relay : AcknowledgingRelay) (acknowledgement : NodeAcknowledgement)
    (after : List (AcknowledgingEvent × RegisteredPacket)) (packet : OutboundPacket) : Prop where
  lowerCase : acknowledgement.code.map Char.toLower = acknowledgement.code
  code : packet.expectedAcknowledgementCode = acknowledgement.code
  handed : relay.HasHanded packet.id
  queued : ∃ queuedAt, packet.queuedAt = some queuedAt ∧
    relay.now ≤ queuedAt + durationOfMinutes lateAcknowledgementMatchMinutes
  registered : relay.sender = .handed packet.id → ∀ event registeredAt,
    (event, some (packet.id, registeredAt)) ∈ after → registeredAt - relay.now < 60000000

theorem acknowledgingOk_of_run {timing : WorkerTiming} (hok : AcknowledgingOk relay)
    (run : (acknowledgingRelay timing db now).Run relay history final) : AcknowledgingOk final :=
  run.invariant' hok fun u i hu => hu.step (acknowledgingStep_move timing u i)

/-- A packet whose answer is being recorded. -/
theorem answering_of_recording (hok : AcknowledgingOk relay)
    (hsender : relay.sender = .recording packetId) :
    (∃ p, relay.db.acknowledgementColumns packetId = some p ∧ p.state ≠ .prepared) ∨
      ∃ settings outcome answeredAt,
        .recordSendOutcome settings packetId outcome answeredAt ∈ relay.jobs := by
  have hcalls : countCalls relay.jobs relay.finished .sender = 1 :=
    hok.sender.calls.trans (congrArg SendPhase.calls hsender)
  by_cases hjobs : relay.jobs.countP (fun job => job.caller = .sender) = 0
  · have hfinished : 0 < relay.finished.countP fun finishedJob => finishedJob.caller = .sender := by
      unfold countCalls at hcalls
      omega
    obtain ⟨finishedJob, hmem, hcaller⟩ := List.countP_pos_iff.1 hfinished
    have hresumes := hok.sender.resumes finishedJob hmem (of_decide_eq_true hcaller)
    cases finishedJob with
    | sendOutcome recorded =>
        obtain ⟨recordedOutcome, rfl, hphase⟩ := hresumes
        obtain ⟨p, hp, hanswered, -⟩ := hok.answers recordedOutcome hmem
        rw [hsender] at hphase
        exact Or.inl ⟨p, (SendPhase.recording.inj hphase) ▸ hp, hanswered⟩
    | nodeAcknowledgement isEarly other acknowledgedPackets =>
        have hphase : relay.sender = .acknowledging := hresumes
        rw [hsender] at hphase
        cases hphase
    | deadlinePassed k timeout => cases of_decide_eq_true hcaller
  · obtain ⟨job, hmem, hcaller⟩ := List.countP_pos_iff.1 (Nat.pos_of_ne_zero hjobs)
    have hawaits := hok.sender.awaits job hmem (of_decide_eq_true hcaller)
    cases job with
    | recordSendOutcome settings k outcome answeredAt =>
        obtain ⟨hphase, -⟩ := hawaits
        rw [hsender] at hphase
        obtain rfl := SendPhase.recording.inj hphase
        exact Or.inr ⟨settings, outcome, answeredAt, hmem⟩
    | recordNodeAcknowledgement isEarly other answeredAt =>
        have hphase : relay.sender = .acknowledging := hawaits
        rw [hsender] at hphase
        cases hphase
    | recordAcknowledgementDeadlinePassed k answeredAt => cases of_decide_eq_true hcaller

/-- A push that comes before the answer, and matches nothing. -/
theorem isEarly_pushed {timing : WorkerTiming} (hok : AcknowledgingOk relay)
    (hsender : relay.sender = .handed packetId)
    (hnone : (recordNodeAcknowledgement relay.db acknowledgement.code
      acknowledgement.roundTripMilliseconds relay.now).2 = []) :
    IsEarly timing packetId acknowledgement relay.now
      { relay with
        jobs := relay.jobs ++ [.recordNodeAcknowledgement false acknowledgement relay.now] } := by
  have hnobody := hok.sender.nobody (congrArg SendPhase.calls hsender)
  have hjobs : ∀ job ∈ relay.jobs, job.isAnswer = false :=
    fun job hmem => isAnswer_of_caller (hnobody.1 job hmem)
  obtain ⟨p, hp, hprepared⟩ := hok.sender.handed packetId hsender
  refine ⟨Or.inl hsender, le_rfl, fun settings k outcome answeredAt hmem => ?_,
    fun q queuedAt hq hqueued => ?_, ?_⟩
  · rcases List.mem_append.1 hmem with hmem | hmem
    · have hno := hjobs _ hmem
      cases hno
    · cases List.mem_singleton.1 hmem
  · obtain rfl := Option.some.inj (hp.symm.trans hq)
    have hstates := hok.sound packetId p hp (by simp [hqueued])
    simp [hprepared, packetStatesAwaitingAcknowledgement] at hstates
  · refine .submitted relay.jobs [] rfl hjobs (fun finishedJob hmem => ?_) fun k q hq => ?_
    · have hcaller := hnobody.2 finishedJob hmem
      cases finishedJob with
      | sendOutcome recorded => exact absurd rfl hcaller
      | nodeAcknowledgement isEarly other acknowledgedPackets => rfl
      | deadlinePassed k timeout => rfl
    · refine Bool.eq_false_iff.2 fun hmatch => ?_
      obtain ⟨acknowledged, hmem, -⟩ :=
        (mem_acknowledged_iff acknowledgement.roundTripMilliseconds).2 ⟨q, hq, hmatch⟩
      rw [hnone] at hmem
      cases hmem

/-- **A timely push acknowledges its packet.** -/
theorem acknowledged_of_timelyPush (hok : AcknowledgingOk relay)
    (run : (acknowledgingRelay {} db now).Run relay
      ((.acknowledgementPushed acknowledgement, none) :: after) final)
    (hanswered : final.IsAnswered) (hpacket : packet ∈ final.db.packets)
    (htimely : IsTimelyPush relay acknowledgement after packet)
    (hnone : relay.sender = .handed packet.id → (recordNodeAcknowledgement relay.db
      acknowledgement.code acknowledgement.roundTripMilliseconds relay.now).2 = []) :
    packet.state = .nodeAcknowledged := by
  obtain ⟨queuedAt, hqueued, hlate⟩ := htimely.queued
  obtain ⟨-, hrest⟩ := run.cons_inv
  have hfinal : final.db.acknowledgementColumns packet.id = some packet.acknowledgementColumns :=
    Option.map_eq_some_iff.2 ⟨packet, Table.get?_key hpacket, rfl⟩
  have hwill : ∀ {u : AcknowledgingRelay} {h₂ : List (AcknowledgingEvent × RegisteredPacket)},
      AcknowledgingOk u → (acknowledgingRelay {} db now).Run u h₂ final →
      WillBeQueued packet.id acknowledgement.code queuedAt u := by
    intro u h₂ hu hrun p hp hne
    obtain ⟨hcode, htime⟩ := answered_of_run hrun hu hp hne hfinal
    exact ⟨hcode.symm.trans htimely.code, htime.symm.trans hqueued⟩
  have hpushed : AcknowledgingOk
      { relay with
        jobs := relay.jobs ++ [.recordNodeAcknowledgement false acknowledgement relay.now] } :=
    @AcknowledgingOk.step {} _ _ _ _ hok (.pushed acknowledgement)
  have hstart : relay.sender = .handed packet.id ∧ IsEarly {} packet.id acknowledgement relay.now
        { relay with
          jobs := relay.jobs ++ [.recordNodeAcknowledgement false acknowledgement relay.now] } ∨
      IsMatched packet.id acknowledgement.code queuedAt
        { relay with
          jobs := relay.jobs ++ [.recordNodeAcknowledgement false acknowledgement relay.now] } := by
    have hmatched : ((∃ p, relay.db.acknowledgementColumns packet.id = some p ∧
          p.state ≠ .prepared) ∨
        ∃ settings outcome answeredAt,
          .recordSendOutcome settings packet.id outcome answeredAt ∈ relay.jobs) →
        IsMatched packet.id acknowledgement.code queuedAt
          { relay with
            jobs :=
              relay.jobs ++ [.recordNodeAcknowledgement false acknowledgement relay.now] } :=
      fun hthere => Or.inr ⟨relay.jobs, false, acknowledgement, relay.now, [], rfl,
        htimely.lowerCase, by linarith, hthere⟩
    rcases htimely.handed with hsender | hsender | hthere
    · exact Or.inl ⟨hsender, isEarly_pushed hok hsender (hnone hsender)⟩
    · exact Or.inr (hmatched (answering_of_recording hok hsender))
    · exact Or.inr (hmatched (Or.inl hthere))
  obtain ⟨hend, harrived⟩ := hrest.invariantTowards
    (P := fun u => AcknowledgingOk u ∧
      (relay.sender = .handed packet.id ∧ IsEarly {} packet.id acknowledgement relay.now u ∨
        IsMatched packet.id acknowledgement.code queuedAt u))
    ⟨hpushed, hstart⟩ fun u i h₂ hmem hrun ⟨hu, hwhere⟩ => by
      have hmove := acknowledgingStep_move {} u i
      have hu' := hu.step hmove
      refine ⟨hu', ?_⟩
      rcases hwhere with ⟨hsender, hearly⟩ | hmatched
      · refine (hearly.step hu htimely.lowerCase (by norm_num) hmove (fun registeredAt hsome => ?_)
          (hwill hu' hrun)).imp_left fun h => ⟨hsender, h⟩
        have hyoung := htimely.registered hsender i registeredAt (hsome ▸ hmem)
        have hcast : (registeredAt : ℚ) - relay.now < 60000000 := by exact_mod_cast hyoung
        change (registeredAt : ℚ) / 1000000 - (relay.now : ℚ) / 1000000 < 60
        linarith
      · exact Or.inr (hmatched.step hu hmove (hwill hu' hrun))
  obtain ⟨hjobs, hfinished⟩ := hanswered
  rcases harrived with ⟨-, hearly⟩ | ⟨p, hp, hacknowledged⟩ |
    ⟨before, isEarly, other, time, after, hsplit, -⟩
  · rcases hearly.sender with hsender | hsender
    · obtain ⟨p, hp, hprepared⟩ := hend.sender.handed packet.id hsender
      obtain rfl := Option.some.inj (hfinal.symm.trans hp)
      have hstates := hend.sound packet.id _ hfinal (by
        simp [OutboundPacket.acknowledgementColumns, hqueued])
      simp [hprepared, packetStatesAwaitingAcknowledgement] at hstates
    · have hcalls := hend.sender.calls
      rw [AcknowledgingRelay.calls, hjobs, hfinished, hsender] at hcalls
      cases hcalls
  · obtain rfl := Option.some.inj (hfinal.symm.trans hp)
    exact hacknowledged
  · rw [hjobs] at hsplit
    simp at hsplit

/-- **No acknowledgement is lost or misapplied.**  A timely push acknowledges its packet and ends
the wait for it, as long as an early one matches no other packet; nothing but a push of its code
acknowledges a packet; and when nothing happens any more, every awaited packet is queued and its
deadline is still ahead. -/
theorem acknowledgements_reach_their_packets (hsound : ColumnsSound db) (now : Time) :
    (∀ before acknowledgement after relay final,
      (acknowledgingRelay {} db now).Run (.start db now) before relay →
      (acknowledgingRelay {} db now).Run relay
        ((.acknowledgementPushed acknowledgement, none) :: after) final →
      final.IsAnswered → ∀ packet ∈ final.db.packets,
        IsTimelyPush relay acknowledgement after packet →
        (relay.sender = .handed packet.id → (recordNodeAcknowledgement relay.db
          acknowledgement.code acknowledgement.roundTripMilliseconds relay.now).2 = []) →
          packet.state = .nodeAcknowledged ∧
            final.tracker.awaitedPackets.lookup packet.id = none) ∧
      ∀ history final, (acknowledgingRelay {} db now).Run (.start db now) history final →
        (∀ packet ∈ final.db.packets, packet.state = .nodeAcknowledged →
          (∃ old ∈ db.packets, old.id = packet.id ∧ old.state = .nodeAcknowledged) ∨
            ∃ acknowledgement registered,
              (.acknowledgementPushed acknowledgement, registered) ∈ history ∧
                packet.expectedAcknowledgementCode = acknowledgement.code.map Char.toLower) ∧
          (final.IsQuiescent → ∀ packetId awaited,
            final.tracker.awaitedPackets.lookup packetId = some awaited →
              final.now < awaited.deadline ∧ ∃ packet ∈ final.db.packets, packet.id = packetId ∧
                packet.state = .queuedOnNode ∧
                packet.acknowledgementDeadlineAt = some awaited.deadline) := by
  have hstart := acknowledgingOk_start hsound now
  have hfound : ∀ {db : Db} {packetId : ℕ} {p : AcknowledgementColumns},
      db.acknowledgementColumns packetId = some p → ∃ packet ∈ db.packets,
        packet.id = packetId ∧ packet.acknowledgementColumns = p := by
    intro db packetId p hp
    obtain ⟨packet, hpacket, hcolumns⟩ := Option.map_eq_some_iff.1 hp
    exact ⟨packet, Table.mem_of_get? hpacket, Table.key_of_get? hpacket, hcolumns⟩
  have hcolumns : ∀ {db : Db} {packet : OutboundPacket}, packet ∈ db.packets →
      db.acknowledgementColumns packet.id = some packet.acknowledgementColumns :=
    fun hpacket => Option.map_eq_some_iff.2 ⟨_, Table.get?_key hpacket, rfl⟩
  refine ⟨fun before acknowledgement after relay final hbefore hafter hanswered packet hpacket
    htimely hnone => ?_, fun history final run => ⟨fun packet hpacket hstate => ?_,
    fun hquiescent packetId awaited hlookup => ?_⟩⟩
  · have hok := acknowledgingOk_of_run hstart hbefore
    have hacknowledged :=
      acknowledged_of_timelyPush hok hafter hanswered hpacket htimely hnone
    refine ⟨hacknowledged, Option.eq_none_iff_forall_ne_some.2 fun awaited hlookup => ?_⟩
    rcases (acknowledgingOk_of_run hok hafter).awaited.awaited packet.id awaited hlookup with
      ⟨p, hp, hqueued, -⟩ | ⟨finishedJob, hmem, -⟩
    · obtain rfl := Option.some.inj ((hcolumns hpacket).symm.trans hp)
      have hcontradiction : packet.state = .queuedOnNode := hqueued
      rw [hacknowledged] at hcontradiction
      cases hcontradiction
    · rw [hanswered.2] at hmem
      cases hmem
  · have hpushes : PushesOk db history final := by
      have hboth := run.invariant (P := fun h u => AcknowledgingOk u ∧ PushesOk db h u)
        ⟨hstart, pushesOk_start db now⟩ fun h u i _ _ ⟨hok, hpushes⟩ => by
          have hmove := acknowledgingStep_move {} u i
          exact ⟨hok.step hmove, hpushes.step hok.sender hmove⟩
      exact hboth.2
    rcases hpushes.acknowledged packet.id _ (hcolumns hpacket) hstate with ⟨q, hq, hbefore⟩ |
      ⟨code, ⟨acknowledgement, registered, hmem, rfl⟩, hcode⟩
    · obtain ⟨old, hold, hid, rfl⟩ := hfound hq
      exact Or.inl ⟨old, hold, hid, hbefore⟩
    · exact Or.inr ⟨acknowledgement, registered, hmem, hcode⟩
  · have hok := acknowledgingOk_of_run hstart run
    obtain ⟨hahead, p, hp, hqueued, hdeadline⟩ :=
      awaited_of_quiescent hok.awaited hok.loop hquiescent hlookup
    obtain ⟨packet, hpacket, hid, rfl⟩ := hfound hp
    exact ⟨hahead, packet, hpacket, hid, hqueued, hdeadline⟩

end Claims

/-! ### Two replies to alice's device -/

/-- Two replies to alice's device are prepared. -/
def sampleReplies : List SettlingEvent :=
  (sampleInputs (sampleSignIns ++
    [.prepareReplyPacket 1 ['A'] "HT1 i 00000000 0 0".toList 1 (sampleTime 10),
      .prepareReplyPacket 1 ['B'] "HT1 i 00000001 0 0".toList 1 (sampleTime 10)])).map
    SettlingEvent.transaction

def sampleRepliesDb : Db :=
  ((settlingRelay sampleHashing).exec (settlingRelay sampleHashing).init sampleReplies).2.state.db

theorem columnsSound_sampleRepliesDb : ColumnsSound sampleRepliesDb :=
  columnsSound_of_reachable ⟨_, (settlingRelay sampleHashing).run_exec _ sampleReplies⟩

/-- What the node pushes for a packet with this code, which both packets get. -/
def samplePush : NodeAcknowledgement := ⟨['a'], none⟩

/-- The node's answer is recorded, and the sender goes on. -/
def sampleAnswer : List AcknowledgingEvent :=
  [.packetAnswered sampleSettings (.queuedOnNode .direct ['a'] 1000), .jobRuns,
    .callerContinues true]

/-- The worker after these events. -/
def sampleWorker (events : List AcknowledgingEvent) :
    List (AcknowledgingEvent × RegisteredPacket) × AcknowledgingRelay :=
  (acknowledgingRelay {} sampleRepliesDb (sampleTime 11)).exec
    (.start sampleRepliesDb (sampleTime 11)) events

/-- The code is pushed at this moment. -/
def samplePushed (before after : List AcknowledgingEvent) :
    List (AcknowledgingEvent × RegisteredPacket) × AcknowledgingRelay :=
  (acknowledgingRelay {} sampleRepliesDb (sampleTime 11)).exec
    (acknowledgingStep {} (sampleWorker before).2 (.acknowledgementPushed samplePush)).1 after

theorem run_sampleWorker (before : List AcknowledgingEvent) :
    (acknowledgingRelay {} sampleRepliesDb (sampleTime 11)).Run
      (.start sampleRepliesDb (sampleTime 11)) (sampleWorker before).1 (sampleWorker before).2 :=
  Machine.run_exec _ _ before

theorem run_samplePushed (before after : List AcknowledgingEvent) :
    (acknowledgingRelay {} sampleRepliesDb (sampleTime 11)).Run (sampleWorker before).2
      ((.acknowledgementPushed samplePush, none) :: (samplePushed before after).1)
      (samplePushed before after).2 :=
  (Machine.Run.single _ _).append (Machine.run_exec _ _ after)

/-- The code is pushed before the answer is recorded, and kept for 59 seconds. -/
def sampleEarly : List AcknowledgingEvent :=
  [.jobRuns, .callerContinues true, .timePasses 59000000] ++ sampleAnswer ++
    [.jobRuns, .callerContinues true, .deadlineLoopWakes]

theorem acknowledgements_reach_their_packets_sampleEarly :
    ∃ packet ∈ (samplePushed [.packetHanded 1] sampleEarly).2.db.packets,
      packet.id = 1 ∧ packet.state = .nodeAcknowledged := by
  obtain ⟨packet, hpacket, hid, hcode, hqueued⟩ :
      ∃ packet ∈ (samplePushed [.packetHanded 1] sampleEarly).2.db.packets.rows, packet.id = 1 ∧
        packet.expectedAcknowledgementCode = ['a'] ∧ packet.queuedAt = some (sampleTime 70) := by
    decide +kernel
  have hregistered : ∀ registered ∈ (samplePushed [.packetHanded 1] sampleEarly).1.map Prod.snd,
      (registered.all fun packet => packet.2 - sampleTime 11 < 60000000) = true := by
    decide +kernel
  have hsender : (sampleWorker [.packetHanded 1]).2.sender = .handed 1 := by decide +kernel
  have hnow : (sampleWorker [.packetHanded 1]).2.now = sampleTime 11 := by decide +kernel
  refine ⟨packet, hpacket, hid, ?_⟩
  refine ((acknowledgements_reach_their_packets columnsSound_sampleRepliesDb (sampleTime 11)).1
    _ samplePush _ _ _ (run_sampleWorker [.packetHanded 1])
    (run_samplePushed [.packetHanded 1] sampleEarly) ?_ packet hpacket
    ⟨by decide, hcode, Or.inl (hid ▸ hsender), ⟨_, hqueued, ?_⟩, fun _ event time hmem => ?_⟩
    fun _ => ?_).1
  · exact ⟨List.isEmpty_iff.1 (by decide +kernel), List.isEmpty_iff.1 (by decide +kernel)⟩
  · rw [hnow]
    decide
  · rw [hnow]
    simpa using hregistered _ (List.mem_map_of_mem hmem)
  · exact List.isEmpty_iff.1 (by decide +kernel)

/-- The first reply got its code, and the second is with the node. -/
def sampleSecondHanded : List AcknowledgingEvent :=
  .packetHanded 1 :: sampleAnswer ++ [.packetHanded 2]

/-- The push is looked up before the second reply's answer is recorded. -/
def sampleTaken : List AcknowledgingEvent :=
  [.jobRuns, .callerContinues true] ++ sampleAnswer ++ [.deadlineLoopWakes]

/-- The push of the second reply's code acknowledges the first one, which has the same. -/
theorem not_acknowledgements_reach_their_packets :
    ¬ ∀ db, ColumnsSound db → ∀ now before acknowledgement after relay final,
      (acknowledgingRelay {} db now).Run (.start db now) before relay →
      (acknowledgingRelay {} db now).Run relay
        ((.acknowledgementPushed acknowledgement, none) :: after) final →
      final.IsAnswered → ∀ packet ∈ final.db.packets,
        IsTimelyPush relay acknowledgement after packet → packet.state = .nodeAcknowledged := by
  intro h
  obtain ⟨packet, hpacket, hid, hcode, hqueued, hstate⟩ :
      ∃ packet ∈ (samplePushed sampleSecondHanded sampleTaken).2.db.packets.rows, packet.id = 2 ∧
        packet.expectedAcknowledgementCode = ['a'] ∧ packet.queuedAt = some (sampleTime 11) ∧
          packet.state = .queuedOnNode := by
    decide +kernel
  have hregistered : ∀ registered ∈ (samplePushed sampleSecondHanded sampleTaken).1.map Prod.snd,
      (registered.all fun packet => packet.2 - sampleTime 11 < 60000000) = true := by
    decide +kernel
  have hsender : (sampleWorker sampleSecondHanded).2.sender = .handed 2 := by decide +kernel
  have hnow : (sampleWorker sampleSecondHanded).2.now = sampleTime 11 := by decide +kernel
  have hacknowledged := h sampleRepliesDb columnsSound_sampleRepliesDb (sampleTime 11)
    _ samplePush _ _ _ (run_sampleWorker sampleSecondHanded)
    (run_samplePushed sampleSecondHanded sampleTaken)
    ⟨List.isEmpty_iff.1 (by decide +kernel), List.isEmpty_iff.1 (by decide +kernel)⟩ packet hpacket
    ⟨by decide, hcode, Or.inl (hid ▸ hsender), ⟨_, hqueued, by rw [hnow]; decide⟩,
      fun _ event time hmem => by
        rw [hnow]
        simpa using hregistered _ (List.mem_map_of_mem hmem)⟩
  rw [hstate] at hacknowledged
  cases hacknowledged

end HoptalkRelay
