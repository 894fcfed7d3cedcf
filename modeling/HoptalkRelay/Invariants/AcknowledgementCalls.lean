/-
**What the callers of the database thread keep.**

A step of the relay around the acknowledgement tracker is one of a few moves.  Along them the
columns of a packet only go forward, and the sender waits for the one call it made.

Main definitions:

* `HoptalkRelay.ColumnsMove` — the columns later;
* `HoptalkRelay.CallerContinued`, `HoptalkRelay.AcknowledgingMove` — what a step can do;
* `HoptalkRelay.SenderOk` — what the sender waits for.

Main results:

* `HoptalkRelay.acknowledgingStep_move` — **a step is one of these moves**;
* `HoptalkRelay.columnsMove_run`, `HoptalkRelay.queued_or_releases` — a call of the database;
* `HoptalkRelay.SenderOk.step` — every step keeps what the sender waits for.
-/

import HoptalkRelay.AcknowledgingRelay

set_option relaxedAutoImplicit false
set_option autoImplicit false

namespace HoptalkRelay

open Relational Transition

/-! ### The columns later -/

section Columns

variable {a b : ℕ → Option AcknowledgementColumns} {p q r : AcknowledgementColumns}

/-- The columns of the same packet later: an answered packet keeps what its code is matched by. -/
structure LaterAnswer (p q : AcknowledgementColumns) : Prop where
  answered : p.state ≠ .prepared → q.state ≠ .prepared
  code : p.state ≠ .prepared → q.expectedAcknowledgementCode = p.expectedAcknowledgementCode
  queuedAt : p.state ≠ .prepared → q.queuedAt = p.queuedAt
  acknowledged : p.state = .nodeAcknowledged → q.state = .nodeAcknowledged
  sound : p.IsSound → q.IsSound

theorem LaterAnswer.refl (p : AcknowledgementColumns) : LaterAnswer p p :=
  ⟨fun h => h, fun _ => rfl, fun _ => rfl, fun h => h, fun h => h⟩

theorem LaterAnswer.trans (h : LaterAnswer p q) (h' : LaterAnswer q r) : LaterAnswer p r :=
  ⟨fun hp => h'.answered (h.answered hp),
    fun hp => (h'.code (h.answered hp)).trans (h.code hp),
    fun hp => (h'.queuedAt (h.answered hp)).trans (h.queuedAt hp),
    fun hp => h'.acknowledged (h.acknowledged hp), fun hp => h'.sound (h.sound hp)⟩

theorem ne_prepared_of_isMatchedBy {code : Text} {now : Time} (h : p.isMatchedBy code now = true) :
    p.state ≠ .prepared := by
  intro hprepared
  simp [AcknowledgementColumns.isMatchedBy, hprepared, packetStatesAwaitingAcknowledgement] at h

theorem laterAnswer_acknowledge (code : Text) (now : Time) (p : AcknowledgementColumns) :
    LaterAnswer p (p.acknowledge code now) := by
  unfold AcknowledgementColumns.acknowledge
  split
  · exact ⟨fun _ => by simp, fun _ => rfl, fun _ => rfl, fun _ => rfl, fun _ _ => Or.inr rfl⟩
  · exact .refl p

theorem laterAnswer_passDeadline (p : AcknowledgementColumns) : LaterAnswer p p.passDeadline := by
  unfold AcknowledgementColumns.passDeadline
  split
  · next hqueued =>
      refine ⟨fun _ => by simp, fun _ => rfl, fun _ => rfl, fun hacknowledged => ?_,
        fun _ _ => Or.inl (by simp [packetStatesAwaitingAcknowledgement])⟩
      rw [hqueued] at hacknowledged
      cases hacknowledged
  · exact .refl p

theorem laterAnswer_answer (settings : RelaySettings) (outcome : NodeSendOutcome) (now : Time)
    (hprepared : p.state = .prepared) : LaterAnswer p (p.answer settings outcome now) := by
  refine ⟨fun h => absurd hprepared h, fun h => absurd hprepared h, fun h => absurd hprepared h,
    fun hacknowledged => ?_, fun hsound => ?_⟩
  · rw [hprepared] at hacknowledged
    cases hacknowledged
  have hnone : p.queuedAt = none := by
    by_contra hqueued
    have hstates := hsound hqueued
    simp [hprepared, packetStatesAwaitingAcknowledgement] at hstates
  cases outcome with
  | queuedOnNode _ _ _ => exact fun _ => Or.inl (by
      simp [AcknowledgementColumns.answer, packetStatesAwaitingAcknowledgement])
  | rejectedByNode _ => exact fun hqueued => absurd hnone hqueued
  | outcomeUnknown => exact fun hqueued => absurd hnone hqueued

/-- Every packet's columns are later ones, and a new packet is a prepared one. -/
structure ColumnsMove (a b : ℕ → Option AcknowledgementColumns) : Prop where
  kept : ∀ k p, a k = some p → ∃ q, b k = some q ∧ LaterAnswer p q
  origin : ∀ k q, b k = some q →
    (∃ p, a k = some p ∧ LaterAnswer p q) ∨ q.state = .prepared ∧ q.queuedAt = none

theorem ColumnsMove.refl (a : ℕ → Option AcknowledgementColumns) : ColumnsMove a a :=
  ⟨fun _ p h => ⟨p, h, .refl p⟩, fun _ q h => Or.inl ⟨q, h, .refl q⟩⟩

/-- A change packet by packet. -/
theorem ColumnsMove.of_map {g : ℕ → AcknowledgementColumns → AcknowledgementColumns}
    (hmap : ∀ k, b k = (a k).map (g k)) (hlater : ∀ k p, a k = some p → LaterAnswer p (g k p)) :
    ColumnsMove a b := by
  refine ⟨fun k p hp => ⟨g k p, ?_, hlater k p hp⟩, fun k q hq => Or.inl ?_⟩
  · rw [hmap, hp, Option.map_some]
  · rw [hmap] at hq
    obtain ⟨p, hp, rfl⟩ := Option.map_eq_some_iff.1 hq
    exact ⟨p, hp, hlater k p hp⟩

end Columns

/-! ### The calls of the database -/

section Calls

variable {db db' : Db} {k : ℕ} {p q : AcknowledgementColumns} {job : DatabaseJob}

/-- Any other transaction, packet by packet. -/
theorem KeepsAcknowledgements.columns (h : KeepsAcknowledgements db.packets db'.packets)
    (hp : db.acknowledgementColumns k = some p) : db'.acknowledgementColumns k = some p := by
  obtain ⟨packet, hpacket, rfl⟩ := Option.map_eq_some_iff.1 hp
  obtain ⟨later, hlater, hsame⟩ := h.1 packet (Table.mem_of_get? hpacket)
  have hid : later.id = k :=
    (congrArg AcknowledgementColumns.packetId hsame).trans (Table.key_of_get? hpacket)
  refine Option.map_eq_some_iff.2 ⟨later, ?_, hsame⟩
  exact hid ▸ Table.get?_key hlater

theorem KeepsAcknowledgements.origin (h : KeepsAcknowledgements db.packets db'.packets)
    (hq : db'.acknowledgementColumns k = some q) :
    db.acknowledgementColumns k = some q ∨ q.state = .prepared ∧ q.queuedAt = none := by
  obtain ⟨later, hlater, rfl⟩ := Option.map_eq_some_iff.1 hq
  rcases h.2 later (Table.mem_of_get? hlater) with hnew | ⟨packet, hpacket, hsame⟩
  · exact Or.inr hnew
  · have hid : packet.id = k :=
      (congrArg AcknowledgementColumns.packetId hsame).symm.trans (Table.key_of_get? hlater)
    refine Or.inl (Option.map_eq_some_iff.2 ⟨packet, ?_, hsame.symm⟩)
    exact hid ▸ Table.get?_key hpacket

theorem KeepsAcknowledgements.columnsMove (h : KeepsAcknowledgements db.packets db'.packets) :
    ColumnsMove db.acknowledgementColumns db'.acknowledgementColumns :=
  ⟨fun _ p hp => ⟨p, h.columns hp, .refl p⟩,
    fun _ q hq => (h.origin hq).imp_left fun hp => ⟨q, hp, .refl q⟩⟩

/-- The packet of a send is still prepared when its answer is recorded. -/
def DatabaseJob.IsFirstAnswer (db : Db) : DatabaseJob → Prop
  | .recordSendOutcome _ packetId _ _ =>
      ∃ p, db.acknowledgementColumns packetId = some p ∧ p.state = .prepared
  | _ => True

theorem caller_run (db : Db) (job : DatabaseJob) : (job.run db).2.caller = job.caller := by
  cases job <;> rfl

/-- **A call moves the columns.** -/
theorem columnsMove_run (hfirst : job.IsFirstAnswer db) :
    ColumnsMove db.acknowledgementColumns (job.run db).1.acknowledgementColumns := by
  cases job with
  | recordSendOutcome settings packetId outcome now =>
      obtain ⟨p, hp, hprepared⟩ := hfirst
      obtain ⟨hcolumns, -⟩ := recordSendOutcome_of_prepared settings outcome now hp hprepared
      refine .of_map (g := fun k q => if k = packetId then q.answer settings outcome now else q)
        (fun k => ?_) fun k q hq => ?_
      · refine (hcolumns k).trans ?_
        split
        · next hk => rw [hk, hp, Option.map_some]
        · rw [Option.map_id']
      · split
        · next hk =>
            obtain rfl := Option.some.inj ((hk ▸ hq).symm.trans hp)
            exact laterAnswer_answer settings outcome now hprepared
        · exact .refl q
  | recordNodeAcknowledgement isEarly acknowledgement now =>
      exact .of_map (acknowledgementColumns_recordNodeAcknowledgement acknowledgement.code
        acknowledgement.roundTripMilliseconds now) fun _ p _ => laterAnswer_acknowledge _ _ p
  | recordAcknowledgementDeadlinePassed packetId now =>
      refine .of_map (g := fun k q => if k = packetId then q.passDeadline else q) (fun k => ?_)
        fun k q _ => ?_
      · refine (acknowledgementColumns_recordAcknowledgementDeadlinePassed packetId now k).trans ?_
        split
        · rfl
        · rw [Option.map_id']
      · split
        · exact laterAnswer_passDeadline q
        · exact .refl q

/-- What the caller continues with ends the wait for the packet. -/
def FinishedJob.Releases (packetId : ℕ) : FinishedJob → Prop
  | .sendOutcome _ => False
  | .nodeAcknowledgement _ _ acknowledgedPackets =>
      ∃ acknowledged ∈ acknowledgedPackets, acknowledged.packetId = packetId
  | .deadlinePassed passedPacketId _ => passedPacketId = packetId

/-- **A queued packet stays queued** unless its wait is about to end. -/
theorem queued_or_releases (hfirst : job.IsFirstAnswer db)
    (hp : db.acknowledgementColumns k = some p) (hqueued : p.state = .queuedOnNode) :
    (job.run db).1.acknowledgementColumns k = some p ∨ (job.run db).2.Releases k := by
  cases job with
  | recordSendOutcome settings packetId outcome now =>
      obtain ⟨p', hp', hprepared⟩ := hfirst
      obtain ⟨hcolumns, -⟩ := recordSendOutcome_of_prepared settings outcome now hp' hprepared
      refine Or.inl ((hcolumns k).trans ?_)
      rw [if_neg, hp]
      rintro rfl
      obtain rfl := Option.some.inj (hp.symm.trans hp')
      rw [hqueued] at hprepared
      cases hprepared
  | recordNodeAcknowledgement isEarly acknowledgement now =>
      by_cases hmatch : p.isMatchedBy acknowledgement.code now = true
      · exact Or.inr ((mem_acknowledged_iff acknowledgement.roundTripMilliseconds).2
          ⟨p, hp, hmatch⟩)
      · refine Or.inl ((acknowledgementColumns_recordNodeAcknowledgement _ _ _ k).trans ?_)
        rw [hp, Option.map_some, AcknowledgementColumns.acknowledge, if_neg hmatch]
  | recordAcknowledgementDeadlinePassed packetId now =>
      by_cases hk : packetId = k
      · exact Or.inr hk
      · refine Or.inl ((acknowledgementColumns_recordAcknowledgementDeadlinePassed _ _ k).trans ?_)
        rw [if_neg (Ne.symm hk), hp]

end Calls


/-! ### A step -/

section Steps

variable {timing : WorkerTiming} {relay relay' : AcknowledgingRelay}

/-- The loop goes on with the deadlines that are left. -/
inductive LoopContinued (relay : AcknowledgingRelay) : AcknowledgingRelay → Prop
  | waits : LoopContinued relay
      { relay with deadlineLoop := .waiting relay.tracker.findNextDeadline }
  | handles (packetId : ℕ) (rest : List AwaitedPacket) : LoopContinued relay
      { relay with
        deadlineLoop := .recording rest
        jobs := relay.jobs ++ [.recordAcknowledgementDeadlinePassed packetId relay.now] }

theorem loopContinued_handlePassedDeadlines (relay : AcknowledgingRelay)
    (rest : List AwaitedPacket) : LoopContinued relay (relay.handlePassedDeadlines rest) := by
  cases rest with
  | nil => exact .waits
  | cons awaited rest => exact .handles awaited.packetId rest

/-- The codes that were kept, without those that are too old by now. -/
def unmatchedByNow (timing : WorkerTiming) (relay : AcknowledgingRelay) :
    AList fun _ : Text => UnmatchedAcknowledgement :=
  (relay.tracker.forgetOldUnmatchedAcknowledgements timing
    relay.monotonic).unmatchedAcknowledgements

/-- What a caller does when its call has run. -/
inductive CallerContinued (timing : WorkerTiming) (relay : AcknowledgingRelay) :
    FinishedJob → AcknowledgingRelay → Prop
  | unrecorded : CallerContinued timing relay (.sendOutcome none) { relay with sender := .idle }
  | notAwaited (recordedOutcome : RecordedSendOutcome)
      (h : ¬ (recordedOutcome.packetState = .queuedOnNode ∧
        recordedOutcome.acknowledgementDeadlineAt.isSome)) :
      CallerContinued timing relay (.sendOutcome (some recordedOutcome))
        { relay with sender := .idle }
  | awaited (recordedOutcome : RecordedSendOutcome) (packet : AwaitedPacket)
      (hdeadline : recordedOutcome.acknowledgementDeadlineAt = some packet.deadline)
      (hnone : (unmatchedByNow timing relay).lookup recordedOutcome.expectedAcknowledgementCode =
        none) :
      CallerContinued timing relay (.sendOutcome (some recordedOutcome))
        { relay with
          tracker :=
            { awaitedPackets :=
                relay.tracker.awaitedPackets.insert recordedOutcome.packetId packet
              unmatchedAcknowledgements := (unmatchedByNow timing relay).erase
                recordedOutcome.expectedAcknowledgementCode }
          deadlinesChanged := true
          sender := .idle }
  | matchedAgain (recordedOutcome : RecordedSendOutcome) (packet : AwaitedPacket)
      (unmatched : UnmatchedAcknowledgement)
      (hdeadline : recordedOutcome.acknowledgementDeadlineAt = some packet.deadline)
      (hsome : (unmatchedByNow timing relay).lookup recordedOutcome.expectedAcknowledgementCode =
        some unmatched) :
      CallerContinued timing relay (.sendOutcome (some recordedOutcome))
        { relay with
          tracker :=
            { awaitedPackets :=
                relay.tracker.awaitedPackets.insert recordedOutcome.packetId packet
              unmatchedAcknowledgements := (unmatchedByNow timing relay).erase
                recordedOutcome.expectedAcknowledgementCode }
          deadlinesChanged := true
          sender := .acknowledging
          jobs := relay.jobs ++ [.recordNodeAcknowledgement true
            ⟨recordedOutcome.expectedAcknowledgementCode, unmatched.roundTripMilliseconds⟩
            relay.now] }
  | kept (isEarly : Bool) (acknowledgement : NodeAcknowledgement) :
      CallerContinued timing relay (.nodeAcknowledgement isEarly acknowledgement [])
        { relay with
          tracker :=
            { relay.tracker with
              unmatchedAcknowledgements :=
                (unmatchedByNow timing relay).insert acknowledgement.code
                  ⟨acknowledgement.roundTripMilliseconds, relay.monotonic⟩ }
          sender := if isEarly then .idle else relay.sender }
  | matched (isEarly : Bool) (acknowledgement : NodeAcknowledgement)
      (acknowledgedPackets : List AcknowledgedPacket) (hne : acknowledgedPackets ≠ []) :
      CallerContinued timing relay
        (.nodeAcknowledgement isEarly acknowledgement acknowledgedPackets)
        { relay with
          tracker :=
            { relay.tracker with
              awaitedPackets := acknowledgedPackets.foldl
                (fun awaited acknowledged => awaited.erase acknowledged.packetId)
                relay.tracker.awaitedPackets }
          deadlinesChanged := true
          sender := if isEarly then .idle else relay.sender }
  | settles (packetId : ℕ) (timeout : Option AcknowledgementTimeout) (rest : List AwaitedPacket)
      (hloop : relay.deadlineLoop = .recording rest) :
      CallerContinued timing relay (.deadlinePassed packetId timeout)
        { relay with
          tracker := relay.tracker.finishPassedDeadline packetId
          deadlineLoop := .settling rest }
  | passed (packetId : ℕ) (timeout : Option AcknowledgementTimeout) (rest : List AwaitedPacket)
      (relay' : AcknowledgingRelay) (hloop : relay.deadlineLoop = .recording rest)
      (hcontinued : LoopContinued
        { relay with tracker := relay.tracker.finishPassedDeadline packetId } relay') :
      CallerContinued timing relay (.deadlinePassed packetId timeout) relay'
  | stray (packetId : ℕ) (timeout : Option AcknowledgementTimeout)
      (hloop : ∀ rest, relay.deadlineLoop ≠ .recording rest) :
      CallerContinued timing relay (.deadlinePassed packetId timeout)
        { relay with tracker := relay.tracker.finishPassedDeadline packetId }

/-- The packet of a recorded outcome, as it is awaited. -/
def awaitedPacketOf (recordedOutcome : RecordedSendOutcome) (deadline : Time) : AwaitedPacket where
  packetId := recordedOutcome.packetId
  contactId := recordedOutcome.contactId
  purpose := recordedOutcome.purpose
  expectedAcknowledgementCode := recordedOutcome.expectedAcknowledgementCode
  deadline

theorem registerSentPacket_eq {recordedOutcome : RecordedSendOutcome} {deadline : Time}
    (hdeadline : recordedOutcome.acknowledgementDeadlineAt = some deadline)
    (hqueued : recordedOutcome.packetState = .queuedOnNode) :
    relay.tracker.registerSentPacket timing recordedOutcome relay.monotonic =
      ({ awaitedPackets := relay.tracker.awaitedPackets.insert recordedOutcome.packetId
          (awaitedPacketOf recordedOutcome deadline)
         unmatchedAcknowledgements := (unmatchedByNow timing relay).erase
          recordedOutcome.expectedAcknowledgementCode },
        ((unmatchedByNow timing relay).lookup recordedOutcome.expectedAcknowledgementCode).map
          fun unmatched =>
            ⟨recordedOutcome.expectedAcknowledgementCode, unmatched.roundTripMilliseconds⟩) := by
  unfold AcknowledgementTracker.registerSentPacket
  rw [hdeadline]
  dsimp only
  rw [if_neg (not_not.2 hqueued)]
  rfl

theorem callerContinued_registerSentPacket (timing : WorkerTiming) (relay : AcknowledgingRelay)
    (recordedOutcome : RecordedSendOutcome) :
    CallerContinued timing relay (.sendOutcome (some recordedOutcome))
      (relay.registerSentPacket timing recordedOutcome) := by
  by_cases hawaits : recordedOutcome.packetState = .queuedOnNode ∧
      recordedOutcome.acknowledgementDeadlineAt.isSome
  · obtain ⟨hqueued, hisSome⟩ := hawaits
    obtain ⟨deadline, hdeadline⟩ := Option.isSome_iff_exists.1 hisSome
    have hflag : (relay.deadlinesChanged || recordedOutcome.awaitsAcknowledgement &&
        recordedOutcome.acknowledgementDeadlineAt.isSome) = true := by
      simp [RecordedSendOutcome.awaitsAcknowledgement, hqueued, hdeadline]
    unfold AcknowledgingRelay.registerSentPacket
    rw [registerSentPacket_eq hdeadline hqueued, hflag]
    cases hearly : (unmatchedByNow timing relay).lookup
        recordedOutcome.expectedAcknowledgementCode with
    | none =>
        exact .awaited recordedOutcome (awaitedPacketOf recordedOutcome deadline) hdeadline hearly
    | some unmatched =>
        exact .matchedAgain recordedOutcome (awaitedPacketOf recordedOutcome deadline) unmatched
          hdeadline hearly
  · have heq : relay.registerSentPacket timing recordedOutcome =
        { relay with sender := .idle } := by
      cases hdeadline : recordedOutcome.acknowledgementDeadlineAt with
      | none =>
          simp [AcknowledgingRelay.registerSentPacket, AcknowledgementTracker.registerSentPacket,
            hdeadline]
      | some deadline =>
          have hqueued : recordedOutcome.packetState ≠ .queuedOnNode := by
            simpa [hdeadline] using hawaits
          simp [AcknowledgingRelay.registerSentPacket, AcknowledgementTracker.registerSentPacket,
            hdeadline, hqueued, RecordedSendOutcome.awaitsAcknowledgement]
    rw [heq]
    exact .notAwaited recordedOutcome hawaits

theorem callerContinued_continueFirst (timing : WorkerTiming) (relay : AcknowledgingRelay)
    (isRunning : Bool) (finishedJob : FinishedJob) :
    CallerContinued timing relay finishedJob
      (relay.continueFirst timing isRunning finishedJob) := by
  cases finishedJob with
  | sendOutcome recorded =>
      cases recorded with
      | none => exact .unrecorded
      | some recorded => exact callerContinued_registerSentPacket timing relay recorded
  | nodeAcknowledgement isEarly acknowledgement acknowledgedPackets =>
      unfold AcknowledgingRelay.continueFirst AcknowledgingRelay.finishNodeAcknowledgement
      dsimp only
      by_cases hnil : acknowledgedPackets = []
      · subst hnil
        have hflag : (relay.deadlinesChanged || decide (([] : List AcknowledgedPacket) ≠ [])) =
            relay.deadlinesChanged := by simp
        rw [hflag]
        exact .kept isEarly acknowledgement
      · have hflag : (relay.deadlinesChanged || decide (acknowledgedPackets ≠ [])) = true := by
          simp [hnil]
        unfold AcknowledgementTracker.finishNodeAcknowledgement
        rw [hflag, if_neg hnil]
        exact .matched isEarly acknowledgement acknowledgedPackets hnil
  | deadlinePassed packetId timeout =>
      unfold AcknowledgingRelay.continueFirst AcknowledgingRelay.finishPassedDeadline
      dsimp only
      split
      · next rest hloop =>
          split
          · exact .settles packetId timeout rest hloop
          · exact .passed packetId timeout rest _ hloop (loopContinued_handlePassedDeadlines _ rest)
      · next hloop => exact .stray packetId timeout hloop

/-- The packet a continuing caller registers. -/
def registeredBy (finishedJob : FinishedJob) (now : Time) : RegisteredPacket :=
  match finishedJob with
  | .sendOutcome (some recordedOutcome) => some (recordedOutcome.packetId, now)
  | _ => none

/-- What one event can do. -/
inductive AcknowledgingMove (timing : WorkerTiming) (relay : AcknowledgingRelay) :
    AcknowledgingEvent → AcknowledgingRelay → RegisteredPacket → Prop
  | nothing (event : AcknowledgingEvent) : AcknowledgingMove timing relay event relay none
  | timePassed (microseconds : ℕ) : AcknowledgingMove timing relay (.timePasses microseconds)
      { relay with now := relay.now + microseconds } none
  | committed (db : Db) (hkeeps : KeepsAcknowledgements relay.db.packets db.packets) :
      AcknowledgingMove timing relay (.transaction db) { relay with db } none
  | handed (packetId : ℕ) (columns : AcknowledgementColumns) (hidle : relay.sender = .idle)
      (hcolumns : relay.db.acknowledgementColumns packetId = some columns)
      (hprepared : columns.state = .prepared) :
      AcknowledgingMove timing relay (.packetHanded packetId)
        { relay with sender := .handed packetId } none
  | answered (settings : RelaySettings) (outcome : NodeSendOutcome) (packetId : ℕ)
      (hhanded : relay.sender = .handed packetId) :
      AcknowledgingMove timing relay (.packetAnswered settings outcome)
        { relay with
          sender := .recording packetId
          jobs := relay.jobs ++ [.recordSendOutcome settings packetId outcome relay.now] } none
  | pushed (acknowledgement : NodeAcknowledgement) :
      AcknowledgingMove timing relay (.acknowledgementPushed acknowledgement)
        { relay with
          jobs := relay.jobs ++ [.recordNodeAcknowledgement false acknowledgement relay.now] } none
  | ran (job : DatabaseJob) (jobs : List DatabaseJob) (hjobs : relay.jobs = job :: jobs) :
      AcknowledgingMove timing relay .jobRuns
        { relay with
          db := (job.run relay.db).1
          jobs
          finished := relay.finished ++ [(job.run relay.db).2] } none
  | continued (isRunning : Bool) (finishedJob : FinishedJob) (finished : List FinishedJob)
      (relay' : AcknowledgingRelay) (hfinished : relay.finished = finishedJob :: finished)
      (hcontinued : CallerContinued timing { relay with finished } finishedJob relay') :
      AcknowledgingMove timing relay (.callerContinues isRunning) relay'
        (registeredBy finishedJob relay.now)
  | loopWoke (wakesAt : Option Time) (relay' : AcknowledgingRelay)
      (hloop : relay.deadlineLoop = .waiting wakesAt)
      (hcontinued : LoopContinued { relay with deadlinesChanged := false } relay') :
      AcknowledgingMove timing relay .deadlineLoopWakes relay' none
  | settled (rest : List AwaitedPacket) (relay' : AcknowledgingRelay)
      (hloop : relay.deadlineLoop = .settling rest) (hcontinued : LoopContinued relay relay') :
      AcknowledgingMove timing relay .settlementEnds relay' none

/-- **A step is one of these moves.** -/
theorem acknowledgingStep_move (timing : WorkerTiming) (relay : AcknowledgingRelay)
    (event : AcknowledgingEvent) :
    AcknowledgingMove timing relay event (acknowledgingStep timing relay event).1
      (acknowledgingStep timing relay event).2 := by
  cases event with
  | timePasses microseconds => exact .timePassed microseconds
  | transaction db =>
      unfold acknowledgingStep
      dsimp only
      split
      · next hkeeps => exact .committed db hkeeps
      · exact .nothing _
  | packetHanded packetId =>
      unfold acknowledgingStep
      dsimp only
      split
      · next hcondition =>
          obtain ⟨packet, hpacket, hprepared⟩ := (Option.any_eq_true _ _).1 hcondition.2
          exact .handed packetId packet.acknowledgementColumns hcondition.1
            (Option.map_eq_some_iff.2 ⟨packet, hpacket, rfl⟩) (of_decide_eq_true hprepared)
      · exact .nothing _
  | packetAnswered settings outcome =>
      unfold acknowledgingStep
      dsimp only
      split
      · next packetId hhanded => exact .answered settings outcome packetId hhanded
      · exact .nothing _
  | acknowledgementPushed acknowledgement => exact .pushed acknowledgement
  | jobRuns =>
      unfold acknowledgingStep
      dsimp only
      split
      · exact .nothing _
      · next job jobs hjobs => exact .ran job jobs hjobs
  | callerContinues isRunning =>
      unfold acknowledgingStep
      dsimp only
      split
      · exact .nothing _
      · next finishedJob finished hfinished =>
          exact .continued isRunning finishedJob finished _ hfinished
            (callerContinued_continueFirst timing _ isRunning finishedJob)
  | deadlineLoopWakes =>
      unfold acknowledgingStep
      dsimp only
      split
      · next wakesAt hloop =>
          split
          · exact .loopWoke wakesAt _ hloop (loopContinued_handlePassedDeadlines _ _)
          · exact .nothing _
      · exact .nothing _
  | settlementEnds =>
      unfold acknowledgingStep
      dsimp only
      split
      · next rest hloop =>
          exact .settled rest _ hloop (loopContinued_handlePassedDeadlines relay rest)
      · exact .nothing _

end Steps

/-! ### One call of the sender, and one of the loop -/

section Callers

variable {timing : WorkerTiming} {relay relay' : AcknowledgingRelay} {event : AcknowledgingEvent}
  {registered : RegisteredPacket} {finishedJob : FinishedJob}

/-- The calls of one caller, in the queue of the thread and behind it. -/
def countCalls (jobs : List DatabaseJob) (finished : List FinishedJob) (caller : DatabaseCaller) :
    ℕ :=
  jobs.countP (fun job => job.caller = caller) +
    finished.countP fun finishedJob => finishedJob.caller = caller

section Counts

variable (jobs : List DatabaseJob) (finished : List FinishedJob) (caller : DatabaseCaller)

theorem countCalls_submit (job : DatabaseJob) :
    countCalls (jobs ++ [job]) finished caller =
      countCalls jobs finished caller + if job.caller = caller then 1 else 0 := by
  unfold countCalls
  rw [List.countP_append, List.countP_singleton]
  simp only [decide_eq_true_eq]
  omega

theorem countCalls_cons (finishedJob : FinishedJob) :
    countCalls jobs (finishedJob :: finished) caller =
      countCalls jobs finished caller + if finishedJob.caller = caller then 1 else 0 := by
  unfold countCalls
  rw [List.countP_cons]
  simp only [decide_eq_true_eq]
  omega

theorem countCalls_run (job : DatabaseJob) (db : Db) :
    countCalls jobs (finished ++ [(job.run db).2]) caller =
      countCalls (job :: jobs) finished caller := by
  unfold countCalls
  rw [List.countP_append, List.countP_singleton, List.countP_cons, caller_run]
  omega

end Counts

namespace AcknowledgingRelay

/-- The calls of one caller that are under way. -/
def calls (relay : AcknowledgingRelay) (caller : DatabaseCaller) : ℕ :=
  countCalls relay.jobs relay.finished caller

/-- The packet is prepared and nothing more. -/
def IsPrepared (relay : AcknowledgingRelay) (packetId : ℕ) : Prop :=
  ∃ p, relay.db.acknowledgementColumns packetId = some p ∧ p.state = .prepared

end AcknowledgingRelay

/-- The job that records the node's answer. -/
def DatabaseJob.isAnswer : DatabaseJob → Bool
  | .recordSendOutcome _ _ _ _ => true
  | _ => false

/-- The calls a phase of the sender waits for. -/
def SendPhase.calls : SendPhase → ℕ
  | .idle | .handed _ => 0
  | .recording _ | .acknowledging => 1

def DeadlineLoopPhase.calls : DeadlineLoopPhase → ℕ
  | .waiting _ | .settling _ => 0
  | .recording _ => 1

/-- The sender waits for this call, and the packet whose answer it records is prepared. -/
def AcknowledgingRelay.SenderAwaits (relay : AcknowledgingRelay) : DatabaseJob → Prop
  | .recordSendOutcome _ packetId _ _ =>
      relay.sender = .recording packetId ∧ relay.IsPrepared packetId
  | _ => relay.sender = .acknowledging

/-- The sender is about to continue with this. -/
def AcknowledgingRelay.SenderResumes (relay : AcknowledgingRelay) : FinishedJob → Prop
  | .sendOutcome recorded => ∃ recordedOutcome, recorded = some recordedOutcome ∧
      relay.sender = .recording recordedOutcome.packetId
  | _ => relay.sender = .acknowledging

/-- **The sender waits for the call it made**, and nobody else touches its packet. -/
structure SenderOk (relay : AcknowledgingRelay) : Prop where
  calls : relay.calls .sender = relay.sender.calls
  handed : ∀ packetId, relay.sender = .handed packetId → relay.IsPrepared packetId
  awaits : ∀ job ∈ relay.jobs, job.caller = .sender → relay.SenderAwaits job
  resumes : ∀ finishedJob ∈ relay.finished, finishedJob.caller = .sender →
    relay.SenderResumes finishedJob

/-- The first job of the queue records the first answer of its packet. -/
theorem SenderOk.isFirstAnswer (h : SenderOk relay) {job : DatabaseJob} {jobs : List DatabaseJob}
    (hjobs : relay.jobs = job :: jobs) : job.IsFirstAnswer relay.db := by
  cases job with
  | recordSendOutcome settings packetId outcome now =>
      have hawaits := h.awaits (.recordSendOutcome settings packetId outcome now)
        (hjobs ▸ List.mem_cons_self) rfl
      exact hawaits.2
  | recordNodeAcknowledgement _ _ _ => trivial
  | recordAcknowledgementDeadlinePassed _ _ => trivial

theorem SendPhase.calls_le_one (phase : SendPhase) : phase.calls ≤ 1 := by
  cases phase <;> simp [SendPhase.calls]

/-- The sender is where it was, with the calls it had. -/
theorem SenderOk.of_same (h : SenderOk relay) (hsender : relay'.sender = relay.sender)
    (hprepared : ∀ packetId, relay.IsPrepared packetId → relay'.IsPrepared packetId)
    (hcalls : relay'.calls .sender = relay.calls .sender)
    (hjobs : ∀ job ∈ relay'.jobs, job.caller = .sender → job ∈ relay.jobs)
    (hfinished : ∀ finishedJob ∈ relay'.finished, finishedJob.caller = .sender →
      finishedJob ∈ relay.finished) : SenderOk relay' := by
  refine ⟨?_, fun packetId hhanded => ?_, fun job hjob hcaller => ?_,
    fun finishedJob hmem hcaller => ?_⟩
  · rw [hcalls, hsender]
    exact h.calls
  · exact hprepared packetId (h.handed packetId (hsender ▸ hhanded))
  · have hawaits := h.awaits job (hjobs job hjob hcaller) hcaller
    cases job with
    | recordSendOutcome settings packetId outcome now =>
        exact ⟨hsender.trans hawaits.1, hprepared packetId hawaits.2⟩
    | recordNodeAcknowledgement isEarly acknowledgement now => exact hsender.trans hawaits
    | recordAcknowledgementDeadlinePassed packetId now => cases hcaller
  · have hresumes := h.resumes finishedJob (hfinished finishedJob hmem hcaller) hcaller
    cases finishedJob with
    | sendOutcome recorded =>
        obtain ⟨recordedOutcome, hrecorded, hphase⟩ := hresumes
        exact ⟨recordedOutcome, hrecorded, hsender.trans hphase⟩
    | nodeAcknowledgement isEarly acknowledgement packets => exact hsender.trans hresumes
    | deadlinePassed packetId timeout => cases hcaller

/-- Nothing of the sender's is under way. -/
def AcknowledgingRelay.SenderCallsNobody (jobs : List DatabaseJob) (finished : List FinishedJob) :
    Prop :=
  (∀ job ∈ jobs, job.caller ≠ .sender) ∧ ∀ finishedJob ∈ finished, finishedJob.caller ≠ .sender

open AcknowledgingRelay

theorem SenderCallsNobody.calls {jobs : List DatabaseJob} {finished : List FinishedJob}
    (h : SenderCallsNobody jobs finished) :
    jobs.countP (fun job => job.caller = .sender) = 0 ∧
      finished.countP (fun finishedJob => finishedJob.caller = .sender) = 0 :=
  ⟨List.countP_eq_zero.2 (by simpa using h.1), List.countP_eq_zero.2 (by simpa using h.2)⟩

/-- The sender has nothing to wait for. -/
theorem SenderOk.of_nobody (h : SenderCallsNobody relay.jobs relay.finished)
    (hcalls : relay.sender.calls = 0)
    (hhanded : ∀ packetId, relay.sender = .handed packetId → relay.IsPrepared packetId) :
    SenderOk relay := by
  obtain ⟨hjobs, hfinished⟩ := SenderCallsNobody.calls h
  refine ⟨?_, hhanded, fun job hjob hcaller => absurd hcaller (h.1 job hjob),
    fun finishedJob hmem hcaller => absurd hcaller (h.2 finishedJob hmem)⟩
  rw [AcknowledgingRelay.calls, countCalls, hjobs, hfinished, hcalls]

/-- The sender has just made its call. -/
theorem SenderOk.of_job {jobs : List DatabaseJob} {job : DatabaseJob}
    (h : SenderCallsNobody jobs relay.finished) (hjobs : relay.jobs = jobs ++ [job])
    (hcaller : job.caller = .sender) (hcalls : relay.sender.calls = 1)
    (hawaits : relay.SenderAwaits job) : SenderOk relay := by
  refine ⟨?_, fun packetId hhanded => ?_, fun other hother hcaller => ?_,
    fun finishedJob hmem hcaller => absurd hcaller (h.2 finishedJob hmem)⟩
  · obtain ⟨hothers, hfinished⟩ := SenderCallsNobody.calls h
    rw [AcknowledgingRelay.calls, hjobs, countCalls_submit, if_pos hcaller, countCalls, hothers,
      hfinished, hcalls]
  · rw [hhanded] at hcalls
    cases hcalls
  · rw [hjobs] at hother
    rcases List.mem_append.1 hother with hother | hother
    · exact absurd hcaller (h.1 other hother)
    · exact List.mem_singleton.1 hother ▸ hawaits

/-- The sender's call has just run. -/
theorem SenderOk.of_finished {finished : List FinishedJob}
    (h : SenderCallsNobody relay.jobs finished)
    (hfinished : relay.finished = finished ++ [finishedJob])
    (hcaller : finishedJob.caller = .sender) (hcalls : relay.sender.calls = 1)
    (hresumes : relay.SenderResumes finishedJob) : SenderOk relay := by
  refine ⟨?_, fun packetId hhanded => ?_, fun job hjob hcaller => absurd hcaller (h.1 job hjob),
    fun other hother hcaller => ?_⟩
  · obtain ⟨hjobs, hothers⟩ := SenderCallsNobody.calls h
    rw [AcknowledgingRelay.calls, countCalls, hfinished, List.countP_append, hjobs, hothers, hcalls]
    simp [hcaller]
  · rw [hhanded] at hcalls
    cases hcalls
  · rw [hfinished] at hother
    rcases List.mem_append.1 hother with hother | hother
    · exact absurd hcaller (h.2 other hother)
    · exact List.mem_singleton.1 hother ▸ hresumes

/-- A call of the sender is its only one. -/
theorem SenderOk.only_job (h : SenderOk relay) {job : DatabaseJob} {jobs : List DatabaseJob}
    (hjobs : relay.jobs = job :: jobs) (hcaller : job.caller = .sender) :
    SenderCallsNobody jobs relay.finished := by
  have hcalls := h.calls
  have hle := relay.sender.calls_le_one
  simp only [AcknowledgingRelay.calls, countCalls, hjobs, List.countP_cons, hcaller] at hcalls
  simp only [decide_true, if_true] at hcalls
  constructor
  · have hzero : jobs.countP (fun other => other.caller = .sender) = 0 := by omega
    simpa using List.countP_eq_zero.1 hzero
  · have hzero : relay.finished.countP (fun finishedJob => finishedJob.caller = .sender) = 0 := by
      omega
    simpa using List.countP_eq_zero.1 hzero

theorem SenderOk.only_finished (h : SenderOk relay) {finished : List FinishedJob}
    (hfinished : relay.finished = finishedJob :: finished)
    (hcaller : finishedJob.caller = .sender) : SenderCallsNobody relay.jobs finished := by
  have hcalls := h.calls
  have hle := relay.sender.calls_le_one
  simp only [AcknowledgingRelay.calls, countCalls, hfinished, List.countP_cons, hcaller] at hcalls
  simp only [decide_true, if_true] at hcalls
  constructor
  · have hzero : relay.jobs.countP (fun job => job.caller = .sender) = 0 := by omega
    simpa using List.countP_eq_zero.1 hzero
  · have hzero : finished.countP (fun other => other.caller = .sender) = 0 := by omega
    simpa using List.countP_eq_zero.1 hzero

theorem SenderOk.nobody (h : SenderOk relay) (hcalls : relay.sender.calls = 0) :
    SenderCallsNobody relay.jobs relay.finished := by
  have hzero := h.calls.trans hcalls
  rw [AcknowledgingRelay.calls, countCalls, Nat.add_eq_zero_iff] at hzero
  exact ⟨by simpa using List.countP_eq_zero.1 hzero.1,
    by simpa using List.countP_eq_zero.1 hzero.2⟩

/-- The loop's calls are not the sender's. -/
theorem SenderOk.loop (h : SenderOk relay) (hcontinued : LoopContinued relay relay') :
    SenderOk relay' := by
  cases hcontinued with
  | waits => exact h.of_same rfl (fun _ hp => hp) rfl (fun _ hj _ => hj) fun _ hf _ => hf
  | handles packetId rest =>
      refine h.of_same rfl (fun _ hp => hp) ?_ (fun job hjob hcaller => ?_) fun _ hf _ => hf
      · exact countCalls_submit _ _ _ _
      · rcases List.mem_append.1 hjob with hjob | hjob
        · exact hjob
        · rw [List.mem_singleton.1 hjob] at hcaller
          cases hcaller

/-- A caller other than the sender continues. -/
theorem SenderOk.otherCaller (h : SenderOk relay) {finished : List FinishedJob}
    (hfinished : relay.finished = finishedJob :: finished)
    (hcaller : finishedJob.caller ≠ .sender) : SenderOk { relay with finished } := by
  refine h.of_same rfl (fun _ hp => hp) ?_ (fun _ hj _ => hj) fun f hf _ => ?_
  · rw [AcknowledgingRelay.calls, AcknowledgingRelay.calls, hfinished, countCalls_cons,
      if_neg hcaller]
    rfl
  · rw [hfinished]
    exact List.mem_cons_of_mem _ hf

/-- **Whoever continues, the sender waits for the call it made.** -/
theorem SenderOk.continued {finished : List FinishedJob} (h : SenderOk relay)
    (hfinished : relay.finished = finishedJob :: finished)
    (hcontinued : CallerContinued timing { relay with finished } finishedJob relay') :
    SenderOk relay' := by
  cases hcontinued with
  | unrecorded =>
      exact .of_nobody (h.only_finished hfinished rfl) rfl fun _ hhanded => by cases hhanded
  | notAwaited recordedOutcome hnot =>
      exact .of_nobody (h.only_finished hfinished rfl) rfl fun _ hhanded => by cases hhanded
  | awaited recordedOutcome packet hdeadline hnone =>
      exact .of_nobody (h.only_finished hfinished rfl) rfl fun _ hhanded => by cases hhanded
  | matchedAgain recordedOutcome packet unmatched hdeadline hsome =>
      exact .of_job (h.only_finished hfinished rfl) rfl rfl rfl rfl
  | kept isEarly acknowledgement =>
      cases isEarly with
      | true =>
          exact .of_nobody (h.only_finished hfinished rfl) rfl fun _ hhanded => by cases hhanded
      | false =>
          have hother := h.otherCaller hfinished (by simp [FinishedJob.caller])
          exact hother.of_same rfl (fun _ hp => hp) rfl (fun _ hj _ => hj) fun _ hf _ => hf
  | matched isEarly acknowledgement acknowledgedPackets hne =>
      cases isEarly with
      | true =>
          exact .of_nobody (h.only_finished hfinished rfl) rfl fun _ hhanded => by cases hhanded
      | false =>
          have hother := h.otherCaller hfinished (by simp [FinishedJob.caller])
          exact hother.of_same rfl (fun _ hp => hp) rfl (fun _ hj _ => hj) fun _ hf _ => hf
  | settles packetId timeout rest hloop =>
      have hother := h.otherCaller hfinished (by simp [FinishedJob.caller])
      exact hother.of_same rfl (fun _ hp => hp) rfl (fun _ hj _ => hj) fun _ hf _ => hf
  | passed packetId timeout rest relay' hloop hloopContinued =>
      have hother := h.otherCaller hfinished (by simp [FinishedJob.caller])
      refine SenderOk.loop ?_ hloopContinued
      exact hother.of_same rfl (fun _ hp => hp) rfl (fun _ hj _ => hj) fun _ hf _ => hf
  | stray packetId timeout hloop =>
      have hother := h.otherCaller hfinished (by simp [FinishedJob.caller])
      exact hother.of_same rfl (fun _ hp => hp) rfl (fun _ hj _ => hj) fun _ hf _ => hf

/-- What is prepared stays so until an answer is recorded. -/
theorem isPrepared_run {db : Db} {job : DatabaseJob} (hjob : job.isAnswer = false) {packetId : ℕ}
    {p : AcknowledgementColumns} (hp : db.acknowledgementColumns packetId = some p)
    (hprepared : p.state = .prepared) :
    (job.run db).1.acknowledgementColumns packetId = some p := by
  cases job with
  | recordSendOutcome settings k outcome now => cases hjob
  | recordNodeAcknowledgement isEarly acknowledgement now =>
      refine (acknowledgementColumns_recordNodeAcknowledgement _ _ _ packetId).trans ?_
      rw [hp, Option.map_some, AcknowledgementColumns.acknowledge, if_neg]
      exact fun hmatch => ne_prepared_of_isMatchedBy hmatch hprepared
  | recordAcknowledgementDeadlinePassed k now =>
      refine (acknowledgementColumns_recordAcknowledgementDeadlinePassed k now packetId).trans ?_
      have hsame : p.passDeadline = p := if_neg (by simp [hprepared])
      rw [hp, Option.map_some, hsame, ite_self]

theorem isAnswer_of_caller {job : DatabaseJob} (h : job.caller ≠ .sender) :
    job.isAnswer = false := by
  cases job with
  | recordSendOutcome settings packetId outcome now => exact absurd rfl h
  | recordNodeAcknowledgement _ _ _ => rfl
  | recordAcknowledgementDeadlinePassed _ _ => rfl

/-- **The database thread keeps what the sender waits for.** -/
theorem SenderOk.ran {job : DatabaseJob} {jobs : List DatabaseJob} (h : SenderOk relay)
    (hjobs : relay.jobs = job :: jobs) :
    SenderOk
      { relay with
        db := (job.run relay.db).1
        jobs
        finished := relay.finished ++ [(job.run relay.db).2] } := by
  have hrun := caller_run relay.db job
  by_cases hcaller : job.caller = .sender
  · have hawaits := h.awaits job (hjobs ▸ List.mem_cons_self) hcaller
    refine SenderOk.of_finished (h.only_job hjobs hcaller) rfl (hrun.trans hcaller) ?_ ?_
    · cases job with
      | recordSendOutcome settings packetId outcome now => exact congrArg SendPhase.calls hawaits.1
      | recordNodeAcknowledgement isEarly acknowledgement now =>
          exact congrArg SendPhase.calls hawaits
      | recordAcknowledgementDeadlinePassed packetId now => cases hcaller
    · cases job with
      | recordSendOutcome settings packetId outcome now =>
          obtain ⟨hphase, p, hp, hprepared⟩ := hawaits
          obtain ⟨-, recordedOutcome, hrecorded, hid, -⟩ :=
            recordSendOutcome_of_prepared settings outcome now hp hprepared
          exact ⟨recordedOutcome, hrecorded, hid ▸ hphase⟩
      | recordNodeAcknowledgement isEarly acknowledgement now => exact hawaits
      | recordAcknowledgementDeadlinePassed packetId now => cases hcaller
  · refine h.of_same rfl (fun packetId hp => ?_) ?_ (fun other hother _ => ?_)
      fun finishedJob hmem hsender => ?_
    · obtain ⟨p, hp, hprepared⟩ := hp
      exact ⟨p, isPrepared_run (isAnswer_of_caller hcaller) hp hprepared, hprepared⟩
    · rw [AcknowledgingRelay.calls, AcknowledgingRelay.calls, countCalls_run, hjobs]
    · exact hjobs ▸ List.mem_cons_of_mem _ hother
    · rcases List.mem_append.1 hmem with hmem | hmem
      · exact hmem
      · rw [List.mem_singleton.1 hmem, hrun] at hsender
        exact absurd hsender hcaller

theorem senderOk_start (db : Db) (now : Time) : SenderOk (.start db now) :=
  .of_nobody ⟨fun _ h => absurd h List.not_mem_nil, fun _ h => absurd h List.not_mem_nil⟩ rfl
    fun _ hhanded => by cases hhanded

/-- **Every step keeps what the sender waits for.** -/
theorem SenderOk.step (h : SenderOk relay)
    (hmove : AcknowledgingMove timing relay event relay' registered) : SenderOk relay' := by
  cases hmove with
  | nothing => exact h
  | timePassed microseconds =>
      exact h.of_same rfl (fun _ hp => hp) rfl (fun _ hj _ => hj) fun _ hf _ => hf
  | committed db hkeeps =>
      refine h.of_same rfl (fun packetId hp => ?_) rfl (fun _ hj _ => hj) fun _ hf _ => hf
      obtain ⟨p, hp, hprepared⟩ := hp
      exact ⟨p, hkeeps.columns hp, hprepared⟩
  | handed packetId columns hidle hcolumns hprepared =>
      refine .of_nobody (h.nobody (congrArg SendPhase.calls hidle)) rfl fun other hother => ?_
      obtain rfl := SendPhase.handed.inj hother
      exact ⟨columns, hcolumns, hprepared⟩
  | answered settings outcome packetId hhanded =>
      exact .of_job (h.nobody (congrArg SendPhase.calls hhanded)) rfl rfl rfl
        ⟨rfl, h.handed packetId hhanded⟩
  | pushed acknowledgement =>
      refine h.of_same rfl (fun _ hp => hp) ?_ (fun job hjob hcaller => ?_) fun _ hf _ => hf
      · exact countCalls_submit _ _ _ _
      · rcases List.mem_append.1 hjob with hjob | hjob
        · exact hjob
        · rw [List.mem_singleton.1 hjob] at hcaller
          cases hcaller
  | ran job jobs hjobs => exact h.ran hjobs
  | continued isRunning finishedJob finished relay' hfinished hcontinued =>
      exact h.continued hfinished hcontinued
  | loopWoke wakesAt relay' hloop hcontinued =>
      refine SenderOk.loop ?_ hcontinued
      exact h.of_same rfl (fun _ hp => hp) rfl (fun _ hj _ => hj) fun _ hf _ => hf
  | settled rest relay' hloop hcontinued => exact h.loop hcontinued

end Callers


end HoptalkRelay
