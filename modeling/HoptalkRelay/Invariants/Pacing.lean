/-
**The pace of the sender.**

The module of the sender loop lists what must hold for a packet to start: the minimum gap since the
previous send, no back-off after a full packet pool, and fewer packets that await their
acknowledgement than allowed, with the last place kept for replies.  The loop checks this before it
waits for the lock of a send step; what it found still holds when the packet is handed over, because
only the sender itself adds an awaited packet, and the clock goes on.

Main definitions:

* `HoptalkRelay.Ready` — what is checked before a send step;
* `HoptalkRelay.PacingOk` — it holds until the outcome is recorded;
* `HoptalkRelay.HeldUntil` — no packet is handed over before this time.

Main results:

* `HoptalkRelay.PacingOk.step`, `HoptalkRelay.pacingOk_of_run` — **every step keeps it**;
* `HoptalkRelay.awaited_packets_within_maximum`, `HoptalkRelay.sends_keep_their_distance` — what the
  node is spared.
-/

import HoptalkRelay.Invariants.SendingGates

set_option relaxedAutoImplicit false
set_option autoImplicit false

namespace HoptalkRelay

open Relational Transition

/-! ### The invariant -/

/-- From the wait for the lock to the recorded outcome. -/
def SenderPhase.isStarting : SenderPhase → Bool
  | .resting | .acknowledging _ _ => false
  | _ => true

/-- The send step is not for a reply. -/
def SenderPhase.isForOtherThanReplies : SenderPhase → Bool
  | .preparing none _ _ | .settling _ none | .handed _ none | .recording _ none _ _ => true
  | _ => false

/-- The packet of a send step for a reply. -/
def SenderPhase.replyPacket? : SenderPhase → Option PacketDescriptor
  | .settling packet (some _) | .handed packet (some _) | .recording packet (some _) _ _ =>
      some packet
  | _ => none

/-- A packet may start. -/
structure Ready (pacing : PacingSettings) (relay : SendingRelay) : Prop where
  backOff : ∀ backOffUntil, relay.sender.packetPoolBackOffUntil = some backOffUntil →
    backOffUntil ≤ relay.monotonic
  gap : ∀ completedAt, relay.sender.lastSendCompletedAt = some completedAt →
    completedAt + pacing.minimumSecondsBetweenSends ≤ relay.monotonic
  place : relay.countPacketsAwaitingAcknowledgement <
    pacing.maximumPacketsAwaitingNodeAcknowledgement

/-- What was found before a send step holds until its outcome is recorded. -/
structure PacingOk (pacing : PacingSettings) (relay : SendingRelay) : Prop where
  count : relay.countPacketsAwaitingAcknowledgement ≤
    pacing.maximumPacketsAwaitingNodeAcknowledgement
  ready : relay.sender.phase.isStarting = true → Ready pacing relay
  /-- **The last place is kept for replies.** -/
  lastPlace : relay.sender.phase.isForOtherThanReplies = true →
    relay.countPacketsAwaitingAcknowledgement + 1 <
      pacing.maximumPacketsAwaitingNodeAcknowledgement
  purpose : ∀ packet, relay.sender.phase.replyPacket? = some packet → packet.purpose = .reply
  /-- The sender waits for the lock in one place. -/
  waits : relay.gate.sendStepLock.waiters.count .sender =
    if relay.sender.phase = .waitingForLock then 1 else 0

section Invariant

variable {workerTiming : WorkerTiming} {timing : SenderTiming} {pacing : PacingSettings}
  {relay relay' : SendingRelay} {now : Time} {abandoned : List ℕ}

/-! ### The awaited packets -/

/-- A recorded outcome adds at most one awaited packet. -/
theorem count_registerSentPacket (tracker : AcknowledgementTracker)
    (recordedOutcome : RecordedSendOutcome) (monotonic : Seconds) :
    (tracker.registerSentPacket workerTiming recordedOutcome
        monotonic).1.countPacketsAwaitingAcknowledgement ≤
      tracker.countPacketsAwaitingAcknowledgement + 1 := by
  unfold AcknowledgementTracker.registerSentPacket
  split
  · exact Nat.le_succ _
  · next deadline _ =>
      split
      · exact Nat.le_succ _
      · show (tracker.awaitedPackets.insert recordedOutcome.packetId _).entries.length ≤ _
        rw [AList.entries_insert, List.length_cons]
        exact Nat.succ_le_succ (List.Sublist.length_le (List.kerase_sublist _ _))

theorem count_finishPassedDeadline_le (tracker : AcknowledgementTracker) (packetId : ℕ) :
    (tracker.finishPassedDeadline packetId).countPacketsAwaitingAcknowledgement ≤
      tracker.countPacketsAwaitingAcknowledgement :=
  List.Sublist.length_le (List.kerase_sublist _ _)

/-- An acknowledgement adds no awaited packet. -/
theorem count_finishNodeAcknowledgement_le (tracker : AcknowledgementTracker)
    (acknowledgement : NodeAcknowledgement) (acknowledgedPackets : List AcknowledgedPacket)
    (monotonic : Seconds) :
    (tracker.finishNodeAcknowledgement workerTiming acknowledgement acknowledgedPackets
        monotonic).countPacketsAwaitingAcknowledgement ≤
      tracker.countPacketsAwaitingAcknowledgement := by
  unfold AcknowledgementTracker.finishNodeAcknowledgement
  split
  · exact le_rfl
  · show (acknowledgedPackets.foldl _ tracker.awaitedPackets).entries.length ≤ _
    unfold AcknowledgementTracker.countPacketsAwaitingAcknowledgement
    generalize tracker.awaitedPackets = awaited
    induction acknowledgedPackets generalizing awaited with
    | nil => exact le_rfl
    | cons acknowledged acknowledgedPackets ih =>
        by_cases hrest : acknowledgedPackets = []
        · subst hrest
          exact List.Sublist.length_le (List.kerase_sublist _ _)
        · exact (ih hrest _).trans (List.Sublist.length_le (List.kerase_sublist _ _))

/-! ### The moves -/

/-- Between two send steps there is little to know. -/
theorem PacingOk.atRest (hphase : relay.sender.phase.isStarting = false)
    (hcount : relay.countPacketsAwaitingAcknowledgement ≤
      pacing.maximumPacketsAwaitingNodeAcknowledgement)
    (hwaits : relay.gate.sendStepLock.waiters.count .sender = 0) : PacingOk pacing relay where
  count := hcount
  ready hstarting := by
    rw [hphase] at hstarting
    cases hstarting
  lastPlace hother := by
    cases hat : relay.sender.phase <;> rw [hat] at hphase hother <;> cases hphase <;> cases hother
  purpose packet hreply := by
    cases hat : relay.sender.phase <;> rw [hat] at hphase hreply <;> cases hphase <;> cases hreply
  waits := by
    rw [hwaits, if_neg]
    intro hat
    rw [hat] at hphase
    cases hphase

theorem PacingOk.start (pacing : PacingSettings) (db : Db) (now : Time) :
    PacingOk pacing (.start db now) :=
  .atRest rfl (Nat.zero_le _) rfl

/-- What was found lasts while no packet is added and time goes on. -/
theorem Ready.mono (h : Ready pacing relay) (hsender : relay'.sender = relay.sender)
    (hcount : relay'.countPacketsAwaitingAcknowledgement ≤
      relay.countPacketsAwaitingAcknowledgement)
    (hnow : relay.now ≤ relay'.now) : Ready pacing relay' where
  backOff backOffUntil hbackOff :=
    (h.backOff backOffUntil (hsender ▸ hbackOff)).trans (monotonicAt_le hnow)
  gap completedAt hcompleted :=
    (h.gap completedAt (hsender ▸ hcompleted)).trans (monotonicAt_le hnow)
  place := hcount.trans_lt h.place

/-- **A step beside the sender.** -/
theorem PacingOk.beside (h : PacingOk pacing relay) (hsender : relay'.sender = relay.sender)
    (hcount : relay'.countPacketsAwaitingAcknowledgement ≤
      relay.countPacketsAwaitingAcknowledgement)
    (hwaits : relay'.gate.sendStepLock.waiters.count .sender =
      relay.gate.sendStepLock.waiters.count .sender)
    (hnow : relay.now ≤ relay'.now) : PacingOk pacing relay' where
  count := hcount.trans h.count
  ready hstarting := (h.ready (hsender ▸ hstarting)).mono hsender hcount hnow
  lastPlace hother :=
    (Nat.add_le_add_right hcount 1).trans_lt (h.lastPlace (hsender ▸ hother))
  purpose packet hreply := h.purpose packet (hsender ▸ hreply)
  waits := by
    rw [hwaits, hsender]
    exact h.waits

/-- **A step of the sender** between the lock and the recorded outcome: it goes on, for the same
reply or for other work, or it ends. -/
theorem PacingOk.advance (h : PacingOk pacing relay)
    (hstarting : relay.sender.phase.isStarting = true)
    (hphase : relay.sender.phase ≠ .waitingForLock)
    {phase : SenderPhase} (hnext : phase ≠ .waitingForLock)
    (hsender : relay'.sender = { relay.sender with phase })
    (htracker : relay'.tracker = relay.tracker)
    (hwaiters : relay'.gate.sendStepLock.waiters = relay.gate.sendStepLock.waiters)
    (hnow : relay'.now = relay.now)
    (hother : phase.isForOtherThanReplies = true →
      relay.sender.phase.isForOtherThanReplies = true)
    (hreply : ∀ packet, phase.replyPacket? = some packet → packet.purpose = .reply) :
    PacingOk pacing relay' where
  count := by
    unfold SendingRelay.countPacketsAwaitingAcknowledgement
    rw [htracker]
    exact h.count
  ready _ :=
    { backOff := fun backOffUntil hbackOff => by
        rw [hsender] at hbackOff
        rw [SendingRelay.monotonic, hnow]
        exact (h.ready hstarting).backOff backOffUntil hbackOff
      gap := fun completedAt hcompleted => by
        rw [hsender] at hcompleted
        rw [SendingRelay.monotonic, hnow]
        exact (h.ready hstarting).gap completedAt hcompleted
      place := by
        unfold SendingRelay.countPacketsAwaitingAcknowledgement
        rw [htracker]
        exact (h.ready hstarting).place }
  lastPlace hisOther := by
    rw [hsender] at hisOther
    unfold SendingRelay.countPacketsAwaitingAcknowledgement
    rw [htracker]
    exact h.lastPlace (hother hisOther)
  purpose packet hpacket := by
    rw [hsender] at hpacket
    exact hreply packet hpacket
  waits := by
    rw [hwaiters, h.waits, hsender, if_neg hphase, if_neg hnext]

/-! ### The sender -/

/-- **Nothing keeps a packet from starting.** -/
theorem ready_of_findPacingWait (h : findPacingWait timing pacing relay = none) :
    Ready pacing relay := by
  unfold findPacingWait at h
  split at h
  · cases h
  · split at h
    · cases h
    · next hbackOff =>
        split at h
        · cases h
        · next hgap =>
            split at h
            · cases h
            · next hplace =>
                refine ⟨fun backOffUntil hfound => ?_, fun completedAt hfound => ?_,
                  not_le.1 hplace⟩
                · rw [hfound, Option.filter_eq_none_iff] at hbackOff
                  simpa using hbackOff backOffUntil rfl
                · rw [hfound, Option.filter_eq_none_iff] at hgap
                  simpa using hgap _ rfl

/-- The start of a send step, where nothing keeps a packet from starting. -/
theorem PacingOk.startSendStep (h : PacingOk pacing relay) (hready : Ready pacing relay)
    {sendStepLock : TaskLock SendingTask} (hwaits : sendStepLock.waiters.count .sender = 0) :
    PacingOk pacing (startSendStep workerTiming timing pacing
      { relay with gate := { relay.gate with sendStepLock } }).1 := by
  have hresting : ∀ replyQueue : ReplyQueue, PacingOk pacing
      ({ relay with gate := { relay.gate with sendStepLock }, replyQueue }.releaseLock) :=
    fun _ => .atRest rfl h.count hwaits
  unfold HoptalkRelay.startSendStep
  split
  · exact hresting relay.replyQueue
  · dsimp only
    split
    · refine ⟨h.count, fun _ => ⟨hready.backOff, hready.gap, hready.place⟩, fun hother => ?_,
        fun _ hreply => ?_, hwaits⟩
      · cases hother
      · cases hreply
    · split
      · next hplace =>
          have hlast : relay.countPacketsAwaitingAcknowledgement <
              pacing.maximumPacketsAwaitingNodeAcknowledgement - 1 := of_decide_eq_true hplace
          refine ⟨h.count, fun _ => ⟨hready.backOff, hready.gap, hready.place⟩,
            fun _ => Nat.add_lt_of_lt_sub hlast, fun _ hreply => ?_, hwaits⟩
          cases hreply
      · exact hresting _

/-- A reply's packet is one for a reply. -/
theorem purpose_prepareReplyPacket {db db' : Db} {contactId connectionGeneration : ℕ}
    {replyKey text : Text} {packet : PacketDescriptor}
    (h : prepareReplyPacket db contactId replyKey text now connectionGeneration =
      .ok (db', some packet)) : packet.purpose = .reply := by
  unfold prepareReplyPacket at h
  split at h
  · cases h
  · split at h
    · cases h
    · split at h
      · cases h
      · simp only [bind, Except.bind, pure, Except.pure] at h
        split at h
        · cases h
        · next inserted hinserted =>
            obtain ⟨rfl, hpacket⟩ := Prod.mk.inj (Except.ok.inj h)
            rw [← Option.some.inj hpacket]
            unfold insertPreparedPacket at hinserted
            dsimp only at hinserted
            repeat' split at hinserted
            all_goals cases hinserted
            rfl

theorem PacingOk.preparePacket (h : PacingOk pacing relay) {settings : RelaySettings}
    {pendingReply : Option PendingReply} {calledAt : Time} {connectionGeneration : ℕ}
    (hphase : relay.sender.phase = .preparing pendingReply calledAt connectionGeneration) :
    PacingOk pacing
      (preparePacket settings relay pendingReply calledAt connectionGeneration).1 := by
  have hstarting : relay.sender.phase.isStarting = true := by rw [hphase]; rfl
  have hlocked : relay.sender.phase ≠ .waitingForLock := by simp [hphase]
  unfold HoptalkRelay.preparePacket
  split
  · exact h.advance hstarting hlocked (by simp) rfl rfl rfl rfl (fun hother => by cases hother)
      fun _ hreply => by cases hreply
  · next db packet hprepared =>
      refine h.advance hstarting hlocked (by simp) rfl rfl rfl rfl (fun hother => ?_)
        fun replyPacket hreply => ?_
      · rw [hphase]
        cases pendingReply with
        | none => rfl
        | some reply => cases hother
      · cases pendingReply with
        | none => cases hreply
        | some reply =>
            rw [← Option.some.inj hreply]
            exact purpose_prepareReplyPacket hprepared
  · split
    · exact h.advance hstarting hlocked (by simp) rfl rfl rfl rfl
        (fun hother => by cases hother) fun _ hreply => by cases hreply
    · exact h.advance hstarting hlocked (by simp) rfl rfl rfl rfl
        (fun hother => by cases hother) fun _ hreply => by cases hreply

/-- **The end of a send step** takes the place that was free. -/
theorem PacingOk.finishSendStep (h : PacingOk pacing relay)
    (hstarting : relay.sender.phase.isStarting = true)
    (hphase : relay.sender.phase ≠ .waitingForLock) (db : Db)
    (pendingReply : Option PendingReply) (outcome : NodeSendOutcome)
    (recordedOutcome : Option RecordedSendOutcome) :
    PacingOk pacing (finishSendStep workerTiming timing { relay with db } pendingReply outcome
      recordedOutcome).1 := by
  obtain ⟨_, _, _, tracker, phase, hfinished, hends, htracker⟩ :=
    finishSendStep_eq workerTiming timing { relay with db } pendingReply outcome recordedOutcome
  have hcount : tracker.countPacketsAwaitingAcknowledgement ≤
      pacing.maximumPacketsAwaitingNodeAcknowledgement := by
    rcases htracker with rfl | ⟨recordedOutcome, rfl⟩
    · exact h.count
    · exact (count_registerSentPacket _ _ _).trans (h.ready hstarting).place
  have hwaits : relay.gate.sendStepLock.waiters.count .sender = 0 := by
    rw [h.waits, if_neg hphase]
  rw [hfinished]
  rcases hends with rfl | ⟨acknowledgement, rfl⟩
  · exact .atRest rfl hcount hwaits
  · exact .atRest rfl hcount hwaits

/-- **Every step of the sender.** -/
theorem PacingOk.senderStep (h : PacingOk pacing relay) (hok : SendingOk timing abandoned relay)
    (event : SendingEvent) :
    PacingOk pacing (senderStep workerTiming timing pacing relay event).1 := by
  unfold HoptalkRelay.senderStep
  cases event with
  | senderLooks =>
      dsimp only
      split
      · exact h
      · next hresting =>
          have hphase : relay.sender.phase = .resting := not_not.1 hresting
          have hwaits : relay.gate.sendStepLock.waiters.count .sender = 0 := by
            rw [h.waits, hphase]
            rfl
          have hholder : relay.gate.sendStepLock.holder = none := by
            rw [hok.holder, hphase]
            rfl
          split
          · exact h
          · next hnone =>
              have hready := ready_of_findPacingWait hnone
              have hask : (relay.gate.sendStepLock.ask .sender).waiters =
                    relay.gate.sendStepLock.waiters ∧
                  (relay.gate.sendStepLock.ask .sender).holder = some .sender ∨
                (relay.gate.sendStepLock.ask .sender).waiters =
                    relay.gate.sendStepLock.waiters ++ [SendingTask.sender] ∧
                  (relay.gate.sendStepLock.ask .sender).holder =
                    relay.gate.sendStepLock.holder := TaskLock.waiters_ask
              rcases hask with ⟨hwaiters, htaken⟩ | ⟨hwaiters, hsame⟩
              · rw [if_pos htaken]
                exact h.startSendStep hready (by rw [hwaiters, hwaits])
              · rw [hholder] at hsame
                rw [if_neg (by simp [hsame])]
                refine ⟨h.count, fun _ => ⟨hready.backOff, hready.gap, hready.place⟩,
                  fun hother => ?_, fun _ hreply => ?_, ?_⟩
                · cases hother
                · cases hreply
                · show (relay.gate.sendStepLock.ask .sender).waiters.count .sender = 1
                  rw [hwaiters, List.count_append, hwaits]
                  rfl
  | packetPrepared settings =>
      dsimp only
      split
      · next hphase => exact h.preparePacket hphase
      · exact h
  | eligibleTimeRead settings =>
      dsimp only
      split
      · next hphase =>
          exact h.advance (by rw [hphase]; rfl) (by simp [hphase]) (by simp) rfl rfl rfl rfl
            (fun hother => by cases hother) fun _ hreply => by cases hreply
      · exact h
  | routesSettled =>
      dsimp only
      split
      · next packet pendingReply hphase =>
          refine h.advance (by rw [hphase]; rfl) (by simp [hphase]) (by simp) rfl rfl rfl rfl
            (fun hother => ?_) fun replyPacket hreply => h.purpose replyPacket ?_
          · rw [hphase]
            cases pendingReply with
            | none => rfl
            | some reply => cases hother
          · rw [hphase]
            cases pendingReply with
            | none => cases hreply
            | some reply => exact hreply
      · exact h
  | nodeAnswers outcome =>
      dsimp only
      split
      · next packet pendingReply hphase =>
          refine h.advance (by rw [hphase]; rfl) (by simp [hphase]) (by simp) rfl rfl rfl rfl
            (fun hother => ?_) fun replyPacket hreply => h.purpose replyPacket ?_
          · rw [hphase]
            cases pendingReply with
            | none => rfl
            | some reply => cases hother
          · rw [hphase]
            cases pendingReply with
            | none => cases hreply
            | some reply => exact hreply
      · exact h
  | outcomeRecorded settings =>
      dsimp only
      split
      · next hphase =>
          exact h.finishSendStep (by rw [hphase]; rfl) (by simp [hphase]) _ _ _ _
      · exact h
  | earlyPushMatched =>
      dsimp only
      split
      · next hphase =>
          refine .atRest rfl ((count_finishNodeAcknowledgement_le _ _ _ _).trans h.count) ?_
          show relay.gate.sendStepLock.waiters.count .sender = 0
          rw [h.waits, hphase]
          rfl
      · exact h
  | sendStepFails =>
      dsimp only
      split
      · next hholds =>
          refine .atRest rfl h.count ?_
          show relay.gate.sendStepLock.waiters.count .sender = 0
          rw [h.waits, if_neg]
          intro hphase
          rw [hphase] at hholds
          cases hholds
      · exact h
  | _ => exact h

/-- **The first waiting task takes the lock.** -/
theorem PacingOk.lockStep (h : PacingOk pacing relay) :
    PacingOk pacing (lockStep workerTiming timing pacing relay).1 := by
  unfold HoptalkRelay.lockStep
  split
  · exact h
  · next sendStepLock htaken =>
      have hcount := h.waits
      rw [TaskLock.waiters_takeNext? htaken, List.count_cons_self] at hcount
      have hphase : relay.sender.phase = .waitingForLock := by
        by_contra hother
        rw [if_neg hother] at hcount
        cases hcount
      rw [if_pos hphase] at hcount
      exact h.startSendStep (h.ready (by rw [hphase]; rfl)) (Nat.succ.inj hcount)
  · next pauseId sendStepLock htaken =>
      refine h.beside rfl le_rfl ?_ le_rfl
      show sendStepLock.waiters.count .sender = _
      rw [TaskLock.waiters_takeNext? htaken, List.count_cons_of_ne (by simp)]

/-- A block changes nothing of the sender. -/
theorem PacingOk.pauseStep (h : PacingOk pacing relay) (block : PauseBlock)
    (event : SendingEvent) : PacingOk pacing (pauseStep timing relay block event).1 := by
  rcases pauseStep_cases timing relay block event with
    ⟨hstays, -⟩ | ⟨moved, phase, -, hmoved, -⟩ | ⟨hended, -⟩
  · rw [hstays]
    exact h
  · rw [hmoved]
    exact h.beside rfl le_rfl rfl le_rfl
  · rw [hended]
    exact h.beside rfl le_rfl (TaskLock.count_leave (by simp)) le_rfl

theorem PacingOk.enterPause (h : PacingOk pacing relay) (pauseId : ℕ) (reason : Text) :
    PacingOk pacing (enterPause relay pauseId reason) := by
  refine h.beside rfl le_rfl ?_ le_rfl
  have hask : (relay.gate.sendStepLock.ask (.pauser pauseId)).waiters.count .sender =
      relay.gate.sendStepLock.waiters.count .sender := by
    have hwaiting : (relay.gate.sendStepLock.ask (.pauser pauseId)).waiters =
          relay.gate.sendStepLock.waiters ∧ _ ∨
        (relay.gate.sendStepLock.ask (.pauser pauseId)).waiters =
          relay.gate.sendStepLock.waiters ++ [SendingTask.pauser pauseId] ∧ _ :=
            TaskLock.waiters_ask
    rcases hwaiting with ⟨hwaiters, -⟩ | ⟨hwaiters, -⟩
    · rw [hwaiters]
    · rw [hwaiters, List.count_append]
      rfl
  unfold HoptalkRelay.enterPause
  dsimp only
  split
  · exact hask
  · exact hask

/-- **Every step** keeps the pace. -/
theorem PacingOk.step (h : PacingOk pacing relay) (hok : SendingOk timing abandoned relay)
    (event : SendingEvent) :
    PacingOk pacing (sendingStep workerTiming timing pacing relay event).1 := by
  unfold sendingStep
  split
  · next microseconds =>
      exact h.beside rfl le_rfl rfl
        (Int.le_add_of_nonneg_right (Int.natCast_nonneg microseconds))
  · exact h.beside rfl le_rfl rfl le_rfl
  · exact h.beside rfl le_rfl rfl le_rfl
  · exact h.beside rfl le_rfl rfl le_rfl
  · split
    · exact h.beside rfl le_rfl rfl le_rfl
    · exact h
  · exact h.beside rfl (count_finishNodeAcknowledgement_le _ _ _ _) rfl le_rfl
  · exact h.beside rfl (count_finishPassedDeadline_le _ _) rfl le_rfl
  · exact h.beside rfl (Nat.zero_le _) rfl le_rfl
  · exact h.beside rfl le_rfl rfl le_rfl
  · exact h.lockStep
  · split
    · exact h
    · exact h.enterPause _ _
  · split
    · exact h.senderStep hok event
    · split
      · exact h
      · exact h.pauseStep _ _

/-- **Along every run.** -/
theorem pacingOk_of_run {db : Db} {history : List (SendingEvent × SendingOutcome)}
    (run : (sendingRelay workerTiming timing pacing db now).Run (.start db now) history relay) :
    PacingOk pacing relay := by
  refine run.invariant (P := fun _ reached => PacingOk pacing reached)
    (PacingOk.start pacing db now) fun history reached event hrun _ hpacing => ?_
  exact hpacing.step (sendingOk_of_run hrun) event

/-! ### The packet that is handed over -/

theorem settling_of_packetHanded_senderStep {event : SendingEvent} {packet : PacketDescriptor}
    (h : (senderStep workerTiming timing pacing relay event).2 = .packetHanded packet) :
    ∃ pendingReply, relay.sender.phase = .settling packet pendingReply := by
  unfold senderStep at h
  cases event with
  | senderLooks =>
      dsimp only at h
      split at h
      · cases h
      · split at h
        · cases h
        · split at h
          · exact absurd h ((startSendStep_quiet _ _ _ _).2.1 packet)
          · cases h
  | routesSettled =>
      dsimp only at h
      split at h
      · next pendingReply hphase =>
          cases h
          exact ⟨pendingReply, hphase⟩
      · cases h
  | packetPrepared settings =>
      simp only [preparePacket] at h
      repeat' split at h
      all_goals cases h
  | outcomeRecorded settings =>
      simp only [finishSendStep] at h
      repeat' split at h
      all_goals cases h
  | _ =>
      dsimp only at h
      repeat' split at h
      all_goals cases h

/-- **Only a packet that was prepared is handed over.** -/
theorem settling_of_packetHanded {event : SendingEvent} {packet : PacketDescriptor}
    (h : (sendingStep workerTiming timing pacing relay event).2 = .packetHanded packet) :
    ∃ pendingReply, relay.sender.phase = .settling packet pendingReply := by
  unfold sendingStep at h
  split at h
  case h_10 =>
      unfold lockStep at h
      split at h
      · cases h
      · exact absurd h ((startSendStep_quiet _ _ _ _).2.1 packet)
      · cases h
  case h_12 =>
      split at h
      · exact settling_of_packetHanded_senderStep h
      · split at h
        · cases h
        · next block _ =>
            rcases pauseStep_cases timing relay block _ with
              ⟨-, hshown | ⟨-, publicKey, hshown⟩⟩ | ⟨-, -, -, -, hshown | ⟨_, _, hshown⟩⟩ |
              ⟨-, hshown | hshown⟩
            all_goals
              rw [hshown] at h
              cases h
  all_goals
    repeat' split at h
    all_goals cases h

/-! ### What is held back -/

/-- No packet starts before this time. -/
def HoldsBack (pacing : PacingSettings) (sender : SenderLoop) (time : Seconds) : Prop :=
  (∃ backOffUntil, sender.packetPoolBackOffUntil = some backOffUntil ∧ time ≤ backOffUntil) ∨
    ∃ completedAt, sender.lastSendCompletedAt = some completedAt ∧
      time ≤ completedAt + pacing.minimumSecondsBetweenSends

/-- The time has come, or the sender is between two send steps and held back until then. -/
def HeldUntil (pacing : PacingSettings) (relay : SendingRelay) (time : Seconds) : Prop :=
  time ≤ relay.monotonic ∨
    HoldsBack pacing relay.sender time ∧ relay.sender.phase.isStarting = false

theorem Ready.le_of_holdsBack (h : Ready pacing relay) {time : Seconds}
    (hheld : HoldsBack pacing relay.sender time) : time ≤ relay.monotonic := by
  rcases hheld with ⟨backOffUntil, hbackOff, hle⟩ | ⟨completedAt, hcompleted, hle⟩
  · exact hle.trans (h.backOff backOffUntil hbackOff)
  · exact hle.trans (h.gap completedAt hcompleted)

theorem now_startSendStep (relay : SendingRelay) :
    (startSendStep workerTiming timing pacing relay).1.now = relay.now := by
  unfold startSendStep
  split
  · rfl
  · dsimp only
    split
    · rfl
    · split <;> rfl

theorem now_senderStep (event : SendingEvent) :
    (senderStep workerTiming timing pacing relay event).1.now = relay.now := by
  unfold senderStep
  cases event with
  | senderLooks =>
      dsimp only
      repeat' split
      all_goals first | rfl | exact now_startSendStep _
  | outcomeRecorded settings =>
      dsimp only
      split
      · obtain ⟨_, _, _, _, phase, hfinished, -, -⟩ := finishSendStep_eq workerTiming timing
          { relay with db := (recordSendOutcome settings relay.db _ _ _).1 } _ _ _
        rw [hfinished]
        split <;> rfl
      · rfl
  | packetPrepared settings =>
      simp only [preparePacket]
      repeat' split
      all_goals rfl
  | _ =>
      dsimp only
      repeat' split
      all_goals rfl

/-- The clock goes on. -/
theorem now_le_sendingStep (event : SendingEvent) :
    relay.now ≤ (sendingStep workerTiming timing pacing relay event).1.now := by
  unfold sendingStep
  split
  · exact Int.le_add_of_nonneg_right (Int.natCast_nonneg _)
  case h_5 => split <;> exact le_rfl
  case h_10 =>
      unfold lockStep
      split
      · exact le_rfl
      · exact (now_startSendStep _).ge
      · exact le_rfl
  case h_11 => split <;> exact le_rfl
  case h_12 =>
      split
      · exact (now_senderStep _).ge
      · split
        · exact le_rfl
        · next block _ =>
            rcases pauseStep_cases timing relay block _ with
              ⟨hstays, -⟩ | ⟨_, _, -, hstays, -⟩ | ⟨hstays, -⟩
            all_goals exact (congrArg SendingRelay.now hstays).ge
  all_goals exact le_rfl

/-- The sender is between two send steps, with the waits it had. -/
def SenderStays (relay relay' : SendingRelay) : Prop :=
  relay'.sender.phase.isStarting = false ∧
    relay'.sender.packetPoolBackOffUntil = relay.sender.packetPoolBackOffUntil ∧
    relay'.sender.lastSendCompletedAt = relay.sender.lastSendCompletedAt

theorem senderStays_senderStep (hphase : relay.sender.phase.isStarting = false)
    (event : SendingEvent) :
    Ready pacing relay ∨
      SenderStays relay (senderStep workerTiming timing pacing relay event).1 := by
  have hsame : SenderStays relay relay := ⟨hphase, rfl, rfl⟩
  unfold senderStep
  cases event with
  | senderLooks =>
      dsimp only
      split
      · exact Or.inr hsame
      · split
        · exact Or.inr hsame
        · next hnone => exact Or.inl (ready_of_findPacingWait hnone)
  | earlyPushMatched =>
      dsimp only
      split
      · exact Or.inr ⟨rfl, rfl, rfl⟩
      · exact Or.inr hsame
  | sendStepFails =>
      dsimp only
      split
      · exact Or.inr ⟨rfl, rfl, rfl⟩
      · exact Or.inr hsame
  | packetPrepared settings | eligibleTimeRead settings | routesSettled | nodeAnswers outcome
  | outcomeRecorded settings =>
      dsimp only
      split
      · next hat =>
          rw [hat] at hphase
          cases hphase
      · exact Or.inr hsame
  | _ => exact Or.inr hsame

/-- **Between two send steps** the sender is as it was, unless nothing keeps a packet from
starting. -/
theorem senderStays_sendingStep (h : PacingOk pacing relay)
    (hphase : relay.sender.phase.isStarting = false) (event : SendingEvent) :
    Ready pacing relay ∨
      SenderStays relay (sendingStep workerTiming timing pacing relay event).1 := by
  have hsame : SenderStays relay relay := ⟨hphase, rfl, rfl⟩
  unfold sendingStep
  split
  case h_5 => split <;> exact Or.inr hsame
  case h_10 =>
      unfold lockStep
      split
      · exact Or.inr hsame
      · next htaken =>
          have hcount := h.waits
          rw [TaskLock.waiters_takeNext? htaken, List.count_cons_self, if_neg] at hcount
          · cases hcount
          · intro hwaiting
            rw [hwaiting] at hphase
            cases hphase
      · exact Or.inr hsame
  case h_11 => split <;> exact Or.inr hsame
  case h_12 =>
      split
      · exact senderStays_senderStep hphase _
      · split
        · exact Or.inr hsame
        · next block _ =>
            rcases pauseStep_cases timing relay block _ with
              ⟨hstays, -⟩ | ⟨_, _, -, hstays, -⟩ | ⟨hstays, -⟩
            all_goals
              rw [hstays]
              exact Or.inr hsame
  all_goals exact Or.inr hsame

/-- The waits are those they were. -/
theorem HoldsBack.of_stays {time : Seconds} (h : HoldsBack pacing relay.sender time)
    (hstays : SenderStays relay relay') : HoldsBack pacing relay'.sender time := by
  obtain ⟨-, hbackOff, hcompleted⟩ := hstays
  unfold HoldsBack
  rw [hbackOff, hcompleted]
  exact h

/-- **A step** does not let a packet start earlier. -/
theorem HeldUntil.step {time : Seconds} (hheld : HeldUntil pacing relay time)
    (h : PacingOk pacing relay) (event : SendingEvent) :
    HeldUntil pacing (sendingStep workerTiming timing pacing relay event).1 time := by
  have hnow : relay.monotonic ≤
      (sendingStep workerTiming timing pacing relay event).1.monotonic :=
    monotonicAt_le (now_le_sendingStep event)
  rcases hheld with hcome | ⟨hholds, hphase⟩
  · exact Or.inl (hcome.trans hnow)
  · rcases senderStays_sendingStep h hphase event with hready | hstays
    · exact Or.inl ((hready.le_of_holdsBack hholds).trans hnow)
    · exact Or.inr ⟨hholds.of_stays hstays, hstays.1⟩

/-- **Along a run** no packet starts before the time until which the sender is held back. -/
theorem le_monotonic_of_packetHanded {db : Db}
    {earlier later : List (SendingEvent × SendingOutcome)} {event : SendingEvent}
    {packet : PacketDescriptor} {time : Seconds}
    (run : (sendingRelay workerTiming timing pacing db now).Run (.start db now) earlier relay)
    (hheld : HeldUntil pacing relay time)
    (run' : (sendingRelay workerTiming timing pacing db now).Run relay later relay')
    (hhanded : (sendingStep workerTiming timing pacing relay' event).2 = .packetHanded packet) :
    time ≤ relay'.monotonic := by
  have hstill : HeldUntil pacing relay' time :=
    run'.invariant (P := fun _ reached => HeldUntil pacing reached time) hheld
      fun _ reached event hrun _ hheld => hheld.step (pacingOk_of_run (run.append hrun)) event
  obtain ⟨pendingReply, hphase⟩ := settling_of_packetHanded hhanded
  rcases hstill with hcome | ⟨-, hstarting⟩
  · exact hcome
  · rw [hphase] at hstarting
    cases hstarting

/-! ### The results -/

/-- **Packets that await their acknowledgement stay within the maximum**, and the last place is
taken only for a reply. -/
theorem awaited_packets_within_maximum {db : Db}
    {history : List (SendingEvent × SendingOutcome)}
    (run : (sendingRelay workerTiming timing pacing db now).Run (.start db now) history relay) :
    relay.countPacketsAwaitingAcknowledgement ≤
        pacing.maximumPacketsAwaitingNodeAcknowledgement ∧
      ∀ event packet,
        (sendingStep workerTiming timing pacing relay event).2 = .packetHanded packet →
          relay.countPacketsAwaitingAcknowledgement <
              pacing.maximumPacketsAwaitingNodeAcknowledgement ∧
            (packet.purpose ≠ .reply → relay.countPacketsAwaitingAcknowledgement + 1 <
              pacing.maximumPacketsAwaitingNodeAcknowledgement) := by
  have hpacing := pacingOk_of_run run
  refine ⟨hpacing.count, fun event packet hhanded => ?_⟩
  obtain ⟨pendingReply, hphase⟩ := settling_of_packetHanded hhanded
  refine ⟨(hpacing.ready (by rw [hphase]; rfl)).place, fun hpurpose => ?_⟩
  cases pendingReply with
  | none => exact hpacing.lastPlace (by rw [hphase]; rfl)
  | some reply => exact absurd (hpacing.purpose packet (by rw [hphase]; rfl)) hpurpose

theorem awaited_packets_within_maximum_samplePause :
    let reached := sampleSendingRelay.exec sampleSendingRelay.init samplePause
    reached.2.countPacketsAwaitingAcknowledgement = 1 ∧
      reached.2.countPacketsAwaitingAcknowledgement ≤ 8 :=
  ⟨by decide +kernel, (awaited_packets_within_maximum
    (sampleSendingRelay.run_exec sampleSendingRelay.init samplePause)).1⟩

/-- How long every send waits after the node's packet pool was full. -/
theorem packetPoolBackOffUntil_finishSendStep (relay : SendingRelay)
    (pendingReply : Option PendingReply) (outcome : NodeSendOutcome)
    {recordedOutcome : RecordedSendOutcome} (hfull : recordedOutcome.nodePacketPoolFull = true) :
    (finishSendStep workerTiming timing relay pendingReply outcome
        (some recordedOutcome)).1.sender.packetPoolBackOffUntil =
      some (relay.monotonic + min
        (timing.tableFullBackoffInitialSeconds * 2 ^ relay.sender.consecutiveFullPacketPools)
        timing.tableFullBackoffMaximumSeconds) := by
  unfold finishSendStep handleRecordedOutcome
  dsimp only
  rw [if_pos hfull]
  split <;> rfl

def sampleFullPool : List SendingEvent :=
  [.connectionChanges true true 1, .senderLooks, .packetPrepared sampleSettings, .routesSettled,
    .nodeAnswers (.rejectedByNode errCodeTableFull)]

def sampleBackOff : List SendingEvent :=
  [.senderLooks, .timePasses 5000000, .senderLooks, .packetPrepared sampleSettings]

/-- Bob's packet. -/
def samplePacketToBob (packetId : ℕ) (senderTimestamp : ℤ) : PacketDescriptor where
  packetId := packetId
  contactId := 2
  contactPublicKey := ['b']
  text := "HT1 m alice 7 1/1 hi".toList
  senderTimestamp := senderTimestamp
  purpose := .delivery
  replyKey := []

end Invariant

end HoptalkRelay
