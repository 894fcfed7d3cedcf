/-
**The packets the tracker awaits.**

Every awaited packet is queued on the node until its deadline, unless a caller is about to end the
wait for it.  The loop over the deadlines wakes at the earliest of them, and is told of every change.

Main definitions:

* `HoptalkRelay.Supported`, `HoptalkRelay.AwaitedOk` — why a packet is awaited;
* `HoptalkRelay.LoopOk` — what the loop waits for.

Main results:

* `HoptalkRelay.AwaitedOk.step`, `HoptalkRelay.LoopOk.step` — every step keeps them;
* `HoptalkRelay.awaited_of_quiescent` — **when nothing happens any more, every awaited packet is
  queued and its deadline is still ahead**.
-/

import HoptalkRelay.Invariants.AcknowledgementCalls

set_option relaxedAutoImplicit false
set_option autoImplicit false

namespace HoptalkRelay

open Relational Transition AcknowledgingRelay

/-! ### The awaited packets -/

section Awaited

variable {timing : WorkerTiming} {relay relay' : AcknowledgingRelay} {event : AcknowledgingEvent}
  {registered : RegisteredPacket} {finishedJob : FinishedJob} {db db' : Db} {job : DatabaseJob}
  {later : List FinishedJob} {packetId : ℕ} {deadline : Time}

/-- The packet is queued until this deadline, or a caller is about to end the wait for it. -/
def Supported (db : Db) (later : List FinishedJob) (packetId : ℕ) (deadline : Time) : Prop :=
  (∃ p, db.acknowledgementColumns packetId = some p ∧ p.state = .queuedOnNode ∧
      p.acknowledgementDeadlineAt = some deadline) ∨
    ∃ finishedJob ∈ later, finishedJob.Releases packetId

theorem Supported.ran (h : Supported db later packetId deadline) (hfirst : job.IsFirstAnswer db) :
    Supported (job.run db).1 (later ++ [(job.run db).2]) packetId deadline := by
  rcases h with ⟨p, hp, hqueued, hdeadline⟩ | ⟨finishedJob, hmem, hreleases⟩
  · rcases queued_or_releases hfirst hp hqueued with hsame | hreleases
    · exact Or.inl ⟨p, hsame, hqueued, hdeadline⟩
    · exact Or.inr ⟨_, List.mem_append_right _ List.mem_cons_self, hreleases⟩
  · exact Or.inr ⟨finishedJob, List.mem_append_left _ hmem, hreleases⟩

theorem Supported.committed (h : Supported db later packetId deadline)
    (hkeeps : KeepsAcknowledgements db.packets db'.packets) :
    Supported db' later packetId deadline := by
  rcases h with ⟨p, hp, hqueued, hdeadline⟩ | hreleased
  · exact Or.inl ⟨p, hkeeps.columns hp, hqueued, hdeadline⟩
  · exact Or.inr hreleased

/-- The first caller continues, and does not end the wait. -/
theorem Supported.continued (h : Supported db (finishedJob :: later) packetId deadline)
    (hkept : ¬ finishedJob.Releases packetId) : Supported db later packetId deadline := by
  rcases h with hqueued | ⟨other, hmem, hreleases⟩
  · exact Or.inl hqueued
  · rcases List.mem_cons.1 hmem with rfl | hmem
    · exact absurd hreleases hkept
    · exact Or.inr ⟨other, hmem, hreleases⟩

/-- Every awaited packet is queued, or its wait ends, also those about to be registered. -/
structure AwaitedOk (relay : AcknowledgingRelay) : Prop where
  awaited : ∀ packetId packet, relay.tracker.awaitedPackets.lookup packetId = some packet →
    Supported relay.db relay.finished packetId packet.deadline
  registering : ∀ before recordedOutcome later deadline,
    relay.finished = before ++ .sendOutcome (some recordedOutcome) :: later →
    recordedOutcome.acknowledgementDeadlineAt = some deadline →
      Supported relay.db later recordedOutcome.packetId deadline

/-- A packet that was just queued is queued until its deadline. -/
theorem supported_answered {recordedOutcome : RecordedSendOutcome} (hfirst : job.IsFirstAnswer db)
    (hrecorded : (job.run db).2 = .sendOutcome (some recordedOutcome))
    (hdeadline : recordedOutcome.acknowledgementDeadlineAt = some deadline) :
    Supported (job.run db).1 [] recordedOutcome.packetId deadline := by
  cases job with
  | recordSendOutcome settings k outcome now =>
      obtain ⟨p, hp, hprepared⟩ := hfirst
      obtain ⟨hcolumns, other, hother, hid, -, -, hwait⟩ :=
        recordSendOutcome_of_prepared settings outcome now hp hprepared
      obtain rfl : other = recordedOutcome :=
        Option.some.inj (hother.symm.trans (FinishedJob.sendOutcome.inj hrecorded))
      rw [hdeadline] at hwait
      split at hwait
      · next hqueued =>
          refine Or.inl ⟨_, (hcolumns _).trans (if_pos hid), hqueued, hwait.symm⟩
      · cases hwait
  | recordNodeAcknowledgement isEarly acknowledgement now => cases hrecorded
  | recordAcknowledgementDeadlinePassed k now => cases hrecorded

theorem AwaitedOk.ran {jobs : List DatabaseJob} (h : AwaitedOk relay)
    (hfirst : job.IsFirstAnswer relay.db) :
    AwaitedOk
      { relay with
        db := (job.run relay.db).1
        jobs
        finished := relay.finished ++ [(job.run relay.db).2] } := by
  refine ⟨fun packetId packet hlookup => (h.awaited packetId packet hlookup).ran hfirst,
    fun before recordedOutcome later deadline hfinished hdeadline => ?_⟩
  rcases List.eq_nil_or_concat later with rfl | ⟨later, last, rfl⟩
  · obtain ⟨-, hlast⟩ := List.append_inj' hfinished rfl
    exact supported_answered hfirst (List.cons.inj hlast).1 hdeadline
  · rw [List.concat_eq_append] at hfinished ⊢
    have hsplit : relay.finished ++ [(job.run relay.db).2] =
        (before ++ .sendOutcome (some recordedOutcome) :: later) ++ [last] := by
      rw [List.append_assoc, List.cons_append]
      exact hfinished
    obtain ⟨hbefore, hlast⟩ := List.append_inj' hsplit rfl
    rw [← (List.cons.inj hlast).1]
    exact (h.registering before recordedOutcome later deadline hbefore hdeadline).ran hfirst

/-- Callers that only take packets out of the tracker. -/
theorem AwaitedOk.continued {finished : List FinishedJob} (h : AwaitedOk relay)
    (hfinished : relay.finished = finishedJob :: finished) (hdb : relay'.db = relay.db)
    (hlater : relay'.finished = finished)
    (hawaited : ∀ packetId packet,
      relay'.tracker.awaitedPackets.lookup packetId = some packet →
      relay.tracker.awaitedPackets.lookup packetId = some packet ∧
          ¬ finishedJob.Releases packetId ∨
        ∃ recordedOutcome, finishedJob = .sendOutcome (some recordedOutcome) ∧
          recordedOutcome.packetId = packetId ∧
          recordedOutcome.acknowledgementDeadlineAt = some packet.deadline) :
    AwaitedOk relay' := by
  refine ⟨fun packetId packet hlookup => ?_,
    fun before recordedOutcome later deadline hsplit hdeadline => ?_⟩
  · rw [hdb, hlater]
    rcases hawaited packetId packet hlookup with ⟨hlookup, hkept⟩ |
      ⟨recordedOutcome, rfl, rfl, hdeadline⟩
    · have hsupported := h.awaited packetId packet hlookup
      rw [hfinished] at hsupported
      exact hsupported.continued hkept
    · exact h.registering [] recordedOutcome finished packet.deadline hfinished hdeadline
  · rw [hdb]
    rw [hlater] at hsplit
    exact h.registering (finishedJob :: before) recordedOutcome later deadline
      (by rw [hfinished, hsplit, List.cons_append]) hdeadline

theorem lookup_foldl_erase (acknowledgedPackets : List AcknowledgedPacket)
    (awaited : AList fun _ : ℕ => AwaitedPacket) {packet : AwaitedPacket}
    (h : (acknowledgedPackets.foldl (fun awaited acknowledged =>
      awaited.erase acknowledged.packetId) awaited).lookup packetId = some packet) :
    awaited.lookup packetId = some packet ∧
      ∀ acknowledged ∈ acknowledgedPackets, acknowledged.packetId ≠ packetId := by
  induction acknowledgedPackets generalizing awaited with
  | nil => exact ⟨h, fun _ hmem => absurd hmem List.not_mem_nil⟩
  | cons acknowledged acknowledgedPackets ih =>
      obtain ⟨hlookup, hothers⟩ := ih _ h
      have hne : acknowledged.packetId ≠ packetId := by
        rintro rfl
        rw [AList.lookup_erase] at hlookup
        cases hlookup
      rw [AList.lookup_erase_ne hne.symm] at hlookup
      exact ⟨hlookup, List.forall_mem_cons.2 ⟨hne, hothers⟩⟩

theorem AwaitedOk.loop (h : AwaitedOk relay) (hcontinued : LoopContinued relay relay') :
    AwaitedOk relay' := by
  cases hcontinued with
  | waits => exact ⟨h.awaited, h.registering⟩
  | handles packetId rest => exact ⟨h.awaited, h.registering⟩

theorem lookup_finishPassedDeadline {tracker : AcknowledgementTracker} {k : ℕ}
    {packet : AwaitedPacket}
    (h : (tracker.finishPassedDeadline k).awaitedPackets.lookup packetId = some packet) :
    tracker.awaitedPackets.lookup packetId = some packet ∧ k ≠ packetId := by
  have hne : k ≠ packetId := by
    rintro rfl
    rw [AcknowledgementTracker.finishPassedDeadline, AList.lookup_erase] at h
    cases h
  rw [AcknowledgementTracker.finishPassedDeadline, AList.lookup_erase_ne hne.symm] at h
  exact ⟨h, hne⟩

/-- **Every caller keeps the awaited packets queued.** -/
theorem AwaitedOk.caller {finished : List FinishedJob} (h : AwaitedOk relay)
    (hfinished : relay.finished = finishedJob :: finished)
    (hcontinued : CallerContinued timing { relay with finished } finishedJob relay') :
    AwaitedOk relay' := by
  have hinsert : ∀ (recordedOutcome : RecordedSendOutcome) (packet : AwaitedPacket),
      finishedJob = .sendOutcome (some recordedOutcome) →
      recordedOutcome.acknowledgementDeadlineAt = some packet.deadline →
      ∀ packetId other, (relay.tracker.awaitedPackets.insert recordedOutcome.packetId
          packet).lookup packetId = some other →
        relay.tracker.awaitedPackets.lookup packetId = some other ∧
            ¬ finishedJob.Releases packetId ∨
          ∃ recordedOutcome, finishedJob = .sendOutcome (some recordedOutcome) ∧
            recordedOutcome.packetId = packetId ∧
            recordedOutcome.acknowledgementDeadlineAt = some other.deadline := by
    rintro recordedOutcome packet rfl hdeadline packetId other hlookup
    by_cases hsame : packetId = recordedOutcome.packetId
    · subst hsame
      rw [AList.lookup_insert] at hlookup
      obtain rfl := Option.some.inj hlookup
      exact Or.inr ⟨recordedOutcome, rfl, rfl, hdeadline⟩
    · rw [AList.lookup_insert_ne hsame] at hlookup
      exact Or.inl ⟨hlookup, fun hreleases => hreleases⟩
  cases hcontinued with
  | unrecorded =>
      exact h.continued hfinished rfl rfl fun _ _ hlookup => Or.inl ⟨hlookup, fun hno => hno⟩
  | notAwaited recordedOutcome hnot =>
      exact h.continued hfinished rfl rfl fun _ _ hlookup => Or.inl ⟨hlookup, fun hno => hno⟩
  | awaited recordedOutcome packet hdeadline hnone =>
      exact h.continued hfinished rfl rfl (hinsert recordedOutcome packet rfl hdeadline)
  | matchedAgain recordedOutcome packet unmatched hdeadline hsome =>
      exact h.continued hfinished rfl rfl (hinsert recordedOutcome packet rfl hdeadline)
  | kept isEarly acknowledgement =>
      refine h.continued hfinished rfl rfl fun packetId packet hlookup =>
        Or.inl ⟨hlookup, ?_⟩
      rintro ⟨acknowledged, hmem, -⟩
      cases hmem
  | matched isEarly acknowledgement acknowledgedPackets hne =>
      refine h.continued hfinished rfl rfl fun packetId packet hlookup => ?_
      obtain ⟨hlookup, hothers⟩ := lookup_foldl_erase acknowledgedPackets _ hlookup
      refine Or.inl ⟨hlookup, ?_⟩
      rintro ⟨acknowledged, hmem, hid⟩
      exact hothers acknowledged hmem hid
  | settles packetId timeout rest hloop =>
      exact h.continued hfinished rfl rfl fun _ _ hlookup =>
        Or.inl (lookup_finishPassedDeadline hlookup)
  | passed packetId timeout rest relay' hloop hloopContinued =>
      refine AwaitedOk.loop ?_ hloopContinued
      exact h.continued hfinished rfl rfl fun _ _ hlookup =>
        Or.inl (lookup_finishPassedDeadline hlookup)
  | stray packetId timeout hloop =>
      exact h.continued hfinished rfl rfl fun _ _ hlookup =>
        Or.inl (lookup_finishPassedDeadline hlookup)

theorem awaitedOk_start (db : Db) (now : Time) : AwaitedOk (.start db now) := by
  refine ⟨fun packetId packet hlookup => ?_,
    fun before recordedOutcome later deadline hsplit => ?_⟩
  · cases hlookup
  · exact absurd hsplit.symm (by simp [AcknowledgingRelay.start])

/-- **Every step keeps the awaited packets queued.** -/
theorem AwaitedOk.step (h : AwaitedOk relay) (hsender : SenderOk relay)
    (hmove : AcknowledgingMove timing relay event relay' registered) : AwaitedOk relay' := by
  cases hmove with
  | nothing | timePassed | handed | answered | pushed => exact ⟨h.awaited, h.registering⟩
  | committed db hkeeps =>
      refine ⟨fun packetId packet hlookup => (h.awaited packetId packet hlookup).committed hkeeps,
        fun before recordedOutcome later deadline hsplit hdeadline => ?_⟩
      exact (h.registering before recordedOutcome later deadline hsplit hdeadline).committed hkeeps
  | ran job jobs hjobs => exact h.ran (hsender.isFirstAnswer hjobs)
  | continued isRunning finishedJob finished relay' hfinished hcontinued =>
      exact h.caller hfinished hcontinued
  | loopWoke wakesAt relay' hloop hcontinued =>
      refine AwaitedOk.loop ?_ hcontinued
      exact ⟨h.awaited, h.registering⟩
  | settled rest relay' hloop hcontinued => exact h.loop hcontinued

end Awaited

/-! ### The loop over the deadlines -/

section Loop

variable {timing : WorkerTiming} {relay relay' : AcknowledgingRelay} {event : AcknowledgingEvent}
  {registered : RegisteredPacket} {finishedJob : FinishedJob}

/-- The loop waits for the call it made, and otherwise wakes at the next deadline. -/
structure LoopOk (relay : AcknowledgingRelay) : Prop where
  calls : relay.calls .deadlineLoop = relay.deadlineLoop.calls
  wakes : ∀ wakesAt, relay.deadlineLoop = .waiting wakesAt → relay.deadlinesChanged = false →
    wakesAt = relay.tracker.findNextDeadline

theorem LoopOk.continues (hcalls : relay.calls .deadlineLoop = 0)
    (hcontinued : LoopContinued relay relay') : LoopOk relay' := by
  cases hcontinued with
  | waits => exact ⟨hcalls, fun wakesAt hloop _ => (DeadlineLoopPhase.waiting.inj hloop).symm⟩
  | handles packetId rest =>
      refine ⟨?_, fun wakesAt hloop _ => by cases hloop⟩
      refine (countCalls_submit _ _ _ _).trans ?_
      rw [show countCalls relay.jobs relay.finished .deadlineLoop = 0 from hcalls]
      rfl

/-- Another caller continues; when the tracker changes, the loop is told. -/
theorem LoopOk.otherCaller {finished : List FinishedJob} (h : LoopOk relay)
    (hfinished : relay.finished = finishedJob :: finished)
    (hcaller : finishedJob.caller ≠ .deadlineLoop) (hlater : relay'.finished = finished)
    (hjobs : relay'.jobs = relay.jobs ∨
      ∃ job, job.caller ≠ .deadlineLoop ∧ relay'.jobs = relay.jobs ++ [job])
    (hloop : relay'.deadlineLoop = relay.deadlineLoop)
    (htold : relay'.deadlinesChanged = false → relay.deadlinesChanged = false ∧
      relay'.tracker.findNextDeadline = relay.tracker.findNextDeadline) : LoopOk relay' := by
  refine ⟨?_, fun wakesAt hwaiting hflag => ?_⟩
  · have hcalls := h.calls
    rw [AcknowledgingRelay.calls, hfinished, countCalls_cons, if_neg hcaller,
      Nat.add_zero] at hcalls
    rw [AcknowledgingRelay.calls, hlater, hloop, ← hcalls]
    rcases hjobs with hjobs | ⟨job, hother, hjobs⟩
    · rw [hjobs]
    · rw [hjobs, countCalls_submit, if_neg hother, Nat.add_zero]
  · obtain ⟨hbefore, hsame⟩ := htold hflag
    exact (h.wakes wakesAt (hloop ▸ hwaiting) hbefore).trans hsame.symm

/-- The call of the loop is its only one. -/
theorem LoopOk.calls_passed {packetId : ℕ} {timeout : Option AcknowledgementTimeout}
    {finished : List FinishedJob} (h : LoopOk relay)
    (hfinished : relay.finished = .deadlinePassed packetId timeout :: finished) :
    countCalls relay.jobs finished .deadlineLoop + 1 = relay.deadlineLoop.calls := by
  have hcalls := h.calls
  rw [AcknowledgingRelay.calls, hfinished, countCalls_cons] at hcalls
  exact hcalls

theorem LoopOk.continued {finished : List FinishedJob} (h : LoopOk relay)
    (hfinished : relay.finished = finishedJob :: finished)
    (hcontinued : CallerContinued timing { relay with finished } finishedJob relay') :
    LoopOk relay' := by
  cases hcontinued with
  | unrecorded =>
      exact h.otherCaller hfinished (by simp [FinishedJob.caller]) rfl (Or.inl rfl) rfl
        fun hflag => ⟨hflag, rfl⟩
  | notAwaited recordedOutcome hnot =>
      exact h.otherCaller hfinished (by simp [FinishedJob.caller]) rfl (Or.inl rfl) rfl
        fun hflag => ⟨hflag, rfl⟩
  | awaited recordedOutcome packet hdeadline hnone =>
      exact h.otherCaller hfinished (by simp [FinishedJob.caller]) rfl (Or.inl rfl) rfl
        fun hflag => by cases hflag
  | matchedAgain recordedOutcome packet unmatched hdeadline hsome =>
      exact h.otherCaller hfinished (by simp [FinishedJob.caller]) rfl
        (Or.inr ⟨_, by simp [DatabaseJob.caller], rfl⟩) rfl fun hflag => by cases hflag
  | kept isEarly acknowledgement =>
      exact h.otherCaller hfinished (by cases isEarly <;> simp [FinishedJob.caller]) rfl
        (Or.inl rfl) rfl fun hflag => ⟨hflag, rfl⟩
  | matched isEarly acknowledgement acknowledgedPackets hne =>
      exact h.otherCaller hfinished (by cases isEarly <;> simp [FinishedJob.caller]) rfl
        (Or.inl rfl) rfl fun hflag => by cases hflag
  | settles packetId timeout rest hloop =>
      have hcalls := h.calls_passed hfinished
      rw [show relay.deadlineLoop = _ from hloop] at hcalls
      refine ⟨?_, fun wakesAt hwaiting _ => by cases hwaiting⟩
      exact Nat.succ.inj hcalls
  | passed packetId timeout rest relay' hloop hloopContinued =>
      have hcalls := h.calls_passed hfinished
      rw [show relay.deadlineLoop = _ from hloop] at hcalls
      refine LoopOk.continues ?_ hloopContinued
      exact Nat.succ.inj hcalls
  | stray packetId timeout hloop =>
      have hcalls := h.calls_passed hfinished
      cases hphase : relay.deadlineLoop with
      | recording rest => exact absurd hphase (hloop rest)
      | waiting wakesAt => rw [hphase] at hcalls; cases hcalls
      | settling rest => rw [hphase] at hcalls; cases hcalls

theorem loopOk_start (db : Db) (now : Time) : LoopOk (.start db now) := by
  refine ⟨rfl, fun wakesAt hloop _ => ?_⟩
  exact (DeadlineLoopPhase.waiting.inj hloop).symm

/-- **Every step keeps what the loop waits for.** -/
theorem LoopOk.step (h : LoopOk relay)
    (hmove : AcknowledgingMove timing relay event relay' registered) : LoopOk relay' := by
  cases hmove with
  | nothing | timePassed | committed | handed => exact ⟨h.calls, h.wakes⟩
  | answered settings outcome packetId hhanded =>
      refine ⟨?_, h.wakes⟩
      refine (countCalls_submit _ _ _ _).trans ?_
      rw [if_neg (by simp [DatabaseJob.caller])]
      exact h.calls
  | pushed acknowledgement =>
      refine ⟨?_, h.wakes⟩
      refine (countCalls_submit _ _ _ _).trans ?_
      rw [if_neg (by simp [DatabaseJob.caller])]
      exact h.calls
  | ran job jobs hjobs =>
      refine ⟨?_, h.wakes⟩
      refine (countCalls_run _ _ _ job relay.db).trans ?_
      exact hjobs ▸ h.calls
  | continued isRunning finishedJob finished relay' hfinished hcontinued =>
      exact h.continued hfinished hcontinued
  | loopWoke wakesAt relay' hloop hcontinued =>
      have hcalls := h.calls
      rw [hloop] at hcalls
      refine LoopOk.continues ?_ hcontinued
      exact hcalls
  | settled rest relay' hloop hcontinued =>
      have hcalls := h.calls
      rw [hloop] at hcalls
      refine LoopOk.continues ?_ hcontinued
      exact hcalls

end Loop

/-! ### When nothing happens any more -/

section Quiescent

variable {relay : AcknowledgingRelay} {packetId : ℕ} {packet : AwaitedPacket}

theorem findNextDeadline_le {tracker : AcknowledgementTracker}
    (h : tracker.awaitedPackets.lookup packetId = some packet) :
    ∃ deadline, tracker.findNextDeadline = some deadline ∧ deadline ≤ packet.deadline := by
  have hmem : packet.deadline ∈
      (tracker.awaitedPackets.entries.map Sigma.snd).map AwaitedPacket.deadline :=
    List.mem_map.2 ⟨packet, List.mem_map.2 ⟨_, AList.mem_lookup_iff.1 h, rfl⟩, rfl⟩
  unfold AcknowledgementTracker.findNextDeadline
  cases hmin : ((tracker.awaitedPackets.entries.map Sigma.snd).map AwaitedPacket.deadline).min? with
  | none =>
      rw [List.min?_eq_none_iff.1 hmin] at hmem
      cases hmem
  | some deadline => exact ⟨deadline, rfl, (List.min?_eq_some_iff.1 hmin).2 _ hmem⟩

/-- **No packet is awaited past its deadline**, nor one that is not queued. -/
theorem awaited_of_quiescent (hawaited : AwaitedOk relay) (hloop : LoopOk relay)
    (hquiescent : relay.IsQuiescent)
    (h : relay.tracker.awaitedPackets.lookup packetId = some packet) :
    relay.now < packet.deadline ∧ ∃ p, relay.db.acknowledgementColumns packetId = some p ∧
      p.state = .queuedOnNode ∧ p.acknowledgementDeadlineAt = some packet.deadline := by
  obtain ⟨⟨-, hfinished⟩, hflag, wakesAt, hwaiting, hahead⟩ := hquiescent
  obtain ⟨deadline, hnext, hle⟩ := findNextDeadline_le h
  have hwakes := hloop.wakes wakesAt hwaiting hflag
  refine ⟨(hahead deadline ?_).trans_le hle, ?_⟩
  · rw [hwakes, hnext]
    rfl
  · rcases hawaited.awaited packetId packet h with hqueued | ⟨finishedJob, hmem, -⟩
    · exact hqueued
    · rw [hfinished] at hmem
      cases hmem

end Quiescent

end HoptalkRelay
