/-
**A push before the answer.**

The push of a packet's code can come before the node's answer was recorded, and be looked up, or
continue, at any moment until the packet is registered.  It is then kept and looked up again.  Once
it is to be looked up when the packet is there, it finds the packet.

Main definitions:

* `HoptalkRelay.AnswersOk`, `HoptalkRelay.AcknowledgingOk` — what holds between two steps;
* `HoptalkRelay.IsMatched` — the code finds its packet, or has done so;
* `HoptalkRelay.EarlyStage`, `HoptalkRelay.IsEarly` — where an early push is.

Main results:

* `HoptalkRelay.AcknowledgingOk.step` — every step keeps the relay in order;
* `HoptalkRelay.IsMatched.step` — a code on its way to the packet arrives;
* `HoptalkRelay.IsEarly.matchedAgain`, `HoptalkRelay.IsEarly.step` — **an early push is matched as
  soon as its packet is registered**.
-/

import HoptalkRelay.Invariants.PushedCodes

set_option relaxedAutoImplicit false
set_option autoImplicit false

namespace HoptalkRelay

open Relational Transition AcknowledgingRelay

/-! ### The columns of a run -/

section Runs

variable {timing : WorkerTiming} {relay relay' : AcknowledgingRelay} {event : AcknowledgingEvent}
  {registered : RegisteredPacket} {finishedJob : FinishedJob}

theorem LoopContinued.db_eq (h : LoopContinued relay relay') : relay'.db = relay.db := by
  cases h <;> rfl

theorem CallerContinued.db_eq (h : CallerContinued timing relay finishedJob relay') :
    relay'.db = relay.db := by
  cases h with
  | passed packetId timeout rest relay' hloop hcontinued => exact hcontinued.db_eq
  | _ => rfl

/-- **A step moves the columns.** -/
theorem AcknowledgingMove.columnsMove (hsender : SenderOk relay)
    (hmove : AcknowledgingMove timing relay event relay' registered) :
    ColumnsMove relay.db.acknowledgementColumns relay'.db.acknowledgementColumns := by
  cases hmove with
  | committed db hkeeps => exact hkeeps.columnsMove
  | ran job jobs hjobs => exact columnsMove_run (hsender.isFirstAnswer hjobs)
  | continued isRunning finishedJob finished relay' hfinished hcontinued =>
      rw [hcontinued.db_eq]
      exact .refl _
  | loopWoke wakesAt relay' hloop hcontinued =>
      rw [hcontinued.db_eq]
      exact .refl _
  | settled rest relay' hloop hcontinued =>
      rw [hcontinued.db_eq]
      exact .refl _
  | _ => exact .refl _

/-- Only a packet the node queued has a time at which it did. -/
def ColumnsSound (db : Db) : Prop :=
  ∀ packetId p, db.acknowledgementColumns packetId = some p → p.IsSound

theorem ColumnsMove.columnsSound {db db' : Db}
    (h : ColumnsMove db.acknowledgementColumns db'.acknowledgementColumns)
    (hsound : ColumnsSound db) : ColumnsSound db' := by
  intro packetId q hq
  rcases h.origin packetId q hq with ⟨p, hp, hlater⟩ | ⟨-, hnone⟩
  · exact hlater.sound (hsound packetId p hp)
  · exact fun hqueued => absurd hnone hqueued

/-- What the sender is about to continue with is what the columns say. -/
def AnswersOk (relay : AcknowledgingRelay) : Prop :=
  ∀ recordedOutcome, .sendOutcome (some recordedOutcome) ∈ relay.finished →
    ∃ p, relay.db.acknowledgementColumns recordedOutcome.packetId = some p ∧
      p.state ≠ .prepared ∧
      p.expectedAcknowledgementCode = recordedOutcome.expectedAcknowledgementCode ∧
      (p.queuedAt ≠ none → recordedOutcome.packetState = .queuedOnNode ∧
        recordedOutcome.acknowledgementDeadlineAt.isSome)

theorem AnswersOk.moved (h : AnswersOk relay)
    (hmove : ColumnsMove relay.db.acknowledgementColumns relay'.db.acknowledgementColumns)
    (hfinished : ∀ finishedJob ∈ relay'.finished, finishedJob ∈ relay.finished) :
    AnswersOk relay' := by
  intro recordedOutcome hmem
  obtain ⟨p, hp, hanswered, hcode, hawaits⟩ := h recordedOutcome (hfinished _ hmem)
  obtain ⟨q, hq, hlater⟩ := hmove.kept _ p hp
  exact ⟨q, hq, hlater.answered hanswered, (hlater.code hanswered).trans hcode,
    fun hqueued => hawaits (hlater.queuedAt hanswered ▸ hqueued)⟩

theorem AnswersOk.ran {job : DatabaseJob} {jobs : List DatabaseJob} (h : AnswersOk relay)
    (hfirst : job.IsFirstAnswer relay.db) (hsound : ColumnsSound relay.db) :
    AnswersOk
      { relay with
        db := (job.run relay.db).1
        jobs
        finished := relay.finished ++ [(job.run relay.db).2] } := by
  intro recordedOutcome hmem
  rcases List.mem_append.1 hmem with hmem | hmem
  · have hbefore : AnswersOk { relay with db := (job.run relay.db).1 } :=
      h.moved (columnsMove_run hfirst) fun _ hmem => hmem
    exact hbefore recordedOutcome hmem
  · have hrun := List.mem_singleton.1 hmem
    cases job with
    | recordSendOutcome settings k outcome now =>
        obtain ⟨p, hp, hprepared⟩ := hfirst
        obtain ⟨hcolumns, other, hother, hid, hstate, hcode, hdeadline⟩ :=
          recordSendOutcome_of_prepared settings outcome now hp hprepared
        obtain rfl : recordedOutcome = other :=
          Option.some.inj ((FinishedJob.sendOutcome.inj hrun).trans hother)
        refine ⟨_, (hcolumns _).trans (if_pos hid), ?_, hcode.symm, fun hqueued => ?_⟩
        · cases outcome <;> simp [AcknowledgementColumns.answer]
        · have hnone : p.queuedAt = none := by
            by_contra hsome
            have hstates := hsound k p hp hsome
            simp [hprepared, packetStatesAwaitingAcknowledgement] at hstates
          cases outcome with
          | queuedOnNode route code timeout => exact ⟨hstate, by rw [hdeadline]; rfl⟩
          | rejectedByNode nodeErrorCode => exact absurd hnone hqueued
          | outcomeUnknown => exact absurd hnone hqueued
    | recordNodeAcknowledgement isEarly acknowledgement now => cases hrun
    | recordAcknowledgementDeadlinePassed k now => cases hrun

theorem LoopContinued.finished_eq (h : LoopContinued relay relay') :
    relay'.finished = relay.finished := by
  cases h <;> rfl

theorem CallerContinued.finished_eq (h : CallerContinued timing relay finishedJob relay') :
    relay'.finished = relay.finished := by
  cases h with
  | passed packetId timeout rest relay' hloop hcontinued => exact hcontinued.finished_eq
  | _ => rfl

/-- What holds of the relay between two steps. -/
structure AcknowledgingOk (relay : AcknowledgingRelay) : Prop where
  sender : SenderOk relay
  awaited : AwaitedOk relay
  loop : LoopOk relay
  sound : ColumnsSound relay.db
  answers : AnswersOk relay

theorem acknowledgingOk_start {db : Db} (hsound : ColumnsSound db) (now : Time) :
    AcknowledgingOk (.start db now) :=
  ⟨senderOk_start db now, awaitedOk_start db now, loopOk_start db now, hsound,
    fun _ hmem => absurd hmem List.not_mem_nil⟩

/-- **Every step keeps the relay in order.** -/
theorem AcknowledgingOk.step (h : AcknowledgingOk relay)
    (hmove : AcknowledgingMove timing relay event relay' registered) : AcknowledgingOk relay' := by
  have hcolumns := hmove.columnsMove h.sender
  refine ⟨h.sender.step hmove, h.awaited.step h.sender hmove, h.loop.step hmove,
    hcolumns.columnsSound h.sound, ?_⟩
  cases hmove with
  | ran job jobs hjobs => exact h.answers.ran (h.sender.isFirstAnswer hjobs) h.sound
  | continued isRunning finishedJob finished relay' hfinished hcontinued =>
      refine h.answers.moved hcolumns fun other hmem => ?_
      rw [hcontinued.finished_eq] at hmem
      exact hfinished ▸ List.mem_cons_of_mem _ hmem
  | loopWoke wakesAt relay' hloop hcontinued =>
      refine h.answers.moved hcolumns fun other hmem => ?_
      rwa [hcontinued.finished_eq] at hmem
  | settled rest relay' hloop hcontinued =>
      refine h.answers.moved hcolumns fun other hmem => ?_
      rwa [hcontinued.finished_eq] at hmem
  | _ => exact h.answers.moved hcolumns fun _ hmem => hmem

/-- What an answered packet keeps to the end of a run. -/
theorem answered_of_run {db : Db} {now : Time}
    {history : List (AcknowledgingEvent × RegisteredPacket)}
    (run : (acknowledgingRelay timing db now).Run relay history relay')
    (h : AcknowledgingOk relay) {packetId : ℕ} {p q : AcknowledgementColumns}
    (hp : relay.db.acknowledgementColumns packetId = some p) (hanswered : p.state ≠ .prepared)
    (hq : relay'.db.acknowledgementColumns packetId = some q) :
    q.expectedAcknowledgementCode = p.expectedAcknowledgementCode ∧ q.queuedAt = p.queuedAt := by
  have hlater := run.invariant'
    (P := fun u => AcknowledgingOk u ∧
      ∃ r, u.db.acknowledgementColumns packetId = some r ∧ LaterAnswer p r)
    ⟨h, p, hp, .refl p⟩ fun u i ⟨hok, r, hr, hlater⟩ => by
      have hmove := acknowledgingStep_move timing u i
      obtain ⟨r', hr', hlater'⟩ := (hmove.columnsMove hok.sender).kept packetId r hr
      exact ⟨hok.step hmove, r', hr', hlater.trans hlater'⟩
  obtain ⟨-, r, hr, hlater⟩ := hlater
  obtain rfl := Option.some.inj (hr.symm.trans hq)
  exact ⟨hlater.code hanswered, hlater.queuedAt hanswered⟩

end Runs

/-! ### A code that is about to be looked up -/

section Matching

variable {timing : WorkerTiming} {relay relay' : AcknowledgingRelay} {event : AcknowledgingEvent}
  {registered : RegisteredPacket} {finishedJob : FinishedJob} {packetId : ℕ} {code : Text}
  {queuedAt : Time}

/-- What the columns of the packet will be, once it is answered. -/
def WillBeQueued (packetId : ℕ) (code : Text) (queuedAt : Time) (relay : AcknowledgingRelay) :
    Prop :=
  ∀ p, relay.db.acknowledgementColumns packetId = some p → p.state ≠ .prepared →
    p.expectedAcknowledgementCode = code ∧ p.queuedAt = some queuedAt

/-- The packet is acknowledged, or its code will be looked up in time when the packet is there. -/
def IsMatched (packetId : ℕ) (code : Text) (queuedAt : Time) (relay : AcknowledgingRelay) : Prop :=
  (∃ p, relay.db.acknowledgementColumns packetId = some p ∧ p.state = .nodeAcknowledged) ∨
    ∃ before isEarly acknowledgement now after,
      relay.jobs = before ++ .recordNodeAcknowledgement isEarly acknowledgement now :: after ∧
        acknowledgement.code.map Char.toLower = code ∧
        now - durationOfMinutes lateAcknowledgementMatchMinutes ≤ queuedAt ∧
        ((∃ p, relay.db.acknowledgementColumns packetId = some p ∧ p.state ≠ .prepared) ∨
          ∃ settings outcome answeredAt,
            .recordSendOutcome settings packetId outcome answeredAt ∈ before)

/-- The lookup finds the packet. -/
theorem acknowledged_of_lookup {db : Db} {p : AcknowledgementColumns} (isEarly : Bool)
    {acknowledgement : NodeAcknowledgement} {now : Time}
    (hp : db.acknowledgementColumns packetId = some p)
    (hcode : p.expectedAcknowledgementCode = acknowledgement.code.map Char.toLower)
    (hqueued : p.queuedAt = some queuedAt) (hsound : p.IsSound)
    (hintime : now - durationOfMinutes lateAcknowledgementMatchMinutes ≤ queuedAt) :
    ∃ q, ((DatabaseJob.recordNodeAcknowledgement isEarly acknowledgement now).run
        db).1.acknowledgementColumns packetId = some q ∧ q.state = .nodeAcknowledged := by
  refine ⟨p.acknowledge acknowledgement.code now, ?_, ?_⟩
  · refine (acknowledgementColumns_recordNodeAcknowledgement _ _ _ packetId).trans ?_
    rw [hp, Option.map_some]
  · rcases hsound (by simp [hqueued]) with hawaits | hacknowledged
    · have hmatch : p.isMatchedBy acknowledgement.code now = true := by
        simp only [AcknowledgementColumns.isMatchedBy, hcode, hqueued, Bool.and_eq_true,
          decide_eq_true_eq, List.contains_iff_mem, Option.any_some]
        exact ⟨⟨trivial, hawaits⟩, hintime⟩
      rw [AcknowledgementColumns.acknowledge, if_pos hmatch]
    · exact (laterAnswer_acknowledge acknowledgement.code now p).acknowledged hacknowledged

theorem IsMatched.submit {jobs : List DatabaseJob} (h : IsMatched packetId code queuedAt relay)
    (hdb : ∀ p, relay.db.acknowledgementColumns packetId = some p →
      relay'.db.acknowledgementColumns packetId = some p)
    (hjobs : relay'.jobs = relay.jobs ++ jobs) : IsMatched packetId code queuedAt relay' := by
  rcases h with ⟨p, hp, hacknowledged⟩ |
    ⟨before, isEarly, acknowledgement, now, after, hsplit, hcode, hintime, hthere⟩
  · exact Or.inl ⟨p, hdb p hp, hacknowledged⟩
  · refine Or.inr ⟨before, isEarly, acknowledgement, now, after ++ jobs, ?_, hcode, hintime, ?_⟩
    · rw [hjobs, hsplit, List.append_assoc, List.cons_append]
    · exact hthere.imp_left fun ⟨p, hp, hanswered⟩ => ⟨p, hdb p hp, hanswered⟩

theorem LoopContinued.jobs_eq (h : LoopContinued relay relay') :
    ∃ jobs, relay'.jobs = relay.jobs ++ jobs ∧ ∀ job ∈ jobs, job.isAnswer = false := by
  cases h with
  | waits => exact ⟨[], (List.append_nil _).symm, fun _ hmem => absurd hmem List.not_mem_nil⟩
  | handles packetId rest =>
      exact ⟨_, rfl, fun job hmem => by rw [List.mem_singleton.1 hmem]; rfl⟩

theorem CallerContinued.jobs_eq (h : CallerContinued timing relay finishedJob relay') :
    ∃ jobs, relay'.jobs = relay.jobs ++ jobs ∧ ∀ job ∈ jobs, job.isAnswer = false := by
  cases h with
  | matchedAgain recordedOutcome packet unmatched hdeadline hsome =>
      exact ⟨_, rfl, fun job hmem => by rw [List.mem_singleton.1 hmem]; rfl⟩
  | passed packetId timeout rest relay' hloop hcontinued => exact hcontinued.jobs_eq
  | _ => exact ⟨[], (List.append_nil _).symm, fun _ hmem => absurd hmem List.not_mem_nil⟩

theorem IsMatched.ran {job : DatabaseJob} {jobs : List DatabaseJob} (hok : AcknowledgingOk relay)
    (h : IsMatched packetId code queuedAt relay) (hjobs : relay.jobs = job :: jobs)
    (hwill : WillBeQueued packetId code queuedAt
      { relay with
        db := (job.run relay.db).1
        jobs
        finished := relay.finished ++ [(job.run relay.db).2] }) :
    IsMatched packetId code queuedAt
      { relay with
        db := (job.run relay.db).1
        jobs
        finished := relay.finished ++ [(job.run relay.db).2] } := by
  have hfirst := hok.sender.isFirstAnswer hjobs
  have hmove := columnsMove_run hfirst
  rcases h with ⟨p, hp, hacknowledged⟩ |
    ⟨before, isEarly, acknowledgement, now, after, hsplit, hcode, hintime, hthere⟩
  · obtain ⟨q, hq, hlater⟩ := hmove.kept packetId p hp
    exact Or.inl ⟨q, hq, hlater.acknowledged hacknowledged⟩
  · cases before with
    | nil =>
        obtain ⟨rfl, -⟩ := List.cons.inj (hjobs.symm.trans hsplit)
        rcases hthere with ⟨p, hp, hanswered⟩ | ⟨settings, outcome, answeredAt, hmem⟩
        · obtain ⟨q, hq, hlater⟩ := hmove.kept packetId p hp
          obtain ⟨hqcode, hqqueued⟩ := hwill q hq (hlater.answered hanswered)
          refine Or.inl (acknowledged_of_lookup isEarly hp ?_ ?_ (hok.sound packetId p hp) hintime)
          · rw [hcode, ← hqcode, hlater.code hanswered]
          · rw [← hqqueued, hlater.queuedAt hanswered]
        · cases hmem
    | cons first before =>
        obtain ⟨rfl, hrest⟩ := List.cons.inj (hjobs.symm.trans hsplit)
        refine Or.inr ⟨before, isEarly, acknowledgement, now, after, hrest, hcode, hintime, ?_⟩
        rcases hthere with ⟨p, hp, hanswered⟩ | ⟨settings, outcome, answeredAt, hmem⟩
        · obtain ⟨q, hq, hlater⟩ := hmove.kept packetId p hp
          exact Or.inl ⟨q, hq, hlater.answered hanswered⟩
        · rcases List.mem_cons.1 hmem with rfl | hmem
          · obtain ⟨p, hp, hprepared⟩ := hfirst
            obtain ⟨hcolumns, -⟩ :=
              recordSendOutcome_of_prepared settings outcome answeredAt hp hprepared
            refine Or.inl ⟨_, (hcolumns packetId).trans (if_pos rfl), ?_⟩
            cases outcome <;> simp [AcknowledgementColumns.answer]
          · exact Or.inr ⟨settings, outcome, answeredAt, hmem⟩

/-- **A code on its way to the packet arrives.** -/
theorem IsMatched.step (hok : AcknowledgingOk relay) (h : IsMatched packetId code queuedAt relay)
    (hmove : AcknowledgingMove timing relay event relay' registered)
    (hwill : WillBeQueued packetId code queuedAt relay') :
    IsMatched packetId code queuedAt relay' := by
  cases hmove with
  | nothing | timePassed | handed =>
      exact h.submit (fun _ hp => hp) (List.append_nil _).symm
  | committed db hkeeps => exact h.submit (fun _ hp => hkeeps.columns hp) (List.append_nil _).symm
  | answered | pushed => exact h.submit (fun _ hp => hp) rfl
  | ran job jobs hjobs => exact h.ran hok hjobs hwill
  | continued isRunning finishedJob finished relay' hfinished hcontinued =>
      obtain ⟨jobs, hjobs, -⟩ := hcontinued.jobs_eq
      exact h.submit (fun p hp => hcontinued.db_eq ▸ hp) hjobs
  | loopWoke wakesAt relay' hloop hcontinued =>
      obtain ⟨jobs, hjobs, -⟩ := hcontinued.jobs_eq
      exact h.submit (fun p hp => hcontinued.db_eq ▸ hp) hjobs
  | settled rest relay' hloop hcontinued =>
      obtain ⟨jobs, hjobs, -⟩ := hcontinued.jobs_eq
      exact h.submit (fun p hp => hcontinued.db_eq ▸ hp) hjobs

end Matching

/-! ### A push that came early -/

section Early

variable {timing : WorkerTiming} {relay relay' : AcknowledgingRelay} {event : AcknowledgingEvent}
  {registered : RegisteredPacket} {finishedJob : FinishedJob} {packetId : ℕ}
  {acknowledgement : NodeAcknowledgement} {pushedAt queuedAt : Time}

/-- The monotonic clock at a wall time. -/
def monotonicSeconds (time : Time) : Seconds := time / 1000000

/-- What the sender continues with. -/
def FinishedJob.isAnswer : FinishedJob → Bool
  | .sendOutcome _ => true
  | _ => false

/-- No packet matches the code of the push. -/
def MatchesNothing (acknowledgement : NodeAcknowledgement) (pushedAt : Time) (db : Db) : Prop :=
  ∀ k p, db.acknowledgementColumns k = some p → p.isMatchedBy acknowledgement.code pushedAt = false

/-- Where an early push is, until the packet it belongs to is registered. -/
inductive EarlyStage (timing : WorkerTiming) (acknowledgement : NodeAcknowledgement)
    (pushedAt : Time) (relay : AcknowledgingRelay) : Prop
  | submitted (before after : List DatabaseJob)
      (hjobs : relay.jobs =
        before ++ .recordNodeAcknowledgement false acknowledgement pushedAt :: after)
      (hbefore : ∀ job ∈ before, job.isAnswer = false)
      (hfinished : ∀ finishedJob ∈ relay.finished, finishedJob.isAnswer = false)
      (hnone : MatchesNothing acknowledgement pushedAt relay.db)
  | lookedUp (before after : List FinishedJob)
      (hfinished : relay.finished =
        before ++ .nodeAcknowledgement false acknowledgement [] :: after)
      (hbefore : ∀ finishedJob ∈ before, finishedJob.isAnswer = false)
  | kept (unmatched : UnmatchedAcknowledgement)
      (hlookup : relay.tracker.unmatchedAcknowledgements.lookup acknowledgement.code =
        some unmatched)
      (hreceived : monotonicSeconds pushedAt ≤ unmatched.receivedAt)
  | forgotten (hold : timing.unmatchedAcknowledgementLifetimeSeconds ≤
      relay.monotonic - monotonicSeconds pushedAt)

/-- The push came before the answer of the packet the sender has. -/
structure IsEarly (timing : WorkerTiming) (packetId : ℕ) (acknowledgement : NodeAcknowledgement)
    (pushedAt : Time) (relay : AcknowledgingRelay) : Prop where
  sender : relay.sender = .handed packetId ∨ relay.sender = .recording packetId
  now : pushedAt ≤ relay.now
  answering : ∀ settings k outcome answeredAt,
    .recordSendOutcome settings k outcome answeredAt ∈ relay.jobs → pushedAt ≤ answeredAt
  queued : ∀ p queuedAt, relay.db.acknowledgementColumns packetId = some p →
    p.queuedAt = some queuedAt → pushedAt ≤ queuedAt
  stage : EarlyStage timing acknowledgement pushedAt relay

/-- What changes no packet and adds no answer leaves an early push where it is. -/
theorem IsEarly.submit {jobs : List DatabaseJob}
    (h : IsEarly timing packetId acknowledgement pushedAt relay)
    (hsender : relay'.sender = relay.sender) (hnow : relay.now ≤ relay'.now)
    (hcolumns : ∀ k q, relay'.db.acknowledgementColumns k = some q →
      relay.db.acknowledgementColumns k = some q ∨ q.state = .prepared ∧ q.queuedAt = none)
    (hjobs : relay'.jobs = relay.jobs ++ jobs) (hanswers : ∀ job ∈ jobs, job.isAnswer = false)
    (hfinished : relay'.finished = relay.finished)
    (hunmatched : relay'.tracker.unmatchedAcknowledgements =
      relay.tracker.unmatchedAcknowledgements) :
    IsEarly timing packetId acknowledgement pushedAt relay' := by
  refine ⟨hsender ▸ h.sender, h.now.trans hnow, fun settings k outcome answeredAt hmem => ?_,
    fun q queuedAt hq hqueued => ?_, ?_⟩
  · rw [hjobs] at hmem
    rcases List.mem_append.1 hmem with hmem | hmem
    · exact h.answering settings k outcome answeredAt hmem
    · have hno := hanswers _ hmem
      cases hno
  · rcases hcolumns packetId q hq with hbefore | ⟨-, hnone⟩
    · exact h.queued q queuedAt hbefore hqueued
    · rw [hnone] at hqueued
      cases hqueued
  · cases h.stage with
    | submitted before after hsplit hbefore hothers hnone =>
        refine .submitted before (after ++ jobs) ?_ hbefore (hfinished ▸ hothers) fun k q hq => ?_
        · rw [hjobs, hsplit, List.append_assoc, List.cons_append]
        · rcases hcolumns k q hq with hbefore | ⟨hprepared, -⟩
          · exact hnone k q hbefore
          · exact Bool.eq_false_iff.2 fun hmatch => ne_prepared_of_isMatchedBy hmatch hprepared
    | lookedUp before after hsplit hbefore =>
        exact .lookedUp before after (hfinished.trans hsplit) hbefore
    | kept unmatched hlookup hreceived =>
        exact .kept unmatched (hunmatched ▸ hlookup) hreceived
    | forgotten hold =>
        refine .forgotten (hold.trans (sub_le_sub_right ?_ _))
        have hcast : (relay.now : ℚ) ≤ relay'.now := by exact_mod_cast hnow
        exact div_le_div_of_nonneg_right hcast (by norm_num)

theorem isMatchedBy_of_run {db : Db} {job : DatabaseJob} (hjob : job.isAnswer = false) {k : ℕ}
    {q : AcknowledgementColumns} {code : Text} {now : Time}
    (hq : (job.run db).1.acknowledgementColumns k = some q)
    (hmatch : q.isMatchedBy code now = true) :
    ∃ p, db.acknowledgementColumns k = some p ∧ p.isMatchedBy code now = true := by
  cases job with
  | recordSendOutcome settings packetId outcome answeredAt => cases hjob
  | recordNodeAcknowledgement isEarly acknowledgement answeredAt =>
      have hafter := (acknowledgementColumns_recordNodeAcknowledgement _ _ _ k).symm.trans hq
      obtain ⟨p, hp, rfl⟩ := Option.map_eq_some_iff.1 hafter
      refine ⟨p, hp, ?_⟩
      unfold AcknowledgementColumns.acknowledge at hmatch
      split at hmatch
      · simp [AcknowledgementColumns.isMatchedBy, packetStatesAwaitingAcknowledgement] at hmatch
      · exact hmatch
  | recordAcknowledgementDeadlinePassed packetId answeredAt =>
      have hafter :=
        (acknowledgementColumns_recordAcknowledgementDeadlinePassed _ _ k).symm.trans hq
      split at hafter
      · obtain ⟨p, hp, rfl⟩ := Option.map_eq_some_iff.1 hafter
        refine ⟨p, hp, ?_⟩
        unfold AcknowledgementColumns.passDeadline at hmatch
        split at hmatch
        · next hqueued =>
            simpa [AcknowledgementColumns.isMatchedBy, packetStatesAwaitingAcknowledgement,
              hqueued] using hmatch
        · exact hmatch
      · exact ⟨q, hafter, hmatch⟩

/-- A time of queueing comes from the answer. -/
theorem queuedAt_of_run {db : Db} {job : DatabaseJob} (hfirst : job.IsFirstAnswer db) {k : ℕ}
    {q : AcknowledgementColumns} {time : Time}
    (hq : (job.run db).1.acknowledgementColumns k = some q) (hqueued : q.queuedAt = some time) :
    (∃ p, db.acknowledgementColumns k = some p ∧ p.queuedAt = some time) ∨
      ∃ settings outcome, job = .recordSendOutcome settings k outcome time := by
  cases job with
  | recordSendOutcome settings packetId outcome answeredAt =>
      obtain ⟨p, hp, hprepared⟩ := hfirst
      obtain ⟨hcolumns, -⟩ := recordSendOutcome_of_prepared settings outcome answeredAt hp hprepared
      have hafter := (hcolumns k).symm.trans hq
      split at hafter
      · next hk =>
          subst hk
          obtain rfl := Option.some.inj hafter
          cases outcome with
          | queuedOnNode route code timeout =>
              obtain rfl := Option.some.inj hqueued
              exact Or.inr ⟨settings, _, rfl⟩
          | rejectedByNode nodeErrorCode => exact Or.inl ⟨p, hp, hqueued⟩
          | outcomeUnknown => exact Or.inl ⟨p, hp, hqueued⟩
      · exact Or.inl ⟨q, hafter, hqueued⟩
  | recordNodeAcknowledgement isEarly acknowledgement answeredAt =>
      have hafter := (acknowledgementColumns_recordNodeAcknowledgement _ _ _ k).symm.trans hq
      obtain ⟨p, hp, rfl⟩ := Option.map_eq_some_iff.1 hafter
      refine Or.inl ⟨p, hp, ?_⟩
      unfold AcknowledgementColumns.acknowledge at hqueued
      split at hqueued <;> exact hqueued
  | recordAcknowledgementDeadlinePassed packetId answeredAt =>
      have hafter :=
        (acknowledgementColumns_recordAcknowledgementDeadlinePassed _ _ k).symm.trans hq
      split at hafter
      · obtain ⟨p, hp, rfl⟩ := Option.map_eq_some_iff.1 hafter
        refine Or.inl ⟨p, hp, ?_⟩
        unfold AcknowledgementColumns.passDeadline at hqueued
        split at hqueued <;> exact hqueued
      · exact Or.inl ⟨q, hafter, hqueued⟩

theorem isAnswer_run (db : Db) (job : DatabaseJob) : (job.run db).2.isAnswer = job.isAnswer := by
  cases job <;> rfl

/-- A code that matches nothing is kept. -/
theorem run_matchesNothing {db : Db} (h : MatchesNothing acknowledgement pushedAt db)
    (isEarly : Bool) :
    ((DatabaseJob.recordNodeAcknowledgement isEarly acknowledgement pushedAt).run db).2 =
      .nodeAcknowledgement isEarly acknowledgement [] := by
  have hnil : (recordNodeAcknowledgement db acknowledgement.code
      acknowledgement.roundTripMilliseconds pushedAt).2 = [] := by
    refine List.eq_nil_iff_forall_not_mem.2 fun acknowledged hmem => ?_
    obtain ⟨p, hp, hmatch⟩ := (mem_acknowledged_iff _).1 ⟨acknowledged, hmem, rfl⟩
    rw [h _ p hp] at hmatch
    cases hmatch
  exact congrArg (FinishedJob.nodeAcknowledgement isEarly acknowledgement) hnil

theorem IsEarly.ran {job : DatabaseJob} {jobs : List DatabaseJob} (hok : AcknowledgingOk relay)
    (h : IsEarly timing packetId acknowledgement pushedAt relay)
    (hjobs : relay.jobs = job :: jobs) :
    IsEarly timing packetId acknowledgement pushedAt
      { relay with
        db := (job.run relay.db).1
        jobs
        finished := relay.finished ++ [(job.run relay.db).2] } := by
  have hfirst := hok.sender.isFirstAnswer hjobs
  refine ⟨h.sender, h.now, fun settings k outcome answeredAt hmem => ?_,
    fun q queuedAt hq hqueued => ?_, ?_⟩
  · exact h.answering settings k outcome answeredAt (hjobs ▸ List.mem_cons_of_mem _ hmem)
  · rcases queuedAt_of_run hfirst hq hqueued with ⟨p, hp, hbefore⟩ | ⟨settings, outcome, rfl⟩
    · exact h.queued p queuedAt hp hbefore
    · exact h.answering settings packetId outcome queuedAt (hjobs ▸ List.mem_cons_self)
  · cases h.stage with
    | submitted before after hsplit hbefore hothers hnone =>
        cases before with
        | nil =>
            obtain ⟨rfl, -⟩ := List.cons.inj (hjobs.symm.trans hsplit)
            exact .lookedUp relay.finished [] (by rw [run_matchesNothing hnone]) hothers
        | cons first before =>
            obtain ⟨rfl, hrest⟩ := List.cons.inj (hjobs.symm.trans hsplit)
            have hjob := hbefore job List.mem_cons_self
            refine .submitted before after hrest
              (fun other hmem => hbefore other (List.mem_cons_of_mem _ hmem))
              (fun finishedJob hmem => ?_) fun k q hq => ?_
            · rcases List.mem_append.1 hmem with hmem | hmem
              · exact hothers finishedJob hmem
              · rw [List.mem_singleton.1 hmem, isAnswer_run, hjob]
            · refine Bool.eq_false_iff.2 fun hmatch => ?_
              obtain ⟨p, hp, hbeforeMatch⟩ := isMatchedBy_of_run hjob hq hmatch
              rw [hnone k p hp] at hbeforeMatch
              cases hbeforeMatch
    | lookedUp before after hsplit hbefore =>
        refine .lookedUp before (after ++ [(job.run relay.db).2]) ?_ hbefore
        rw [hsplit, List.append_assoc, List.cons_append]
    | kept unmatched hlookup hreceived => exact .kept unmatched hlookup hreceived
    | forgotten hold => exact .forgotten hold

/-! The callers that continue meanwhile. -/

theorem CallerContinued.now_eq (h : CallerContinued timing relay finishedJob relay') :
    relay'.now = relay.now := by
  cases h with
  | passed packetId timeout rest relay' hloop hcontinued => cases hcontinued <;> rfl
  | _ => rfl

theorem CallerContinued.sender_eq (h : CallerContinued timing relay finishedJob relay')
    (hcaller : finishedJob.caller ≠ .sender) : relay'.sender = relay.sender := by
  cases h with
  | unrecorded | notAwaited | awaited | matchedAgain => exact absurd rfl hcaller
  | kept isEarly acknowledgement | matched isEarly acknowledgement acknowledgedPackets hne =>
      cases isEarly with
      | true => exact absurd rfl hcaller
      | false => rfl
  | settles | stray => rfl
  | passed packetId timeout rest relay' hloop hcontinued => cases hcontinued <;> rfl

theorem CallerContinued.unmatched_eq (h : CallerContinued timing relay finishedJob relay')
    (hcaller : finishedJob.caller ≠ .sender) :
    (relay'.tracker.unmatchedAcknowledgements = relay.tracker.unmatchedAcknowledgements ∧
        ∀ isEarly other, finishedJob ≠ .nodeAcknowledgement isEarly other []) ∨
      ∃ isEarly other, finishedJob = .nodeAcknowledgement isEarly other [] ∧
        relay'.tracker.unmatchedAcknowledgements =
          (unmatchedByNow timing relay).insert other.code
            ⟨other.roundTripMilliseconds, relay.monotonic⟩ := by
  cases h with
  | unrecorded | notAwaited | awaited | matchedAgain => exact absurd rfl hcaller
  | kept isEarly other => exact Or.inr ⟨isEarly, other, rfl, rfl⟩
  | matched isEarly other acknowledgedPackets hne =>
      refine Or.inl ⟨rfl, fun isEarly' other' hsame => hne ?_⟩
      exact (FinishedJob.nodeAcknowledgement.inj hsame).2.2
  | settles | stray => exact Or.inl ⟨rfl, fun _ _ hsame => by cases hsame⟩
  | passed packetId timeout rest relay' hloop hcontinued =>
      refine Or.inl ⟨?_, fun _ _ hsame => by cases hsame⟩
      cases hcontinued <;> rfl

/-- A push that is kept is kept until it is too old, whoever else's push is kept meanwhile. -/
theorem EarlyStage.keeps {unmatched : UnmatchedAcknowledgement} (other : NodeAcknowledgement)
    (hnow : pushedAt ≤ relay.now)
    (hlookup : relay.tracker.unmatchedAcknowledgements.lookup acknowledgement.code =
      some unmatched)
    (hreceived : monotonicSeconds pushedAt ≤ unmatched.receivedAt)
    (hmonotonic : relay'.monotonic = relay.monotonic)
    (hinserted : relay'.tracker.unmatchedAcknowledgements =
      (unmatchedByNow timing relay).insert other.code
        ⟨other.roundTripMilliseconds, relay.monotonic⟩) :
    EarlyStage timing acknowledgement pushedAt relay' := by
  by_cases hcode : acknowledgement.code = other.code
  · refine .kept ⟨other.roundTripMilliseconds, relay.monotonic⟩ ?_ ?_
    · rw [hinserted, hcode, AList.lookup_insert]
    · have hcast : (pushedAt : ℚ) ≤ relay.now := by exact_mod_cast hnow
      exact div_le_div_of_nonneg_right hcast (by norm_num)
  · by_cases hyoung : relay.monotonic - unmatched.receivedAt <
        timing.unmatchedAcknowledgementLifetimeSeconds
    · refine .kept unmatched ?_ hreceived
      rw [hinserted, AList.lookup_insert_ne hcode]
      exact lookup_unmatchedByNow.2 ⟨hlookup, hyoung⟩
    · refine .forgotten ((not_lt.1 hyoung).trans ?_)
      rw [hmonotonic]
      exact sub_le_sub_left hreceived _

/-- A caller other than the sender. -/
theorem IsEarly.otherCaller {finished : List FinishedJob}
    (h : IsEarly timing packetId acknowledgement pushedAt relay)
    (hfinished : relay.finished = finishedJob :: finished)
    (hcaller : finishedJob.caller ≠ .sender)
    (hcontinued : CallerContinued timing { relay with finished } finishedJob relay') :
    IsEarly timing packetId acknowledgement pushedAt relay' := by
  obtain ⟨jobs, hjobs, hanswers⟩ := hcontinued.jobs_eq
  have hnow : relay'.now = relay.now := hcontinued.now_eq
  have hmonotonic : relay'.monotonic = relay.monotonic := by
    rw [AcknowledgingRelay.monotonic, AcknowledgingRelay.monotonic, hnow]
  have hlater : relay'.finished = finished := hcontinued.finished_eq
  refine ⟨(hcontinued.sender_eq hcaller) ▸ h.sender, hnow ▸ h.now,
    fun settings k outcome answeredAt hmem => ?_, fun p queuedAt hp hqueued => ?_, ?_⟩
  · rw [hjobs] at hmem
    rcases List.mem_append.1 hmem with hmem | hmem
    · exact h.answering settings k outcome answeredAt hmem
    · have hno := hanswers _ hmem
      cases hno
  · rw [hcontinued.db_eq] at hp
    exact h.queued p queuedAt hp hqueued
  · cases h.stage with
    | submitted before after hsplit hbefore hothers hnone =>
        refine .submitted before (after ++ jobs) ?_ hbefore (fun other hmem => ?_) ?_
        · rw [hjobs, show relay.jobs = _ from hsplit, List.append_assoc, List.cons_append]
        · rw [hlater] at hmem
          exact hothers other (hfinished ▸ List.mem_cons_of_mem _ hmem)
        · rw [hcontinued.db_eq]
          exact hnone
    | lookedUp before after hsplit hbefore =>
        cases before with
        | nil =>
            obtain ⟨rfl, -⟩ := List.cons.inj (hfinished.symm.trans hsplit)
            rcases hcontinued.unmatched_eq hcaller with ⟨-, hno⟩ |
              ⟨isEarly, other, hsame, hinserted⟩
            · exact absurd rfl (hno false acknowledgement)
            · obtain ⟨-, rfl, -⟩ := FinishedJob.nodeAcknowledgement.inj hsame
              refine .kept ⟨acknowledgement.roundTripMilliseconds, relay.monotonic⟩ ?_ ?_
              · rw [hinserted, AList.lookup_insert]
                rfl
              · have hcast : (pushedAt : ℚ) ≤ relay.now := by exact_mod_cast h.now
                exact div_le_div_of_nonneg_right hcast (by norm_num)
        | cons first before =>
            obtain ⟨rfl, hrest⟩ := List.cons.inj (hfinished.symm.trans hsplit)
            exact .lookedUp before after (hlater.trans hrest) fun other hmem =>
              hbefore other (List.mem_cons_of_mem _ hmem)
    | kept unmatched hlookup hreceived =>
        rcases hcontinued.unmatched_eq hcaller with ⟨hsame, -⟩ | ⟨isEarly, other, -, hinserted⟩
        · exact .kept unmatched (hsame ▸ hlookup) hreceived
        · exact EarlyStage.keeps other h.now hlookup hreceived hmonotonic hinserted
    | forgotten hold => exact .forgotten (hmonotonic ▸ hold)

/-- **The packet is registered**: the early push is matched again. -/
theorem IsEarly.matchedAgain {finished : List FinishedJob} (hok : AcknowledgingOk relay)
    (h : IsEarly timing packetId acknowledgement pushedAt relay)
    (hlower : acknowledgement.code.map Char.toLower = acknowledgement.code)
    (hlifetime : timing.unmatchedAcknowledgementLifetimeSeconds ≤ 600)
    (hfinished : relay.finished = finishedJob :: finished)
    (hcaller : finishedJob.caller = .sender)
    (hcontinued : CallerContinued timing { relay with finished } finishedJob relay')
    (hyoung : registeredBy finishedJob relay.now = some (packetId, relay.now) →
      relay.monotonic - monotonicSeconds pushedAt <
        timing.unmatchedAcknowledgementLifetimeSeconds)
    (hwill : WillBeQueued packetId acknowledgement.code queuedAt relay') :
    IsMatched packetId acknowledgement.code queuedAt relay' := by
  have hresumes := hok.sender.resumes finishedJob (hfinished ▸ List.mem_cons_self) hcaller
  obtain ⟨recordedOutcome, rfl, hid⟩ : ∃ recordedOutcome,
      finishedJob = .sendOutcome (some recordedOutcome) ∧
        recordedOutcome.packetId = packetId := by
    cases finishedJob with
    | sendOutcome recorded =>
        obtain ⟨recordedOutcome, rfl, hphase⟩ := hresumes
        refine ⟨recordedOutcome, rfl, ?_⟩
        rcases h.sender with hsender | hsender
        · rw [hsender] at hphase
          cases hphase
        · rw [hsender] at hphase
          exact (SendPhase.recording.inj hphase).symm
    | nodeAcknowledgement isEarly other acknowledgedPackets =>
        have hphase : relay.sender = .acknowledging := hresumes
        rcases h.sender with hsender | hsender <;> rw [hsender] at hphase <;> cases hphase
    | deadlinePassed k timeout => cases hcaller
  have hyoung := hyoung (by rw [registeredBy, hid])
  obtain ⟨p, hp, hanswered, hcode, hawaits⟩ :=
    hok.answers recordedOutcome (hfinished ▸ List.mem_cons_self)
  rw [hid] at hp
  have hp' : relay'.db.acknowledgementColumns packetId = some p := hcontinued.db_eq ▸ hp
  obtain ⟨hpcode, hqueued⟩ := hwill p hp' hanswered
  obtain ⟨unmatched, hlookup, hreceived⟩ : ∃ unmatched,
      relay.tracker.unmatchedAcknowledgements.lookup acknowledgement.code = some unmatched ∧
        monotonicSeconds pushedAt ≤ unmatched.receivedAt := by
    cases h.stage with
    | submitted before after hsplit hbefore hothers hnone =>
        have hno := hothers _ (hfinished ▸ List.mem_cons_self)
        cases hno
    | lookedUp before after hsplit hbefore =>
        cases before with
        | nil => cases (List.cons.inj (hfinished.symm.trans hsplit)).1
        | cons first before =>
            obtain ⟨rfl, -⟩ := List.cons.inj (hfinished.symm.trans hsplit)
            have hno := hbefore _ List.mem_cons_self
            cases hno
    | kept unmatched hlookup hreceived => exact ⟨unmatched, hlookup, hreceived⟩
    | forgotten hold => exact absurd hyoung (not_lt.2 hold)
  have hkept : (unmatchedByNow timing { relay with finished }).lookup
      recordedOutcome.expectedAcknowledgementCode = some unmatched := by
    rw [← hcode, hpcode]
    exact lookup_unmatchedByNow.2
      ⟨hlookup, (sub_le_sub_left hreceived relay.monotonic).trans_lt hyoung⟩
  cases hcontinued with
  | notAwaited recordedOutcome hnot => exact absurd (hawaits (by simp [hqueued])) hnot
  | awaited recordedOutcome packet hdeadline hnone =>
      rw [hkept] at hnone
      cases hnone
  | matchedAgain recordedOutcome packet unmatched hdeadline hsome =>
      refine Or.inr ⟨relay.jobs, true, _, relay.now, [], rfl, ?_, ?_, Or.inl ⟨p, hp, hanswered⟩⟩
      · rw [← hcode, hpcode, hlower]
      · have hqueuedAfter := h.queued p queuedAt hp hqueued
        have hseconds : (relay.now : ℚ) / 1000000 - (pushedAt : ℚ) / 1000000 < 600 :=
          hyoung.trans_le hlifetime
        have hmicroseconds : (relay.now : ℚ) - pushedAt < 600000000 := by linarith
        have hlate : relay.now - pushedAt < 600000000 := by exact_mod_cast hmicroseconds
        have hminutes : durationOfMinutes lateAcknowledgementMatchMinutes = 600000000 := by decide
        rw [hminutes]
        linarith

theorem IsEarly.loop (h : IsEarly timing packetId acknowledgement pushedAt relay)
    (hcontinued : LoopContinued relay relay') :
    IsEarly timing packetId acknowledgement pushedAt relay' := by
  cases hcontinued with
  | waits =>
      exact h.submit rfl le_rfl (fun _ _ hq => Or.inl hq) (List.append_nil _).symm
        (fun _ hmem => absurd hmem List.not_mem_nil) rfl rfl
  | handles k rest =>
      exact h.submit rfl le_rfl (fun _ _ hq => Or.inl hq) rfl
        (fun job hmem => by rw [List.mem_singleton.1 hmem]; rfl) rfl rfl

/-- **An early push is matched as soon as its packet is registered.** -/
theorem IsEarly.step (hok : AcknowledgingOk relay)
    (h : IsEarly timing packetId acknowledgement pushedAt relay)
    (hlower : acknowledgement.code.map Char.toLower = acknowledgement.code)
    (hlifetime : timing.unmatchedAcknowledgementLifetimeSeconds ≤ 600)
    (hmove : AcknowledgingMove timing relay event relay' registered)
    (hyoung : ∀ registeredAt, registered = some (packetId, registeredAt) →
      monotonicSeconds registeredAt - monotonicSeconds pushedAt <
        timing.unmatchedAcknowledgementLifetimeSeconds)
    (hwill : WillBeQueued packetId acknowledgement.code queuedAt relay') :
    IsEarly timing packetId acknowledgement pushedAt relay' ∨
      IsMatched packetId acknowledgement.code queuedAt relay' := by
  have hnoAnswer : ∀ job ∈ ([] : List DatabaseJob), job.isAnswer = false :=
    fun _ hmem => absurd hmem List.not_mem_nil
  cases hmove with
  | nothing => exact Or.inl h
  | timePassed microseconds =>
      exact Or.inl (h.submit rfl (by simp) (fun _ _ hq => Or.inl hq) (List.append_nil _).symm
        hnoAnswer rfl rfl)
  | committed db hkeeps =>
      exact Or.inl (h.submit rfl le_rfl (fun _ _ hq => hkeeps.origin hq) (List.append_nil _).symm
        hnoAnswer rfl rfl)
  | handed k columns hidle hcolumns hprepared =>
      rcases h.sender with hsender | hsender <;> rw [hsender] at hidle <;> cases hidle
  | answered settings outcome k hhanded =>
      have hk : k = packetId := by
        rcases h.sender with hsender | hsender
        · exact SendPhase.handed.inj (hhanded.symm.trans hsender)
        · rw [hhanded] at hsender
          cases hsender
      subst hk
      refine Or.inl
        ⟨Or.inr rfl, h.now, fun settings' k' outcome' answeredAt hmem => ?_, h.queued, ?_⟩
      · rcases List.mem_append.1 hmem with hmem | hmem
        · exact h.answering settings' k' outcome' answeredAt hmem
        · cases List.mem_singleton.1 hmem
          exact h.now
      · cases h.stage with
        | submitted before after hsplit hbefore hothers hnone =>
            refine .submitted before
              (after ++ [DatabaseJob.recordSendOutcome settings k outcome relay.now]) ?_ hbefore
              hothers hnone
            rw [hsplit, List.append_assoc, List.cons_append]
        | lookedUp before after hsplit hbefore => exact .lookedUp before after hsplit hbefore
        | kept unmatched hlookup hreceived => exact .kept unmatched hlookup hreceived
        | forgotten hold => exact .forgotten hold
  | pushed other =>
      exact Or.inl (h.submit rfl le_rfl (fun _ _ hq => Or.inl hq) rfl
        (fun job hmem => by rw [List.mem_singleton.1 hmem]; rfl) rfl rfl)
  | ran job jobs hjobs => exact Or.inl (h.ran hok hjobs)
  | continued isRunning finishedJob finished relay' hfinished hcontinued =>
      by_cases hcaller : finishedJob.caller = .sender
      · exact Or.inr (h.matchedAgain hok hlower hlifetime hfinished hcaller hcontinued
          (fun hregistered => hyoung relay.now hregistered) hwill)
      · exact Or.inl (h.otherCaller hfinished hcaller hcontinued)
  | loopWoke wakesAt relay' hloop hcontinued =>
      refine Or.inl (IsEarly.loop ?_ hcontinued)
      exact h.submit rfl le_rfl (fun _ _ hq => Or.inl hq) (List.append_nil _).symm hnoAnswer rfl rfl
  | settled rest relay' hloop hcontinued => exact Or.inl (h.loop hcontinued)

end Early

end HoptalkRelay
