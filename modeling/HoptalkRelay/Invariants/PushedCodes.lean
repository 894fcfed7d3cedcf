/-
**Only a pushed code is looked up.**

The tracker keeps a code that matched nothing until it is too old.  Whatever it keeps, and whatever
the database thread is given to look up, was pushed by the node; so no packet is acknowledged but by
a push of its own code.

Main definitions:

* `HoptalkRelay.WasPushed` — a code of a history;
* `HoptalkRelay.PushesOk` — every code in the relay was pushed.

Main results:

* `HoptalkRelay.lookup_unmatchedByNow` — a code is kept while its push is young;
* `HoptalkRelay.PushesOk.step` — **every step keeps every code a pushed one**.
-/

import HoptalkRelay.Invariants.AwaitedPackets

set_option relaxedAutoImplicit false
set_option autoImplicit false

namespace HoptalkRelay

open Relational Transition AcknowledgingRelay

/-! ### The codes that are kept -/

section Unmatched

variable {timing : WorkerTiming} {relay : AcknowledgingRelay} {code : Text}
  {unmatched : UnmatchedAcknowledgement}

theorem lookup_foldl_erase_codes (codes : List Text)
    (kept : AList fun _ : Text => UnmatchedAcknowledgement) (code : Text) :
    (codes.foldl (fun kept old => kept.erase old) kept).lookup code =
      if code ∈ codes then none else kept.lookup code := by
  induction codes generalizing kept with
  | nil => rfl
  | cons old codes ih =>
      rw [List.foldl_cons, ih]
      by_cases hold : code = old
      · subst hold
        rw [AList.lookup_erase, ite_self, if_pos List.mem_cons_self]
      · rw [AList.lookup_erase_ne hold]
        simp [hold]

/-- **A code is kept while its push is younger than the lifetime.** -/
theorem lookup_unmatchedByNow : (unmatchedByNow timing relay).lookup code = some unmatched ↔
    relay.tracker.unmatchedAcknowledgements.lookup code = some unmatched ∧
      relay.monotonic - unmatched.receivedAt <
        timing.unmatchedAcknowledgementLifetimeSeconds := by
  unfold unmatchedByNow AcknowledgementTracker.forgetOldUnmatchedAcknowledgements
  dsimp only
  rw [lookup_foldl_erase_codes]
  split
  · next hold =>
      obtain ⟨entry, hentry, rfl⟩ := List.mem_map.1 hold
      obtain ⟨hmem, htooOld⟩ := List.mem_filter.1 hentry
      refine ⟨(fun h => by cases h), fun ⟨hlookup, hyoung⟩ => ?_⟩
      have hfound : relay.tracker.unmatchedAcknowledgements.lookup entry.1 = some entry.2 :=
        AList.mem_lookup_iff.2 hmem
      obtain rfl := Option.some.inj (hfound.symm.trans hlookup)
      exact absurd hyoung (not_lt.2 (of_decide_eq_true htooOld))
  · next hkept =>
      refine ⟨fun hlookup => ⟨hlookup, ?_⟩, fun h => h.1⟩
      by_contra hold
      refine hkept (List.mem_map.2 ⟨⟨code, unmatched⟩, List.mem_filter.2 ⟨?_, ?_⟩, rfl⟩)
      · exact AList.mem_lookup_iff.1 hlookup
      · exact decide_eq_true (not_lt.1 hold)

theorem mem_of_mem_unmatchedByNow (h : code ∈ unmatchedByNow timing relay) :
    code ∈ relay.tracker.unmatchedAcknowledgements := by
  obtain ⟨unmatched, hlookup⟩ := Option.isSome_iff_exists.1 (AList.lookup_isSome.2 h)
  refine AList.lookup_isSome.1 ?_
  rw [(lookup_unmatchedByNow.1 hlookup).1]
  rfl

end Unmatched

/-! ### Which code was pushed -/

section Pushes

variable {timing : WorkerTiming} {relay relay' : AcknowledgingRelay} {event : AcknowledgingEvent}
  {registered : RegisteredPacket} {finishedJob : FinishedJob} {db₀ : Db}
  {history : List (AcknowledgingEvent × RegisteredPacket)}

/-- The code was pushed in this history. -/
def WasPushed (history : List (AcknowledgingEvent × RegisteredPacket)) (code : Text) : Prop :=
  ∃ acknowledgement registered, (.acknowledgementPushed acknowledgement, registered) ∈ history ∧
    acknowledgement.code = code

theorem WasPushed.append {code : Text} (h : WasPushed history code)
    (entry : AcknowledgingEvent × RegisteredPacket) : WasPushed (history ++ [entry]) code := by
  obtain ⟨acknowledgement, registered, hmem, hcode⟩ := h
  exact ⟨acknowledgement, registered, List.mem_append_left _ hmem, hcode⟩

/-- **No code is looked up that was not pushed**, and none but a pushed one acknowledges. -/
structure PushesOk (db₀ : Db) (history : List (AcknowledgingEvent × RegisteredPacket))
    (relay : AcknowledgingRelay) : Prop where
  jobs : ∀ isEarly acknowledgement now,
    .recordNodeAcknowledgement isEarly acknowledgement now ∈ relay.jobs →
      WasPushed history acknowledgement.code
  finished : ∀ isEarly acknowledgement acknowledgedPackets,
    .nodeAcknowledgement isEarly acknowledgement acknowledgedPackets ∈ relay.finished →
      WasPushed history acknowledgement.code
  unmatched : ∀ code ∈ relay.tracker.unmatchedAcknowledgements, WasPushed history code
  acknowledged : ∀ packetId p, relay.db.acknowledgementColumns packetId = some p →
    p.state = .nodeAcknowledged →
      (∃ q, db₀.acknowledgementColumns packetId = some q ∧ q.state = .nodeAcknowledged) ∨
        ∃ code, WasPushed history code ∧ p.expectedAcknowledgementCode = code.map Char.toLower

theorem PushesOk.append (h : PushesOk db₀ history relay)
    (entry : AcknowledgingEvent × RegisteredPacket) : PushesOk db₀ (history ++ [entry]) relay := by
  refine ⟨fun isEarly acknowledgement now hmem => (h.jobs _ _ _ hmem).append entry,
    fun isEarly acknowledgement packets hmem => (h.finished _ _ _ hmem).append entry,
    fun code hmem => (h.unmatched code hmem).append entry, fun packetId p hp hstate => ?_⟩
  rcases h.acknowledged packetId p hp hstate with hbefore | ⟨code, hpushed, hcode⟩
  · exact Or.inl hbefore
  · exact Or.inr ⟨code, hpushed.append entry, hcode⟩

theorem PushesOk.loop (h : PushesOk db₀ history relay) (hcontinued : LoopContinued relay relay') :
    PushesOk db₀ history relay' := by
  cases hcontinued with
  | waits => exact ⟨h.jobs, h.finished, h.unmatched, h.acknowledged⟩
  | handles packetId rest =>
      refine ⟨fun isEarly acknowledgement now hmem => ?_, h.finished, h.unmatched, h.acknowledged⟩
      exact h.jobs isEarly acknowledgement now (by simpa using hmem)

theorem PushesOk.continued {finished : List FinishedJob} (h : PushesOk db₀ history relay)
    (hfinished : relay.finished = finishedJob :: finished)
    (hcontinued : CallerContinued timing { relay with finished } finishedJob relay') :
    PushesOk db₀ history relay' := by
  have hothers : PushesOk db₀ history { relay with finished } := by
    refine ⟨h.jobs, fun isEarly acknowledgement packets hmem => ?_, h.unmatched, h.acknowledged⟩
    exact h.finished isEarly acknowledgement packets (hfinished ▸ List.mem_cons_of_mem _ hmem)
  have hunmatched : ∀ code ∈ unmatchedByNow timing { relay with finished },
      WasPushed history code :=
    fun code hmem => hothers.unmatched code (mem_of_mem_unmatchedByNow hmem)
  cases hcontinued with
  | unrecorded | notAwaited =>
      exact ⟨hothers.jobs, hothers.finished, hothers.unmatched, hothers.acknowledged⟩
  | awaited recordedOutcome packet hdeadline hnone =>
      refine ⟨hothers.jobs, hothers.finished, fun code hmem => ?_, hothers.acknowledged⟩
      exact hunmatched code (AList.mem_erase.1 hmem).2
  | matchedAgain recordedOutcome packet unmatched hdeadline hsome =>
      refine ⟨fun isEarly acknowledgement now hmem => ?_, hothers.finished, fun code hmem => ?_,
        hothers.acknowledged⟩
      · rcases List.mem_append.1 hmem with hmem | hmem
        · exact hothers.jobs isEarly acknowledgement now hmem
        · cases List.mem_singleton.1 hmem
          refine hunmatched _ (AList.lookup_isSome.1 ?_)
          rw [hsome]
          rfl
      · exact hunmatched code (AList.mem_erase.1 hmem).2
  | kept isEarly acknowledgement =>
      refine ⟨hothers.jobs, hothers.finished, fun code hmem => ?_, hothers.acknowledged⟩
      rcases (AList.mem_insert _).1 hmem with rfl | hmem
      · exact h.finished isEarly acknowledgement [] (hfinished ▸ List.mem_cons_self)
      · exact hunmatched code hmem
  | matched isEarly acknowledgement acknowledgedPackets hne =>
      exact ⟨hothers.jobs, hothers.finished, hothers.unmatched, hothers.acknowledged⟩
  | settles packetId timeout rest hloop | stray packetId timeout hloop =>
      exact ⟨hothers.jobs, hothers.finished, hothers.unmatched, hothers.acknowledged⟩
  | passed packetId timeout rest relay' hloop hloopContinued =>
      refine PushesOk.loop ?_ hloopContinued
      exact ⟨hothers.jobs, hothers.finished, hothers.unmatched, hothers.acknowledged⟩

/-- What a call acknowledges has its code. -/
theorem acknowledged_run {db : Db} {job : DatabaseJob} {packetId : ℕ} {p : AcknowledgementColumns}
    (hfirst : job.IsFirstAnswer db)
    (hp : (job.run db).1.acknowledgementColumns packetId = some p)
    (hstate : p.state = .nodeAcknowledged) :
    (∃ q, db.acknowledgementColumns packetId = some q ∧ q.state = .nodeAcknowledged ∧
        p.expectedAcknowledgementCode = q.expectedAcknowledgementCode) ∨
      ∃ isEarly acknowledgement now,
        job = .recordNodeAcknowledgement isEarly acknowledgement now ∧
          p.expectedAcknowledgementCode = acknowledgement.code.map Char.toLower := by
  cases job with
  | recordSendOutcome settings k outcome now =>
      obtain ⟨q, hq, hprepared⟩ := hfirst
      obtain ⟨hcolumns, -⟩ := recordSendOutcome_of_prepared settings outcome now hq hprepared
      have hafter := (hcolumns packetId).symm.trans hp
      split at hafter
      · obtain rfl := Option.some.inj hafter
        cases outcome <;> cases hstate
      · exact Or.inl ⟨p, hafter, hstate, rfl⟩
  | recordNodeAcknowledgement isEarly acknowledgement now =>
      have hafter := (acknowledgementColumns_recordNodeAcknowledgement _ _ _ packetId).symm.trans hp
      obtain ⟨q, hq, rfl⟩ := Option.map_eq_some_iff.1 hafter
      by_cases hmatch : q.isMatchedBy acknowledgement.code now = true
      · refine Or.inr ⟨isEarly, acknowledgement, now, rfl, ?_⟩
        rw [AcknowledgementColumns.acknowledge, if_pos hmatch]
        simp only [AcknowledgementColumns.isMatchedBy, Bool.and_eq_true,
          decide_eq_true_eq] at hmatch
        exact hmatch.1.1
      · rw [AcknowledgementColumns.acknowledge, if_neg hmatch] at hstate ⊢
        exact Or.inl ⟨q, hq, hstate, rfl⟩
  | recordAcknowledgementDeadlinePassed k now =>
      have hafter :=
        (acknowledgementColumns_recordAcknowledgementDeadlinePassed k now packetId).symm.trans hp
      split at hafter
      · obtain ⟨q, hq, rfl⟩ := Option.map_eq_some_iff.1 hafter
        unfold AcknowledgementColumns.passDeadline at hstate ⊢
        split at hstate
        · cases hstate
        · next hnot => exact Or.inl ⟨q, hq, hstate, by rw [if_neg hnot]⟩
      · exact Or.inl ⟨p, hafter, hstate, rfl⟩

theorem PushesOk.ran {job : DatabaseJob} {jobs : List DatabaseJob} (h : PushesOk db₀ history relay)
    (hjobs : relay.jobs = job :: jobs) (hfirst : job.IsFirstAnswer relay.db) :
    PushesOk db₀ history
      { relay with
        db := (job.run relay.db).1
        jobs
        finished := relay.finished ++ [(job.run relay.db).2] } := by
  refine ⟨fun isEarly acknowledgement now hmem => ?_,
    fun isEarly acknowledgement packets hmem => ?_, h.unmatched, fun packetId p hp hstate => ?_⟩
  · exact h.jobs isEarly acknowledgement now (hjobs ▸ List.mem_cons_of_mem _ hmem)
  · rcases List.mem_append.1 hmem with hmem | hmem
    · exact h.finished isEarly acknowledgement packets hmem
    · have hrun := List.mem_singleton.1 hmem
      cases job with
      | recordSendOutcome settings k outcome now => cases hrun
      | recordNodeAcknowledgement isEarly' acknowledgement' now =>
          cases hrun
          exact h.jobs isEarly acknowledgement now (hjobs ▸ List.mem_cons_self)
      | recordAcknowledgementDeadlinePassed k now => cases hrun
  · rcases acknowledged_run hfirst hp hstate with ⟨q, hq, hbefore, hcode⟩ |
      ⟨isEarly, acknowledgement, now, rfl, hcode⟩
    · rw [hcode]
      exact h.acknowledged packetId q hq hbefore
    · exact Or.inr ⟨acknowledgement.code,
        h.jobs isEarly acknowledgement now (hjobs ▸ List.mem_cons_self), hcode⟩

/-- **Every step keeps it so.** -/
theorem PushesOk.step (h : PushesOk db₀ history relay) (hsender : SenderOk relay)
    (hmove : AcknowledgingMove timing relay event relay' registered) :
    PushesOk db₀ (history ++ [(event, registered)]) relay' := by
  have happended := h.append (event, registered)
  cases hmove with
  | nothing | timePassed | handed =>
      exact ⟨happended.jobs, happended.finished, happended.unmatched, happended.acknowledged⟩
  | committed db hkeeps =>
      refine ⟨happended.jobs, happended.finished, happended.unmatched,
        fun packetId p hp hstate => ?_⟩
      rcases hkeeps.origin hp with hbefore | ⟨hprepared, -⟩
      · exact happended.acknowledged packetId p hbefore hstate
      · rw [hstate] at hprepared
        cases hprepared
  | answered settings outcome packetId hhanded =>
      refine ⟨fun isEarly acknowledgement now hmem => ?_, happended.finished, happended.unmatched,
        happended.acknowledged⟩
      exact happended.jobs isEarly acknowledgement now (by simpa using hmem)
  | pushed acknowledgement =>
      refine ⟨fun isEarly other now hmem => ?_, happended.finished, happended.unmatched,
        happended.acknowledged⟩
      rcases List.mem_append.1 hmem with hmem | hmem
      · exact happended.jobs isEarly other now hmem
      · cases List.mem_singleton.1 hmem
        exact ⟨acknowledgement, none, List.mem_append_right _ List.mem_cons_self, rfl⟩
  | ran job jobs hjobs => exact happended.ran hjobs (hsender.isFirstAnswer hjobs)
  | continued isRunning finishedJob finished relay' hfinished hcontinued =>
      exact happended.continued hfinished hcontinued
  | loopWoke wakesAt relay' hloop hcontinued =>
      refine PushesOk.loop ?_ hcontinued
      exact ⟨happended.jobs, happended.finished, happended.unmatched, happended.acknowledged⟩
  | settled rest relay' hloop hcontinued => exact happended.loop hcontinued

theorem pushesOk_start (db : Db) (now : Time) : PushesOk db [] (.start db now) :=
  ⟨fun _ _ _ h => absurd h List.not_mem_nil, fun _ _ _ h => absurd h List.not_mem_nil,
    fun code hmem => absurd hmem (AList.notMem_empty code),
    fun _ p hp hstate => Or.inl ⟨p, hp, hstate⟩⟩

end Pushes

end HoptalkRelay
