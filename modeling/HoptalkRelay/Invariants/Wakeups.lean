/-
**No wake-up of the processor is lost.**

The processor clears its event before it looks for rows, and sleeps when a pass that was not full is
over.  A row may be inserted at any moment: behind the rows of the pass, or while it is under way.
Whatever the order, a row that waits is one the processor comes to by itself, or one the event was
set for, or one whose recorder is about to set it.

A row whose recording raised after its commit is unknown to the recorder: it waits for the sweep.

Main definitions:

* `HoptalkRelay.Visits` — the processor comes to the row by itself;
* `HoptalkRelay.WakeupsOk` — the invariant.

Main results:

* `HoptalkRelay.WakeupsOk.step` — **every step keeps the invariant**;
* `HoptalkRelay.no_wakeup_lost` — **a processor that sleeps has missed no row**.
-/

import HoptalkRelay.Invariants.Handovers

set_option relaxedAutoImplicit false
set_option autoImplicit false

namespace HoptalkRelay

open Relational Transition Batching ReceivingRelay

/-! ### The invariant -/

/-- The processor comes to the row by itself: a call that raises starts it over, and a full pass is
followed by another one. -/
def Visits (k : ℕ) : ProcessorPhase → List InboundResult → Prop
  | .restarting, _ => True
  | .finding, results =>
      ∀ ids, .unprocessedRowIds (some ids) ∈ results → k ∈ ids ∨ ids.length = unprocessedRowsPerPass
  | .processing inboxRowId rest isFullPass, _ => k ∈ inboxRowId :: rest ∨ isFullPass = true
  | .resettingRoute _ rest isFullPass, _ => k ∈ rest ∨ isFullPass = true
  | .waiting, _ => False
  | .ended, _ => False

/-- The event is set for the row, or will be, or the recorder does not know the row. -/
inductive IsSignalled (facts : List ReceivingFact) (receiving : ReceivingRelay) (k : ℕ) : Prop
  | shutdown (h : receiving.isShuttingDown = true)
  | event (h : receiving.inboxRowsRecorded = true)
  | announced (h : IsAnnounced receiving.results k)
  | unknown (frame : ReceivedDirectMessageFrame) (h : .inserted k frame false ∈ facts)

/-- A task ends in a shutdown only. -/
structure EndsInShutdown (receiving : ReceivingRelay) : Prop where
  recorder : receiving.recorder = .ended → receiving.isShuttingDown = true
  processor : receiving.processor = .ended → receiving.isShuttingDown = true
  frames : receiving.inboundFramesFinished = true → receiving.isShuttingDown = true

/-- No row that waits is overlooked. -/
structure WakeupsOk (facts : List ReceivingFact) (receiving : ReceivingRelay) : Prop where
  coming : ∀ k, IsWaiting receiving.relay.inbox k →
    IsSignalled facts receiving k ∨ Visits k receiving.processor receiving.results
  ends : EndsInShutdown receiving

section Visits

variable {k : ℕ} {phase : ProcessorPhase} {results : List InboundResult} {result : InboundResult}

/-- A further result, of rows that the processor comes to. -/
theorem Visits.snoc (h : Visits k phase results)
    (hfound : ∀ ids, result = .unprocessedRowIds (some ids) →
      k ∈ ids ∨ ids.length = unprocessedRowsPerPass) : Visits k phase (results ++ [result]) := by
  cases phase with
  | finding =>
      intro ids hids
      rcases List.mem_append.1 hids with hold | hnew
      · exact h ids hold
      · exact hfound ids (List.mem_singleton.1 hnew).symm
  | restarting => exact h
  | processing inboxRowId rest isFullPass => exact h
  | resettingRoute result rest isFullPass => exact h
  | waiting => exact h
  | ended => exact h

/-- A result taken from the front. -/
theorem Visits.tail (h : Visits k phase (result :: results)) : Visits k phase results := by
  cases phase with
  | finding => exact fun ids hids => h ids (List.mem_cons_of_mem _ hids)
  | restarting => exact h
  | processing inboxRowId rest isFullPass => exact h
  | resettingRoute result rest isFullPass => exact h
  | waiting => exact h
  | ended => exact h

end Visits

section Step

variable {facts newFacts : List ReceivingFact} {receiving receiving' : ReceivingRelay} {k : ℕ}

theorem IsSignalled.move (h : IsSignalled facts receiving k)
    (hshutdown : receiving'.isShuttingDown = receiving.isShuttingDown)
    (hevent : receiving'.inboxRowsRecorded = receiving.inboxRowsRecorded)
    (hresults : IsAnnounced receiving.results k → IsAnnounced receiving'.results k) :
    IsSignalled (facts ++ newFacts) receiving' k := by
  cases h with
  | shutdown hstops => exact .shutdown (hshutdown.trans hstops)
  | event hset => exact .event (hevent.trans hset)
  | announced hannounced => exact .announced (hresults hannounced)
  | unknown frame hmem => exact .unknown frame (List.mem_append_left _ hmem)

/-- In a shutdown nothing is owed to the rows. -/
theorem WakeupsOk.of_shutdown (h : receiving.isShuttingDown = true) : WakeupsOk facts receiving :=
  ⟨fun _ _ => Or.inl (.shutdown h), fun _ => h, fun _ => h, fun _ => h⟩

/-- A step that leaves the event, the results and the processor alone. -/
theorem WakeupsOk.frame (h : WakeupsOk facts receiving)
    (hinbox : ∀ k, IsWaiting receiving'.relay.inbox k → IsWaiting receiving.relay.inbox k)
    (hshutdown : receiving'.isShuttingDown = receiving.isShuttingDown)
    (hevent : receiving'.inboxRowsRecorded = receiving.inboxRowsRecorded)
    (hresults : receiving'.results = receiving.results)
    (hprocessor : receiving'.processor = receiving.processor)
    (hends : EndsInShutdown receiving') : WakeupsOk (facts ++ newFacts) receiving' := by
  refine ⟨fun k hk => ?_, hends⟩
  rw [hprocessor, hresults]
  refine (h.coming k (hinbox k hk)).imp (fun hsignalled => ?_) id
  exact hsignalled.move hshutdown hevent fun hannounced => hresults ▸ hannounced

/-- The processor starts over, or waits for the rows found: it comes to every row. -/
theorem WakeupsOk.of_visits (hvisits : ∀ k, Visits k receiving.processor receiving.results)
    (hends : EndsInShutdown receiving) : WakeupsOk facts receiving :=
  ⟨fun k _ => Or.inr (hvisits k), hends⟩

/-! ### The processor -/

/-- **The event is cleared before the rows are looked for**, so it may be. -/
theorem WakeupsOk.startPass (hends : EndsInShutdown receiving) (hidle : receiving.ProcessorIdle) :
    WakeupsOk facts receiving.startPass := by
  unfold ReceivingRelay.startPass
  split
  · next hstops => exact .of_shutdown hstops
  · refine .of_visits (fun k ids hids => ?_)
      ⟨hends.recorder, (fun hended => by cases hended), hends.frames⟩
    have hown : InboundResult.unprocessedRowIds (some ids) ∈ receiving.processorResults :=
      List.mem_filter.2 ⟨hids, rfl⟩
    rw [hidle.2] at hown
    cases hown

/-- The rows of the pass are processed, and a full pass is followed by another one. -/
theorem WakeupsOk.continuePass (hends : EndsInShutdown receiving)
    (hidle : receiving.ProcessorIdle) {isFullPass : Bool} {ids : List ℕ}
    (hcoming : ∀ k, IsWaiting receiving.relay.inbox k →
      IsSignalled facts receiving k ∨ k ∈ ids ∨ isFullPass = true) :
    WakeupsOk (facts ++ newFacts) (receiving.continuePass isFullPass ids).1 := by
  cases ids with
  | nil =>
      simp only [ReceivingRelay.continuePass]
      split
      · exact .startPass hends hidle
      · next hpartial =>
          refine ⟨fun k hk => Or.inl ?_,
            hends.recorder, (fun hended => by cases hended), hends.frames⟩
          rcases hcoming k hk with hsignalled | hmem | hfull
          · exact hsignalled.move rfl rfl id
          · cases hmem
          · exact absurd hfull hpartial
  | cons inboxRowId rest =>
      simp only [ReceivingRelay.continuePass]
      split
      · next hstops => exact .of_shutdown hstops
      · refine ⟨fun k hk => ?_, hends.recorder, (fun hended => by cases hended), hends.frames⟩
        exact (hcoming k hk).imp (fun hsignalled => hsignalled.move rfl rfl id) id

/-! ### The calls -/

/-- A call ran: a row that it inserted is announced or unknown, and rows that it found are all that
wait, or as many as a pass holds. -/
theorem WakeupsOk.ran (h : WakeupsOk facts receiving) {relay' : RelayDb}
    {calls : List InboundCall} {result : InboundResult}
    (hinbox : ∀ k, IsWaiting relay'.inbox k → IsWaiting receiving.relay.inbox k ∨
      Announces result k ∨ ∃ frame, .inserted k frame false ∈ newFacts)
    (hfound : ∀ ids, result = .unprocessedRowIds (some ids) → ∀ k, IsWaiting relay'.inbox k →
      k ∈ ids ∨ ids.length = unprocessedRowsPerPass) :
    WakeupsOk (facts ++ newFacts) (receiving.ran relay' calls result) := by
  refine ⟨fun k hk => ?_, h.ends.recorder, h.ends.processor, h.ends.frames⟩
  rcases hinbox k hk with hold | hannounces | ⟨frame, hmem⟩
  · rcases h.coming k hold with hsignalled | hvisits
    · exact Or.inl (hsignalled.move rfl rfl fun hannounced =>
        isAnnounced_append.2 (Or.inl hannounced))
    · exact Or.inr (hvisits.snoc fun ids hids => hfound ids hids k hk)
  · exact Or.inl (.announced (isAnnounced_append.2 (Or.inr (isAnnounced_singleton.2 hannounces))))
  · exact Or.inl (.unknown frame (List.mem_append_right _ hmem))

theorem WakeupsOk.recordingRuns (h : WakeupsOk facts receiving) {relay' : RelayDb}
    {calls : List InboundCall} {frame : ReceivedDirectMessageFrame}
    {recordedFrame : Option RecordedInboundFrame}
    (heffect : RecordingEffect receiving.relay.inbox relay'.inbox recordedFrame) :
    WakeupsOk (facts ++ insertionFacts receiving.relay relay' frame recordedFrame.isSome)
      (receiving.ran relay' calls (.recorded recordedFrame)) := by
  refine h.ran (fun k hk => ?_) (by simp)
  cases heffect with
  | kept hkey hwaiting hrepeat => exact Or.inl ((hwaiting k).1 hk)
  | inserted hkey hwaiting hnew =>
      rcases (hwaiting k).1 hk with hold | rfl
      · exact Or.inl hold
      refine Or.inr ?_
      cases recordedFrame with
      | some recorded =>
          obtain ⟨hfresh, hid⟩ := hnew recorded rfl
          exact Or.inl ⟨recorded, rfl, hfresh, hid⟩
      | none =>
          refine Or.inr ⟨frame, ?_⟩
          rw [insertionFacts, if_pos (by omega)]
          exact List.mem_cons_self

variable {sha256 : Text → Text} {names : ℕ → Text} {hashing : PasswordHashing}
  {timing : ReceivingTiming} {start : RelayDb}

theorem WakeupsOk.callRuns (h : WakeupsOk facts receiving)
    (hprocessor : ProcessorOk facts receiving) (callRun : CallRun) :
    WakeupsOk (facts ++ (receivingStep sha256 names hashing timing receiving (.callRuns callRun)).2)
      (receivingStep sha256 names hashing timing receiving (.callRuns callRun)).1 := by
  simp only [receivingStep]
  split
  · rw [List.append_nil]
    exact h
  next call calls hcalls =>
  cases call with
  | recordInboundFrame frame now => exact h.recordingRuns (recordingCall_effect ..)
  | findUnprocessedInboxRowIds =>
      refine h.ran (fun k hk => Or.inl hk) fun ids hids k hk => ?_
      have hfound := InboundResult.unprocessedRowIds.inj hids
      split at hfound
      · cases hfound
        by_cases hfull : (findUnprocessedInboxRowIds receiving.relay.inbox
            unprocessedRowsPerPass).length = unprocessedRowsPerPass
        · exact Or.inr hfull
        · exact Or.inl (mem_findUnprocessedInboxRowIds hfull hk)
      · cases hfound
  | processInboundDirectMessage k now originalText =>
      have hwaits := (hprocessor.isPass_of_call hcalls).pending_of_mem k List.mem_cons_self
      have heffect := processingCall_effect hashing callRun.settings receiving.relay k callRun.salt
        now originalText callRun.transactionEnd callRun.markEnd hwaits
      refine h.ran (fun i hi => Or.inl ?_) fun ids hids => ?_
      · rcases heffect.waiting with hleft | ⟨-, hkept⟩
        · exact ((hleft i).1 hi).1
        · exact (hkept i).1 hi
      · cases hids

/-! ### The callers -/

/-- A result that announces nothing is taken from the front. -/
theorem WakeupsOk.dropFirst (h : WakeupsOk facts receiving) {result : InboundResult}
    {results : List InboundResult} (hresults : receiving.results = result :: results)
    (hsilent : ∀ k, ¬ Announces result k) : WakeupsOk facts { receiving with results } := by
  refine ⟨fun k hk => ?_, h.ends.recorder, h.ends.processor, h.ends.frames⟩
  refine (h.coming k hk).imp (fun hsignalled => ?_) fun hvisits => ?_
  · rw [← List.append_nil facts]
    refine hsignalled.move rfl rfl fun hannounced => ?_
    rw [hresults, ← List.singleton_append, isAnnounced_append, isAnnounced_singleton]
      at hannounced
    exact hannounced.resolve_left (hsilent k)
  · rw [hresults] at hvisits
    exact hvisits.tail

/-- **The recorder sets the event** for a row that it hears of. -/
theorem WakeupsOk.finishAttempt (h : WakeupsOk facts receiving)
    {frame : ReceivedDirectMessageFrame} {attemptNumber : ℕ}
    {recordedFrame : Option RecordedInboundFrame} {results : List InboundResult}
    (hresults : receiving.results = .recorded recordedFrame :: results) :
    WakeupsOk
      (facts ++
        (ReceivingRelay.finishAttempt { receiving with results } frame attemptNumber
          recordedFrame).2)
      (ReceivingRelay.finishAttempt { receiving with results } frame attemptNumber
        recordedFrame).1 := by
  cases recordedFrame with
  | none =>
      refine (h.dropFirst hresults ?_).frame (fun k => id) rfl rfl rfl rfl
        ⟨(fun hended => by cases hended), h.ends.processor, h.ends.frames⟩
      rintro k ⟨recorded, heq, -⟩
      cases heq
  | some recorded =>
      unfold ReceivingRelay.finishAttempt
      dsimp only
      split
      · next hrepeat =>
          refine (h.dropFirst hresults ?_).frame (fun k => id) rfl rfl rfl rfl
            ⟨(fun hended => by cases hended), h.ends.processor, h.ends.frames⟩
          rintro k ⟨other, heq, hfresh, -⟩
          cases heq
          rw [hrepeat] at hfresh
          cases hfresh
      · exact ⟨fun k hk => Or.inl (.event rfl), (fun hended => by cases hended),
          h.ends.processor, h.ends.frames⟩

/-- The row that was processed no longer waits. -/
theorem ProcessorOk.not_isWaiting_of_processed (h : ProcessorOk facts receiving) {rest : List ℕ}
    {isFullPass : Bool} {result : InboundProcessingResult} {results : List InboundResult}
    (hphase : receiving.processor = .processing k rest isFullPass)
    (hresults : receiving.results = .processed (some result) :: results) :
    ¬ IsWaiting receiving.relay.inbox k := by
  obtain ⟨owed, hpass, howed⟩ := h.pass
  have hfirst : receiving.processorResults =
      .processed (some result) :: results.filter InboundResult.isOfProcessor := by
    rw [processorResults, hresults, List.filter_cons_of_pos rfl]
  rw [hphase, hfirst] at hpass
  obtain ⟨rfl, -⟩ := hpass.processed_inv.2.2 result rfl
  have hsettled : k ∈ settledRows facts := howed.subset (List.mem_append_right _ List.mem_cons_self)
  exact fun hwaits => absurd (h.settled.lt_pending k hsettled k hwaits) (lt_irrefl k)

/-- A recorder that has a result waits for it, or was cancelled. -/
theorem AttemptState.phase_of_result {limit : ℕ}
    {frames attempts : List ReceivedDirectMessageFrame} {phase : RecorderPhase}
    {calls : List InboundCall} {results : List InboundResult} {result : InboundResult}
    (h : AttemptState limit facts frames attempts phase calls results) (hmem : result ∈ results) :
    (∃ frame attemptNumber, phase = .recording frame attemptNumber) ∨ phase = .ended := by
  cases h with
  | taking h => cases hmem
  | records hlimit h => cases hmem
  | recorded hlimit h hreported => exact Or.inl ⟨_, _, rfl⟩
  | retries hlimit h => cases hmem
  | ended h => exact Or.inr rfl
  | cancelled hlimit h => exact Or.inr rfl

/-- The first caller goes on. -/
theorem WakeupsOk.callerContinues (h : WakeupsOk facts receiving)
    (hprocessor : ProcessorOk facts receiving)
    (hrecorder : RecorderOk timing start facts receiving) (isRunning : Bool) :
    WakeupsOk
      (facts ++
        (receivingStep sha256 names hashing timing receiving (.callerContinues isRunning)).2)
      (receivingStep sha256 names hashing timing receiving (.callerContinues isRunning)).1 := by
  simp only [receivingStep]
  split
  · rw [List.append_nil]
    exact h
  next result results hresults =>
  have hends : EndsInShutdown { receiving with results } := ⟨h.ends.1, h.ends.2, h.ends.3⟩
  cases result with
  | recorded recordedFrame =>
      unfold continueFirst
      dsimp only
      split
      · exact h.finishAttempt hresults
      · next hphase =>
          have hattempts := hrecorder.attempts
          rw [recorderResults, hresults,
            List.filter_cons_of_pos (by simp [InboundResult.isOfProcessor])] at hattempts
          exact .of_shutdown (h.ends.recorder (hattempts.ended_of_result hphase))
  | unprocessedRowIds ids =>
      have hdrop := h.dropFirst hresults fun k => not_announces_of_isOfProcessor rfl
      obtain ⟨owed, hpass, howed⟩ := hprocessor.pass
      have hfirst : receiving.processorResults =
          .unprocessedRowIds ids :: results.filter InboundResult.isOfProcessor := by
        rw [processorResults, hresults, List.filter_cons_of_pos rfl]
      unfold continueFirst
      dsimp only
      split
      · next hphase =>
          rw [hphase, hfirst] at hpass
          obtain ⟨hcalls, hrest, rfl, hids⟩ := hpass.found_inv
          have hidle : ReceivingRelay.ProcessorIdle { receiving with results } := ⟨hcalls, hrest⟩
          cases ids with
          | none =>
              exact .of_visits (fun k => trivial)
                ⟨hends.recorder, (fun hended => by cases hended), hends.frames⟩
          | some found =>
              refine .continuePass hends hidle fun k hk => ?_
              rcases h.coming k hk with hsignalled | hvisits
              · refine Or.inl ?_
                rw [← List.append_nil facts]
                refine hsignalled.move rfl rfl fun hannounced => ?_
                rw [hresults, ← List.singleton_append, isAnnounced_append, isAnnounced_singleton]
                  at hannounced
                exact hannounced.resolve_left (not_announces_of_isOfProcessor rfl)
              · rw [hphase, hresults] at hvisits
                refine Or.inr ((hvisits found List.mem_cons_self).imp id fun hfull => ?_)
                exact decide_eq_true hfull
      · rw [List.append_nil]
        exact hdrop
  | processed processingResult =>
      have hdrop := h.dropFirst hresults fun k => not_announces_of_isOfProcessor rfl
      obtain ⟨owed, hpass, howed⟩ := hprocessor.pass
      have hfirst : receiving.processorResults =
          .processed processingResult :: results.filter InboundResult.isOfProcessor := by
        rw [processorResults, hresults, List.filter_cons_of_pos rfl]
      unfold continueFirst
      dsimp only
      split
      · next k rest isFullPass hphase =>
          rw [hphase, hfirst] at hpass
          obtain ⟨hcalls, hrest, hresult⟩ := hpass.processed_inv
          have hidle : ReceivingRelay.ProcessorIdle { receiving with results } := ⟨hcalls, hrest⟩
          cases processingResult with
          | none =>
              exact .of_visits (fun k => trivial)
                ⟨hends.recorder, (fun hended => by cases hended), hends.frames⟩
          | some result =>
              obtain ⟨-, -, hnew, hids⟩ := hresult result rfl
              have hsettled := hprocessor.not_isWaiting_of_processed hphase hresults
              have hcoming : ∀ i, IsWaiting receiving.relay.inbox i →
                  IsSignalled facts { receiving with results } i ∨ i ∈ rest ∨
                    isFullPass = true := by
                intro i hi
                refine (hdrop.coming i hi).imp id fun hvisits => ?_
                simp only [hphase, Visits] at hvisits
                refine hvisits.imp (fun hmem => ?_) id
                refine (List.mem_cons.1 hmem).resolve_left ?_
                rintro rfl
                exact hsettled hi
              unfold finishRow
              dsimp only
              rw [if_neg (by rw [hnew]; simp)]
              split
              · refine ⟨fun i hi => ?_, hends.recorder, (fun hended => by cases hended),
                  hends.frames⟩
                exact (hcoming i hi).imp (fun hsignalled => hsignalled.move rfl rfl id) id
              · exact .continuePass hends hidle hcoming
      · rw [List.append_nil]
        exact hdrop

/-! ### Every step -/

theorem WakeupsOk.routeResetEnds (h : WakeupsOk facts receiving)
    (hprocessor : ProcessorOk facts receiving) (raises : Bool) :
    WakeupsOk
      (facts ++ (receivingStep sha256 names hashing timing receiving (.routeResetEnds raises)).2)
      (receivingStep sha256 names hashing timing receiving (.routeResetEnds raises)).1 := by
  obtain ⟨owed, hpass, howed⟩ := hprocessor.pass
  simp only [receivingStep]
  split
  · next result rest isFullPass hphase =>
      split
      · exact .of_visits (fun k => trivial)
          ⟨h.ends.recorder, (fun hended => by cases hended), h.ends.frames⟩
      · rw [hphase] at hpass
        obtain ⟨hcalls, hresults, -, hids⟩ := hpass.resets_inv
        refine .continuePass h.ends ⟨hcalls, hresults⟩ fun k hk => ?_
        refine (h.coming k hk).imp id fun hvisits => ?_
        rw [hphase] at hvisits
        exact hvisits
  · rw [List.append_nil]
    exact h

/-- **Every step keeps the invariant.** -/
theorem WakeupsOk.step (h : WakeupsOk facts receiving) (hprocessor : ProcessorOk facts receiving)
    (hrecorder : RecorderOk timing start facts receiving) (event : ReceivingEvent) :
    WakeupsOk (facts ++ (receivingStep sha256 names hashing timing receiving event).2)
      (receivingStep sha256 names hashing timing receiving event).1 := by
  obtain ⟨owed, hpass, howed⟩ := hprocessor.pass
  have hsame : WakeupsOk (facts ++ []) receiving := by
    rw [List.append_nil]
    exact h
  have hends := h.ends
  cases event with
  | clockShows now =>
      exact h.frame (fun k => id) rfl rfl rfl rfl ⟨hends.1, hends.2, hends.3⟩
  | transaction relay' =>
      simp only [receivingStep]
      split
      · next hleaves =>
          exact h.frame (fun k => (hleaves.isWaiting_iff k).1) rfl rfl rfl rfl
            ⟨hends.1, hends.2, hends.3⟩
      · exact hsame
  | frameArrives frame =>
      exact h.frame (fun k => id) rfl rfl rfl rfl ⟨hends.1, hends.2, hends.3⟩
  | recorderTakes =>
      simp only [receivingStep]
      split
      · exact h.frame (fun k => id) rfl rfl rfl rfl
          ⟨(fun hended => by cases hended), hends.2, hends.3⟩
      · exact hsame
  | retryPauseEnds =>
      simp only [receivingStep]
      split
      · unfold continueRecording
        split
        · exact h.frame (fun k => id) rfl rfl rfl rfl
            ⟨(fun hended => by cases hended), hends.2, hends.3⟩
        · exact h.frame (fun k => id) rfl rfl rfl rfl
            ⟨(fun hended => by cases hended), hends.2, hends.3⟩
      · exact hsame
  | callRuns callRun => exact h.callRuns hprocessor callRun
  | callerContinues isRunning => exact h.callerContinues hprocessor hrecorder isRunning
  | routeResetEnds raises => exact h.routeResetEnds hprocessor raises
  | processorStarts =>
      simp only [receivingStep]
      split
      · next hphase =>
          obtain ⟨hcalls, hresults, -⟩ := hpass.idle_inv (Or.inl hphase)
          exact .startPass hends ⟨hcalls, hresults⟩
      · exact hsame
  | processorWakes =>
      simp only [receivingStep]
      split
      · next hphase =>
          obtain ⟨hcalls, hresults, -⟩ := hpass.idle_inv (Or.inr hphase)
          exact .startPass hends ⟨hcalls, hresults⟩
      · exact hsame
  | shutdownRequested => exact .of_shutdown rfl
  | framesFinish =>
      simp only [receivingStep]
      split
      · next hstops => exact .of_shutdown hstops
      · exact hsame
  | recorderStops =>
      simp only [receivingStep]
      split
      · next hstops => exact .of_shutdown (hends.frames hstops.2.2)
      · exact hsame
  | recorderCancelled =>
      simp only [receivingStep]
      split
      · next hstops => exact .of_shutdown hstops
      · exact hsame
  | processorCancelled =>
      simp only [receivingStep]
      split
      · next hstops => exact .of_shutdown hstops
      · exact hsame
  | workerRestarts =>
      exact .of_visits (fun k => trivial)
        ⟨(fun hended => by cases hended), (fun hended => by cases hended),
          fun hfinished => by cases hfinished⟩

end Step

/-! ### Every run -/

section Run

variable {sha256 : Text → Text} {names : ℕ → Text} {hashing : PasswordHashing}
  {timing : ReceivingTiming} {start : RelayDb} {now : Time}
  {history : List (ReceivingEvent × List ReceivingFact)} {receiving : ReceivingRelay}

theorem wakeupsOk_of_run
    (run : (receivingRelay sha256 names hashing timing start now).Run (.start start now) history
      receiving) : WakeupsOk (historyFacts history) receiving := by
  refine run.invariant (P := fun history receiving => WakeupsOk (historyFacts history) receiving) ?_
    fun history receiving event run' _ h => ?_
  · exact .of_visits (fun k => trivial)
      ⟨(fun hended => by cases hended), (fun hended => by cases hended),
        fun hfinished => by cases hfinished⟩
  · obtain ⟨hprocessor, hrecorder⟩ := receivingOk_of_run run'
    rw [historyFacts_snoc]
    exact h.step hprocessor hrecorder event

/-- **A processor that sleeps has missed no row.**  Until a shutdown neither task ends; and when the
processor sleeps with its event clear, a row that waits was inserted by the recording whose answer
the recorder is about to take, upon which it sets the event, or by one that raised after its commit,
so that the recorder does not know the row. -/
theorem no_wakeup_lost
    (run : (receivingRelay sha256 names hashing timing start now).Run (.start start now) history
      receiving) (hruns : receiving.isShuttingDown = false) :
    receiving.recorder ≠ .ended ∧ receiving.processor ≠ .ended ∧
      (receiving.processor = .waiting → receiving.inboxRowsRecorded = false →
        ∀ k, IsWaiting receiving.relay.inbox k →
          (IsAnnounced receiving.results k ∧
            ∃ frame attemptNumber, receiving.recorder = .recording frame attemptNumber) ∨
          ∃ frame, .inserted k frame false ∈ historyFacts history) := by
  have hok := wakeupsOk_of_run run
  obtain ⟨-, hrecorder⟩ := receivingOk_of_run run
  have hactive : ¬ receiving.isShuttingDown = true := by simp [hruns]
  refine ⟨fun hended => hactive (hok.ends.recorder hended),
    fun hended => hactive (hok.ends.processor hended), fun hwaiting hclear k hk => ?_⟩
  rcases hok.coming k hk with hsignalled | hvisits
  · cases hsignalled with
    | shutdown hstops => exact absurd hstops hactive
    | event hset => exact absurd hset (by simp [hclear])
    | unknown frame hmem => exact Or.inr ⟨frame, hmem⟩
    | announced hannounced =>
        refine Or.inl ⟨hannounced, ?_⟩
        obtain ⟨result, hresult, recorded, rfl, -⟩ := hannounced
        have hown : InboundResult.recorded (some recorded) ∈ receiving.recorderResults :=
          List.mem_filter.2 ⟨hresult, rfl⟩
        rcases hrecorder.attempts.phase_of_result hown with hrecording | hended
        · exact hrecording
        · exact absurd (hok.ends.recorder hended) hactive
  · rw [hwaiting] at hvisits
    exact hvisits.elim

/-- The processor sleeps, and a row is inserted. -/
def sampleSleep : List ReceivingEvent :=
  [.processorStarts, sampleCall .completes, .callerContinues true,
    .frameArrives (sampleFrame (sampleTime 1)), .recorderTakes, sampleCall .completes]

theorem no_wakeup_lost_sampleSleep :
    let reached := sampleReceivingRelay.exec sampleReceivingRelay.init sampleSleep
    IsWaiting reached.2.relay.inbox 1 ∧
      ((IsAnnounced reached.2.results 1 ∧
        ∃ frame attemptNumber, reached.2.recorder = .recording frame attemptNumber) ∨
      ∃ frame, .inserted 1 frame false ∈ historyFacts reached.1) := by
  have hall := no_wakeup_lost (sampleReceivingRelay.run_exec sampleReceivingRelay.init sampleSleep)
    (by decide +kernel)
  have hwaits : IsWaiting
      (sampleReceivingRelay.exec sampleReceivingRelay.init sampleSleep).2.relay.inbox 1 :=
    any_isReceivedRow.1 (by decide +kernel)
  exact ⟨hwaits, hall.2.2 rfl (by decide +kernel) 1 hwaits⟩

end Run

end HoptalkRelay
