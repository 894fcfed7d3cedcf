/-
**Rows are processed in the order of the inbox.**

The processor reads the least rows that wait, processes them one after the other, and starts over
when a call raised; meanwhile the recorder inserts rows above all others.  So a row that is given
to a transaction is always the least that waits, and no row is settled twice or out of order, over
failed calls, cancelled tasks and new workers.  A reply is queued only for a row that was settled.

Main definitions:

* `HoptalkRelay.historyFacts`, `HoptalkRelay.settledRows`, `HoptalkRelay.repliedRows` — what an
  observer notes along a run;
* `HoptalkRelay.PassState` — the processor, its call and its result;
* `HoptalkRelay.ProcessorOk` — the invariant.

Main results:

* `HoptalkRelay.ProcessorOk.isPass_of_call` — **the row processed is the least that waits**;
* `HoptalkRelay.ProcessorOk.step` — **every step keeps the invariant**.
-/

import HoptalkRelay.Invariants.ReceivedRows

set_option relaxedAutoImplicit false
set_option autoImplicit false

namespace HoptalkRelay

open Relational Transition Batching ReceivingRelay

/-! ### What an observer notes -/

/-- Everything noted along a run. -/
def historyFacts (history : List (ReceivingEvent × List ReceivingFact)) : List ReceivingFact :=
  history.flatMap Prod.snd

@[simp] theorem historyFacts_nil : historyFacts [] = [] := rfl

@[simp] theorem historyFacts_snoc (history : List (ReceivingEvent × List ReceivingFact))
    (event : ReceivingEvent) (facts : List ReceivingFact) :
    historyFacts (history ++ [(event, facts)]) = historyFacts history ++ facts := by
  simp [historyFacts]

def ReceivingFact.settledRow? : ReceivingFact → Option ℕ
  | .settled inboxRowId => some inboxRowId
  | _ => none

def ReceivingFact.repliedRow? : ReceivingFact → Option ℕ
  | .replied inboxRowId _ => some inboxRowId
  | _ => none

/-- The rows that were processed or failed, in that order. -/
def settledRows (facts : List ReceivingFact) : List ℕ :=
  facts.filterMap ReceivingFact.settledRow?

/-- The rows whose replies were queued, in that order. -/
def repliedRows (facts : List ReceivingFact) : List ℕ :=
  facts.filterMap ReceivingFact.repliedRow?

@[simp] theorem settledRows_append (facts facts' : List ReceivingFact) :
    settledRows (facts ++ facts') = settledRows facts ++ settledRows facts' :=
  List.filterMap_append

@[simp] theorem repliedRows_append (facts facts' : List ReceivingFact) :
    repliedRows (facts ++ facts') = repliedRows facts ++ repliedRows facts' :=
  List.filterMap_append

/-- Nothing about rows was noted. -/
def IsSilent (facts : List ReceivingFact) : Prop :=
  settledRows facts = [] ∧ repliedRows facts = []

theorem isSilent_nil : IsSilent [] := ⟨rfl, rfl⟩

theorem isSilent_lostFacts (frames : List ReceivedDirectMessageFrame) :
    IsSilent (lostFacts frames) := by
  constructor
  · exact List.filterMap_eq_nil_iff.2 (by simp [lostFacts, ReceivingFact.settledRow?])
  · exact List.filterMap_eq_nil_iff.2 (by simp [lostFacts, ReceivingFact.repliedRow?])

theorem isSilent_insertionFacts (state state' : RelayDb) (frame : ReceivedDirectMessageFrame)
    (isKnown : Bool) : IsSilent (insertionFacts state state' frame isKnown) := by
  unfold insertionFacts
  split
  · exact ⟨rfl, rfl⟩
  · exact isSilent_nil

/-! ### The processor's side of the database thread -/

def InboundCall.isOfProcessor : InboundCall → Bool
  | .recordInboundFrame _ _ => false
  | .findUnprocessedInboxRowIds => true
  | .processInboundDirectMessage _ _ _ => true

def InboundResult.isOfProcessor : InboundResult → Bool
  | .recorded _ => false
  | .unprocessedRowIds _ => true
  | .processed _ => true

namespace ReceivingRelay

def processorCalls (receiving : ReceivingRelay) : List InboundCall :=
  receiving.calls.filter InboundCall.isOfProcessor

def processorResults (receiving : ReceivingRelay) : List InboundResult :=
  receiving.results.filter InboundResult.isOfProcessor

end ReceivingRelay

/-- The processor, its calls, its results, and the row whose reply it still owes. -/
inductive PassState (waits : ℕ → Prop) :
    ProcessorPhase → List InboundCall → List InboundResult → List ℕ → Prop
  | restarting : PassState waits .restarting [] [] []
  | waiting : PassState waits .waiting [] [] []
  | finds : PassState waits .finding [.findUnprocessedInboxRowIds] [] []
  | found {inboxRowIds : Option (List ℕ)} (h : ∀ ids ∈ inboxRowIds, IsPass waits ids) :
      PassState waits .finding [] [.unprocessedRowIds inboxRowIds] []
  | processes {k : ℕ} {rest : List ℕ} {isFullPass : Bool} {now : Time}
      {originalText : Option PlainText} (h : IsPass waits (k :: rest)) :
      PassState waits (.processing k rest isFullPass)
        [.processInboundDirectMessage k now originalText] [] []
  | raised {k : ℕ} {rest : List ℕ} {isFullPass : Bool} :
      PassState waits (.processing k rest isFullPass) [] [.processed none] []
  | processed {k : ℕ} {rest : List ℕ} {isFullPass : Bool} {result : InboundProcessingResult}
      (hid : result.inboxRowId = k) (hnew : result.wasAlreadyProcessed = false)
      (h : IsPass waits rest) :
      PassState waits (.processing k rest isFullPass) [] [.processed (some result)] [k]
  | resets {k : ℕ} {rest : List ℕ} {isFullPass : Bool} {result : InboundProcessingResult}
      (hid : result.inboxRowId = k) (h : IsPass waits rest) :
      PassState waits (.resettingRoute result rest isFullPass) [] [] [k]
  /-- A cancelled processor may leave one call behind. -/
  | ended {calls : List InboundCall} {results : List InboundResult} (hone : calls.length ≤ 1)
      (h : ∀ k now originalText, .processInboundDirectMessage k now originalText ∈ calls →
        IsPass waits [k]) : PassState waits .ended calls results []

section Passes

variable {waits waits' : ℕ → Prop} {phase : ProcessorPhase} {calls : List InboundCall}
  {results : List InboundResult} {owed : List ℕ}

/-- The passes under way stay passes. -/
theorem PassState.map (hpass : ∀ ids, IsPass waits ids → IsPass waits' ids)
    (h : PassState waits phase calls results owed) : PassState waits' phase calls results owed := by
  cases h with
  | restarting => exact .restarting
  | waiting => exact .waiting
  | finds => exact .finds
  | found h => exact .found fun ids hids => hpass ids (h ids hids)
  | processes h => exact .processes (hpass _ h)
  | raised => exact .raised
  | processed hid hnew h => exact .processed hid hnew (hpass _ h)
  | resets hid h => exact .resets hid (hpass _ h)
  | ended hone h => exact .ended hone fun k now text hmem => hpass _ (h k now text hmem)

/-- Cancelling the processor. -/
theorem PassState.cancel (h : PassState waits phase calls results owed) :
    PassState waits .ended calls results [] := by
  cases h with
  | processes h =>
      refine .ended (le_refl 1) fun k now text hmem => ?_
      cases List.mem_singleton.1 hmem
      exact h.head
  | ended hone h => exact .ended hone h
  | finds => exact .ended (le_refl 1) (by simp)
  | _ => exact .ended (Nat.zero_le 1) (by simp)

/-- A processor that pauses or waits has no call under way. -/
theorem PassState.idle_inv (h : PassState waits phase calls results owed)
    (hphase : phase = .restarting ∨ phase = .waiting) : calls = [] ∧ results = [] ∧ owed = [] := by
  cases h with
  | restarting => exact ⟨rfl, rfl, rfl⟩
  | waiting => exact ⟨rfl, rfl, rfl⟩
  | _ => simp at hphase

/-- The processor that waits for the rows found. -/
theorem PassState.found_inv {ids : Option (List ℕ)}
    (h : PassState waits .finding calls (.unprocessedRowIds ids :: results) owed) :
    calls = [] ∧ results = [] ∧ owed = [] ∧ ∀ found ∈ ids, IsPass waits found := by
  cases h with
  | found hids => exact ⟨rfl, rfl, rfl, hids⟩

/-- The processor that waits for its row. -/
theorem PassState.processed_inv {k : ℕ} {rest : List ℕ} {isFullPass : Bool}
    {processingResult : Option InboundProcessingResult}
    (h : PassState waits (.processing k rest isFullPass) calls
      (.processed processingResult :: results) owed) :
    calls = [] ∧ results = [] ∧ ∀ result ∈ processingResult,
      owed = [k] ∧ result.inboxRowId = k ∧ result.wasAlreadyProcessed = false ∧
        IsPass waits rest := by
  cases h with
  | raised => exact ⟨rfl, rfl, by simp⟩
  | processed hid hnew hrest =>
      refine ⟨rfl, rfl, fun result hresult => ?_⟩
      cases hresult
      exact ⟨rfl, hid, hnew, hrest⟩

theorem PassState.resets_inv {rest : List ℕ} {isFullPass : Bool}
    {result : InboundProcessingResult}
    (h : PassState waits (.resettingRoute result rest isFullPass) calls results owed) :
    calls = [] ∧ results = [] ∧ owed = [result.inboxRowId] ∧ IsPass waits rest := by
  cases h with
  | resets hid hrest => exact ⟨rfl, rfl, by rw [hid], hrest⟩

/-- Only a cancelled processor has a result that it does not wait for. -/
theorem PassState.drop {result : InboundResult}
    (h : PassState waits phase calls (result :: results) owed)
    (hfinding : ∀ ids, result = .unprocessedRowIds ids → phase ≠ .finding)
    (hprocessing : ∀ processingResult k rest isFullPass, result = .processed processingResult →
      phase ≠ .processing k rest isFullPass) :
    PassState waits phase calls results owed := by
  cases h with
  | found hids => exact absurd rfl (hfinding _ rfl)
  | raised => exact absurd rfl (hprocessing _ _ _ _ rfl)
  | processed hid hnew hrest => exact absurd rfl (hprocessing _ _ _ _ rfl)
  | ended hone h => exact .ended hone h

end Passes

/-! ### The invariant -/

/-- The rows settled so far are below all that wait, and the next ones are the least that wait. -/
structure ProcessorOk (facts : List ReceivingFact) (receiving : ReceivingRelay) : Prop where
  settled : IsSettledBelow receiving.relay.inbox.nextKey (IsWaiting receiving.relay.inbox)
    (settledRows facts)
  pass : ∃ owed, PassState (IsWaiting receiving.relay.inbox) receiving.processor
      receiving.processorCalls receiving.processorResults owed ∧
    (repliedRows facts ++ owed).Sublist (settledRows facts)

section Step

variable {facts newFacts : List ReceivingFact} {receiving receiving' : ReceivingRelay}

/-- A step the processor does not take part in. -/
theorem ProcessorOk.frame (h : ProcessorOk facts receiving) (hsilent : IsSilent newFacts)
    (hinbox : receiving'.relay.inbox = receiving.relay.inbox)
    (hprocessor : receiving'.processor = receiving.processor)
    (hcalls : receiving'.processorCalls = receiving.processorCalls)
    (hresults : receiving'.processorResults = receiving.processorResults) :
    ProcessorOk (facts ++ newFacts) receiving' := by
  constructor
  · rw [settledRows_append, hsilent.1, List.append_nil, hinbox]
    exact h.settled
  · rw [settledRows_append, repliedRows_append, hsilent.1, hsilent.2, List.append_nil,
      List.append_nil, hinbox, hprocessor, hcalls, hresults]
    exact h.pass

/-- A step of the processor that settles nothing; it may queue the reply it owed. -/
theorem ProcessorOk.move (h : ProcessorOk facts receiving) (owed owed' : List ℕ)
    (hsettled : settledRows newFacts = [])
    (hpass : PassState (IsWaiting receiving'.relay.inbox) receiving'.processor
      receiving'.processorCalls receiving'.processorResults owed')
    (howed : (repliedRows facts ++ owed).Sublist (settledRows facts))
    (hreplied : (repliedRows newFacts ++ owed').Sublist owed)
    (hinbox : receiving'.relay.inbox = receiving.relay.inbox) :
    ProcessorOk (facts ++ newFacts) receiving' := by
  constructor
  · rw [settledRows_append, hsettled, List.append_nil, hinbox]
    exact h.settled
  · refine ⟨owed', hpass, ?_⟩
    rw [settledRows_append, repliedRows_append, hsettled, List.append_nil, List.append_assoc]
    exact (List.Sublist.append_left hreplied _).trans howed

/-- The processor has no call under way. -/
def ReceivingRelay.ProcessorIdle (receiving : ReceivingRelay) : Prop :=
  receiving.processorCalls = [] ∧ receiving.processorResults = []

/-- A step of an idle processor that submits no call. -/
theorem ReceivingRelay.ProcessorIdle.passState (hidle : receiving.ProcessorIdle)
    {waits : ℕ → Prop} {owed : List ℕ} (h : PassState waits receiving'.processor [] [] owed)
    (hcalls : receiving'.calls = receiving.calls)
    (hresults : receiving'.results = receiving.results) :
    PassState waits receiving'.processor receiving'.processorCalls receiving'.processorResults
      owed := by
  have hnone : receiving'.processorCalls = [] := by
    rw [processorCalls, hcalls]
    exact hidle.1
  have hnothing : receiving'.processorResults = [] := by
    rw [processorResults, hresults]
    exact hidle.2
  rwa [hnone, hnothing]

/-- A step of an idle processor that submits a call. -/
theorem ReceivingRelay.ProcessorIdle.passState_submit (hidle : receiving.ProcessorIdle)
    {waits : ℕ → Prop} {owed : List ℕ} {call : InboundCall} (hcall : call.isOfProcessor = true)
    (h : PassState waits receiving'.processor [call] [] owed)
    (hcalls : receiving'.calls = receiving.calls ++ [call])
    (hresults : receiving'.results = receiving.results) :
    PassState waits receiving'.processor receiving'.processorCalls receiving'.processorResults
      owed := by
  have hone : receiving'.processorCalls = [call] := by
    rw [processorCalls, hcalls, List.filter_append, show receiving.calls.filter _ = [] from hidle.1]
    simp [hcall]
  have hnothing : receiving'.processorResults = [] := by
    rw [processorResults, hresults]
    exact hidle.2
  rwa [hone, hnothing]

theorem startPass_pass (hidle : receiving.ProcessorIdle) (waits : ℕ → Prop) :
    PassState waits receiving.startPass.processor receiving.startPass.processorCalls
        receiving.startPass.processorResults [] ∧
      receiving.startPass.relay = receiving.relay := by
  unfold startPass
  split
  · exact ⟨hidle.passState (.ended (Nat.zero_le 1) (by simp)) rfl rfl, rfl⟩
  · exact ⟨hidle.passState_submit rfl .finds rfl rfl, rfl⟩

theorem continuePass_pass (hidle : receiving.ProcessorIdle) {waits : ℕ → Prop}
    (isFullPass : Bool) {ids : List ℕ} (hpass : IsPass waits ids) :
    PassState waits (receiving.continuePass isFullPass ids).1.processor
        (receiving.continuePass isFullPass ids).1.processorCalls
        (receiving.continuePass isFullPass ids).1.processorResults [] ∧
      IsSilent (receiving.continuePass isFullPass ids).2 ∧
      (receiving.continuePass isFullPass ids).1.relay = receiving.relay := by
  cases ids with
  | nil =>
      unfold continuePass
      cases isFullPass with
      | true => exact ⟨(startPass_pass hidle waits).1, isSilent_nil, (startPass_pass hidle waits).2⟩
      | false => exact ⟨hidle.passState .waiting rfl rfl, isSilent_nil, rfl⟩
  | cons k rest =>
      simp only [continuePass]
      split
      · exact ⟨hidle.passState (.ended (Nat.zero_le 1) (by simp)) rfl rfl, isSilent_nil, rfl⟩
      · exact ⟨hidle.passState_submit rfl (.processes hpass) rfl rfl, ⟨rfl, rfl⟩, rfl⟩

theorem queueReplies_pass (hidle : receiving.ProcessorIdle) {waits : ℕ → Prop}
    (isFullPass : Bool) {rest : List ℕ} (hpass : IsPass waits rest)
    (result : InboundProcessingResult) :
    PassState waits (receiving.queueReplies result rest isFullPass).1.processor
        (receiving.queueReplies result rest isFullPass).1.processorCalls
        (receiving.queueReplies result rest isFullPass).1.processorResults [] ∧
      settledRows (receiving.queueReplies result rest isFullPass).2 = [] ∧
      repliedRows (receiving.queueReplies result rest isFullPass).2 = [result.inboxRowId] ∧
      (receiving.queueReplies result rest isFullPass).1.relay = receiving.relay := by
  obtain ⟨hstate, ⟨hsettled, hreplied⟩, hrelay⟩ :=
    continuePass_pass hidle isFullPass hpass
  exact ⟨hstate, hsettled, congrArg (result.inboxRowId :: ·) hreplied, hrelay⟩

/-! ### The calls -/

/-- The state after the first call ran. -/
def ReceivingRelay.ran (receiving : ReceivingRelay) (relay : RelayDb) (calls : List InboundCall)
    (result : InboundResult) : ReceivingRelay :=
  { receiving with relay, calls, results := receiving.results ++ [result] }

theorem processorResults_ran (receiving : ReceivingRelay) (relay : RelayDb)
    (calls : List InboundCall) (result : InboundResult) :
    (receiving.ran relay calls result).processorResults =
      receiving.processorResults ++ [result].filter InboundResult.isOfProcessor := by
  simp [ReceivingRelay.ran, processorResults]

variable {relay' : RelayDb} {calls : List InboundCall}

/-- A recording leaves the pass as it is: its row is above all others. -/
theorem ProcessorOk.recordingRuns (h : ProcessorOk facts receiving)
    {frame : ReceivedDirectMessageFrame} {now : Time}
    {recordedFrame : Option RecordedInboundFrame}
    (hcalls : receiving.calls = .recordInboundFrame frame now :: calls)
    (heffect : RecordingEffect receiving.relay.inbox relay'.inbox recordedFrame)
    (hsilent : IsSilent newFacts) :
    ProcessorOk (facts ++ newFacts) (receiving.ran relay' calls (.recorded recordedFrame)) := by
  obtain ⟨owed, hpass, howed⟩ := h.pass
  have hrest : receiving.processorCalls = calls.filter InboundCall.isOfProcessor := by
    rw [processorCalls, hcalls, List.filter_cons_of_neg (by simp [InboundCall.isOfProcessor])]
  have hgrow : ∀ ids, IsPass (IsWaiting receiving.relay.inbox) ids →
      IsPass (IsWaiting relay'.inbox) ids := by
    intro ids hids
    cases heffect with
    | kept hkey hwaiting hrepeat => exact hids.congr hwaiting
    | inserted hkey hwaiting hnew => exact hids.grow (fun i hi => hi.lt_nextKey) hwaiting
  have hsettled : IsSettledBelow relay'.inbox.nextKey (IsWaiting relay'.inbox)
      (settledRows facts) := by
    cases heffect with
    | kept hkey hwaiting hrepeat =>
        exact h.settled.grow hkey.ge fun i hi => Or.inl ((hwaiting i).1 hi)
    | inserted hkey hwaiting hnew =>
        refine h.settled.grow (by omega) fun i hi => ?_
        exact ((hwaiting i).1 hi).imp id fun heq => heq.ge
  constructor
  · rw [settledRows_append, hsilent.1, List.append_nil]
    exact hsettled
  · refine ⟨owed, ?_, ?_⟩
    · have hresults : (receiving.ran relay' calls (.recorded recordedFrame)).processorResults =
          receiving.processorResults := by
        rw [processorResults_ran]
        exact List.append_nil _
      rw [hrest] at hpass
      rw [hresults]
      exact hpass.map hgrow
    · rw [settledRows_append, repliedRows_append, hsilent.1, hsilent.2, List.append_nil,
        List.append_nil]
      exact howed

/-- The rows found are a pass. -/
theorem ProcessorOk.findingRuns (h : ProcessorOk facts receiving) {ids : Option (List ℕ)}
    (hcalls : receiving.calls = .findUnprocessedInboxRowIds :: calls)
    (hids : ∀ found ∈ ids, IsPass (IsWaiting receiving.relay.inbox) found) :
    ProcessorOk facts (receiving.ran receiving.relay calls (.unprocessedRowIds ids)) := by
  obtain ⟨owed, hpass, howed⟩ := h.pass
  have hfirst : receiving.processorCalls =
      .findUnprocessedInboxRowIds :: calls.filter InboundCall.isOfProcessor := by
    rw [processorCalls, hcalls, List.filter_cons_of_pos rfl]
  refine ⟨h.settled, owed, ?_, howed⟩
  rw [processorResults_ran]
  rw [hfirst] at hpass
  show PassState _ receiving.processor (calls.filter InboundCall.isOfProcessor) _ _
  generalize receiving.processor = phase, receiving.processorResults = results,
    calls.filter InboundCall.isOfProcessor = rest at hpass ⊢
  cases hpass with
  | finds => exact .found hids
  | ended hone hleft =>
      refine .ended ?_ fun k now text hmem => hleft k now text (List.mem_cons_of_mem _ hmem)
      exact Nat.le_of_succ_le hone

/-- **The row processed is the least that waits.** -/
theorem ProcessorOk.isPass_of_call (h : ProcessorOk facts receiving) {k : ℕ} {now : Time}
    {originalText : Option PlainText}
    (hcalls : receiving.calls = .processInboundDirectMessage k now originalText :: calls) :
    IsPass (IsWaiting receiving.relay.inbox) [k] := by
  obtain ⟨owed, hpass, -⟩ := h.pass
  have hfirst : receiving.processorCalls =
      .processInboundDirectMessage k now originalText ::
        calls.filter InboundCall.isOfProcessor := by
    rw [processorCalls, hcalls, List.filter_cons_of_pos rfl]
  rw [hfirst] at hpass
  generalize receiving.processor = phase, receiving.processorResults = results,
    calls.filter InboundCall.isOfProcessor = rest at hpass
  cases hpass with
  | processes hids => exact hids.head
  | ended hone hleft => exact hleft k now originalText List.mem_cons_self

section Facts

variable {state : RelayDb} {k : ℕ}

/-- Nothing more is noted when the call raised. -/
theorem isSilent_processingRaised (isKnown : Bool) :
    IsSilent (if isKnown = true then [] else [ReceivingFact.processingRaised k]) := by
  cases isKnown <;> exact ⟨rfl, rfl⟩

theorem repliedRows_processingFacts (isKnown : Bool) :
    repliedRows (processingFacts state relay' k isKnown) = [] := by
  unfold processingFacts
  rw [repliedRows_append, (isSilent_processingRaised isKnown).2, List.append_nil]
  split <;> rfl

theorem settledRows_processingFacts_of_left (state : RelayDb) (isKnown : Bool)
    (hbefore : IsWaiting state.inbox k) (hafter : ¬ IsWaiting relay'.inbox k) :
    settledRows (processingFacts state relay' k isKnown) = [k] := by
  have hleft : state.inbox.any (isReceivedRow k) = true ∧
      ¬ relay'.inbox.any (isReceivedRow k) = true :=
    ⟨any_isReceivedRow.2 hbefore, fun h => hafter (any_isReceivedRow.1 h)⟩
  unfold processingFacts
  rw [settledRows_append, (isSilent_processingRaised isKnown).1, List.append_nil, if_pos hleft]
  rfl

theorem settledRows_processingFacts_of_kept (state : RelayDb) (isKnown : Bool)
    (hafter : IsWaiting relay'.inbox k) :
    settledRows (processingFacts state relay' k isKnown) = [] := by
  have hkept : ¬ (state.inbox.any (isReceivedRow k) = true ∧
      ¬ relay'.inbox.any (isReceivedRow k) = true) :=
    fun h => h.2 (any_isReceivedRow.2 hafter)
  unfold processingFacts
  rw [settledRows_append, (isSilent_processingRaised isKnown).1, List.append_nil, if_neg hkept]
  rfl

/-- Only a row that waits is settled. -/
theorem mem_settledRows_processingFacts {isKnown : Bool} {i : ℕ}
    (h : i ∈ settledRows (processingFacts state relay' k isKnown)) :
    i = k ∧ IsWaiting state.inbox i := by
  unfold processingFacts at h
  rw [settledRows_append, (isSilent_processingRaised isKnown).1, List.append_nil] at h
  split at h
  · next hleft =>
      obtain rfl := List.mem_singleton.1 h
      exact ⟨rfl, any_isReceivedRow.1 hleft.1⟩
  · cases h

end Facts

/-- The processor after the call for its row ran. -/
theorem PassState.processingRuns {waits waits' : ℕ → Prop} {phase : ProcessorPhase} {k : ℕ}
    {now : Time} {originalText : Option PlainText} {results : List InboundResult}
    {owed : List ℕ} {processingResult : Option InboundProcessingResult}
    (h : PassState waits phase (.processInboundDirectMessage k now originalText :: calls) results
      owed)
    (hresult : ∀ result ∈ processingResult,
      result.inboxRowId = k ∧ result.wasAlreadyProcessed = false)
    (hleft : processingResult ≠ none → ∀ i, waits' i ↔ waits i ∧ i ≠ k) :
    owed = [] ∧ ∃ owed', PassState waits' phase calls (results ++ [.processed processingResult])
      owed' ∧ owed'.Sublist [k] ∧ (processingResult = none → owed' = []) := by
  cases h with
  | processes hids =>
      refine ⟨rfl, ?_⟩
      cases processingResult with
      | none => exact ⟨[], .raised, List.nil_sublist _, fun _ => rfl⟩
      | some result =>
          obtain ⟨hid, hnew⟩ := hresult result rfl
          refine ⟨[k], .processed hid hnew (hids.tail (hleft (by simp))), List.Sublist.refl _, ?_⟩
          simp
  | ended hone hids =>
      obtain rfl : calls = [] :=
        List.length_eq_zero_iff.1 (Nat.le_zero.1 (Nat.le_of_succ_le_succ hone))
      exact ⟨rfl, [], .ended (Nat.zero_le 1) (by simp), List.nil_sublist _, fun _ => rfl⟩

/-- A row is settled while it is the least that waits. -/
theorem ProcessorOk.processingRuns (h : ProcessorOk facts receiving) {k : ℕ} {now : Time}
    {originalText : Option PlainText} {processingResult : Option InboundProcessingResult}
    (hcalls : receiving.calls = .processInboundDirectMessage k now originalText :: calls)
    (heffect : ProcessingEffect k receiving.relay.inbox relay'.inbox processingResult) :
    ProcessorOk
      (facts ++ processingFacts receiving.relay relay' k processingResult.isSome)
      (receiving.ran relay' calls (.processed processingResult)) := by
  have hleast := h.isPass_of_call hcalls
  have hwaits : IsWaiting receiving.relay.inbox k := hleast.pending_of_mem k List.mem_cons_self
  obtain ⟨owed, hpass, howed⟩ := h.pass
  have hfirst : receiving.processorCalls =
      .processInboundDirectMessage k now originalText ::
        calls.filter InboundCall.isOfProcessor := by
    rw [processorCalls, hcalls, List.filter_cons_of_pos rfl]
  rw [hfirst] at hpass
  obtain ⟨rfl, owed', hpass', howed', hnone⟩ := hpass.processingRuns heffect.result
    fun hsome => heffect.waiting.resolve_right fun hkept => hsome hkept.1
  rw [List.append_nil] at howed
  have hresults : (receiving.ran relay' calls (.processed processingResult)).processorResults =
      receiving.processorResults ++ [InboundResult.processed processingResult] :=
    processorResults_ran ..
  rcases heffect.waiting with hleft | ⟨rfl, hkept⟩
  · -- the row is settled
    have hsettled := settledRows_processingFacts_of_left receiving.relay
      processingResult.isSome hwaits fun hk => ((hleft k).1 hk).2 rfl
    constructor
    · rw [settledRows_append, hsettled]
      refine (h.settled.settle hwaits hwaits.lt_nextKey (fun i hi => hleast.le_of_pending hi)
        fun i hi => (hleft i).1 hi).grow heffect.nextKey.ge fun i hi => Or.inl hi
    · refine ⟨owed', ?_, ?_⟩
      · rw [hresults]
        exact hpass'
      · rw [settledRows_append, repliedRows_append, hsettled, repliedRows_processingFacts,
          List.append_nil]
        exact howed.append howed'
  · -- the call raised and left the row as it was
    have hsettled := settledRows_processingFacts_of_kept receiving.relay
      (none : Option InboundProcessingResult).isSome ((hkept k).2 hwaits)
    obtain rfl := hnone rfl
    constructor
    · rw [settledRows_append, hsettled, List.append_nil]
      exact h.settled.grow heffect.nextKey.ge fun i hi => Or.inl ((hkept i).1 hi)
    · refine ⟨[], ?_, ?_⟩
      · rw [hresults]
        exact hpass'
      · rw [settledRows_append, repliedRows_append, hsettled, repliedRows_processingFacts,
          List.append_nil, List.append_nil, List.append_nil]
        exact howed

variable {sha256 : Text → Text} {names : ℕ → Text} {hashing : PasswordHashing}
  {timing : ReceivingTiming}

/-- **A step of the database thread keeps the invariant.** -/
theorem ProcessorOk.callRuns (h : ProcessorOk facts receiving) (callRun : CallRun) :
    ProcessorOk
      (facts ++ (receivingStep sha256 names hashing timing receiving (.callRuns callRun)).2)
      (receivingStep sha256 names hashing timing receiving (.callRuns callRun)).1 := by
  simp only [receivingStep]
  split
  · rw [List.append_nil]
    exact h
  next call calls hcalls =>
  cases call with
  | recordInboundFrame frame now =>
      exact h.recordingRuns hcalls (recordingCall_effect ..) (isSilent_insertionFacts ..)
  | findUnprocessedInboxRowIds =>
      rw [show (InboundCall.run sha256 names hashing callRun receiving.relay
        .findUnprocessedInboxRowIds).2.2 = [] from rfl, List.append_nil]
      refine h.findingRuns hcalls fun found hfound => ?_
      split at hfound
      · cases hfound
        exact isPass_findUnprocessedInboxRowIds unprocessedRowsPerPass
      · cases hfound
  | processInboundDirectMessage k now originalText =>
      have hwaits := (h.isPass_of_call hcalls).pending_of_mem k List.mem_cons_self
      exact h.processingRuns hcalls (processingCall_effect _ _ _ _ _ _ _ _ _ hwaits)

/-! ### The callers -/

/-- The recorder does not touch the processor. -/
theorem ProcessorOk.finishAttempt (h : ProcessorOk facts receiving)
    {frame : ReceivedDirectMessageFrame} {attemptNumber : ℕ}
    {recordedFrame : Option RecordedInboundFrame} {results : List InboundResult}
    (hresults : receiving.results = .recorded recordedFrame :: results) :
    ProcessorOk
      (facts ++
        (ReceivingRelay.finishAttempt { receiving with results } frame attemptNumber
          recordedFrame).2)
      (ReceivingRelay.finishAttempt { receiving with results } frame attemptNumber
        recordedFrame).1 := by
  have hrest : results.filter InboundResult.isOfProcessor = receiving.processorResults := by
    rw [processorResults, hresults, List.filter_cons_of_neg (by simp [InboundResult.isOfProcessor])]
  cases recordedFrame with
  | none => exact h.frame isSilent_nil rfl rfl rfl hrest
  | some recordedFrame =>
      unfold ReceivingRelay.finishAttempt
      dsimp only
      split
      · exact h.frame ⟨rfl, rfl⟩ rfl rfl rfl hrest
      · exact h.frame ⟨rfl, rfl⟩ rfl rfl rfl hrest

/-- A result that nobody waits for. -/
theorem ProcessorOk.drop (h : ProcessorOk facts receiving) {result : InboundResult}
    {results : List InboundResult} (hresults : receiving.results = result :: results)
    (hown : result.isOfProcessor = true)
    (hfinding : ∀ ids, result = .unprocessedRowIds ids → receiving.processor ≠ .finding)
    (hprocessing : ∀ processingResult k rest isFullPass, result = .processed processingResult →
      receiving.processor ≠ .processing k rest isFullPass) :
    ProcessorOk facts { receiving with results } := by
  obtain ⟨owed, hpass, howed⟩ := h.pass
  have hfirst : receiving.processorResults =
      result :: results.filter InboundResult.isOfProcessor := by
    rw [processorResults, hresults, List.filter_cons_of_pos hown]
  rw [hfirst] at hpass
  exact ⟨h.settled, owed, hpass.drop hfinding hprocessing, howed⟩

/-- The rows found are processed. -/
theorem ProcessorOk.foundContinues (h : ProcessorOk facts receiving) (isRunning : Bool)
    {ids : Option (List ℕ)} {results : List InboundResult}
    (hresults : receiving.results = .unprocessedRowIds ids :: results) :
    ProcessorOk
      (facts ++
        (continueFirst { receiving with results } isRunning (.unprocessedRowIds ids)).2)
      (continueFirst { receiving with results } isRunning (.unprocessedRowIds ids)).1 := by
  obtain ⟨owed, hpass, howed⟩ := id h.pass
  have hfirst : receiving.processorResults =
      .unprocessedRowIds ids :: results.filter InboundResult.isOfProcessor := by
    rw [processorResults, hresults, List.filter_cons_of_pos rfl]
  unfold continueFirst
  dsimp only
  split
  · next hphase =>
      rw [hphase, hfirst] at hpass
      obtain ⟨hcalls, hrest, rfl, hids⟩ := hpass.found_inv
      have hidle : ReceivingRelay.ProcessorIdle { receiving with results } := ⟨hcalls, hrest⟩
      cases ids with
      | none =>
          exact h.move [] [] rfl (hidle.passState .restarting rfl rfl) howed
            (List.Sublist.refl _) rfl
      | some found =>
          obtain ⟨hstate, hsilent, hrelay⟩ := continuePass_pass hidle
            (decide (found.length = unprocessedRowsPerPass)) (hids found rfl)
          dsimp only
          refine h.move [] [] hsilent.1 ?_ howed ?_ (by rw [hrelay])
          · rw [hrelay]
            exact hstate
          · rw [hsilent.2]
            exact List.Sublist.refl _
  · next hphase =>
      rw [List.append_nil]
      exact h.drop hresults rfl (fun _ _ heq => hphase heq) fun _ _ _ _ heq => by cases heq

/-- The processor goes on after a row. -/
theorem ProcessorOk.processedContinues (h : ProcessorOk facts receiving) (isRunning : Bool)
    {processingResult : Option InboundProcessingResult} {results : List InboundResult}
    (hresults : receiving.results = .processed processingResult :: results) :
    ProcessorOk
      (facts ++
        (continueFirst { receiving with results } isRunning (.processed processingResult)).2)
      (continueFirst { receiving with results } isRunning (.processed processingResult)).1 := by
  obtain ⟨owed, hpass, howed⟩ := id h.pass
  have hfirst : receiving.processorResults =
      .processed processingResult :: results.filter InboundResult.isOfProcessor := by
    rw [processorResults, hresults, List.filter_cons_of_pos rfl]
  unfold continueFirst
  dsimp only
  split
  · next k rest isFullPass hphase =>
      rw [hphase, hfirst] at hpass
      obtain ⟨hcalls, hrest, hresult⟩ := hpass.processed_inv
      have hidle : ReceivingRelay.ProcessorIdle { receiving with results } := ⟨hcalls, hrest⟩
      cases processingResult with
      | none =>
          exact h.move owed [] rfl (hidle.passState .restarting rfl rfl) howed
            (List.nil_sublist _) rfl
      | some result =>
          obtain ⟨rfl, hid, hnew, hids⟩ := hresult result rfl
          unfold finishRow
          dsimp only
          rw [if_neg (by rw [hnew]; simp)]
          split
          · exact h.move [k] [k] rfl (hidle.passState (.resets hid hids) rfl rfl) howed
              (List.Sublist.refl _) rfl
          · obtain ⟨hstate, hsettled, hreplied, hrelay⟩ :=
              queueReplies_pass hidle isFullPass hids result
            refine h.move [k] [] hsettled ?_ howed ?_ (by rw [hrelay])
            · rw [hrelay]
              exact hstate
            · rw [hreplied, hid, List.append_nil]
  · next hphase =>
      rw [List.append_nil]
      exact h.drop hresults rfl (fun _ heq => by cases heq)
        fun _ k rest isFullPass _ heq => hphase k rest isFullPass heq

/-- The first caller goes on. -/
theorem ProcessorOk.callerContinues (h : ProcessorOk facts receiving) (isRunning : Bool) :
    ProcessorOk
      (facts ++
        (receivingStep sha256 names hashing timing receiving (.callerContinues isRunning)).2)
      (receivingStep sha256 names hashing timing receiving (.callerContinues isRunning)).1 := by
  simp only [receivingStep]
  split
  · rw [List.append_nil]
    exact h
  next result results hresults =>
  cases result with
  | recorded recordedFrame =>
      unfold continueFirst
      dsimp only
      split
      · exact h.finishAttempt hresults
      · refine h.frame isSilent_nil rfl rfl rfl ?_
        rw [processorResults, processorResults, hresults,
          List.filter_cons_of_neg (by simp [InboundResult.isOfProcessor])]
  | unprocessedRowIds ids => exact h.foundContinues isRunning hresults
  | processed processingResult => exact h.processedContinues isRunning hresults

/-! ### Every step -/

/-- The processor starts a pass. -/
theorem ProcessorOk.startPass (h : ProcessorOk facts receiving)
    (hphase : receiving.processor = .restarting ∨ receiving.processor = .waiting) :
    ProcessorOk (facts ++ []) receiving.startPass := by
  obtain ⟨owed, hpass, howed⟩ := id h.pass
  obtain ⟨hcalls, hresults, rfl⟩ := hpass.idle_inv hphase
  obtain ⟨hstate, hrelay⟩ := startPass_pass ⟨hcalls, hresults⟩ (IsWaiting receiving.relay.inbox)
  refine h.move [] [] rfl ?_ howed (List.Sublist.refl _) (by rw [hrelay])
  rw [hrelay]
  exact hstate

/-- A route reset ends. -/
theorem ProcessorOk.routeResetEnds (h : ProcessorOk facts receiving) (raises : Bool) :
    ProcessorOk
      (facts ++ (receivingStep sha256 names hashing timing receiving (.routeResetEnds raises)).2)
      (receivingStep sha256 names hashing timing receiving (.routeResetEnds raises)).1 := by
  obtain ⟨owed, hpass, howed⟩ := id h.pass
  simp only [receivingStep]
  split
  · next result rest isFullPass hphase =>
      rw [hphase] at hpass
      obtain ⟨hcalls, hresults, rfl, hids⟩ := hpass.resets_inv
      have hidle : receiving.ProcessorIdle := ⟨hcalls, hresults⟩
      split
      · exact h.move [result.inboxRowId] [] rfl (hidle.passState .restarting rfl rfl) howed
          (List.nil_sublist _) rfl
      · obtain ⟨hstate, hsettled, hreplied, hrelay⟩ :=
          queueReplies_pass hidle isFullPass hids result
        refine h.move [result.inboxRowId] [] hsettled ?_ howed ?_ (by rw [hrelay])
        · rw [hrelay]
          exact hstate
        · rw [hreplied, List.append_nil]
  · rw [List.append_nil]
    exact h

/-- The recorder gives a frame to the database thread. -/
theorem ProcessorOk.startAttempt (h : ProcessorOk facts receiving)
    (frame : ReceivedDirectMessageFrame) (attemptNumber : ℕ)
    (queue : List ReceivedDirectMessageFrame) :
    ProcessorOk (facts ++ [])
      (ReceivingRelay.startAttempt { receiving with inboundFrameQueue := queue } frame
        attemptNumber) :=
  h.frame isSilent_nil rfl rfl
    (by simp [processorCalls, ReceivingRelay.startAttempt, submit, InboundCall.isOfProcessor]) rfl

/-- Another transaction commits. -/
theorem ProcessorOk.transaction (h : ProcessorOk facts receiving)
    (hleaves : LeavesReceivedRows receiving.relay.inbox relay'.inbox) :
    ProcessorOk facts { receiving with relay := relay' } := by
  obtain ⟨owed, hpass, howed⟩ := h.pass
  have hiff := hleaves.isWaiting_iff
  refine ⟨h.settled.grow hleaves.1.ge fun i hi => Or.inl ((hiff i).1 hi), owed, ?_, howed⟩
  exact hpass.map fun ids hids => hids.congr hiff

/-- The processor is cancelled. -/
theorem ProcessorOk.cancel (h : ProcessorOk facts receiving) :
    ProcessorOk facts { receiving with processor := .ended } := by
  obtain ⟨owed, hpass, howed⟩ := h.pass
  refine ⟨h.settled, [], hpass.cancel, ?_⟩
  rw [List.append_nil]
  exact (List.sublist_append_left _ owed).trans howed

/-- **Every step keeps the invariant.** -/
theorem ProcessorOk.step (h : ProcessorOk facts receiving) (event : ReceivingEvent) :
    ProcessorOk (facts ++ (receivingStep sha256 names hashing timing receiving event).2)
      (receivingStep sha256 names hashing timing receiving event).1 := by
  have hsame : ProcessorOk (facts ++ []) receiving := by
    rw [List.append_nil]
    exact h
  cases event with
  | clockShows now => exact h.frame isSilent_nil rfl rfl rfl rfl
  | transaction relay' =>
      simp only [receivingStep]
      split
      · next hleaves =>
          rw [List.append_nil]
          exact h.transaction hleaves
      · exact hsame
  | frameArrives frame => exact h.frame ⟨rfl, rfl⟩ rfl rfl rfl rfl
  | recorderTakes =>
      simp only [receivingStep]
      split
      · exact h.startAttempt _ 1 _
      · exact hsame
  | retryPauseEnds =>
      simp only [receivingStep]
      split
      · unfold continueRecording
        split
        · exact h.startAttempt _ _ receiving.inboundFrameQueue
        · exact h.frame ⟨rfl, rfl⟩ rfl rfl rfl rfl
      · exact hsame
  | callRuns callRun => exact h.callRuns callRun
  | callerContinues isRunning => exact h.callerContinues isRunning
  | routeResetEnds raises => exact h.routeResetEnds raises
  | processorStarts =>
      simp only [receivingStep]
      split
      · next hphase => exact h.startPass (Or.inl hphase)
      · exact hsame
  | processorWakes =>
      simp only [receivingStep]
      split
      · next hphase => exact h.startPass (Or.inr hphase)
      · exact hsame
  | shutdownRequested => exact h.frame isSilent_nil rfl rfl rfl rfl
  | framesFinish =>
      simp only [receivingStep]
      split
      · exact h.frame isSilent_nil rfl rfl rfl rfl
      · exact hsame
  | recorderStops =>
      simp only [receivingStep]
      split
      · exact h.frame isSilent_nil rfl rfl rfl rfl
      · exact hsame
  | recorderCancelled =>
      simp only [receivingStep]
      split
      · exact h.frame (isSilent_lostFacts _) rfl rfl rfl rfl
      · exact hsame
  | processorCancelled =>
      simp only [receivingStep]
      split
      · rw [List.append_nil]
        exact h.cancel
      · exact hsame
  | workerRestarts =>
      obtain ⟨owed, -, howed⟩ := h.pass
      have hsilent := isSilent_lostFacts receiving.unrecordedFrames
      refine h.move owed [] hsilent.1 .restarting howed ?_ rfl
      show (repliedRows (lostFacts receiving.unrecordedFrames) ++ []).Sublist owed
      rw [hsilent.2]
      exact List.nil_sublist _

end Step

end HoptalkRelay
