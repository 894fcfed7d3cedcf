/-
**A sign-in is processed with the text of its own frame.**

The inbox stores a sign-in without its password, so the recorder hands the frame's own text over in
memory.  The row is in the database before the recorder hears of it, so the processor could find it
first.  It does not: the database thread runs its calls, and the event loop continues their callers,
in the order of submission, so a row that is found has its recording answered before.

A row without a text in memory was there before this worker, or a call for it raised.  The text
leaves memory when the row is taken, so no text outlives its row's wait.

Main definitions:

* `HoptalkRelay.Announces`, `HoptalkRelay.IsAnnounced` — a recording that is still to be answered;
* `HoptalkRelay.IsLeftOver` — a row without a text;
* `HoptalkRelay.TextsOk` — the invariant.

Main results:

* `HoptalkRelay.TextsOk.step` — **every step keeps the invariant**;
* `HoptalkRelay.rows_taken_with_own_texts` — **a row is taken with the text of its frame**.
-/

import HoptalkRelay.Invariants.ArrivalOrder

set_option relaxedAutoImplicit false
set_option autoImplicit false

namespace HoptalkRelay

open Relational Transition Batching ReceivingRelay

/-! ### Rows on their way to the processor -/

/-- The result tells the recorder of its new row. -/
def Announces (result : InboundResult) (k : ℕ) : Prop :=
  ∃ recordedFrame : RecordedInboundFrame, result = .recorded (some recordedFrame) ∧
    recordedFrame.isFirmwareRepeat = false ∧ recordedFrame.inboxRowId = k

/-- The recorder is still to be told of its new row. -/
def IsAnnounced (results : List InboundResult) (k : ℕ) : Prop :=
  ∃ result ∈ results, Announces result k

/-- The row is given to be processed. -/
def IsTaken (calls : List InboundCall) (k : ℕ) : Prop :=
  ∃ now originalText, .processInboundDirectMessage k now originalText ∈ calls

/-- The row was there before this worker, its recording raised after its commit, or processing it
raised: its text is not in memory. -/
def IsLeftOver (start : RelayDb) (facts : List ReceivingFact) (k : ℕ) : Prop :=
  k < start.inbox.nextKey ∨ (∃ frame, .inserted k frame false ∈ facts) ∨
    .processingRaised k ∈ facts

/-- The rows of the pass behind the one in hand. -/
def ProcessorPhase.rest : ProcessorPhase → List ℕ
  | .processing _ rest _ => rest
  | .resettingRoute _ rest _ => rest
  | _ => []

/-- The row's own text. -/
def IsOwnText (facts : List ReceivingFact) (k : ℕ) (text : PlainText) : Prop :=
  ∃ frame : ReceivedDirectMessageFrame, text = frame.text ∧ .inserted k frame true ∈ facts

section Facts

variable {start : RelayDb} {facts facts' : List ReceivingFact} {k : ℕ} {text : PlainText}

theorem IsLeftOver.mono (h : IsLeftOver start facts k) (hfacts : facts ⊆ facts') :
    IsLeftOver start facts' k := by
  rcases h with hold | ⟨frame, hinserted⟩ | hraised
  · exact Or.inl hold
  · exact Or.inr (Or.inl ⟨frame, hfacts hinserted⟩)
  · exact Or.inr (Or.inr (hfacts hraised))

theorem IsOwnText.mono (h : IsOwnText facts k text) (hfacts : facts ⊆ facts') :
    IsOwnText facts' k text := by
  obtain ⟨frame, htext, hinserted⟩ := h
  exact ⟨frame, htext, hfacts hinserted⟩

theorem isAnnounced_append {results results' : List InboundResult} :
    IsAnnounced (results ++ results') k ↔ IsAnnounced results k ∨ IsAnnounced results' k := by
  simp only [IsAnnounced, List.mem_append, or_and_right, exists_or]

theorem isAnnounced_singleton {result : InboundResult} :
    IsAnnounced [result] k ↔ Announces result k := by
  simp [IsAnnounced]

theorem not_announces_of_isOfProcessor {result : InboundResult}
    (h : result.isOfProcessor = true) : ¬ Announces result k := by
  rintro ⟨recordedFrame, rfl, -⟩
  cases h

end Facts

/-! ### The invariant -/

/-- Every row that waits has its text in memory or on its way there, unless it is left over. -/
structure TextsOk (start : RelayDb) (facts : List ReceivingFact) (receiving : ReceivingRelay) :
    Prop where
  /-- A text in memory is its row's own, and the row waits. -/
  own : ∀ k text, receiving.originalTexts.lookup k = some text →
    IsWaiting receiving.relay.inbox k ∧ IsOwnText facts k text
  waiting : ∀ k, IsWaiting receiving.relay.inbox k → IsLeftOver start facts k ∨
    k ∈ receiving.originalTexts ∨ IsAnnounced receiving.results k ∨ IsTaken receiving.calls k
  announced : ∀ k, IsAnnounced receiving.results k → IsWaiting receiving.relay.inbox k
  /-- A recording is answered before the rows found after it. -/
  ordered : receiving.results.Pairwise fun earlier later =>
    ∀ ids, earlier = .unprocessedRowIds (some ids) → ∀ k ∈ ids, ¬ Announces later k
  found : ∀ ids, .unprocessedRowIds (some ids) ∈ receiving.results →
    ∀ k ∈ ids, k < receiving.relay.inbox.nextKey
  /-- The rows of the pass are below what the recorder is still to be told of. -/
  pass : ∀ k, k ∈ receiving.processor.rest ∨ IsTaken receiving.calls k →
    k < receiving.relay.inbox.nextKey ∧ ¬ IsAnnounced receiving.results k
  /-- A row that was taken has no text in memory any more. -/
  gone : ∀ k, IsTaken receiving.calls k → k ∉ receiving.originalTexts
  /-- A recorder that stopped has nothing to be told. -/
  stopped : receiving.recorder = .ended →
    receiving.recorderCalls = [] ∧ receiving.recorderResults = []
  taken : ∀ k originalText, .taken k originalText ∈ facts →
    (∃ text, originalText = some text ∧ IsOwnText facts k text) ∨
      originalText = none ∧ IsLeftOver start facts k

section Step

variable {start : RelayDb} {facts newFacts : List ReceivingFact}
  {receiving receiving' : ReceivingRelay}

/-- Nothing about rows that were taken was noted. -/
def IsTakeless (facts : List ReceivingFact) : Prop :=
  ∀ k originalText, ReceivingFact.taken k originalText ∉ facts

theorem isTakeless_nil : IsTakeless [] := fun _ _ => List.not_mem_nil

theorem isTakeless_singleton {fact : ReceivingFact}
    (h : ∀ k originalText, fact ≠ .taken k originalText) : IsTakeless [fact] :=
  fun k originalText hmem => h k originalText (List.mem_singleton.1 hmem).symm

/-- What was taken before stays accounted for. -/
theorem TextsOk.taken_append (h : TextsOk start facts receiving) (hnew : IsTakeless newFacts)
    (k : ℕ) (originalText : Option PlainText)
    (hmem : ReceivingFact.taken k originalText ∈ facts ++ newFacts) :
    (∃ text, originalText = some text ∧ IsOwnText (facts ++ newFacts) k text) ∨
      originalText = none ∧ IsLeftOver start (facts ++ newFacts) k := by
  have hold := (List.mem_append.1 hmem).resolve_right (hnew k originalText)
  have hsubset : facts ⊆ facts ++ newFacts := List.subset_append_left _ _
  rcases h.taken k originalText hold with ⟨text, htext, hown⟩ | ⟨hnone, hleft⟩
  · exact Or.inl ⟨text, htext, hown.mono hsubset⟩
  · exact Or.inr ⟨hnone, hleft.mono hsubset⟩

/-- A step that hands nothing over and takes nothing. -/
theorem TextsOk.frame (h : TextsOk start facts receiving) (hnew : IsTakeless newFacts)
    (hinbox : receiving'.relay.inbox = receiving.relay.inbox)
    (htexts : receiving'.originalTexts = receiving.originalTexts)
    (hresults : receiving'.results = receiving.results)
    (htaken : ∀ k, IsTaken receiving'.calls k ↔ IsTaken receiving.calls k)
    (hrest : receiving'.processor.rest ⊆ receiving.processor.rest)
    (hstopped : receiving'.recorder = .ended →
      receiving'.recorderCalls = [] ∧ receiving'.recorderResults = []) :
    TextsOk start (facts ++ newFacts) receiving' := by
  have hsubset : facts ⊆ facts ++ newFacts := List.subset_append_left _ _
  refine ⟨?_, ?_, ?_, ?_, ?_, ?_, ?_, hstopped, h.taken_append hnew⟩
  · intro k text htext
    rw [htexts] at htext
    rw [hinbox]
    exact ⟨(h.own k text htext).1, (h.own k text htext).2.mono hsubset⟩
  · intro k hk
    rw [hinbox] at hk
    rw [htexts, hresults, htaken]
    exact (h.waiting k hk).imp (fun hleft => hleft.mono hsubset) id
  · rw [hresults, hinbox]
    exact h.announced
  · rw [hresults]
    exact h.ordered
  · rw [hresults, hinbox]
    exact h.found
  · intro k hk
    rw [hresults, hinbox]
    exact h.pass k (hk.imp (fun hk => hrest hk) fun hk => (htaken k).1 hk)
  · intro k hk
    rw [htexts]
    exact h.gone k ((htaken k).1 hk)

theorem isTaken_append {calls calls' : List InboundCall} {k : ℕ} :
    IsTaken (calls ++ calls') k ↔ IsTaken calls k ∨ IsTaken calls' k := by
  constructor
  · rintro ⟨now, originalText, hmem⟩
    exact (List.mem_append.1 hmem).imp (fun h => ⟨now, originalText, h⟩)
      fun h => ⟨now, originalText, h⟩
  · rintro (⟨now, originalText, hmem⟩ | ⟨now, originalText, hmem⟩)
    · exact ⟨now, originalText, List.mem_append_left _ hmem⟩
    · exact ⟨now, originalText, List.mem_append_right _ hmem⟩

/-- Submitting any other call takes no row. -/
theorem isTaken_submit {calls : List InboundCall} {call : InboundCall} {k : ℕ}
    (hcall : ∀ i now originalText, call ≠ .processInboundDirectMessage i now originalText) :
    IsTaken (calls ++ [call]) k ↔ IsTaken calls k := by
  rw [isTaken_append]
  refine or_iff_left ?_
  rintro ⟨now, originalText, hmem⟩
  exact hcall k now originalText (List.mem_singleton.1 hmem).symm

theorem TextsOk.startAttempt (h : TextsOk start facts receiving)
    (frame : ReceivedDirectMessageFrame) (attemptNumber : ℕ)
    (queue : List ReceivedDirectMessageFrame) :
    TextsOk start (facts ++ [])
      (ReceivingRelay.startAttempt { receiving with inboundFrameQueue := queue } frame
        attemptNumber) :=
  h.frame isTakeless_nil rfl rfl rfl
    (fun k => isTaken_submit (by simp)) (List.Subset.refl _) (fun hended => by cases hended)

theorem TextsOk.startPass (h : TextsOk start facts receiving) :
    TextsOk start (facts ++ []) receiving.startPass := by
  unfold ReceivingRelay.startPass
  split
  · exact h.frame isTakeless_nil rfl rfl rfl (fun k => Iff.rfl) (List.nil_subset _) h.stopped
  · refine h.frame isTakeless_nil rfl rfl rfl (fun k => isTaken_submit (by simp))
      (List.nil_subset _) fun hended => ?_
    refine ⟨?_, (h.stopped hended).2⟩
    have hcalls := (h.stopped hended).1
    simp only [recorderCalls, submit, List.filter_append] at hcalls ⊢
    rw [hcalls]
    rfl

/-! ### A row is taken -/

/-- **A row is taken with its own text**, unless it is left over. -/
theorem TextsOk.take (h : TextsOk start facts receiving) (hidle : receiving.ProcessorIdle)
    (isFullPass : Bool) {k : ℕ} {rest : List ℕ}
    (hids : IsPass (IsWaiting receiving.relay.inbox) (k :: rest))
    (hahead : ∀ i ∈ k :: rest, ¬ IsAnnounced receiving.results i) :
    TextsOk start (facts ++ [.taken k (receiving.originalTexts.lookup k)])
      (submit
        { receiving with
          processor := .processing k rest isFullPass
          originalTexts := receiving.originalTexts.erase k }
        (.processInboundDirectMessage k receiving.now (receiving.originalTexts.lookup k))) := by
  have hsubset : facts ⊆ facts ++ [ReceivingFact.taken k (receiving.originalTexts.lookup k)] :=
    List.subset_append_left _ _
  have hnone : ∀ i, ¬ IsTaken receiving.calls i := by
    rintro i ⟨now, originalText, hmem⟩
    have hown : InboundCall.processInboundDirectMessage i now originalText ∈
        receiving.processorCalls := List.mem_filter.2 ⟨hmem, rfl⟩
    rw [hidle.1] at hown
    cases hown
  have htaken : ∀ i, IsTaken (receiving.calls ++
      [InboundCall.processInboundDirectMessage k receiving.now
        (receiving.originalTexts.lookup k)]) i ↔ i = k := by
    intro i
    rw [isTaken_append, or_iff_right (hnone i)]
    simp [IsTaken]
  refine ⟨?_, ?_, h.announced, h.ordered, h.found, ?_, ?_, fun hended => ?_, ?_⟩
  · intro i text htext
    change (receiving.originalTexts.erase k).lookup i = some text at htext
    have hne : i ≠ k := by
      rintro rfl
      rw [AList.lookup_erase] at htext
      cases htext
    rw [AList.lookup_erase_ne hne] at htext
    exact ⟨(h.own i text htext).1, (h.own i text htext).2.mono hsubset⟩
  · intro i hi
    by_cases hik : i = k
    · exact Or.inr (Or.inr (Or.inr ((htaken i).2 hik)))
    rcases h.waiting i hi with hleft | hmem | hannounced | hcalled
    · exact Or.inl (hleft.mono hsubset)
    · exact Or.inr (Or.inl (AList.mem_erase.2 ⟨hik, hmem⟩))
    · exact Or.inr (Or.inr (Or.inl hannounced))
    · exact absurd hcalled (hnone i)
  · intro i hi
    have hmem : i ∈ k :: rest := by
      rcases hi with hi | hi
      · exact List.mem_cons_of_mem k hi
      · rw [(htaken i).1 hi]
        exact List.mem_cons_self
    exact ⟨(hids.pending_of_mem i hmem).lt_nextKey, hahead i hmem⟩
  · intro i hi
    obtain rfl := (htaken i).1 hi
    exact fun hmem => (AList.mem_erase.1 hmem).1 rfl
  · refine ⟨?_, (h.stopped hended).2⟩
    have hcalls := (h.stopped hended).1
    simp only [recorderCalls, submit, List.filter_append] at hcalls ⊢
    rw [hcalls]
    rfl
  · intro i originalText hmem
    rcases List.mem_append.1 hmem with hold | hnew
    · rcases h.taken i originalText hold with ⟨text, htext, hown⟩ | ⟨hnothing, hleft⟩
      · exact Or.inl ⟨text, htext, hown.mono hsubset⟩
      · exact Or.inr ⟨hnothing, hleft.mono hsubset⟩
    · cases List.mem_singleton.1 hnew
      cases hlookup : receiving.originalTexts.lookup k with
      | some text =>
          exact Or.inl ⟨text, rfl, (h.own k text hlookup).2.mono (List.subset_append_left _ _)⟩
      | none =>
          refine Or.inr ⟨rfl, ?_⟩
          rcases h.waiting k (hids.pending_of_mem k List.mem_cons_self) with
            hleft | hmem | hannounced | hcalled
          · exact hleft.mono (List.subset_append_left _ _)
          · exact absurd hmem (AList.lookup_eq_none.1 hlookup)
          · exact absurd hannounced (hahead k List.mem_cons_self)
          · exact absurd hcalled (hnone k)

theorem TextsOk.continuePass (h : TextsOk start facts receiving)
    (hidle : receiving.ProcessorIdle) (isFullPass : Bool) {ids : List ℕ}
    (hids : IsPass (IsWaiting receiving.relay.inbox) ids)
    (hahead : ∀ k ∈ ids, ¬ IsAnnounced receiving.results k) :
    TextsOk start (facts ++ (receiving.continuePass isFullPass ids).2)
      (receiving.continuePass isFullPass ids).1 := by
  cases ids with
  | nil =>
      simp only [ReceivingRelay.continuePass]
      split
      · exact h.startPass
      · exact h.frame isTakeless_nil rfl rfl rfl (fun k => Iff.rfl) (List.nil_subset _) h.stopped
  | cons k rest =>
      simp only [ReceivingRelay.continuePass]
      split
      · exact h.frame isTakeless_nil rfl rfl rfl (fun k => Iff.rfl) (List.nil_subset _) h.stopped
      · exact h.take hidle isFullPass hids hahead

/-! ### The calls -/

variable {relay' : RelayDb} {calls : List InboundCall}

/-- The recorder is told of a row that is above all that was found. -/
theorem TextsOk.recordingRuns (h : TextsOk start facts receiving)
    {frame : ReceivedDirectMessageFrame} {now : Time}
    {recordedFrame : Option RecordedInboundFrame}
    (hcalls : receiving.calls = .recordInboundFrame frame now :: calls)
    (heffect : RecordingEffect receiving.relay.inbox relay'.inbox recordedFrame) :
    TextsOk start (facts ++ insertionFacts receiving.relay relay' frame recordedFrame.isSome)
      (receiving.ran relay' calls (.recorded recordedFrame)) := by
  have hsubset : facts ⊆ facts ++
      insertionFacts receiving.relay relay' frame recordedFrame.isSome :=
    List.subset_append_left _ _
  have hactive : receiving.recorder ≠ .ended := by
    intro hended
    have hnone := (h.stopped hended).1
    rw [recorderCalls, hcalls, List.filter_cons_of_pos (by simp [InboundCall.isOfProcessor])]
      at hnone
    cases hnone
  have htaken : ∀ k, IsTaken receiving.calls k ↔ IsTaken calls k := by
    intro k
    rw [hcalls]
    simp [IsTaken]
  have hgrows : ∀ k, IsWaiting receiving.relay.inbox k → IsWaiting relay'.inbox k := by
    cases heffect with
    | kept hkey hwaiting hrepeat => exact fun k hk => (hwaiting k).2 hk
    | inserted hkey hwaiting hnew => exact fun k hk => (hwaiting k).2 (Or.inl hk)
  have hkey : receiving.relay.inbox.nextKey ≤ relay'.inbox.nextKey := by
    cases heffect with
    | kept hkey hwaiting hrepeat => exact hkey.ge
    | inserted hkey hwaiting hnew => omega
  -- what the recorder is told of now was inserted now
  have hannounces : ∀ k, Announces (.recorded recordedFrame) k →
      k = receiving.relay.inbox.nextKey ∧ IsWaiting relay'.inbox k := by
    rintro k ⟨recorded, heq, hfresh, rfl⟩
    cases heq
    cases heffect with
    | kept hkey hwaiting hrepeat =>
        rw [hrepeat recorded rfl] at hfresh
        cases hfresh
    | inserted hkey hwaiting hnew =>
        have hid := (hnew recorded rfl).2
        exact ⟨hid, (hwaiting _).2 (Or.inr hid)⟩
  refine ⟨?_, ?_, ?_, ?_, ?_, ?_, ?_, fun hended => absurd hended hactive, h.taken_append ?_⟩
  · intro k text htext
    exact ⟨hgrows k (h.own k text htext).1, (h.own k text htext).2.mono hsubset⟩
  · intro k hk
    have hold : IsWaiting receiving.relay.inbox k → IsLeftOver start
        (facts ++ insertionFacts receiving.relay relay' frame recordedFrame.isSome) k ∨
          k ∈ receiving.originalTexts ∨
          IsAnnounced (receiving.results ++ [InboundResult.recorded recordedFrame]) k ∨
          IsTaken calls k := by
      intro hold
      rcases h.waiting k hold with hleft | hmem | hannounced | hcalled
      · exact Or.inl (hleft.mono hsubset)
      · exact Or.inr (Or.inl hmem)
      · exact Or.inr (Or.inr (Or.inl (isAnnounced_append.2 (Or.inl hannounced))))
      · exact Or.inr (Or.inr (Or.inr ((htaken k).1 hcalled)))
    cases heffect with
    | kept hkey hwaiting hrepeat => exact hold ((hwaiting k).1 hk)
    | inserted hkey hwaiting hnew =>
        rcases (hwaiting k).1 hk with hk | rfl
        · exact hold hk
        cases recordedFrame with
        | some recorded =>
            obtain ⟨hfresh, hid⟩ := hnew recorded rfl
            refine Or.inr (Or.inr (Or.inl (isAnnounced_append.2 (Or.inr ?_))))
            exact isAnnounced_singleton.2 ⟨recorded, rfl, hfresh, hid⟩
        | none =>
            refine Or.inl (Or.inr (Or.inl ⟨frame, List.mem_append_right _ ?_⟩))
            rw [insertionFacts, if_pos (by omega)]
            exact List.mem_cons_self
  · intro k hk
    rcases isAnnounced_append.1 hk with hold | hnew
    · exact hgrows k (h.announced k hold)
    · exact (hannounces k (isAnnounced_singleton.1 hnew)).2
  · refine List.pairwise_append.2 ⟨h.ordered, List.pairwise_singleton _ _, ?_⟩
    rintro earlier hearlier later hlater ids rfl k hk hannounced
    obtain rfl := List.mem_singleton.1 hlater
    exact absurd (hannounces k hannounced).1 (h.found ids hearlier k hk).ne
  · intro ids hids k hk
    have hold : InboundResult.unprocessedRowIds (some ids) ∈ receiving.results := by
      refine (List.mem_append.1 hids).resolve_right fun hone => ?_
      cases List.mem_singleton.1 hone
    exact lt_of_lt_of_le (h.found ids hold k hk) hkey
  · intro k hk
    obtain ⟨hlt, hnot⟩ := h.pass k (hk.imp id (htaken k).2)
    refine ⟨lt_of_lt_of_le hlt hkey, fun hannounced => ?_⟩
    rcases isAnnounced_append.1 hannounced with hold | hnew
    · exact hnot hold
    · exact absurd (hannounces k (isAnnounced_singleton.1 hnew)).1 hlt.ne
  · intro k hk
    exact h.gone k ((htaken k).2 hk)
  · intro k originalText hmem
    unfold insertionFacts at hmem
    split at hmem <;> simp at hmem

/-- A result of the processor tells the recorder nothing. -/
theorem isAnnounced_snoc {results : List InboundResult} {result : InboundResult}
    (hresult : result.isOfProcessor = true) (k : ℕ) :
    IsAnnounced (results ++ [result]) k ↔ IsAnnounced results k := by
  rw [isAnnounced_append, isAnnounced_singleton]
  exact or_iff_left (not_announces_of_isOfProcessor hresult)

/-- A result of the processor comes after every recording that was answered. -/
theorem TextsOk.ordered_snoc (h : TextsOk start facts receiving) {result : InboundResult}
    (hresult : result.isOfProcessor = true) :
    (receiving.results ++ [result]).Pairwise fun earlier later =>
      ∀ ids, earlier = .unprocessedRowIds (some ids) → ∀ k ∈ ids, ¬ Announces later k := by
  refine List.pairwise_append.2 ⟨h.ordered, List.pairwise_singleton _ _, ?_⟩
  rintro earlier - later hlater ids - k -
  obtain rfl := List.mem_singleton.1 hlater
  exact not_announces_of_isOfProcessor hresult

/-- A recorder that stopped is not in the way of the processor's calls. -/
theorem TextsOk.stopped_ran (h : TextsOk start facts receiving) {call : InboundCall}
    {result : InboundResult} (hcalls : receiving.calls = call :: calls)
    (hcall : call.isOfProcessor = true) (hresult : result.isOfProcessor = true)
    (hended : receiving.recorder = .ended) :
    (receiving.ran relay' calls result).recorderCalls = [] ∧
      (receiving.ran relay' calls result).recorderResults = [] := by
  obtain ⟨hnone, hnothing⟩ := h.stopped hended
  rw [recorderCalls, hcalls, List.filter_cons_of_neg (by simp [hcall])] at hnone
  refine ⟨hnone, ?_⟩
  simp only [ReceivingRelay.ran, recorderResults, List.filter_append] at hnothing ⊢
  rw [hnothing]
  simp [hresult]

/-- The rows found were recorded before. -/
theorem TextsOk.findingRuns (h : TextsOk start facts receiving) {ids : Option (List ℕ)}
    (hcalls : receiving.calls = .findUnprocessedInboxRowIds :: calls)
    (hids : ∀ found ∈ ids, IsPass (IsWaiting receiving.relay.inbox) found) :
    TextsOk start (facts ++ []) (receiving.ran receiving.relay calls (.unprocessedRowIds ids)) := by
  rw [List.append_nil]
  have htaken : ∀ k, IsTaken receiving.calls k ↔ IsTaken calls k := by
    intro k
    rw [hcalls]
    simp [IsTaken]
  have hannounced : ∀ k,
      IsAnnounced (receiving.results ++ [InboundResult.unprocessedRowIds ids]) k ↔
        IsAnnounced receiving.results k := isAnnounced_snoc rfl
  refine ⟨h.own, fun k hk => ?_, fun k hk => h.announced k ((hannounced k).1 hk),
    h.ordered_snoc rfl, ?_, fun k hk => ?_, fun k hk => h.gone k ((htaken k).2 hk),
    h.stopped_ran hcalls rfl rfl, h.taken⟩
  · rcases h.waiting k hk with hleft | hmem | hold | hcalled
    · exact Or.inl hleft
    · exact Or.inr (Or.inl hmem)
    · exact Or.inr (Or.inr (Or.inl ((hannounced k).2 hold)))
    · exact Or.inr (Or.inr (Or.inr ((htaken k).1 hcalled)))
  · intro found hfound k hk
    rcases List.mem_append.1 hfound with hold | hnew
    · exact h.found found hold k hk
    · cases List.mem_singleton.1 hnew
      exact ((hids found rfl).pending_of_mem k hk).lt_nextKey
  · obtain ⟨hlt, hnot⟩ := h.pass k (hk.imp id (htaken k).2)
    exact ⟨hlt, fun hnew => hnot ((hannounced k).1 hnew)⟩

/-- A row that was processed needs its text no more; one whose call raised is left over. -/
theorem TextsOk.processingRuns (h : TextsOk start facts receiving) {k : ℕ} {now : Time}
    {originalText : Option PlainText} {processingResult : Option InboundProcessingResult}
    (hcalls : receiving.calls = .processInboundDirectMessage k now originalText :: calls)
    (heffect : ProcessingEffect k receiving.relay.inbox relay'.inbox processingResult) :
    TextsOk start
      (facts ++ processingFacts receiving.relay relay' k processingResult.isSome)
      (receiving.ran relay' calls (.processed processingResult)) := by
  have hsubset : facts ⊆ facts ++
      processingFacts receiving.relay relay' k processingResult.isSome :=
    List.subset_append_left _ _
  have htaken : ∀ i, IsTaken receiving.calls i ↔ i = k ∨ IsTaken calls i := by
    intro i
    rw [hcalls, ← List.singleton_append, isTaken_append]
    simp [IsTaken]
  have hannounced : ∀ i,
      IsAnnounced (receiving.results ++ [InboundResult.processed processingResult]) i ↔
        IsAnnounced receiving.results i := isAnnounced_snoc rfl
  have hk : IsTaken receiving.calls k := (htaken k).2 (Or.inl rfl)
  have hshrinks : ∀ i, IsWaiting relay'.inbox i → IsWaiting receiving.relay.inbox i := by
    intro i hi
    rcases heffect.waiting with hleft | ⟨-, hkept⟩
    · exact ((hleft i).1 hi).1
    · exact (hkept i).1 hi
  have hstays : ∀ i, IsWaiting receiving.relay.inbox i → i ≠ k → IsWaiting relay'.inbox i := by
    intro i hi hne
    rcases heffect.waiting with hleft | ⟨-, hkept⟩
    · exact (hleft i).2 ⟨hi, hne⟩
    · exact (hkept i).2 hi
  refine ⟨?_, ?_, ?_, h.ordered_snoc rfl, ?_, ?_, ?_, h.stopped_ran hcalls rfl rfl,
    h.taken_append ?_⟩
  · intro i text htext
    have hne : i ≠ k := by
      rintro rfl
      exact h.gone i hk (AList.lookup_isSome.1 (Option.isSome_iff_exists.2 ⟨text, htext⟩))
    exact ⟨hstays i (h.own i text htext).1 hne, (h.own i text htext).2.mono hsubset⟩
  · intro i hi
    rcases h.waiting i (hshrinks i hi) with hleft | hmem | hold | hcalled
    · exact Or.inl (hleft.mono hsubset)
    · exact Or.inr (Or.inl hmem)
    · exact Or.inr (Or.inr (Or.inl ((hannounced i).2 hold)))
    · rcases (htaken i).1 hcalled with rfl | hcalled
      · -- the row in hand still waits, so its call raised
        rcases heffect.waiting with hleft | ⟨rfl, -⟩
        · exact absurd rfl ((hleft i).1 hi).2
        · refine Or.inl (Or.inr (Or.inr (List.mem_append_right _ ?_)))
          exact List.mem_append_right _ List.mem_cons_self
      · exact Or.inr (Or.inr (Or.inr hcalled))
  · intro i hi
    have hold := (hannounced i).1 hi
    refine hstays i (h.announced i hold) ?_
    rintro rfl
    exact (h.pass i (Or.inr hk)).2 hold
  · intro ids hids i hi
    have hold : InboundResult.unprocessedRowIds (some ids) ∈ receiving.results := by
      refine (List.mem_append.1 hids).resolve_right fun hone => ?_
      cases List.mem_singleton.1 hone
    exact lt_of_lt_of_le (h.found ids hold i hi) heffect.nextKey.ge
  · intro i hi
    obtain ⟨hlt, hnot⟩ := h.pass i (hi.imp id fun hcalled => (htaken i).2 (Or.inr hcalled))
    exact ⟨lt_of_lt_of_le hlt heffect.nextKey.ge, fun hnew => hnot ((hannounced i).1 hnew)⟩
  · intro i hi
    exact h.gone i ((htaken i).2 (Or.inr hi))
  · intro i originalText hmem
    unfold processingFacts at hmem
    rcases List.mem_append.1 hmem with hmem | hmem
    · split at hmem <;> simp at hmem
    · split at hmem <;> simp at hmem

variable {sha256 : Text → Text} {names : ℕ → Text} {hashing : PasswordHashing}
  {timing : ReceivingTiming}

/-- A step of the database thread. -/
theorem TextsOk.callRuns (h : TextsOk start facts receiving)
    (hprocessor : ProcessorOk facts receiving) (callRun : CallRun) :
    TextsOk start
      (facts ++ (receivingStep sha256 names hashing timing receiving (.callRuns callRun)).2)
      (receivingStep sha256 names hashing timing receiving (.callRuns callRun)).1 := by
  simp only [receivingStep]
  split
  · rw [List.append_nil]
    exact h
  next call calls hcalls =>
  cases call with
  | recordInboundFrame frame now => exact h.recordingRuns hcalls (recordingCall_effect ..)
  | findUnprocessedInboxRowIds =>
      refine h.findingRuns hcalls fun found hfound => ?_
      split at hfound
      · cases hfound
        exact isPass_findUnprocessedInboxRowIds unprocessedRowsPerPass
      · cases hfound
  | processInboundDirectMessage k now originalText =>
      have hwaits := (hprocessor.isPass_of_call hcalls).pending_of_mem k List.mem_cons_self
      exact h.processingRuns hcalls (processingCall_effect _ _ _ _ _ _ _ _ _ hwaits)

/-! ### The callers -/

/-- A result that tells the recorder nothing is taken from the front. -/
theorem TextsOk.dropFirst (h : TextsOk start facts receiving) {result : InboundResult}
    {results : List InboundResult} (hresults : receiving.results = result :: results)
    (hsilent : ∀ k, ¬ Announces result k) :
    TextsOk start facts { receiving with results } := by
  have hannounced : ∀ k, IsAnnounced receiving.results k ↔ IsAnnounced results k := by
    intro k
    rw [hresults, ← List.singleton_append, isAnnounced_append, isAnnounced_singleton]
    exact or_iff_right (hsilent k)
  have hordered := h.ordered
  rw [hresults] at hordered
  refine ⟨h.own, fun k hk => ?_, fun k hk => h.announced k ((hannounced k).2 hk),
    (List.pairwise_cons.1 hordered).2, fun ids hids => ?_, fun k hk => ?_, h.gone, fun hended => ?_,
    h.taken⟩
  · rw [← hannounced]
    exact h.waiting k hk
  · exact h.found ids (by rw [hresults]; exact List.mem_cons_of_mem _ hids)
  · rw [← hannounced]
    exact h.pass k hk
  · obtain ⟨hnone, hnothing⟩ := h.stopped hended
    refine ⟨hnone, ?_⟩
    rw [recorderResults, hresults] at hnothing
    have hsub : (results.filter fun result => !result.isOfProcessor).Sublist
        ((result :: results).filter fun result => !result.isOfProcessor) :=
      (List.sublist_cons_self _ _).filter _
    rw [hnothing] at hsub
    exact List.sublist_nil.1 hsub

/-- The processor goes on behind a row. -/
theorem TextsOk.queueReplies (h : TextsOk start facts receiving)
    (hidle : receiving.ProcessorIdle) (isFullPass : Bool) {rest : List ℕ}
    (hids : IsPass (IsWaiting receiving.relay.inbox) rest)
    (hahead : ∀ k ∈ rest, ¬ IsAnnounced receiving.results k)
    (result : InboundProcessingResult) :
    TextsOk start (facts ++ (receiving.queueReplies result rest isFullPass).2)
      (receiving.queueReplies result rest isFullPass).1 := by
  have hreplied : TextsOk start
      (facts ++ [ReceivingFact.replied result.inboxRowId result.replies]) receiving :=
    h.frame (isTakeless_singleton (by simp)) rfl rfl rfl (fun k => Iff.rfl) (List.Subset.refl _)
      h.stopped
  have hpass := hreplied.continuePass hidle isFullPass hids hahead
  rw [List.append_assoc] at hpass
  exact hpass

/-- **The recorder hands the frame's text over.** -/
theorem TextsOk.acceptRecordedRow (h : TextsOk start facts receiving)
    {frame : ReceivedDirectMessageFrame} {recorded : RecordedInboundFrame}
    {results : List InboundResult}
    (hresults : receiving.results = .recorded (some recorded) :: results)
    (hfresh : recorded.isFirmwareRepeat = false)
    (hreported : HasReportedRow facts frame recorded) :
    TextsOk start (facts ++ [.handled frame (.recorded recorded)])
      (ReceivingRelay.acceptRecordedRow { receiving with results, recorder := .taking }
        recorded.inboxRowId frame.text) := by
  have hsubset : facts ⊆ facts ++ [ReceivingFact.handled frame (.recorded recorded)] :=
    List.subset_append_left _ _
  have hannounced : ∀ k, IsAnnounced receiving.results k ↔
      k = recorded.inboxRowId ∨ IsAnnounced results k := by
    intro k
    rw [hresults, ← List.singleton_append, isAnnounced_append, isAnnounced_singleton]
    refine or_congr_left ⟨?_, fun hk => ⟨recorded, rfl, hfresh, hk.symm⟩⟩
    rintro ⟨other, heq, -, hid⟩
    cases heq
    exact hid.symm
  have hrow : IsAnnounced receiving.results recorded.inboxRowId := (hannounced _).2 (Or.inl rfl)
  have hordered := h.ordered
  rw [hresults] at hordered
  refine ⟨?_, ?_, fun k hk => h.announced k ((hannounced k).2 (Or.inr hk)),
    (List.pairwise_cons.1 hordered).2, fun ids hids => ?_, fun k hk => ?_, fun k hk hmem => ?_,
    (fun hended => by cases hended), h.taken_append (isTakeless_singleton (by simp))⟩
  · intro k text htext
    change (receiving.originalTexts.insert recorded.inboxRowId frame.text).lookup k = some text
      at htext
    by_cases hk : k = recorded.inboxRowId
    · subst hk
      rw [AList.lookup_insert] at htext
      obtain rfl := Option.some.inj htext
      exact ⟨h.announced _ hrow, frame, rfl, hsubset (hreported hfresh)⟩
    · rw [AList.lookup_insert_ne hk] at htext
      exact ⟨(h.own k text htext).1, (h.own k text htext).2.mono hsubset⟩
  · intro k hk
    rcases h.waiting k hk with hleft | hmem | hold | hcalled
    · exact Or.inl (hleft.mono hsubset)
    · exact Or.inr (Or.inl (AList.mem_insert _ |>.2 (Or.inr hmem)))
    · rcases (hannounced k).1 hold with hk | hold
      · exact Or.inr (Or.inl (AList.mem_insert _ |>.2 (Or.inl hk)))
      · exact Or.inr (Or.inr (Or.inl hold))
    · exact Or.inr (Or.inr (Or.inr hcalled))
  · exact h.found ids (by rw [hresults]; exact List.mem_cons_of_mem _ hids)
  · obtain ⟨hlt, hnot⟩ := h.pass k hk
    exact ⟨hlt, fun hold => hnot ((hannounced k).2 (Or.inr hold))⟩
  · rcases (AList.mem_insert _).1 hmem with rfl | hmem
    · exact (h.pass _ (Or.inr hk)).2 hrow
    · exact h.gone k hk hmem

theorem TextsOk.finishAttempt (h : TextsOk start facts receiving)
    {frame : ReceivedDirectMessageFrame} {attemptNumber : ℕ}
    {recordedFrame : Option RecordedInboundFrame} {results : List InboundResult}
    (hresults : receiving.results = .recorded recordedFrame :: results)
    (hreported : ∀ recorded ∈ recordedFrame, HasReportedRow facts frame recorded) :
    TextsOk start
      (facts ++
        (ReceivingRelay.finishAttempt { receiving with results } frame attemptNumber
          recordedFrame).2)
      (ReceivingRelay.finishAttempt { receiving with results } frame attemptNumber
        recordedFrame).1 := by
  cases recordedFrame with
  | none =>
      have hdrop := h.dropFirst hresults fun k hannounces => by
        obtain ⟨recorded, heq, -⟩ := hannounces
        cases heq
      exact hdrop.frame isTakeless_nil rfl rfl rfl (fun k => Iff.rfl) (List.Subset.refl _)
        fun hended => by cases hended
  | some recorded =>
      unfold ReceivingRelay.finishAttempt
      dsimp only
      split
      · next hrepeat =>
          have hdrop := h.dropFirst hresults fun k hannounces => by
            obtain ⟨other, heq, hfresh, -⟩ := hannounces
            cases heq
            rw [hrepeat] at hfresh
            cases hfresh
          exact hdrop.frame (isTakeless_singleton (by simp)) rfl rfl rfl (fun k => Iff.rfl)
            (List.Subset.refl _) fun hended => by cases hended
      · next hrepeat =>
          exact h.acceptRecordedRow hresults (Bool.eq_false_iff.2 hrepeat)
            (hreported recorded rfl)

/-- The first caller goes on. -/
theorem TextsOk.callerContinues (h : TextsOk start facts receiving)
    (hprocessor : ProcessorOk facts receiving) (hrecorder : RecorderOk timing start facts receiving)
    (isRunning : Bool) :
    TextsOk start
      (facts ++
        (receivingStep sha256 names hashing timing receiving (.callerContinues isRunning)).2)
      (receivingStep sha256 names hashing timing receiving (.callerContinues isRunning)).1 := by
  simp only [receivingStep]
  split
  · rw [List.append_nil]
    exact h
  next result results hresults =>
  cases result with
  | recorded recordedFrame =>
      have hattempts := hrecorder.attempts
      have hfirst : receiving.recorderResults =
          .recorded recordedFrame :: results.filter fun result => !result.isOfProcessor := by
        rw [recorderResults, hresults,
          List.filter_cons_of_pos (by simp [InboundResult.isOfProcessor])]
      unfold continueFirst
      dsimp only
      split
      · next frame attemptNumber hphase =>
          rw [hphase, hfirst] at hattempts
          exact h.finishAttempt hresults hattempts.recorded_inv.2.2.2.2
      · next hphase =>
          -- the recorder stopped, so it had no result to wait for
          rw [hfirst] at hattempts
          have hended := hattempts.ended_of_result fun frame attemptNumber heq =>
            hphase frame attemptNumber heq
          rw [(h.stopped hended).2] at hfirst
          cases hfirst
  | unprocessedRowIds ids =>
      have hdrop := h.dropFirst hresults fun k => not_announces_of_isOfProcessor rfl
      obtain ⟨owed, hpass, howed⟩ := hprocessor.pass
      have hfirst : receiving.processorResults =
          .unprocessedRowIds ids :: results.filter InboundResult.isOfProcessor := by
        rw [processorResults, hresults, List.filter_cons_of_pos rfl]
      unfold continueFirst
      dsimp only
      split
      · next hphase =>
          rw [hphase, hfirst] at hpass
          obtain ⟨hcalls, hrest, rfl, hids⟩ := hpass.found_inv
          have hidle : ReceivingRelay.ProcessorIdle { receiving with results } := ⟨hcalls, hrest⟩
          cases ids with
          | none =>
              exact hdrop.frame isTakeless_nil rfl rfl rfl (fun k => Iff.rfl) (List.nil_subset _)
                hdrop.stopped
          | some found =>
              refine hdrop.continuePass hidle _ (hids found rfl) fun k hk => ?_
              rintro ⟨later, hlater, hannounces⟩
              have hordered := h.ordered
              rw [hresults] at hordered
              exact (List.pairwise_cons.1 hordered).1 later hlater found rfl k hk hannounces
      · rw [List.append_nil]
        exact hdrop
  | processed processingResult =>
      have hdrop := h.dropFirst hresults fun k => not_announces_of_isOfProcessor rfl
      obtain ⟨owed, hpass, howed⟩ := hprocessor.pass
      have hfirst : receiving.processorResults =
          .processed processingResult :: results.filter InboundResult.isOfProcessor := by
        rw [processorResults, hresults, List.filter_cons_of_pos rfl]
      unfold continueFirst
      dsimp only
      split
      · next k rest isFullPass hphase =>
          rw [hphase, hfirst] at hpass
          obtain ⟨hcalls, hrest, hresult⟩ := hpass.processed_inv
          have hidle : ReceivingRelay.ProcessorIdle { receiving with results } := ⟨hcalls, hrest⟩
          have hahead : ∀ i ∈ rest, ¬ IsAnnounced results i := by
            intro i hi
            refine (hdrop.pass i (Or.inl ?_)).2
            show i ∈ receiving.processor.rest
            rw [hphase]
            exact hi
          cases processingResult with
          | none =>
              exact hdrop.frame isTakeless_nil rfl rfl rfl (fun k => Iff.rfl) (List.nil_subset _)
                hdrop.stopped
          | some result =>
              obtain ⟨-, -, hnew, hids⟩ := hresult result rfl
              unfold finishRow
              dsimp only
              rw [if_neg (by rw [hnew]; simp)]
              split
              · refine hdrop.frame isTakeless_nil rfl rfl rfl (fun k => Iff.rfl) ?_ hdrop.stopped
                show rest ⊆ receiving.processor.rest
                rw [hphase]
                exact List.Subset.refl _
              · exact hdrop.queueReplies hidle isFullPass hids hahead result
      · rw [List.append_nil]
        exact hdrop

/-! ### Every step -/

/-- Another transaction commits. -/
theorem TextsOk.transaction (h : TextsOk start facts receiving)
    (hleaves : LeavesReceivedRows receiving.relay.inbox relay'.inbox) :
    TextsOk start facts { receiving with relay := relay' } := by
  have hiff := hleaves.isWaiting_iff
  refine ⟨fun k text htext => ?_, fun k hk => h.waiting k ((hiff k).1 hk),
    fun k hk => (hiff k).2 (h.announced k hk), h.ordered, fun ids hids k hk => ?_,
    fun k hk => ?_, h.gone, h.stopped, h.taken⟩
  · exact ⟨(hiff k).2 (h.own k text htext).1, (h.own k text htext).2⟩
  · exact lt_of_lt_of_le (h.found ids hids k hk) hleaves.1.ge
  · exact ⟨lt_of_lt_of_le (h.pass k hk).1 hleaves.1.ge, (h.pass k hk).2⟩

theorem TextsOk.routeResetEnds (h : TextsOk start facts receiving)
    (hprocessor : ProcessorOk facts receiving) (raises : Bool) :
    TextsOk start
      (facts ++ (receivingStep sha256 names hashing timing receiving (.routeResetEnds raises)).2)
      (receivingStep sha256 names hashing timing receiving (.routeResetEnds raises)).1 := by
  obtain ⟨owed, hpass, howed⟩ := hprocessor.pass
  simp only [receivingStep]
  split
  · next result rest isFullPass hphase =>
      split
      · exact h.frame isTakeless_nil rfl rfl rfl (fun k => Iff.rfl) (List.nil_subset _) h.stopped
      · rw [hphase] at hpass
        obtain ⟨hcalls, hresults, -, hids⟩ := hpass.resets_inv
        refine h.queueReplies ⟨hcalls, hresults⟩ isFullPass hids (fun k hk => ?_) result
        refine (h.pass k (Or.inl ?_)).2
        rw [hphase]
        exact hk
  · rw [List.append_nil]
    exact h

/-- **Every step keeps the invariant**, while this worker runs and its recorder is not cancelled. -/
theorem TextsOk.step (h : TextsOk start facts receiving) (hprocessor : ProcessorOk facts receiving)
    (hrecorder : RecorderOk timing start facts receiving) {event : ReceivingEvent}
    (hlives : event ≠ .workerRestarts) (huncancelled : event ≠ .recorderCancelled) :
    TextsOk start (facts ++ (receivingStep sha256 names hashing timing receiving event).2)
      (receivingStep sha256 names hashing timing receiving event).1 := by
  have hsame : TextsOk start (facts ++ []) receiving := by
    rw [List.append_nil]
    exact h
  cases event with
  | clockShows now =>
      exact h.frame isTakeless_nil rfl rfl rfl (fun k => Iff.rfl) (List.Subset.refl _) h.stopped
  | transaction relay' =>
      simp only [receivingStep]
      split
      · next hleaves =>
          rw [List.append_nil]
          exact h.transaction hleaves
      · exact hsame
  | frameArrives frame =>
      exact h.frame (isTakeless_singleton (by simp)) rfl rfl rfl (fun k => Iff.rfl)
        (List.Subset.refl _) h.stopped
  | recorderTakes =>
      simp only [receivingStep]
      split
      · exact h.startAttempt _ 1 _
      · exact hsame
  | retryPauseEnds =>
      simp only [receivingStep]
      split
      · unfold continueRecording
        split
        · exact h.startAttempt _ _ receiving.inboundFrameQueue
        · exact h.frame (isTakeless_singleton (by simp)) rfl rfl rfl (fun k => Iff.rfl)
            (List.Subset.refl _) fun hended => by cases hended
      · exact hsame
  | callRuns callRun => exact h.callRuns hprocessor callRun
  | callerContinues isRunning => exact h.callerContinues hprocessor hrecorder isRunning
  | routeResetEnds raises => exact h.routeResetEnds hprocessor raises
  | processorStarts =>
      simp only [receivingStep]
      split
      · exact h.startPass
      · exact hsame
  | processorWakes =>
      simp only [receivingStep]
      split
      · exact h.startPass
      · exact hsame
  | shutdownRequested =>
      exact h.frame isTakeless_nil rfl rfl rfl (fun k => Iff.rfl) (List.Subset.refl _) h.stopped
  | framesFinish =>
      simp only [receivingStep]
      split
      · exact h.frame isTakeless_nil rfl rfl rfl (fun k => Iff.rfl) (List.Subset.refl _) h.stopped
      · exact hsame
  | recorderStops =>
      simp only [receivingStep]
      split
      · next hstops =>
          have hattempts := hrecorder.attempts
          rw [hstops.1] at hattempts
          exact h.frame isTakeless_nil rfl rfl rfl (fun k => Iff.rfl) (List.Subset.refl _)
            fun _ => hattempts.taking_inv
      · exact hsame
  | recorderCancelled => exact absurd rfl huncancelled
  | processorCancelled =>
      simp only [receivingStep]
      split
      · exact h.frame isTakeless_nil rfl rfl rfl (fun k => Iff.rfl) (List.nil_subset _) h.stopped
      · exact hsame
  | workerRestarts => exact absurd rfl hlives

end Step

/-! ### Every run -/

/-- One worker ran, and its recorder was not cancelled. -/
def IsOneLife (history : List (ReceivingEvent × List ReceivingFact)) : Prop :=
  ∀ p ∈ history, p.1 ≠ .workerRestarts ∧ p.1 ≠ .recorderCancelled

section Run

variable {sha256 : Text → Text} {names : ℕ → Text} {hashing : PasswordHashing}
  {timing : ReceivingTiming} {start : RelayDb} {now : Time}
  {history : List (ReceivingEvent × List ReceivingFact)} {receiving : ReceivingRelay}

theorem textsOk_of_run
    (run : (receivingRelay sha256 names hashing timing start now).Run (.start start now) history
      receiving) (hlife : IsOneLife history) : TextsOk start (historyFacts history) receiving := by
  refine run.invariant (P := fun history receiving =>
    TextsOk start (historyFacts history) receiving) ?_
    fun history' receiving' event run' hpre h => ?_
  · have hlookup : ∀ k, (∅ : AList fun _ : ℕ => PlainText).lookup k = none := AList.lookup_empty
    refine ⟨fun k text htext => ?_, fun k hk => Or.inl (Or.inl hk.lt_nextKey), ?_,
      List.Pairwise.nil, by simp [ReceivingRelay.start], ?_, ?_, (fun hended => by cases hended),
      by simp⟩
    · rw [show (ReceivingRelay.start start now).originalTexts.lookup k = none from hlookup k]
        at htext
      cases htext
    · rintro k ⟨result, hresult, -⟩
      cases hresult
    · rintro k (hk | ⟨now, originalText, hcall⟩)
      · cases hk
      · cases hcall
    · rintro k ⟨now, originalText, hcall⟩
      cases hcall
  · obtain ⟨hprocessor, hrecorder⟩ := receivingOk_of_run run'
    have hmem := hlife _ (hpre.subset (List.mem_append_right _ List.mem_cons_self))
    rw [historyFacts_snoc]
    exact h.step hprocessor hrecorder hmem.1 hmem.2

/-- **A row is taken with the text of its own frame.**  While one worker runs, a row that is given
to be processed comes with the text of the frame it was recorded for; without a text it was there
before this worker, or its recording raised after its commit, or processing it raised before.  And
a text in memory belongs to a row that still waits: none outlives its row's wait. -/
theorem rows_taken_with_own_texts
    (run : (receivingRelay sha256 names hashing timing start now).Run (.start start now) history
      receiving) (hlife : IsOneLife history) :
    (∀ k originalText, .taken k originalText ∈ historyFacts history →
        (∃ text, originalText = some text ∧ IsOwnText (historyFacts history) k text) ∨
          originalText = none ∧ IsLeftOver start (historyFacts history) k) ∧
      ∀ k text, receiving.originalTexts.lookup k = some text →
        IsWaiting receiving.relay.inbox k ∧ IsOwnText (historyFacts history) k text :=
  ⟨(textsOk_of_run run hlife).taken, (textsOk_of_run run hlife).own⟩

/-- The row is found before the recorder hears of it. -/
def sampleHandover : List ReceivingEvent :=
  [.frameArrives (sampleFrame (sampleTime 1)), .recorderTakes, .processorStarts,
    sampleCall .completes, sampleCall .completes, .callerContinues true, .callerContinues true]

theorem rows_taken_with_own_texts_sampleHandover :
    let reached := sampleReceivingRelay.exec sampleReceivingRelay.init sampleHandover
    ∃ text, .taken 1 (some text) ∈ historyFacts reached.1 ∧
      IsOwnText (historyFacts reached.1) 1 text := by
  have hlife : IsOneLife
      (sampleReceivingRelay.exec sampleReceivingRelay.init sampleHandover).1 := by
    intro p hp
    have hevent : p.1 ∈ sampleHandover := by
      rw [← sampleReceivingRelay.map_fst_exec sampleReceivingRelay.init sampleHandover]
      exact List.mem_map_of_mem hp
    constructor <;>
    · intro heq
      rw [heq] at hevent
      simp [sampleHandover, sampleCall] at hevent
  have hall := rows_taken_with_own_texts
    (sampleReceivingRelay.run_exec sampleReceivingRelay.init sampleHandover) hlife
  have htaken : .taken 1 (some (sampleFrame (sampleTime 1)).text) ∈ historyFacts
      (sampleReceivingRelay.exec sampleReceivingRelay.init sampleHandover).1 :=
    List.mem_of_getElem? (i := 3) rfl
  rcases hall.1 1 _ htaken with ⟨text, htext, hown⟩ | ⟨hnone, -⟩
  · exact ⟨text, htext ▸ htaken, hown⟩
  · cases hnone

end Run

end HoptalkRelay
