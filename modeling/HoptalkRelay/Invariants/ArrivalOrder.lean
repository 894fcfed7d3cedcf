/-
**From arrival to processing in one order.**

The recorder takes the frames in the order of their arrival, and a row is inserted only by an
attempt of the frame in hand, above all rows before it.  An attempt may raise although it
committed, so a frame can have as many rows as it has attempts; a frame whose recording is known
has the row that was reported.  What is neither recorded nor given up is in hand, in the queue, or
lost with a worker that ended.

Main definitions:

* `HoptalkRelay.arrivedFrames`, `HoptalkRelay.handledFrames`, `HoptalkRelay.insertedFrames`,
  `HoptalkRelay.insertedRows` — what an observer notes;
* `HoptalkRelay.AttemptState`, `HoptalkRelay.RecorderOk` — the invariant.

Main results:

* `HoptalkRelay.RecorderOk.step` — **every step keeps the invariant**;
* `HoptalkRelay.frames_recorded_in_arrival_order` — **no frame is dropped or overtaken**;
* `HoptalkRelay.rows_processed_in_order` — **rows are settled in ascending order, each once**.
-/

import HoptalkRelay.Batching.Attempts
import HoptalkRelay.Invariants.ProcessedRows
import HoptalkRelay.Transactions.Steps

set_option relaxedAutoImplicit false
set_option autoImplicit false

namespace HoptalkRelay

open Relational Transition Batching ReceivingRelay

/-! ### What an observer notes -/

def ReceivingFact.arrivedFrame? : ReceivingFact → Option ReceivedDirectMessageFrame
  | .arrived frame => some frame
  | _ => none

def ReceivingFact.handledFrame? : ReceivingFact → Option ReceivedDirectMessageFrame
  | .handled frame _ => some frame
  | _ => none

def ReceivingFact.insertion? : ReceivingFact → Option (ℕ × ReceivedDirectMessageFrame)
  | .inserted inboxRowId frame _ => some (inboxRowId, frame)
  | _ => none

/-- The frames the node handed over, in that order. -/
def arrivedFrames (facts : List ReceivingFact) : List ReceivedDirectMessageFrame :=
  facts.filterMap ReceivingFact.arrivedFrame?

/-- The frames that were recorded, given up or lost, in that order. -/
def handledFrames (facts : List ReceivingFact) : List ReceivedDirectMessageFrame :=
  facts.filterMap ReceivingFact.handledFrame?

/-- The rows that were inserted, with their frames, in that order. -/
def insertions (facts : List ReceivingFact) : List (ℕ × ReceivedDirectMessageFrame) :=
  facts.filterMap ReceivingFact.insertion?

def insertedRows (facts : List ReceivingFact) : List ℕ := (insertions facts).map Prod.fst

def insertedFrames (facts : List ReceivingFact) : List ReceivedDirectMessageFrame :=
  (insertions facts).map Prod.snd

@[simp] theorem arrivedFrames_append (facts facts' : List ReceivingFact) :
    arrivedFrames (facts ++ facts') = arrivedFrames facts ++ arrivedFrames facts' :=
  List.filterMap_append

@[simp] theorem handledFrames_append (facts facts' : List ReceivingFact) :
    handledFrames (facts ++ facts') = handledFrames facts ++ handledFrames facts' :=
  List.filterMap_append

@[simp] theorem insertions_append (facts facts' : List ReceivingFact) :
    insertions (facts ++ facts') = insertions facts ++ insertions facts' :=
  List.filterMap_append

/-! ### The recorder's side of the database thread -/

namespace ReceivingRelay

def recorderCalls (receiving : ReceivingRelay) : List InboundCall :=
  receiving.calls.filter fun call => !call.isOfProcessor

def recorderResults (receiving : ReceivingRelay) : List InboundResult :=
  receiving.results.filter fun result => !result.isOfProcessor

end ReceivingRelay

/-- A known recording has the row it reports. -/
def HasReportedRow (facts : List ReceivingFact) (frame : ReceivedDirectMessageFrame)
    (recordedFrame : RecordedInboundFrame) : Prop :=
  recordedFrame.isFirmwareRepeat = false →
    ReceivingFact.inserted recordedFrame.inboxRowId frame true ∈ facts

/-- The recorder, its calls, its results, and the attempts for the frames up to the one in hand. -/
inductive AttemptState (limit : ℕ) (facts : List ReceivingFact)
    (frames attempts : List ReceivedDirectMessageFrame) :
    RecorderPhase → List InboundCall → List InboundResult → Prop
  | taking (h : AttemptedInOrder limit frames attempts) :
      AttemptState limit facts frames attempts .taking [] []
  | records {frame : ReceivedDirectMessageFrame} {attemptNumber : ℕ} {now : Time}
      (hlimit : attemptNumber < limit)
      (h : LastAttempted limit attemptNumber frame frames attempts) :
      AttemptState limit facts frames attempts (.recording frame (attemptNumber + 1))
        [.recordInboundFrame frame now] []
  | recorded {frame : ReceivedDirectMessageFrame} {attemptNumber : ℕ}
      {recordedFrame : Option RecordedInboundFrame} (hlimit : attemptNumber ≤ limit)
      (h : LastAttempted limit attemptNumber frame frames attempts)
      (hreported : ∀ recorded ∈ recordedFrame, HasReportedRow facts frame recorded) :
      AttemptState limit facts frames attempts (.recording frame attemptNumber) []
        [.recorded recordedFrame]
  | retries {frame : ReceivedDirectMessageFrame} {attemptNumber : ℕ}
      (hlimit : attemptNumber ≤ limit)
      (h : LastAttempted limit attemptNumber frame frames attempts) :
      AttemptState limit facts frames attempts (.retrying frame attemptNumber) [] []
  | ended {results : List InboundResult} (h : AttemptedInOrder limit frames attempts) :
      AttemptState limit facts frames attempts .ended [] results
  /-- A cancelled recorder may leave one call behind. -/
  | cancelled {frame : ReceivedDirectMessageFrame} {attemptNumber : ℕ} {now : Time}
      {results : List InboundResult} (hlimit : attemptNumber < limit)
      (h : LastAttempted limit attemptNumber frame frames attempts) :
      AttemptState limit facts frames attempts .ended [.recordInboundFrame frame now] results

section Attempts

variable {limit : ℕ} {facts facts' : List ReceivingFact}
  {frames attempts : List ReceivedDirectMessageFrame} {phase : RecorderPhase}
  {calls : List InboundCall} {results : List InboundResult}

/-- More is noted. -/
theorem AttemptState.map (h : AttemptState limit facts frames attempts phase calls results)
    (hfacts : facts ⊆ facts') : AttemptState limit facts' frames attempts phase calls results := by
  cases h with
  | taking h => exact .taking h
  | records hlimit h => exact .records hlimit h
  | recorded hlimit h hreported =>
      exact .recorded hlimit h fun recorded hmem hnew => hfacts (hreported recorded hmem hnew)
  | retries hlimit h => exact .retries hlimit h
  | ended h => exact .ended h
  | cancelled hlimit h => exact .cancelled hlimit h

/-- Whatever the recorder does, the attempts are in order. -/
theorem AttemptState.attemptedInOrder
    (h : AttemptState limit facts frames attempts phase calls results) :
    AttemptedInOrder limit frames attempts := by
  cases h with
  | taking h => exact h
  | records hlimit h => exact h.attemptedInOrder hlimit.le
  | recorded hlimit h hreported => exact h.attemptedInOrder hlimit
  | retries hlimit h => exact h.attemptedInOrder hlimit
  | ended h => exact h
  | cancelled hlimit h => exact h.attemptedInOrder hlimit.le

theorem AttemptState.taking_inv
    (h : AttemptState limit facts frames attempts .taking calls results) :
    calls = [] ∧ results = [] := by
  cases h with
  | taking h => exact ⟨rfl, rfl⟩

theorem AttemptState.retries_inv {frame : ReceivedDirectMessageFrame} {attemptNumber : ℕ}
    (h : AttemptState limit facts frames attempts (.retrying frame attemptNumber) calls results) :
    calls = [] ∧ results = [] ∧ LastAttempted limit attemptNumber frame frames attempts := by
  cases h with
  | retries hlimit h => exact ⟨rfl, rfl, h⟩

/-- The recorder that waits for its attempt. -/
theorem AttemptState.recorded_inv {frame : ReceivedDirectMessageFrame} {attemptNumber : ℕ}
    {recordedFrame : Option RecordedInboundFrame}
    (h : AttemptState limit facts frames attempts (.recording frame attemptNumber) calls
      (.recorded recordedFrame :: results)) :
    calls = [] ∧ results = [] ∧ attemptNumber ≤ limit ∧
      LastAttempted limit attemptNumber frame frames attempts ∧
      ∀ recorded ∈ recordedFrame, HasReportedRow facts frame recorded := by
  cases h with
  | recorded hlimit h hreported => exact ⟨rfl, rfl, hlimit, h, hreported⟩

/-- The recorder's call runs, and inserts a row or not. -/
theorem AttemptState.run {frame : ReceivedDirectMessageFrame} {now : Time}
    {attempts' : List ReceivedDirectMessageFrame} {recordedFrame : Option RecordedInboundFrame}
    (h : AttemptState limit facts frames attempts phase (.recordInboundFrame frame now :: calls)
      results)
    (hattempts : attempts' = attempts ∨ attempts' = attempts ++ [frame])
    (hreported : ∀ recorded ∈ recordedFrame, HasReportedRow facts' frame recorded) :
    AttemptState limit facts' frames attempts' phase calls
      (results ++ [.recorded recordedFrame]) := by
  have hlast : ∀ {attemptNumber}, LastAttempted limit attemptNumber frame frames attempts →
      LastAttempted limit (attemptNumber + 1) frame frames attempts' := by
    intro attemptNumber hlast
    rcases hattempts with rfl | rfl
    · exact hlast.mono (Nat.le_succ attemptNumber)
    · exact hlast.attempt
  cases h with
  | records hlimit h => exact .recorded hlimit (hlast h) hreported
  | cancelled hlimit h => exact .ended ((hlast h).attemptedInOrder hlimit)

/-- Only a cancelled recorder has a result that it does not wait for. -/
theorem AttemptState.drop {recordedFrame : Option RecordedInboundFrame}
    (h : AttemptState limit facts frames attempts phase calls (.recorded recordedFrame :: results))
    (hphase : ∀ frame attemptNumber, phase ≠ .recording frame attemptNumber) :
    AttemptState limit facts frames attempts phase calls results := by
  cases h with
  | recorded hlimit h hreported => exact absurd rfl (hphase _ _)
  | ended h => exact .ended h
  | cancelled hlimit h => exact .cancelled hlimit h

theorem AttemptState.ended_of_result {recordedFrame : Option RecordedInboundFrame}
    (h : AttemptState limit facts frames attempts phase calls (.recorded recordedFrame :: results))
    (hphase : ∀ frame attemptNumber, phase ≠ .recording frame attemptNumber) : phase = .ended := by
  cases h with
  | recorded hlimit h hreported => exact absurd rfl (hphase _ _)
  | ended h => rfl
  | cancelled hlimit h => rfl

/-- Cancelling the recorder. -/
theorem AttemptState.cancel
    (h : AttemptState limit facts frames attempts phase calls results) :
    AttemptState limit facts frames attempts .ended calls results := by
  cases h with
  | taking h => exact .ended h
  | records hlimit h => exact .cancelled hlimit h
  | recorded hlimit h hreported => exact .ended (h.attemptedInOrder hlimit)
  | retries hlimit h => exact .ended (h.attemptedInOrder hlimit)
  | ended h => exact .ended h
  | cancelled hlimit h => exact .cancelled hlimit h

end Attempts

/-! ### The invariant -/

/-- The frames are handled in the order of their arrival, and their rows are inserted in it. -/
structure RecorderOk (timing : ReceivingTiming) (relay : RelayDb) (facts : List ReceivingFact)
    (receiving : ReceivingRelay) : Prop where
  arrived : arrivedFrames facts = handledFrames facts ++ receiving.unrecordedFrames
  ascending : (insertedRows facts).Pairwise (· < ·)
  lt_nextKey : ∀ k ∈ insertedRows facts, k < receiving.relay.inbox.nextKey
  known : ∀ k, IsWaiting receiving.relay.inbox k →
    IsWaiting relay.inbox k ∨ k ∈ insertedRows facts
  settledKnown : ∀ k ∈ settledRows facts, IsWaiting relay.inbox k ∨ k ∈ insertedRows facts
  attempts : AttemptState timing.inboundRecordingAttempts facts
    (handledFrames facts ++ receiving.recorder.frame?.toList) (insertedFrames facts)
    receiving.recorder receiving.recorderCalls receiving.recorderResults
  reported : ∀ frame recordedFrame,
    .handled frame (.recorded recordedFrame) ∈ facts → HasReportedRow facts frame recordedFrame

/-- Nothing about frames was noted. -/
structure IsFrameless (facts : List ReceivingFact) : Prop where
  arrived : arrivedFrames facts = []
  handled : handledFrames facts = []
  inserted : insertions facts = []

theorem isFrameless_nil : IsFrameless [] := ⟨rfl, rfl, rfl⟩

section Step

variable {timing : ReceivingTiming} {start : RelayDb} {facts newFacts : List ReceivingFact}
  {receiving receiving' : ReceivingRelay}

theorem IsFrameless.not_handled (h : IsFrameless newFacts) {frame : ReceivedDirectMessageFrame}
    {fate : FrameFate} : ReceivingFact.handled frame fate ∉ newFacts := by
  intro hmem
  have hframe : frame ∈ handledFrames newFacts :=
    List.mem_filterMap.2 ⟨_, hmem, rfl⟩
  rw [h.handled] at hframe
  cases hframe

/-- A step the recorder does not take part in. -/
theorem RecorderOk.frame (h : RecorderOk timing start facts receiving)
    (hframeless : IsFrameless newFacts)
    (hkey : receiving'.relay.inbox.nextKey = receiving.relay.inbox.nextKey)
    (hwaiting : ∀ k, IsWaiting receiving'.relay.inbox k → IsWaiting receiving.relay.inbox k)
    (hsettled : ∀ k ∈ settledRows newFacts, IsWaiting receiving.relay.inbox k)
    (hrecorder : receiving'.recorder = receiving.recorder)
    (hqueue : receiving'.inboundFrameQueue = receiving.inboundFrameQueue)
    (hcalls : receiving'.recorderCalls = receiving.recorderCalls)
    (hresults : receiving'.recorderResults = receiving.recorderResults) :
    RecorderOk timing start (facts ++ newFacts) receiving' := by
  have hrows : insertedRows (facts ++ newFacts) = insertedRows facts := by
    rw [insertedRows, insertions_append, hframeless.inserted, List.append_nil, insertedRows]
  have hframes : insertedFrames (facts ++ newFacts) = insertedFrames facts := by
    rw [insertedFrames, insertions_append, hframeless.inserted, List.append_nil, insertedFrames]
  have hhandled : handledFrames (facts ++ newFacts) = handledFrames facts := by
    rw [handledFrames_append, hframeless.handled, List.append_nil]
  constructor
  · rw [arrivedFrames_append, hframeless.arrived, List.append_nil, hhandled, unrecordedFrames,
      hrecorder, hqueue]
    exact h.arrived
  · rw [hrows]
    exact h.ascending
  · rw [hrows, hkey]
    exact h.lt_nextKey
  · rw [hrows]
    exact fun k hk => h.known k (hwaiting k hk)
  · rw [hrows, settledRows_append]
    intro k hk
    rcases List.mem_append.1 hk with hk | hk
    · exact h.settledKnown k hk
    · exact h.known k (hsettled k hk)
  · rw [hhandled, hframes, hrecorder, hcalls, hresults]
    exact h.attempts.map (List.subset_append_left _ _)
  · intro frame recordedFrame hmem hnew
    rcases List.mem_append.1 hmem with hmem | hmem
    · exact List.mem_append_left _ (h.reported frame recordedFrame hmem hnew)
    · exact absurd hmem hframeless.not_handled

/-! ### The processor's steps -/

/-- The recorder's side is as it was. -/
structure LeavesRecorder (receiving receiving' : ReceivingRelay) : Prop where
  relay : receiving'.relay = receiving.relay
  recorder : receiving'.recorder = receiving.recorder
  queue : receiving'.inboundFrameQueue = receiving.inboundFrameQueue
  calls : receiving'.recorderCalls = receiving.recorderCalls
  results : receiving'.recorderResults = receiving.recorderResults

theorem LeavesRecorder.trans {receiving'' : ReceivingRelay}
    (h : LeavesRecorder receiving receiving') (h' : LeavesRecorder receiving' receiving'') :
    LeavesRecorder receiving receiving'' :=
  ⟨h'.relay.trans h.relay, h'.recorder.trans h.recorder, h'.queue.trans h.queue,
    h'.calls.trans h.calls, h'.results.trans h.results⟩

/-- A step of the processor. -/
theorem RecorderOk.leave (h : RecorderOk timing start facts receiving)
    (hleaves : LeavesRecorder receiving receiving') (hframeless : IsFrameless newFacts)
    (hsettled : settledRows newFacts = []) :
    RecorderOk timing start (facts ++ newFacts) receiving' := by
  refine h.frame hframeless (by rw [hleaves.relay]) (fun k hk => ?_) ?_ hleaves.recorder
    hleaves.queue hleaves.calls hleaves.results
  · rwa [hleaves.relay] at hk
  · rw [hsettled]
    simp

theorem startPass_leavesRecorder (receiving : ReceivingRelay) :
    LeavesRecorder receiving receiving.startPass := by
  unfold startPass
  split
  · exact ⟨rfl, rfl, rfl, rfl, rfl⟩
  · exact ⟨rfl, rfl, rfl, by simp [recorderCalls, submit, InboundCall.isOfProcessor], rfl⟩

theorem continuePass_leavesRecorder (receiving : ReceivingRelay) (isFullPass : Bool)
    (ids : List ℕ) :
    LeavesRecorder receiving (receiving.continuePass isFullPass ids).1 ∧
      IsFrameless (receiving.continuePass isFullPass ids).2 ∧
      settledRows (receiving.continuePass isFullPass ids).2 = [] := by
  cases ids with
  | nil =>
      simp only [continuePass]
      split
      · exact ⟨startPass_leavesRecorder receiving, isFrameless_nil, rfl⟩
      · exact ⟨⟨rfl, rfl, rfl, rfl, rfl⟩, isFrameless_nil, rfl⟩
  | cons k rest =>
      simp only [continuePass]
      split
      · exact ⟨⟨rfl, rfl, rfl, rfl, rfl⟩, isFrameless_nil, rfl⟩
      · refine ⟨⟨rfl, rfl, rfl, ?_, rfl⟩, ⟨rfl, rfl, rfl⟩, rfl⟩
        simp [recorderCalls, submit, InboundCall.isOfProcessor]

theorem queueReplies_leavesRecorder (receiving : ReceivingRelay)
    (result : InboundProcessingResult) (rest : List ℕ) (isFullPass : Bool) :
    LeavesRecorder receiving (receiving.queueReplies result rest isFullPass).1 ∧
      IsFrameless (receiving.queueReplies result rest isFullPass).2 ∧
      settledRows (receiving.queueReplies result rest isFullPass).2 = [] := by
  obtain ⟨hleaves, hframeless, hsettled⟩ := continuePass_leavesRecorder receiving isFullPass rest
  exact ⟨hleaves, ⟨hframeless.arrived, hframeless.handled, hframeless.inserted⟩, hsettled⟩

theorem finishRow_leavesRecorder (receiving : ReceivingRelay) (isRunning : Bool)
    (rest : List ℕ) (isFullPass : Bool) (processingResult : Option InboundProcessingResult) :
    LeavesRecorder receiving (receiving.finishRow isRunning rest isFullPass processingResult).1 ∧
      IsFrameless (receiving.finishRow isRunning rest isFullPass processingResult).2 ∧
      settledRows (receiving.finishRow isRunning rest isFullPass processingResult).2 = [] := by
  cases processingResult with
  | none => exact ⟨⟨rfl, rfl, rfl, rfl, rfl⟩, isFrameless_nil, rfl⟩
  | some result =>
      simp only [finishRow]
      split
      · exact continuePass_leavesRecorder receiving isFullPass rest
      · split
        · exact ⟨⟨rfl, rfl, rfl, rfl, rfl⟩, isFrameless_nil, rfl⟩
        · exact queueReplies_leavesRecorder receiving result rest isFullPass

/-! ### The recorder's steps -/

/-- A step of the recorder that inserts no row. -/
theorem RecorderOk.move (h : RecorderOk timing start facts receiving) {calls : List InboundCall}
    {results : List InboundResult} (hinserted : insertions newFacts = [])
    (hsettled : settledRows newFacts = [])
    (harrived : arrivedFrames newFacts = [])
    (hunrecorded : receiving.unrecordedFrames =
      handledFrames newFacts ++ receiving'.unrecordedFrames)
    (hrelay : receiving'.relay = receiving.relay)
    (hcalls : receiving'.recorderCalls = calls) (hresults : receiving'.recorderResults = results)
    (hattempts : AttemptState timing.inboundRecordingAttempts facts
      (handledFrames facts ++ (handledFrames newFacts ++ receiving'.recorder.frame?.toList))
      (insertedFrames facts) receiving'.recorder calls results)
    (hreported : ∀ frame recordedFrame, .handled frame (.recorded recordedFrame) ∈ newFacts →
      HasReportedRow facts frame recordedFrame) :
    RecorderOk timing start (facts ++ newFacts) receiving' := by
  have hrows : insertedRows (facts ++ newFacts) = insertedRows facts := by
    rw [insertedRows, insertions_append, hinserted, List.append_nil, insertedRows]
  have hframes : insertedFrames (facts ++ newFacts) = insertedFrames facts := by
    rw [insertedFrames, insertions_append, hinserted, List.append_nil, insertedFrames]
  constructor
  · rw [arrivedFrames_append, harrived, List.append_nil, handledFrames_append, h.arrived,
      hunrecorded, List.append_assoc]
  · rw [hrows]
    exact h.ascending
  · rw [hrows, hrelay]
    exact h.lt_nextKey
  · rw [hrows, hrelay]
    exact h.known
  · rw [hrows, settledRows_append, hsettled, List.append_nil]
    exact h.settledKnown
  · rw [hframes, handledFrames_append, List.append_assoc, hcalls, hresults]
    exact hattempts.map (List.subset_append_left _ _)
  · intro frame recordedFrame hmem hnew
    rcases List.mem_append.1 hmem with hmem | hmem
    · exact List.mem_append_left _ (h.reported frame recordedFrame hmem hnew)
    · exact List.mem_append_left _ (hreported frame recordedFrame hmem hnew)

/-- The attempt is the recorder's only call. -/
theorem recorderCalls_startAttempt (hcalls : receiving.recorderCalls = [])
    (frame : ReceivedDirectMessageFrame) (attemptNumber : ℕ) :
    (receiving.startAttempt frame attemptNumber).recorderCalls =
      [.recordInboundFrame frame receiving.now] := by
  have hnew : (receiving.startAttempt frame attemptNumber).recorderCalls =
      receiving.recorderCalls ++ [InboundCall.recordInboundFrame frame receiving.now] := by
    simp [recorderCalls, startAttempt, submit, InboundCall.isOfProcessor]
  rw [hnew, hcalls]
  rfl

/-- A frame arrives. -/
theorem RecorderOk.arrive (h : RecorderOk timing start facts receiving)
    (frame : ReceivedDirectMessageFrame) :
    RecorderOk timing start (facts ++ [.arrived frame])
      { receiving with inboundFrameQueue := receiving.inboundFrameQueue ++ [frame] } := by
  have hsettled : settledRows (facts ++ [ReceivingFact.arrived frame]) = settledRows facts := by
    rw [settledRows_append]
    exact List.append_nil _
  have hhandled : handledFrames (facts ++ [ReceivingFact.arrived frame]) = handledFrames facts := by
    rw [handledFrames_append]
    exact List.append_nil _
  have hinserted : insertions (facts ++ [ReceivingFact.arrived frame]) = insertions facts := by
    rw [insertions_append]
    exact List.append_nil _
  constructor
  · rw [arrivedFrames_append, hhandled, h.arrived]
    simp [unrecordedFrames, arrivedFrames, ReceivingFact.arrivedFrame?]
  · rw [insertedRows, hinserted]
    exact h.ascending
  · rw [insertedRows, hinserted]
    exact h.lt_nextKey
  · rw [insertedRows, hinserted]
    exact h.known
  · rw [hsettled, insertedRows, hinserted]
    exact h.settledKnown
  · rw [hhandled, insertedFrames, hinserted]
    exact h.attempts.map (List.subset_append_left _ _)
  · intro frame' recordedFrame hmem hnew
    have hold : ReceivingFact.handled frame' (.recorded recordedFrame) ∈ facts := by
      refine (List.mem_append.1 hmem).resolve_right fun hone => ?_
      cases List.mem_singleton.1 hone
    exact List.mem_append_left _ (h.reported frame' recordedFrame hold hnew)

/-- The recorder takes the first frame of the queue. -/
theorem RecorderOk.take (h : RecorderOk timing start facts receiving)
    {frame : ReceivedDirectMessageFrame} {queue : List ReceivedDirectMessageFrame}
    (hrecorder : receiving.recorder = .taking)
    (hqueue : receiving.inboundFrameQueue = frame :: queue) :
    RecorderOk timing start (facts ++ [])
      (startAttempt { receiving with inboundFrameQueue := queue } frame 1) := by
  have hattempts := h.attempts
  rw [hrecorder] at hattempts
  obtain ⟨hcalls, hresults⟩ := hattempts.taking_inv
  have horder := hattempts.attemptedInOrder
  rw [show RecorderPhase.frame? .taking = none from rfl, Option.toList_none, List.append_nil]
    at horder
  refine h.move rfl rfl rfl ?_ rfl (recorderCalls_startAttempt hcalls frame 1) hresults
    (.records timing.inboundRecordingAttempts_pos (horder.take frame)) (by simp)
  rw [unrecordedFrames, hrecorder, hqueue]
  rfl

/-- A pause between two attempts is over. -/
theorem RecorderOk.continueRecording (h : RecorderOk timing start facts receiving)
    {frame : ReceivedDirectMessageFrame} {attemptNumber : ℕ}
    (hrecorder : receiving.recorder = .retrying frame attemptNumber) :
    RecorderOk timing start
      (facts ++ (receiving.continueRecording timing frame attemptNumber).2)
      (receiving.continueRecording timing frame attemptNumber).1 := by
  have hattempts := h.attempts
  rw [hrecorder] at hattempts
  obtain ⟨hcalls, hresults, hlast⟩ := hattempts.retries_inv
  have hunrecorded : receiving.unrecordedFrames = frame :: receiving.inboundFrameQueue := by
    rw [unrecordedFrames, hrecorder]
    rfl
  unfold ReceivingRelay.continueRecording
  split
  · next hlimit =>
      exact h.move rfl rfl rfl hunrecorded rfl (recorderCalls_startAttempt hcalls frame _)
        hresults (.records hlimit hlast) (by simp)
  · exact h.move rfl rfl rfl hunrecorded rfl hcalls hresults (.taking hattempts.attemptedInOrder)
      (by simp)

/-- The recorder goes on when its attempt ran. -/
theorem RecorderOk.finishAttempt (h : RecorderOk timing start facts receiving)
    {frame : ReceivedDirectMessageFrame} {attemptNumber : ℕ}
    {recordedFrame : Option RecordedInboundFrame} {results : List InboundResult}
    (hrecorder : receiving.recorder = .recording frame attemptNumber)
    (hresults : receiving.results = .recorded recordedFrame :: results) :
    RecorderOk timing start
      (facts ++
        (ReceivingRelay.finishAttempt { receiving with results } frame attemptNumber
          recordedFrame).2)
      (ReceivingRelay.finishAttempt { receiving with results } frame attemptNumber
        recordedFrame).1 := by
  have hattempts := h.attempts
  have hfirst : receiving.recorderResults =
      .recorded recordedFrame :: results.filter fun result => !result.isOfProcessor := by
    rw [recorderResults, hresults, List.filter_cons_of_pos (by simp [InboundResult.isOfProcessor])]
  rw [hrecorder, hfirst] at hattempts
  obtain ⟨hcalls, hrest, hlimit, hlast, hreported⟩ := hattempts.recorded_inv
  have hunrecorded : receiving.unrecordedFrames = frame :: receiving.inboundFrameQueue := by
    rw [unrecordedFrames, hrecorder]
    rfl
  cases recordedFrame with
  | none =>
      exact h.move rfl rfl rfl hunrecorded rfl hcalls hrest (.retries hlimit hlast)
        (by simp [ReceivingRelay.finishAttempt])
  | some recordedFrame =>
      have hreport : ∀ frame' recorded',
          ReceivingFact.handled frame' (.recorded recorded') ∈
            [ReceivingFact.handled frame (.recorded recordedFrame)] →
          HasReportedRow facts frame' recorded' := by
        intro frame' recorded' hmem
        cases List.mem_singleton.1 hmem
        exact hreported recordedFrame rfl
      unfold ReceivingRelay.finishAttempt
      dsimp only
      split
      · exact h.move rfl rfl rfl hunrecorded rfl hcalls hrest
          (.taking hattempts.attemptedInOrder) hreport
      · exact h.move rfl rfl rfl hunrecorded rfl hcalls hrest
          (.taking hattempts.attemptedInOrder) hreport

/-! ### The calls -/

variable {relay' : RelayDb} {calls : List InboundCall}

section Recording

variable {frame : ReceivedDirectMessageFrame} {now : Time}
  {recordedFrame : Option RecordedInboundFrame}

/-- The recorder's side before and after its call ran. -/
theorem recorderSide_ran (relay' : RelayDb) (recordedFrame : Option RecordedInboundFrame)
    (hcalls : receiving.calls = .recordInboundFrame frame now :: calls) :
    receiving.recorderCalls = .recordInboundFrame frame now ::
        (receiving.ran relay' calls (.recorded recordedFrame)).recorderCalls ∧
      (receiving.ran relay' calls (.recorded recordedFrame)).recorderResults =
        receiving.recorderResults ++ [.recorded recordedFrame] := by
  constructor
  · rw [recorderCalls, hcalls, List.filter_cons_of_pos (by simp [InboundCall.isOfProcessor])]
    rfl
  · simp [ReceivingRelay.ran, recorderResults, InboundResult.isOfProcessor]

/-- A call that inserts no row: the frame is a repeat, or the call raised. -/
theorem RecorderOk.keepingRuns (h : RecorderOk timing start facts receiving)
    (hcalls : receiving.calls = .recordInboundFrame frame now :: calls)
    (hkey : relay'.inbox.nextKey = receiving.relay.inbox.nextKey)
    (hwaiting : ∀ k, IsWaiting relay'.inbox k ↔ IsWaiting receiving.relay.inbox k)
    (hrepeat : ∀ recorded ∈ recordedFrame, recorded.isFirmwareRepeat = true) :
    RecorderOk timing start facts (receiving.ran relay' calls (.recorded recordedFrame)) := by
  obtain ⟨hfirst, hresults⟩ := recorderSide_ran relay' recordedFrame hcalls
  have hattempts := h.attempts
  rw [hfirst] at hattempts
  refine ⟨h.arrived, h.ascending, fun k hk => ?_, fun k hk => h.known k ((hwaiting k).1 hk),
    h.settledKnown, ?_, h.reported⟩
  · exact hkey ▸ h.lt_nextKey k hk
  · rw [hresults]
    refine hattempts.run (Or.inl rfl) fun recorded hrecorded hnew => ?_
    rw [hrepeat recorded hrecorded] at hnew
    cases hnew

/-- A call that inserts the frame's row. -/
theorem RecorderOk.insertingRuns (h : RecorderOk timing start facts receiving)
    (hcalls : receiving.calls = .recordInboundFrame frame now :: calls)
    (hkey : relay'.inbox.nextKey = receiving.relay.inbox.nextKey + 1)
    (hwaiting : ∀ k, IsWaiting relay'.inbox k ↔
      IsWaiting receiving.relay.inbox k ∨ k = receiving.relay.inbox.nextKey)
    (hnew : ∀ recorded ∈ recordedFrame,
      recorded.isFirmwareRepeat = false ∧ recorded.inboxRowId = receiving.relay.inbox.nextKey) :
    RecorderOk timing start
      (facts ++ [.inserted receiving.relay.inbox.nextKey frame recordedFrame.isSome])
      (receiving.ran relay' calls (.recorded recordedFrame)) := by
  obtain ⟨hfirst, hresults⟩ := recorderSide_ran relay' recordedFrame hcalls
  have hattempts := h.attempts
  rw [hfirst] at hattempts
  have hrows : insertedRows (facts ++
      [ReceivingFact.inserted receiving.relay.inbox.nextKey frame recordedFrame.isSome]) =
        insertedRows facts ++ [receiving.relay.inbox.nextKey] := by
    rw [insertedRows, insertions_append, List.map_append]
    rfl
  have hframes : insertedFrames (facts ++
      [ReceivingFact.inserted receiving.relay.inbox.nextKey frame recordedFrame.isSome]) =
        insertedFrames facts ++ [frame] := by
    rw [insertedFrames, insertions_append, List.map_append]
    rfl
  constructor
  · rw [arrivedFrames_append, handledFrames_append]
    show arrivedFrames facts ++ [] = handledFrames facts ++ [] ++ receiving.unrecordedFrames
    rw [List.append_nil, List.append_nil]
    exact h.arrived
  · rw [hrows]
    refine List.pairwise_append.2 ⟨h.ascending, List.pairwise_singleton _ _, ?_⟩
    intro k hk new hnew
    rw [List.mem_singleton.1 hnew]
    exact h.lt_nextKey k hk
  · rw [hrows]
    intro k hk
    show k < relay'.inbox.nextKey
    rw [hkey]
    rcases List.mem_append.1 hk with hk | hk
    · exact Nat.lt_succ_of_lt (h.lt_nextKey k hk)
    · rw [List.mem_singleton.1 hk]
      exact Nat.lt_succ_self _
  · rw [hrows]
    intro k hk
    rcases (hwaiting k).1 hk with hk | rfl
    · exact (h.known k hk).imp id fun hk => List.mem_append_left _ hk
    · exact Or.inr (List.mem_append_right _ List.mem_cons_self)
  · rw [hrows]
    intro k hk
    have hold : k ∈ settledRows facts := by
      rw [settledRows_append] at hk
      exact (List.mem_append.1 hk).resolve_right List.not_mem_nil
    exact (h.settledKnown k hold).imp id fun hk => List.mem_append_left _ hk
  · rw [hframes, handledFrames_append, hresults]
    show AttemptState _ _ (handledFrames facts ++ [] ++ receiving.recorder.frame?.toList) _
      receiving.recorder _ _
    rw [List.append_nil]
    refine hattempts.run (Or.inr rfl) fun recorded hrecorded _ => ?_
    rw [(hnew recorded hrecorded).2]
    cases hrecorded
    exact List.mem_append_right _ List.mem_cons_self
  · intro frame' recorded' hmem hfresh
    have hold : ReceivingFact.handled frame' (.recorded recorded') ∈ facts := by
      refine (List.mem_append.1 hmem).resolve_right fun hone => ?_
      cases List.mem_singleton.1 hone
    exact List.mem_append_left _ (h.reported frame' recorded' hold hfresh)

/-- The recorder's call runs. -/
theorem RecorderOk.recordingRuns (h : RecorderOk timing start facts receiving)
    (hcalls : receiving.calls = .recordInboundFrame frame now :: calls)
    (heffect : RecordingEffect receiving.relay.inbox relay'.inbox recordedFrame) :
    RecorderOk timing start
      (facts ++ insertionFacts receiving.relay relay' frame recordedFrame.isSome)
      (receiving.ran relay' calls (.recorded recordedFrame)) := by
  cases heffect with
  | kept hkey hwaiting hrepeat =>
      have hnone : insertionFacts receiving.relay relay' frame recordedFrame.isSome = [] :=
        if_neg (by omega)
      rw [hnone, List.append_nil]
      exact h.keepingRuns hcalls hkey hwaiting hrepeat
  | inserted hkey hwaiting hnew =>
      have hone : insertionFacts receiving.relay relay' frame recordedFrame.isSome =
          [.inserted receiving.relay.inbox.nextKey frame recordedFrame.isSome] :=
        if_pos (by omega)
      rw [hone]
      exact h.insertingRuns hcalls hkey hwaiting hnew

end Recording

/-- A call of the processor runs. -/
theorem RecorderOk.processorRuns (h : RecorderOk timing start facts receiving)
    {call : InboundCall} {result : InboundResult} (hcalls : receiving.calls = call :: calls)
    (hcall : call.isOfProcessor = true) (hresult : result.isOfProcessor = true)
    (hframeless : IsFrameless newFacts)
    (hkey : relay'.inbox.nextKey = receiving.relay.inbox.nextKey)
    (hwaiting : ∀ k, IsWaiting relay'.inbox k → IsWaiting receiving.relay.inbox k)
    (hsettled : ∀ k ∈ settledRows newFacts, IsWaiting receiving.relay.inbox k) :
    RecorderOk timing start (facts ++ newFacts) (receiving.ran relay' calls result) := by
  refine h.frame hframeless hkey hwaiting hsettled rfl rfl ?_ ?_
  · rw [recorderCalls, recorderCalls, hcalls, List.filter_cons_of_neg (by simp [hcall])]
    rfl
  · simp [ReceivingRelay.ran, recorderResults, hresult]

variable {sha256 : Text → Text} {names : ℕ → Text} {hashing : PasswordHashing}

/-- A step of the database thread; the row it processes waits. -/
theorem RecorderOk.callRuns (h : RecorderOk timing start facts receiving)
    (hprocessor : ProcessorOk facts receiving) (callRun : CallRun) :
    RecorderOk timing start
      (facts ++ (receivingStep sha256 names hashing timing receiving (.callRuns callRun)).2)
      (receivingStep sha256 names hashing timing receiving (.callRuns callRun)).1 := by
  simp only [receivingStep]
  split
  · rw [List.append_nil]
    exact h
  next call calls hcalls =>
  cases call with
  | recordInboundFrame frame now => exact h.recordingRuns hcalls (recordingCall_effect ..)
  | findUnprocessedInboxRowIds =>
      exact h.processorRuns hcalls rfl rfl isFrameless_nil rfl (fun _ hk => hk)
        (fun k hk => absurd hk List.not_mem_nil)
  | processInboundDirectMessage k now originalText =>
      have hwaits := (hprocessor.isPass_of_call hcalls).pending_of_mem k List.mem_cons_self
      have heffect := processingCall_effect hashing callRun.settings receiving.relay k callRun.salt
        now originalText callRun.transactionEnd callRun.markEnd hwaits
      refine h.processorRuns hcalls rfl rfl ?_ heffect.nextKey (fun i hi => ?_) fun i hi => ?_
      · dsimp only [InboundCall.run]
        unfold processingFacts
        constructor <;> split <;> split <;> rfl
      · rcases heffect.waiting with hleft | ⟨-, hkept⟩
        · exact ((hleft i).1 hi).1
        · exact (hkept i).1 hi
      · exact (mem_settledRows_processingFacts hi).2

/-- The first caller goes on. -/
theorem RecorderOk.callerContinues (h : RecorderOk timing start facts receiving)
    (isRunning : Bool) :
    RecorderOk timing start
      (facts ++
        (receivingStep sha256 names hashing timing receiving (.callerContinues isRunning)).2)
      (receivingStep sha256 names hashing timing receiving (.callerContinues isRunning)).1 := by
  simp only [receivingStep]
  split
  · rw [List.append_nil]
    exact h
  next result results hresults =>
  have hleaves : result.isOfProcessor = true →
      LeavesRecorder receiving { receiving with results } := by
    intro hresult
    refine ⟨rfl, rfl, rfl, rfl, ?_⟩
    rw [recorderResults, recorderResults, hresults, List.filter_cons_of_neg (by simp [hresult])]
  cases result with
  | recorded recordedFrame =>
      unfold continueFirst
      dsimp only
      split
      · next hrecorder => exact h.finishAttempt hrecorder hresults
      · next hrecorder =>
          -- only a cancelled recorder does not wait for its result
          have hattempts := h.attempts
          have hfirst : receiving.recorderResults =
              .recorded recordedFrame :: results.filter fun result => !result.isOfProcessor := by
            rw [recorderResults, hresults,
              List.filter_cons_of_pos (by simp [InboundResult.isOfProcessor])]
          rw [hfirst] at hattempts
          refine h.move rfl rfl rfl rfl rfl rfl rfl (hattempts.drop ?_) (by simp)
          exact fun frame attemptNumber heq => hrecorder frame attemptNumber heq
  | unprocessedRowIds ids =>
      unfold continueFirst
      dsimp only
      split
      · cases ids with
        | none =>
            exact h.leave ((hleaves rfl).trans ⟨rfl, rfl, rfl, rfl, rfl⟩) isFrameless_nil rfl
        | some found =>
            obtain ⟨hpass, hframeless, hsettled⟩ := continuePass_leavesRecorder
              { receiving with results } (decide (found.length = unprocessedRowsPerPass)) found
            exact h.leave ((hleaves rfl).trans hpass) hframeless hsettled
      · exact h.leave (hleaves rfl) isFrameless_nil rfl
  | processed processingResult =>
      unfold continueFirst
      dsimp only
      split
      · next k rest isFullPass hphase =>
          obtain ⟨hpass, hframeless, hsettled⟩ := finishRow_leavesRecorder
            { receiving with results } isRunning rest isFullPass processingResult
          exact h.leave ((hleaves rfl).trans hpass) hframeless hsettled
      · exact h.leave (hleaves rfl) isFrameless_nil rfl

/-! ### Every step -/

theorem handledFrames_lostFacts (frames : List ReceivedDirectMessageFrame) :
    handledFrames (lostFacts frames) = frames := by
  rw [handledFrames, lostFacts, List.filterMap_map]
  exact List.filterMap_some

/-- Nothing else is noted about frames that are lost. -/
theorem filterMap_lostFacts {β : Type} {f : ReceivingFact → Option β}
    (hf : ∀ frame, f (.handled frame .lost) = none) (frames : List ReceivedDirectMessageFrame) :
    (lostFacts frames).filterMap f = [] := by
  rw [lostFacts, List.filterMap_map]
  exact List.filterMap_eq_nil_iff.2 fun frame _ => hf frame

theorem not_recorded_mem_lostFacts {frames : List ReceivedDirectMessageFrame}
    {frame : ReceivedDirectMessageFrame} {recordedFrame : RecordedInboundFrame} :
    ReceivingFact.handled frame (.recorded recordedFrame) ∉ lostFacts frames := by
  intro hmem
  obtain ⟨lost, -, heq⟩ := List.mem_map.1 hmem
  cases heq

/-- The recorder is cancelled. -/
theorem RecorderOk.cancel (h : RecorderOk timing start facts receiving) :
    RecorderOk timing start (facts ++ lostFacts receiving.recorder.frame?.toList)
      { receiving with recorder := .ended } := by
  refine h.move (filterMap_lostFacts (fun _ => rfl) _) (filterMap_lostFacts (fun _ => rfl) _)
    (filterMap_lostFacts (fun _ => rfl) _) ?_ rfl rfl rfl ?_
    fun _ _ hmem => absurd hmem not_recorded_mem_lostFacts
  · rw [handledFrames_lostFacts]
    rfl
  · rw [handledFrames_lostFacts]
    show AttemptState _ _ (handledFrames facts ++ (receiving.recorder.frame?.toList ++ [])) _ _ _ _
    rw [List.append_nil]
    exact h.attempts.cancel

/-- A new worker follows. -/
theorem RecorderOk.restart (h : RecorderOk timing start facts receiving) :
    RecorderOk timing start (facts ++ lostFacts receiving.unrecordedFrames)
      (.start receiving.relay receiving.now) := by
  refine h.move (filterMap_lostFacts (fun _ => rfl) _) (filterMap_lostFacts (fun _ => rfl) _)
    (filterMap_lostFacts (fun _ => rfl) _) ?_ rfl rfl rfl ?_
    fun _ _ hmem => absurd hmem not_recorded_mem_lostFacts
  · rw [handledFrames_lostFacts]
    exact (List.append_nil _).symm
  · rw [handledFrames_lostFacts]
    show AttemptState _ _ (handledFrames facts ++ (receiving.unrecordedFrames ++ [])) _ _ _ _
    rw [List.append_nil, unrecordedFrames, ← List.append_assoc]
    refine .taking ?_
    have horder := h.attempts.attemptedInOrder.append
      (.unattempted timing.inboundRecordingAttempts receiving.inboundFrameQueue)
    rwa [List.append_nil] at horder

/-- **Every step keeps the invariant.** -/
theorem RecorderOk.step (h : RecorderOk timing start facts receiving)
    (hprocessor : ProcessorOk facts receiving) (event : ReceivingEvent) :
    RecorderOk timing start
      (facts ++ (receivingStep sha256 names hashing timing receiving event).2)
      (receivingStep sha256 names hashing timing receiving event).1 := by
  have hsame : RecorderOk timing start (facts ++ []) receiving := by
    rw [List.append_nil]
    exact h
  cases event with
  | clockShows now => exact h.leave ⟨rfl, rfl, rfl, rfl, rfl⟩ isFrameless_nil rfl
  | transaction relay' =>
      simp only [receivingStep]
      split
      · next hleaves =>
          exact h.frame isFrameless_nil hleaves.1 (fun k hk => (hleaves.isWaiting_iff k).1 hk)
            (fun k hk => absurd hk List.not_mem_nil) rfl rfl rfl rfl
      · exact hsame
  | frameArrives frame => exact h.arrive frame
  | recorderTakes =>
      simp only [receivingStep]
      split
      · next hrecorder hqueue => exact h.take hrecorder hqueue
      · exact hsame
  | retryPauseEnds =>
      simp only [receivingStep]
      split
      · next hrecorder => exact h.continueRecording hrecorder
      · exact hsame
  | callRuns callRun => exact h.callRuns hprocessor callRun
  | callerContinues isRunning => exact h.callerContinues isRunning
  | routeResetEnds raises =>
      simp only [receivingStep]
      split
      · next result rest isFullPass hphase =>
          split
          · exact h.leave ⟨rfl, rfl, rfl, rfl, rfl⟩ isFrameless_nil rfl
          · obtain ⟨hleaves, hframeless, hsettled⟩ :=
              queueReplies_leavesRecorder receiving result rest isFullPass
            exact h.leave hleaves hframeless hsettled
      · exact hsame
  | processorStarts =>
      simp only [receivingStep]
      split
      · exact h.leave (startPass_leavesRecorder receiving) isFrameless_nil rfl
      · exact hsame
  | processorWakes =>
      simp only [receivingStep]
      split
      · exact h.leave (startPass_leavesRecorder receiving) isFrameless_nil rfl
      · exact hsame
  | shutdownRequested => exact h.leave ⟨rfl, rfl, rfl, rfl, rfl⟩ isFrameless_nil rfl
  | framesFinish =>
      simp only [receivingStep]
      split
      · exact h.leave ⟨rfl, rfl, rfl, rfl, rfl⟩ isFrameless_nil rfl
      · exact hsame
  | recorderStops =>
      simp only [receivingStep]
      split
      · next hstops =>
          have hcancel := h.cancel
          rwa [hstops.1] at hcancel
      · exact hsame
  | recorderCancelled =>
      simp only [receivingStep]
      split
      · exact h.cancel
      · exact hsame
  | processorCancelled =>
      simp only [receivingStep]
      split
      · exact h.leave ⟨rfl, rfl, rfl, rfl, rfl⟩ isFrameless_nil rfl
      · exact hsame
  | workerRestarts => exact h.restart

end Step

/-! ### Every run -/

section Run

variable {sha256 : Text → Text} {names : ℕ → Text} {hashing : PasswordHashing}
  {timing : ReceivingTiming} {start : RelayDb} {now : Time}
  {history : List (ReceivingEvent × List ReceivingFact)} {receiving : ReceivingRelay}

theorem receivingOk_of_run
    (run : (receivingRelay sha256 names hashing timing start now).Run (.start start now) history
      receiving) :
    ProcessorOk (historyFacts history) receiving ∧
      RecorderOk timing start (historyFacts history) receiving := by
  refine run.invariant (P := fun history receiving =>
    ProcessorOk (historyFacts history) receiving ∧
      RecorderOk timing start (historyFacts history) receiving) ?_
    fun history receiving event _ _ ⟨hprocessor, hrecorder⟩ => ?_
  · refine ⟨⟨IsSettledBelow.nil _ _, [], .restarting, List.Sublist.refl _⟩, ?_⟩
    exact ⟨rfl, List.Pairwise.nil, by simp [insertedRows, insertions],
      fun k hk => Or.inl hk, by simp [settledRows],
      .taking (.unattempted timing.inboundRecordingAttempts []), by simp⟩
  · rw [historyFacts_snoc]
    exact ⟨hprocessor.step event, hrecorder.step hprocessor event⟩

/-! A recording that raises after its commit. -/

def sampleReceivingTiming : ReceivingTiming := ⟨3, by decide⟩

def sampleReceivingRelay : Machine ReceivingRelay ReceivingEvent (List ReceivingFact) :=
  receivingRelay id (fun _ => []) sampleHashing sampleReceivingTiming (emptyInbox sampleContacts)
    (sampleTime 1)

/-- The first call that waits runs, and ends like this. -/
def sampleCall (transactionEnd : CallEnd) : ReceivingEvent :=
  .callRuns ⟨sampleSettings, [], transactionEnd, .completes⟩

/-- A query arrives; its row is in the inbox when the first attempt raises, the second attempt finds
it there, and the row is processed. -/
def sampleReceipt : List ReceivingEvent :=
  [.frameArrives (sampleFrame (sampleTime 1)), .recorderTakes, sampleCall (.raises true),
    .callerContinues true, .retryPauseEnds, sampleCall .completes, .callerContinues true,
    .processorStarts, sampleCall .completes, .callerContinues true, sampleCall .completes,
    .callerContinues true]

/-- **No frame is dropped or overtaken.**  Along every run, what arrived is what was recorded, given
up or lost with a worker, then the frame in hand, then the queue, in the order of arrival; rows are
inserted with ascending keys, in the order of their frames and at most once for each attempt; and a
recording that was reported inserted its row. -/
theorem frames_recorded_in_arrival_order
    (run : (receivingRelay sha256 names hashing timing start now).Run (.start start now) history
      receiving) :
    arrivedFrames (historyFacts history) =
        handledFrames (historyFacts history) ++ receiving.unrecordedFrames ∧
      (insertedRows (historyFacts history)).Pairwise (· < ·) ∧
      AttemptedInOrder timing.inboundRecordingAttempts
        (handledFrames (historyFacts history) ++ receiving.recorder.frame?.toList)
        (insertedFrames (historyFacts history)) ∧
      ∀ frame recordedFrame,
        .handled frame (.recorded recordedFrame) ∈ historyFacts history →
        recordedFrame.isFirmwareRepeat = false →
        .inserted recordedFrame.inboxRowId frame true ∈ historyFacts history := by
  obtain ⟨-, h⟩ := receivingOk_of_run run
  exact ⟨h.arrived, h.ascending, h.attempts.attemptedInOrder, h.reported⟩

theorem frames_recorded_in_arrival_order_sampleReceipt :
    let reached := sampleReceivingRelay.exec sampleReceivingRelay.init sampleReceipt
    insertedRows (historyFacts reached.1) = [1] ∧
      arrivedFrames (historyFacts reached.1) =
        handledFrames (historyFacts reached.1) ++ reached.2.unrecordedFrames ∧
      AttemptedInOrder 3
        (handledFrames (historyFacts reached.1) ++ reached.2.recorder.frame?.toList)
        (insertedFrames (historyFacts reached.1)) := by
  have hall := frames_recorded_in_arrival_order
    (sampleReceivingRelay.run_exec sampleReceivingRelay.init sampleReceipt)
  exact ⟨by decide +kernel, hall.1, hall.2.2.1⟩

/-- **Rows are processed in the order of the inbox, each once.**  Along every run, over failed
calls, cancelled tasks and new workers, rows leave `received` with ascending keys and never return;
each of them waited at the start or was inserted since; and replies are queued for such rows only,
in the same order, at most once for a row. -/
theorem rows_processed_in_order
    (run : (receivingRelay sha256 names hashing timing start now).Run (.start start now) history
      receiving) :
    (settledRows (historyFacts history)).Pairwise (· < ·) ∧
      (repliedRows (historyFacts history)).Sublist (settledRows (historyFacts history)) ∧
      ∀ k ∈ settledRows (historyFacts history), ¬ IsWaiting receiving.relay.inbox k ∧
        (IsWaiting start.inbox k ∨ k ∈ insertedRows (historyFacts history)) := by
  obtain ⟨hprocessor, hrecorder⟩ := receivingOk_of_run run
  obtain ⟨owed, -, howed⟩ := hprocessor.pass
  refine ⟨hprocessor.settled.sorted, (List.sublist_append_left _ owed).trans howed, ?_⟩
  intro k hk
  refine ⟨fun hwaits => ?_, hrecorder.settledKnown k hk⟩
  exact absurd (hprocessor.settled.lt_pending k hk k hwaits) (lt_irrefl k)

theorem rows_processed_in_order_sampleReceipt :
    let reached := sampleReceivingRelay.exec sampleReceivingRelay.init sampleReceipt
    repliedRows (historyFacts reached.1) = [1] ∧
      (repliedRows (historyFacts reached.1)).Sublist (settledRows (historyFacts reached.1)) ∧
      ∀ k ∈ settledRows (historyFacts reached.1), ¬ IsWaiting reached.2.relay.inbox k := by
  have hall := rows_processed_in_order
    (sampleReceivingRelay.run_exec sampleReceivingRelay.init sampleReceipt)
  exact ⟨by decide +kernel, hall.2.1, fun k hk => (hall.2.2 k hk).1⟩

end Run

end HoptalkRelay
