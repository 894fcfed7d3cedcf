/-
**Receiving: from the node's frame to the queued reply.**

The coroutines of `worker/inbound_recorder.py` and `worker/inbound_processor.py` between their
awaits, over the one database thread that both use.  A frame the node handed over lives only in
memory until it is recorded; a recorded row is processed once, in the order of the rows.  A call
to the database may raise, before its commit or after it: the recorder tries again, and the
supervisor starts the processor again.  A shutdown may cancel either, and a new worker may follow
on the same database.

The drainer is any arrival of frames, a wait with a timeout may end at any time, and the path
reset after a flood arrival is one step that ends well or raises.  Replies leave as facts.

Main definitions:

* `HoptalkRelay.CallEnd`, `HoptalkRelay.processingCall` — a call that may raise;
* `HoptalkRelay.ReceivingRelay` — the queue, the two coroutines and the database thread;
* `HoptalkRelay.ReceivingFact` — what an observer notes;
* `HoptalkRelay.receivingStep`, `HoptalkRelay.receivingRelay` — the worker.
-/

import Mathlib.Data.List.AList
import HoptalkRelay.InboundRecording

set_option relaxedAutoImplicit false
set_option autoImplicit false

namespace HoptalkRelay

open Relational Transition

/-! ### Calls to the database -/

/-- How a transaction ends for its caller; the connection can fail after the commit. -/
inductive CallEnd
  | completes
  | raises (committed : Bool)
  deriving DecidableEq, Repr

def isReceived (row : InboundDirectMessage) : Bool := row.processingState = .received

/-- Rows still `received`, oldest first. -/
def findUnprocessedInboxRowIds (inbox : Table InboundDirectMessage) (limit : ℕ) : List ℕ :=
  ((inbox.filter isReceived).map InboundDirectMessage.id).take limit

section Calls

variable (sha256 : Text → Text) (names : ℕ → Text)

/-- `record_inbound_frame`: nothing when it raises. -/
def recordingCall (state : RelayDb) (frame : ReceivedDirectMessageFrame) (now : Time) :
    CallEnd → RelayDb × Option RecordedInboundFrame
  | .completes => recordInboundFrame sha256 names state (frame, now)
  | .raises true => ((recordInboundFrame sha256 names state (frame, now)).1, none)
  | .raises false => (state, none)

variable (hashing : PasswordHashing) (settings : RelaySettings)

/-- `mark_inbox_row_failed` and the result of a failed row; nothing when marking raises too. -/
def failingCall (state : RelayDb) (inboxRowId : ℕ) (now : Time) :
    CallEnd → RelayDb × Option InboundProcessingResult
  | .completes =>
      ({ state with inbox := markInboxRowFailed state.inbox inboxRowId now },
        some
          { inboxRowId
            contactId := (state.inbox.get? inboxRowId).bind InboundDirectMessage.contactId
            processingState := .failed
            classification := .unclassified })
  | .raises true => ({ state with inbox := markInboxRowFailed state.inbox inboxRowId now }, none)
  | .raises false => (state, none)

/-- `process_inbound_direct_message`: an exception of the transaction, whether it committed or not,
marks the row failed. -/
def processingCall (state : RelayDb) (inboxRowId : ℕ) (salt : Text) (now : Time)
    (originalText : Option PlainText) (transactionEnd markEnd : CallEnd) :
    RelayDb × Option InboundProcessingResult :=
  match processInTransaction hashing settings state inboxRowId salt now originalText,
    transactionEnd with
  | .ok (state', result), .completes => (state', some result)
  | .error .alreadyProcessed, .completes =>
      (state, some (buildAlreadyProcessedResult state.inbox inboxRowId))
  | .ok (state', _), .raises true => failingCall state' inboxRowId now markEnd
  | _, _ => failingCall state inboxRowId now markEnd

/-- Calls that complete are the ones of `processInboundDirectMessage`. -/
theorem processingCall_completes (state : RelayDb) (inboxRowId : ℕ) (salt : Text) (now : Time)
    (originalText : Option PlainText) :
    processingCall hashing settings state inboxRowId salt now originalText .completes .completes =
      ((processInboundDirectMessage hashing settings state inboxRowId salt now originalText).1,
        some
          (processInboundDirectMessage hashing settings state inboxRowId salt now
            originalText).2) := by
  unfold processingCall processInboundDirectMessage
  cases processInTransaction hashing settings state inboxRowId salt now originalText with
  | ok processed => rfl
  | error processingError =>
      cases processingError with
      | alreadyProcessed => rfl
      | service serviceError => rfl

end Calls

/-! ### The coroutines -/

/-- Where the recorder is with its frame. -/
inductive RecorderPhase
  | taking
  | recording (frame : ReceivedDirectMessageFrame) (attemptNumber : ℕ)
  /-- The pause after a failed attempt. -/
  | retrying (frame : ReceivedDirectMessageFrame) (attemptNumber : ℕ)
  | ended
  deriving DecidableEq

/-- Where the processor is in its pass over the unprocessed rows. -/
inductive ProcessorPhase
  /-- The supervisor's pause before it starts the task, for the first time or again. -/
  | restarting
  | finding
  | processing (inboxRowId : ℕ) (rest : List ℕ) (isFullPass : Bool)
  /-- The route to the sender is reset before the replies are queued. -/
  | resettingRoute (result : InboundProcessingResult) (rest : List ℕ) (isFullPass : Bool)
  | waiting
  | ended

/-- A call given to the database thread. -/
inductive InboundCall
  | recordInboundFrame (frame : ReceivedDirectMessageFrame) (now : Time)
  | findUnprocessedInboxRowIds
  | processInboundDirectMessage (inboxRowId : ℕ) (now : Time) (originalText : Option PlainText)

/-- What a call gives its caller; nothing when it raised. -/
inductive InboundResult
  | recorded (recordedFrame : Option RecordedInboundFrame)
  | unprocessedRowIds (inboxRowIds : Option (List ℕ))
  | processed (processingResult : Option InboundProcessingResult)

/-- What became of a frame. -/
inductive FrameFate
  | recorded (recordedFrame : RecordedInboundFrame)
  /-- Every attempt failed; the client retries. -/
  | givenUp
  /-- The worker ended first. -/
  | lost
  deriving DecidableEq

/-- What an observer notes. -/
inductive ReceivingFact
  | arrived (frame : ReceivedDirectMessageFrame)
  /-- The frame's call inserted the row, and its caller knows or does not know it. -/
  | inserted (inboxRowId : ℕ) (frame : ReceivedDirectMessageFrame) (isKnown : Bool)
  | handled (frame : ReceivedDirectMessageFrame) (fate : FrameFate)
  /-- The row is given to be processed. -/
  | taken (inboxRowId : ℕ) (originalText : Option PlainText)
  /-- The row is no longer `received`. -/
  | settled (inboxRowId : ℕ)
  | processingRaised (inboxRowId : ℕ)
  | replied (inboxRowId : ℕ) (replies : List QueuedReply)

/-- The constants of the two coroutines. -/
structure ReceivingTiming where
  inboundRecordingAttempts : ℕ
  inboundRecordingAttempts_pos : 0 < inboundRecordingAttempts

def unprocessedRowsPerPass : ℕ := 100

structure ReceivingRelay where
  relay : RelayDb
  now : Time
  inboundFrameQueue : List ReceivedDirectMessageFrame
  recorder : RecorderPhase
  processor : ProcessorPhase
  /-- The frames' own texts, until their rows are processed. -/
  originalTexts : AList fun _ : ℕ => PlainText
  /-- The event `inbox_rows_recorded`. -/
  inboxRowsRecorded : Bool
  isShuttingDown : Bool
  inboundFramesFinished : Bool
  /-- The calls that did not run yet. -/
  calls : List InboundCall
  /-- The results whose callers did not continue yet. -/
  results : List InboundResult

/-- The frame the recorder is busy with. -/
def RecorderPhase.frame? : RecorderPhase → Option ReceivedDirectMessageFrame
  | .recording frame _ => some frame
  | .retrying frame _ => some frame
  | .taking => none
  | .ended => none

/-- Another transaction of the worker or the panel: it inserts no row and processes none, and the
retention deletes no row that still waits. -/
def LeavesReceivedRows (t u : Table InboundDirectMessage) : Prop :=
  u.nextKey = t.nextKey ∧
    (∀ row ∈ u.rows, isReceived row → ∃ old ∈ t.rows, old.id = row.id ∧ isReceived old) ∧
    ∀ old ∈ t.rows, isReceived old → ∃ row ∈ u.rows, row.id = old.id ∧ isReceived row

instance (t u : Table InboundDirectMessage) : Decidable (LeavesReceivedRows t u) :=
  inferInstanceAs (Decidable (_ ∧ _ ∧ _))

namespace ReceivingRelay

/-- A worker that starts on a database. -/
def start (relay : RelayDb) (now : Time) : ReceivingRelay where
  relay
  now
  inboundFrameQueue := []
  recorder := .taking
  processor := .restarting
  originalTexts := ∅
  inboxRowsRecorded := false
  isShuttingDown := false
  inboundFramesFinished := false
  calls := []
  results := []

variable (timing : ReceivingTiming) (receiving : ReceivingRelay)

def submit (call : InboundCall) : ReceivingRelay :=
  { receiving with calls := receiving.calls ++ [call] }

/-! ### The recorder -/

/-- `record_frame`, up to the await of an attempt. -/
def startAttempt (frame : ReceivedDirectMessageFrame) (attemptNumber : ℕ) : ReceivingRelay :=
  submit { receiving with recorder := .recording frame attemptNumber }
    (.recordInboundFrame frame receiving.now)

/-- `accept_recorded_row` -/
def acceptRecordedRow (inboxRowId : ℕ) (originalText : PlainText) : ReceivingRelay :=
  { receiving with
    originalTexts := receiving.originalTexts.insert inboxRowId originalText
    inboxRowsRecorded := true }

/-- `record_frame`, after the await of an attempt. -/
def finishAttempt (frame : ReceivedDirectMessageFrame) (attemptNumber : ℕ) :
    Option RecordedInboundFrame → ReceivingRelay × List ReceivingFact
  | none => ({ receiving with recorder := .retrying frame attemptNumber }, [])
  | some recordedFrame =>
      let receiving := { receiving with recorder := .taking }
      (if recordedFrame.isFirmwareRepeat then receiving
        else receiving.acceptRecordedRow recordedFrame.inboxRowId frame.text,
        [.handled frame (.recorded recordedFrame)])

/-- The pause after an attempt is over; after the last one the frame is given up. -/
def continueRecording (frame : ReceivedDirectMessageFrame) (attemptNumber : ℕ) :
    ReceivingRelay × List ReceivingFact :=
  if attemptNumber < timing.inboundRecordingAttempts then
    (receiving.startAttempt frame (attemptNumber + 1), [])
  else ({ receiving with recorder := .taking }, [.handled frame .givenUp])

/-! ### The processor -/

/-- The next round of the processor's loop. -/
def startPass : ReceivingRelay :=
  if receiving.isShuttingDown then { receiving with processor := .ended }
  else
    submit { receiving with inboxRowsRecorded := false, processor := .finding }
      .findUnprocessedInboxRowIds

/-- The rows of the pass that are still to be processed; after a full pass the next one starts at
once. -/
def continuePass (isFullPass : Bool) : List ℕ → ReceivingRelay × List ReceivingFact
  | [] =>
      (if isFullPass then receiving.startPass else { receiving with processor := .waiting }, [])
  | inboxRowId :: rest =>
      if receiving.isShuttingDown then ({ receiving with processor := .ended }, [])
      else
        let originalText := receiving.originalTexts.lookup inboxRowId
        (submit
          { receiving with
            processor := .processing inboxRowId rest isFullPass
            originalTexts := receiving.originalTexts.erase inboxRowId }
          (.processInboundDirectMessage inboxRowId receiving.now originalText),
          [.taken inboxRowId originalText])

/-- `_queue_replies`, and on to the next row. -/
def queueReplies (result : InboundProcessingResult) (rest : List ℕ) (isFullPass : Bool) :
    ReceivingRelay × List ReceivingFact :=
  let (receiving, facts) := receiving.continuePass isFullPass rest
  (receiving, .replied result.inboxRowId result.replies :: facts)

/-- `process_row`, after the await of the row's transaction. -/
def finishRow (isRunning : Bool) (rest : List ℕ) (isFullPass : Bool) :
    Option InboundProcessingResult → ReceivingRelay × List ReceivingFact
  | none => ({ receiving with processor := .restarting }, [])
  | some result =>
      if result.wasAlreadyProcessed then receiving.continuePass isFullPass rest
      else if result.floodArrivalRouteResetNeeded ∧ isRunning ∧ result.contactId.isSome then
        ({ receiving with processor := .resettingRoute result rest isFullPass }, [])
      else receiving.queueReplies result rest isFullPass

/-- The first caller whose call ran continues; a cancelled one does not. -/
def continueFirst (isRunning : Bool) : InboundResult → ReceivingRelay × List ReceivingFact
  | .recorded recordedFrame =>
      match receiving.recorder with
      | .recording frame attemptNumber =>
          receiving.finishAttempt frame attemptNumber recordedFrame
      | _ => (receiving, [])
  | .unprocessedRowIds inboxRowIds =>
      match receiving.processor with
      | .finding =>
          match inboxRowIds with
          | none => ({ receiving with processor := .restarting }, [])
          | some inboxRowIds =>
              receiving.continuePass (inboxRowIds.length = unprocessedRowsPerPass) inboxRowIds
      | _ => (receiving, [])
  | .processed processingResult =>
      match receiving.processor with
      | .processing _ rest isFullPass =>
          receiving.finishRow isRunning rest isFullPass processingResult
      | _ => (receiving, [])

end ReceivingRelay

/-! ### The database thread -/

section Thread

variable (sha256 : Text → Text) (names : ℕ → Text) (hashing : PasswordHashing)

/-- How a call ends: its settings, the salt it draws, and the ends of its transactions. -/
structure CallRun where
  settings : RelaySettings
  salt : Text
  transactionEnd : CallEnd
  markEnd : CallEnd

/-- The row that a recording inserted. -/
def insertionFacts (state state' : RelayDb) (frame : ReceivedDirectMessageFrame)
    (isKnown : Bool) : List ReceivingFact :=
  if state.inbox.nextKey < state'.inbox.nextKey then
    [.inserted state.inbox.nextKey frame isKnown]
  else []

/-- What became of a row given to be processed. -/
def processingFacts (state state' : RelayDb) (inboxRowId : ℕ) (isKnown : Bool) :
    List ReceivingFact :=
  (if state.inbox.any (isReceivedRow inboxRowId) ∧ ¬ state'.inbox.any (isReceivedRow inboxRowId)
    then [.settled inboxRowId] else []) ++
  if isKnown then [] else [.processingRaised inboxRowId]

/-- The call itself. -/
def InboundCall.run (callRun : CallRun) (state : RelayDb) :
    InboundCall → RelayDb × InboundResult × List ReceivingFact
  | .recordInboundFrame frame now =>
      let (state', recordedFrame) :=
        recordingCall sha256 names state frame now callRun.transactionEnd
      (state', .recorded recordedFrame, insertionFacts state state' frame recordedFrame.isSome)
  | .findUnprocessedInboxRowIds =>
      (state,
        .unprocessedRowIds
          (if callRun.transactionEnd = .completes then
            some (HoptalkRelay.findUnprocessedInboxRowIds state.inbox unprocessedRowsPerPass)
          else none), [])
  | .processInboundDirectMessage inboxRowId now originalText =>
      let (state', processingResult) :=
        processingCall hashing callRun.settings state inboxRowId callRun.salt now originalText
          callRun.transactionEnd callRun.markEnd
      (state', .processed processingResult,
        processingFacts state state' inboxRowId processingResult.isSome)

end Thread

/-! ### The worker -/

/-- What happens between two awaits. -/
inductive ReceivingEvent
  | clockShows (now : Time)
  /-- Any other transaction commits. -/
  | transaction (relay : RelayDb)
  /-- The node hands a frame over. -/
  | frameArrives (frame : ReceivedDirectMessageFrame)
  | recorderTakes
  | retryPauseEnds
  | callRuns (callRun : CallRun)
  /-- The relay mode counts for a flood arrival. -/
  | callerContinues (isRunning : Bool)
  | routeResetEnds (raises : Bool)
  | processorStarts
  | processorWakes
  | shutdownRequested
  /-- Nothing more can be taken from the node. -/
  | framesFinish
  | recorderStops
  | recorderCancelled
  | processorCancelled
  /-- This process ends, and the next one starts on the same database. -/
  | workerRestarts

open ReceivingRelay

section Step

variable (sha256 : Text → Text) (names : ℕ → Text) (hashing : PasswordHashing)
  (timing : ReceivingTiming)

/-- The frames that live only in memory. -/
def ReceivingRelay.unrecordedFrames (receiving : ReceivingRelay) :
    List ReceivedDirectMessageFrame :=
  receiving.recorder.frame?.toList ++ receiving.inboundFrameQueue

def lostFacts (frames : List ReceivedDirectMessageFrame) : List ReceivingFact :=
  frames.map fun frame => .handled frame .lost

/-- One event; what cannot happen yet changes nothing. -/
def receivingStep (receiving : ReceivingRelay) :
    ReceivingEvent → ReceivingRelay × List ReceivingFact
  | .clockShows now => ({ receiving with now }, [])
  | .transaction relay =>
      if LeavesReceivedRows receiving.relay.inbox relay.inbox then ({ receiving with relay }, [])
      else (receiving, [])
  | .frameArrives frame =>
      ({ receiving with inboundFrameQueue := receiving.inboundFrameQueue ++ [frame] },
        [.arrived frame])
  | .recorderTakes =>
      match receiving.recorder, receiving.inboundFrameQueue with
      | .taking, frame :: inboundFrameQueue =>
          (startAttempt { receiving with inboundFrameQueue } frame 1, [])
      | _, _ => (receiving, [])
  | .retryPauseEnds =>
      match receiving.recorder with
      | .retrying frame attemptNumber => receiving.continueRecording timing frame attemptNumber
      | _ => (receiving, [])
  | .callRuns callRun =>
      match receiving.calls with
      | [] => (receiving, [])
      | call :: calls =>
          let (relay, result, facts) := call.run sha256 names hashing callRun receiving.relay
          ({ receiving with relay, calls, results := receiving.results ++ [result] }, facts)
  | .callerContinues isRunning =>
      match receiving.results with
      | [] => (receiving, [])
      | result :: results => continueFirst { receiving with results } isRunning result
  | .routeResetEnds raises =>
      match receiving.processor with
      | .resettingRoute result rest isFullPass =>
          if raises then ({ receiving with processor := .restarting }, [])
          else receiving.queueReplies result rest isFullPass
      | _ => (receiving, [])
  | .processorStarts =>
      match receiving.processor with
      | .restarting => (receiving.startPass, [])
      | _ => (receiving, [])
  | .processorWakes =>
      match receiving.processor with
      | .waiting => (receiving.startPass, [])
      | _ => (receiving, [])
  | .shutdownRequested => ({ receiving with isShuttingDown := true }, [])
  | .framesFinish =>
      if receiving.isShuttingDown then ({ receiving with inboundFramesFinished := true }, [])
      else (receiving, [])
  | .recorderStops =>
      if receiving.recorder = .taking ∧ receiving.inboundFrameQueue = [] ∧
          receiving.inboundFramesFinished then
        ({ receiving with recorder := .ended }, [])
      else (receiving, [])
  | .recorderCancelled =>
      if receiving.isShuttingDown then
        ({ receiving with recorder := .ended }, lostFacts receiving.recorder.frame?.toList)
      else (receiving, [])
  | .processorCancelled =>
      if receiving.isShuttingDown then ({ receiving with processor := .ended }, [])
      else (receiving, [])
  | .workerRestarts =>
      (.start receiving.relay receiving.now, lostFacts receiving.unrecordedFrames)

/-- The workers on one database, one after the other, from a database at a time. -/
def receivingRelay (relay : RelayDb) (now : Time) :
    Machine ReceivingRelay ReceivingEvent (List ReceivingFact) where
  init := .start relay now
  step := receivingStep sha256 names hashing timing

end Step

end HoptalkRelay
