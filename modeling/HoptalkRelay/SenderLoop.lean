/-
**The sender loop and the pauses around it.**

The class of `worker/sender_loop.py`, cut at its awaits, with everything that happens between them:
the pauses of the reconciler and of the commands, the pushes of the node and the deadlines, the
relay mode, and the transactions of the other tasks.  A call of the database is made with the time
its caller read before it and commits later.  The wall clock and the monotonic clock go on together.
A call that is waited for under the lock can fail, which ends the send step with its packet as it
is.

Main definitions:

* `HoptalkRelay.SenderLoop`, `HoptalkRelay.SenderPhase` — the sender, and where it is;
* `HoptalkRelay.findPacingWait`, `HoptalkRelay.startSendStep`, `HoptalkRelay.finishSendStep` —
  **what the sender does between its awaits**;
* `HoptalkRelay.LeavesPackets` — what the transactions of the other tasks leave as it is;
* `HoptalkRelay.sendingStep`, `HoptalkRelay.sendingRelay` — the worker around the sender.
-/

import HoptalkRelay.AcknowledgementTracker
import HoptalkRelay.SendingGate

set_option relaxedAutoImplicit false
set_option autoImplicit false

namespace HoptalkRelay

open Relational Transition

/-! ### The state -/

structure PacingSettings where
  maximumPacketsAwaitingNodeAcknowledgement : ℕ
  minimumSecondsBetweenSends : Seconds

/-- Where the sender is; all phases but the first two are under the lock. -/
inductive SenderPhase
  | resting
  | waitingForLock
  /-- A packet is prepared, for the reply or for the next due work. -/
  | preparing (pendingReply : Option PendingReply) (now : Time) (connectionGeneration : ℕ)
  /-- Nothing is due, and the next eligible time is read. -/
  | readingEligibleTime (now : Time)
  /-- The routes of the packet's contact are settled. -/
  | settling (packet : PacketDescriptor) (pendingReply : Option PendingReply)
  /-- The node has the packet, its answer is waited for. -/
  | handed (packet : PacketDescriptor) (pendingReply : Option PendingReply)
  | recording (packet : PacketDescriptor) (pendingReply : Option PendingReply)
      (outcome : NodeSendOutcome) (now : Time)
  /-- The early push of the packet's code is matched again. -/
  | acknowledging (acknowledgement : NodeAcknowledgement) (now : Time)
  deriving DecidableEq

/-- The packet of a send step, from its preparation to its recorded outcome. -/
def SenderPhase.packetId? : SenderPhase → Option ℕ
  | .settling packet _ | .handed packet _ | .recording packet _ _ _ => some packet.packetId
  | _ => none

/-- The phases between taking the lock and releasing it. -/
def SenderPhase.holdsLock : SenderPhase → Bool
  | .resting | .waitingForLock => false
  | _ => true

structure SenderLoop where
  phase : SenderPhase
  lastSendCompletedAt : Option Seconds
  packetPoolBackOffUntil : Option Seconds
  consecutiveFullPacketPools : ℕ

structure SendingRelay where
  db : Db
  now : Time
  isRunning : Bool
  isNodeConnected : Bool
  connectionGeneration : ℕ
  isShuttingDown : Bool
  replyQueue : ReplyQueue
  tracker : AcknowledgementTracker
  gate : SendingGate
  pauses : List PauseBlock
  sender : SenderLoop

/-- What a step shows. -/
inductive SendingOutcome
  | nothing
  /-- The sender looks again at this monotonic time, unless it is woken. -/
  | looksAgainAt (nextLookAt : Seconds)
  | packetHanded (packet : PacketDescriptor)
  /-- The node's answer is recorded, and the sender goes on with the next packet. -/
  | packetSent
  /-- The send step failed with an error, its packet is abandoned, and the task starts again. -/
  | sendStepFailed (packetId : Option ℕ)
  | waitEnded (isRemoval : Bool) (isQuiet : Bool)
  | contactRemoved (publicKey : Text)
  /-- The node was reconnected, or the relay mode changed, while the removals waited. -/
  | removalsAborted (pauseId : ℕ)
  | pauseEnded (pauseId : ℕ)
  deriving DecidableEq

/-- The packet of a send step that failed. -/
def SendingOutcome.abandonedPacketId? : SendingOutcome → Option ℕ
  | .sendStepFailed packetId => packetId
  | _ => none

namespace SendingRelay

/-- The worker after its start-up recovery. -/
def start (db : Db) (now : Time) : SendingRelay where
  db := recoverOutboundPacketsAtStartup db now
  now
  isRunning := false
  isNodeConnected := false
  connectionGeneration := 0
  isShuttingDown := false
  replyQueue := .empty
  tracker := .empty
  gate := .empty
  pauses := []
  sender :=
    { phase := .resting
      lastSendCompletedAt := none
      packetPoolBackOffUntil := none
      consecutiveFullPacketPools := 0 }

def monotonic (relay : SendingRelay) : Seconds := monotonicAt relay.now

def maySendNow (relay : SendingRelay) : Bool := relay.isRunning && relay.isNodeConnected

def countPacketsAwaitingAcknowledgement (relay : SendingRelay) : ℕ :=
  relay.tracker.countPacketsAwaitingAcknowledgement

/-- The last place for a packet that awaits its acknowledgement is kept for replies. -/
def maySendOtherThanReplies (pacing : PacingSettings) (relay : SendingRelay) : Bool :=
  relay.countPacketsAwaitingAcknowledgement <
    pacing.maximumPacketsAwaitingNodeAcknowledgement - 1

def withPhase (relay : SendingRelay) (phase : SenderPhase) : SendingRelay :=
  { relay with sender := { relay.sender with phase } }

/-- The end of a send step. -/
def releaseLock (relay : SendingRelay) : SendingRelay :=
  { relay.withPhase .resting with gate := relay.gate.release }

end SendingRelay

open SendingRelay

/-! ### The sender between its awaits -/

/-- Nothing will change before an event wakes the loop. -/
def waitForWakeup (timing : SenderTiming) (relay : SendingRelay) : Seconds :=
  relay.monotonic + timing.maximumSenderSleepSeconds

/-- Why no packet may start, as the time of the next look. -/
def findPacingWait (timing : SenderTiming) (pacing : PacingSettings) (relay : SendingRelay) :
    Option Seconds :=
  if relay.maySendNow = false ∨ relay.gate.isPaused then some (waitForWakeup timing relay)
  else
    match relay.sender.packetPoolBackOffUntil.filter (relay.monotonic < ·) with
    | some backOffUntil => some backOffUntil
    | none =>
        match (relay.sender.lastSendCompletedAt.map
            (· + pacing.minimumSecondsBetweenSends)).filter (relay.monotonic < ·) with
        | some gapEndsAt => some gapEndsAt
        | none =>
            if pacing.maximumPacketsAwaitingNodeAcknowledgement ≤
                relay.countPacketsAwaitingAcknowledgement then some (waitForWakeup timing relay)
            else none

/-- The earliest of what may come next, but not before the shortest sleep. -/
def calculateIdleWait (timing : SenderTiming) (relay : SendingRelay)
    (nextEligibleAt : Option Seconds) : ReplyQueue × Seconds :=
  let (replyQueue, nextReplyReadyAt) := relay.replyQueue.nextReadyTime relay.monotonic
  let earliest := (nextReplyReadyAt.toList ++ nextEligibleAt.toList).foldl min
    (relay.monotonic + timing.maximumSenderSleepSeconds)
  (replyQueue, max earliest (relay.monotonic + timing.minimumSenderSleepSeconds))

/-- Under the lock, up to the call that prepares a packet. -/
def startSendStep (workerTiming : WorkerTiming) (timing : SenderTiming) (pacing : PacingSettings)
    (relay : SendingRelay) : SendingRelay × SendingOutcome :=
  if relay.gate.isPaused ∨ relay.maySendNow = false then
    (relay.releaseLock, .looksAgainAt (waitForWakeup timing relay))
  else
    match relay.replyQueue.takeNextReadyReply workerTiming relay.monotonic with
    | (replyQueue, some pendingReply) =>
        ({ relay with replyQueue }.withPhase
          (.preparing (some pendingReply) relay.now relay.connectionGeneration), .nothing)
    | (replyQueue, none) =>
        let relay := { relay with replyQueue }
        if relay.maySendOtherThanReplies pacing then
          (relay.withPhase (.preparing none relay.now relay.connectionGeneration), .nothing)
        else
          let (replyQueue, nextLookAt) := calculateIdleWait timing relay none
          ({ relay with replyQueue }.releaseLock, .looksAgainAt nextLookAt)

/-- The reply's packet, or the next one that is due. -/
def prepareReplyOrNextPacket (settings : RelaySettings) (db : Db)
    (pendingReply : Option PendingReply) (now : Time) (connectionGeneration : ℕ) :
    Except ServiceError (Db × Option PacketDescriptor) :=
  match pendingReply with
  | some reply =>
      prepareReplyPacket db reply.contactId reply.replyKey reply.text now connectionGeneration
  | none => prepareNextPacket settings db now connectionGeneration

/-- The packet is prepared, or nothing is. -/
def preparePacket (settings : RelaySettings) (relay : SendingRelay)
    (pendingReply : Option PendingReply) (now : Time) (connectionGeneration : ℕ) :
    SendingRelay × SendingOutcome :=
  match prepareReplyOrNextPacket settings relay.db pendingReply now connectionGeneration with
  | .error _ => (relay.releaseLock, .sendStepFailed none)
  | .ok (db, some packet) =>
      ({ relay with db }.withPhase (.settling packet pendingReply), .nothing)
  | .ok (db, none) =>
      if pendingReply.isSome then
        -- the contact is gone or not on the node
        ({ relay with db }.releaseLock, .looksAgainAt relay.monotonic)
      else ({ relay with db }.withPhase (.readingEligibleTime relay.now), .nothing)

/-- The node's packet pool was exhausted: every send waits, longer while it stays full. -/
def backOffAfterFullPacketPool (timing : SenderTiming) (monotonic : Seconds)
    (sender : SenderLoop) : SenderLoop :=
  let consecutiveFullPacketPools := sender.consecutiveFullPacketPools + 1
  let backOffSeconds := min
    (timing.tableFullBackoffInitialSeconds * 2 ^ (consecutiveFullPacketPools - 1))
    timing.tableFullBackoffMaximumSeconds
  { sender with
    consecutiveFullPacketPools
    packetPoolBackOffUntil := some (monotonic + backOffSeconds) }

/-- A reply the node could not take goes back to the queue. -/
def handleRecordedOutcome (timing : SenderTiming) (relay : SendingRelay)
    (recordedOutcome : RecordedSendOutcome) (pendingReply : Option PendingReply) : SendingRelay :=
  if recordedOutcome.nodePacketPoolFull then
    let sender := backOffAfterFullPacketPool timing relay.monotonic relay.sender
    { relay with
      sender
      replyQueue :=
        match pendingReply, sender.packetPoolBackOffUntil with
        | some reply, some backOffUntil => (relay.replyQueue.putBack reply backOffUntil).1
        | _, _ => relay.replyQueue }
  else { relay with sender := { relay.sender with consecutiveFullPacketPools := 0 } }

/-- The send is completed; a reply that may have reached the node was sent. -/
def recordSendCompleted (workerTiming : WorkerTiming) (relay : SendingRelay)
    (pendingReply : Option PendingReply) (outcome : NodeSendOutcome) : SendingRelay :=
  let isRejected := match outcome with | .rejectedByNode _ => true | _ => false
  { relay with
    sender := { relay.sender with lastSendCompletedAt := some relay.monotonic }
    replyQueue :=
      match pendingReply with
      | some reply =>
          if isRejected then relay.replyQueue
          else relay.replyQueue.recordReplySent workerTiming reply relay.monotonic
      | none => relay.replyQueue }

/-- The node's answer is recorded, and a queued packet is awaited. -/
def finishSendStep (workerTiming : WorkerTiming) (timing : SenderTiming) (relay : SendingRelay)
    (pendingReply : Option PendingReply) (outcome : NodeSendOutcome)
    (recordedOutcome : Option RecordedSendOutcome) : SendingRelay × SendingOutcome :=
  let relay := recordSendCompleted workerTiming relay pendingReply outcome
  match recordedOutcome with
  | none => (relay.releaseLock, .packetSent)
  | some recordedOutcome =>
      let relay := handleRecordedOutcome timing relay recordedOutcome pendingReply
      match relay.tracker.registerSentPacket workerTiming recordedOutcome relay.monotonic with
      | (tracker, none) => ({ relay with tracker }.releaseLock, .packetSent)
      | (tracker, some acknowledgement) =>
          ({ relay with tracker }.withPhase (.acknowledging acknowledgement relay.now), .nothing)

/-! ### The events -/

/-- A transaction of another task: it prepares no packet, and leaves of every packet it keeps the
state, the deadline and the acknowledgement. -/
def LeavesPackets (t u : Table OutboundPacket) : Prop :=
  ∀ q ∈ u.rows, ∃ p ∈ t.rows, q.id = p.id ∧ q.state = p.state ∧
    q.acknowledgementDeadlineAt = p.acknowledgementDeadlineAt ∧
    q.acknowledgedAt = p.acknowledgedAt

instance (t u : Table OutboundPacket) : Decidable (LeavesPackets t u) :=
  inferInstanceAs (Decidable (∀ q ∈ u.rows, _))

/-- What happens between two awaits. -/
inductive SendingEvent
  | timePasses (microseconds : ℕ)
  | connectionChanges (isRunning isNodeConnected : Bool) (connectionGeneration : ℕ)
  | shutdownRequested
  | replyQueueChanges (replyQueue : ReplyQueue)
  /-- Any other transaction commits. -/
  | transaction (db : Db)
  /-- A push of the node is recorded. -/
  | nodeAcknowledged (acknowledgement : NodeAcknowledgement) (now : Time)
  | deadlinePassed (packetId : ℕ) (now : Time)
  /-- The link is lost: nothing is awaited any more, and the database is told. -/
  | packetsForgotten
  | packetsDropped (now : Time)
  | senderLooks
  | lockTaken
  | packetPrepared (settings : RelaySettings)
  | eligibleTimeRead (settings : RelaySettings)
  | routesSettled
  | nodeAnswers (outcome : NodeSendOutcome)
  | outcomeRecorded (settings : RelaySettings)
  | earlyPushMatched
  /-- The call that the sender waits for under the lock fails. -/
  | sendStepFails
  | pauseSending (pauseId : ℕ) (reason : Text)
  | latestDeadlineCalled (pauseId : ℕ)
  | latestDeadlineRead (pauseId : ℕ)
  /-- The wait before a restart of the node. -/
  | restartWaitStarts (pauseId : ℕ)
  | quietCheckCalled (pauseId : ℕ)
  | quietCheckRuns (pauseId : ℕ)
  | removalsStart (pauseId listedConnectionGeneration : ℕ)
  | removeContact (pauseId : ℕ) (publicKey : Text)
  /-- The block ends, fails or is cancelled. -/
  | pauseEnds (pauseId : ℕ)

namespace SendingRelay

def findPause (relay : SendingRelay) (pauseId : ℕ) : Option PauseBlock :=
  relay.pauses.find? fun block => block.pauseId = pauseId

/-- The block goes on. -/
def movePause (relay : SendingRelay) (pauseId : ℕ) (phase : PausePhase) : SendingRelay :=
  { relay with
    pauses := relay.pauses.map fun block =>
      if block.pauseId = pauseId then { block with phase } else block }

/-- The reason is removed; a block that waits for the lock leaves it. -/
def endPause (relay : SendingRelay) (block : PauseBlock) : SendingRelay :=
  { relay with
    gate :=
      { pauseReasons := relay.gate.pauseReasons.erase block.reason
        sendStepLock := relay.gate.sendStepLock.leave (.pauser block.pauseId) }
    pauses := relay.pauses.erase block }

end SendingRelay

/-! ### The pauses -/

/-- The entry of a pause: the reason is registered before the lock is asked for. -/
def enterPause (relay : SendingRelay) (pauseId : ℕ) (reason : Text) : SendingRelay :=
  let sendStepLock := relay.gate.sendStepLock.ask (.pauser pauseId)
  let isTaken : Bool := sendStepLock.holder = some (.pauser pauseId)
  { relay with
    gate :=
      { pauseReasons := relay.gate.pauseReasons ++ [reason]
        sendStepLock := if isTaken then sendStepLock.release else sendStepLock }
    pauses := relay.pauses ++
      [{ pauseId, reason, phase := if isTaken then .paused else .waiting }] }

/-- What a block inside its pause does next. -/
def pauseStep (timing : SenderTiming) (relay : SendingRelay) (block : PauseBlock) :
    SendingEvent → SendingRelay × SendingOutcome
  | .latestDeadlineCalled pauseId =>
      if block.phase = .paused then
        (relay.movePause pauseId (.readingLatestDeadline relay.now), .nothing)
      else (relay, .nothing)
  | .latestDeadlineRead pauseId =>
      match block.phase with
      | .readingLatestDeadline now =>
          let waitSeconds := removalWaitSeconds timing
            (readLatestAcknowledgementDeadline relay.db now) relay.now
          (relay.movePause pauseId (.polling true (relay.monotonic + waitSeconds)), .nothing)
      | _ => (relay, .nothing)
  | .restartWaitStarts pauseId =>
      if block.phase = .paused then
        (relay.movePause pauseId
          (.polling false (relay.monotonic + timing.nodeRestartQuietWaitSeconds)), .nothing)
      else (relay, .nothing)
  | .quietCheckCalled pauseId =>
      match block.phase with
      | .polling isRemoval monotonicDeadline =>
          (relay.movePause pauseId
            (.checking isRemoval monotonicDeadline relay.now
              (monotonicDeadline ≤ relay.monotonic)), .nothing)
      | _ => (relay, .nothing)
  | .quietCheckRuns pauseId =>
      match block.phase with
      | .checking isRemoval monotonicDeadline now waitHasEnded =>
          match checkQuiet relay.db relay.isShuttingDown isRemoval monotonicDeadline now
              waitHasEnded with
          | some .quiet => (relay.movePause pauseId .quiet, .waitEnded isRemoval true)
          | some phase => (relay.movePause pauseId phase, .nothing)
          | none => (relay.movePause pauseId .paused, .waitEnded isRemoval false)
      | _ => (relay, .nothing)
  | .removalsStart pauseId listedConnectionGeneration =>
      if block.phase = .quiet then
        if relay.isRunning ∧ relay.connectionGeneration = listedConnectionGeneration then
          (relay.movePause pauseId .removing, .nothing)
        else (relay.endPause block, .removalsAborted block.pauseId)
      else (relay, .nothing)
  | .removeContact _ publicKey =>
      if block.phase = .removing then (relay, .contactRemoved publicKey) else (relay, .nothing)
  | .pauseEnds _ => (relay.endPause block, .pauseEnded block.pauseId)
  | _ => (relay, .nothing)

/-- The block an event belongs to. -/
def SendingEvent.pauseId? : SendingEvent → Option ℕ
  | .latestDeadlineCalled pauseId | .latestDeadlineRead pauseId | .restartWaitStarts pauseId
  | .quietCheckCalled pauseId | .quietCheckRuns pauseId | .removalsStart pauseId _
  | .removeContact pauseId _ | .pauseEnds pauseId => some pauseId
  | _ => none

/-! ### The steps -/

/-- What the sender does next. -/
def senderStep (workerTiming : WorkerTiming) (timing : SenderTiming) (pacing : PacingSettings)
    (relay : SendingRelay) : SendingEvent → SendingRelay × SendingOutcome
  | .senderLooks =>
      if relay.sender.phase ≠ .resting then (relay, .nothing)
      else
        match findPacingWait timing pacing relay with
        | some nextLookAt => (relay, .looksAgainAt nextLookAt)
        | none =>
            let sendStepLock := relay.gate.sendStepLock.ask .sender
            let relay := { relay with gate := { relay.gate with sendStepLock } }
            if sendStepLock.holder = some .sender then
              startSendStep workerTiming timing pacing relay
            else (relay.withPhase .waitingForLock, .nothing)
  | .packetPrepared settings =>
      match relay.sender.phase with
      | .preparing pendingReply now connectionGeneration =>
          preparePacket settings relay pendingReply now connectionGeneration
      | _ => (relay, .nothing)
  | .eligibleTimeRead settings =>
      match relay.sender.phase with
      | .readingEligibleTime now =>
          let nextEligibleAt := (calculateNextEligibleTime settings relay.db now).map
            fun eligibleTime => relay.monotonic + monotonicAt (eligibleTime - relay.now)
          let (replyQueue, nextLookAt) := calculateIdleWait timing relay nextEligibleAt
          ({ relay with replyQueue }.releaseLock, .looksAgainAt nextLookAt)
      | _ => (relay, .nothing)
  | .routesSettled =>
      match relay.sender.phase with
      | .settling packet pendingReply =>
          (relay.withPhase (.handed packet pendingReply), .packetHanded packet)
      | _ => (relay, .nothing)
  | .nodeAnswers outcome =>
      match relay.sender.phase with
      | .handed packet pendingReply =>
          (relay.withPhase (.recording packet pendingReply outcome relay.now), .nothing)
      | _ => (relay, .nothing)
  | .outcomeRecorded settings =>
      match relay.sender.phase with
      | .recording packet pendingReply outcome now =>
          let (db, recordedOutcome) :=
            recordSendOutcome settings relay.db packet.packetId outcome now
          finishSendStep workerTiming timing { relay with db } pendingReply outcome recordedOutcome
      | _ => (relay, .nothing)
  | .earlyPushMatched =>
      match relay.sender.phase with
      | .acknowledging acknowledgement now =>
          let (db, acknowledgedPackets) := recordNodeAcknowledgement relay.db acknowledgement.code
            acknowledgement.roundTripMilliseconds now
          ({ relay with
              db
              tracker := relay.tracker.finishNodeAcknowledgement workerTiming acknowledgement
                acknowledgedPackets relay.monotonic }.releaseLock, .packetSent)
      | _ => (relay, .nothing)
  | .sendStepFails =>
      if relay.sender.phase.holdsLock then
        (relay.releaseLock, .sendStepFailed relay.sender.phase.packetId?)
      else (relay, .nothing)
  | _ => (relay, .nothing)

/-- The first waiting task takes the lock; a pause releases it at once. -/
def lockStep (workerTiming : WorkerTiming) (timing : SenderTiming) (pacing : PacingSettings)
    (relay : SendingRelay) : SendingRelay × SendingOutcome :=
  match relay.gate.sendStepLock.takeNext? with
  | none => (relay, .nothing)
  | some (.sender, sendStepLock) =>
      startSendStep workerTiming timing pacing
        { relay with gate := { relay.gate with sendStepLock } }
  | some (.pauser pauseId, sendStepLock) =>
      ({ relay with gate := { relay.gate with sendStepLock := sendStepLock.release } }.movePause
        pauseId .paused, .nothing)

/-- One event; what cannot happen yet changes nothing. -/
def sendingStep (workerTiming : WorkerTiming) (timing : SenderTiming) (pacing : PacingSettings)
    (relay : SendingRelay) (event : SendingEvent) : SendingRelay × SendingOutcome :=
  match event with
  | .timePasses microseconds => ({ relay with now := relay.now + microseconds }, .nothing)
  | .connectionChanges isRunning isNodeConnected connectionGeneration =>
      ({ relay with isRunning, isNodeConnected, connectionGeneration }, .nothing)
  | .shutdownRequested => ({ relay with isShuttingDown := true }, .nothing)
  | .replyQueueChanges replyQueue => ({ relay with replyQueue }, .nothing)
  | .transaction db =>
      if LeavesPackets relay.db.packets db.packets then ({ relay with db }, .nothing)
      else (relay, .nothing)
  | .nodeAcknowledged acknowledgement now =>
      let (db, acknowledgedPackets) := recordNodeAcknowledgement relay.db acknowledgement.code
        acknowledgement.roundTripMilliseconds now
      ({ relay with
          db
          tracker := relay.tracker.finishNodeAcknowledgement workerTiming acknowledgement
            acknowledgedPackets relay.monotonic }, .nothing)
  | .deadlinePassed packetId now =>
      ({ relay with
          db := (recordAcknowledgementDeadlinePassed relay.db packetId now).1
          tracker := relay.tracker.finishPassedDeadline packetId }, .nothing)
  | .packetsForgotten =>
      ({ relay with tracker := relay.tracker.forgetPacketsAwaitingAcknowledgement }, .nothing)
  | .packetsDropped now =>
      ({ relay with db := markPacketsAwaitingAcknowledgementDropped relay.db now }, .nothing)
  | .lockTaken => lockStep workerTiming timing pacing relay
  | .pauseSending pauseId reason =>
      if (relay.findPause pauseId).isSome then (relay, .nothing)
      else (enterPause relay pauseId reason, .nothing)
  | event =>
      match event.pauseId? with
      | none => senderStep workerTiming timing pacing relay event
      | some pauseId =>
          match relay.findPause pauseId with
          | none => (relay, .nothing)
          | some block => pauseStep timing relay block event

/-- The worker around the sender, from a database at a time. -/
def sendingRelay (workerTiming : WorkerTiming) (timing : SenderTiming) (pacing : PacingSettings)
    (db : Db) (now : Time) : Machine SendingRelay SendingEvent SendingOutcome where
  init := .start db now
  step := sendingStep workerTiming timing pacing

end HoptalkRelay
