/-
**Acknowledgements between the database thread, the sender and the node.**

The coroutines that meet at the tracker of `worker/acknowledgement_tracker.py`, on one connection:
the sender of `worker/sender_loop.py` with its one packet at a time, the pushes of the node, and the
loop over the deadlines.  Their calls of the database run one after the other on one thread, in the
order in which they were made, and their callers continue in the same order.  Between two awaits
nothing else happens.  The wall clock and the monotonic clock go on together.

Main definitions:

* `HoptalkRelay.DatabaseJob`, `HoptalkRelay.FinishedJob` — a call, and what its caller continues
  with;
* `HoptalkRelay.AcknowledgingRelay` — the state of all of them;
* `HoptalkRelay.acknowledgingStep` — what happens between two awaits;
* `HoptalkRelay.KeepsAcknowledgements` — what any other transaction leaves as it is.
-/

import HoptalkRelay.AcknowledgementColumns
import HoptalkRelay.AcknowledgementTracker

set_option relaxedAutoImplicit false
set_option autoImplicit false

namespace HoptalkRelay

open Relational Transition

/-! ### The database thread -/

/-- Who waits for a call. -/
inductive DatabaseCaller
  | sender
  | push
  | deadlineLoop
  deriving DecidableEq, Repr

/-- A call of the database, with the time its caller read before it.  The sender calls for an early
push, which is matched again. -/
inductive DatabaseJob
  | recordSendOutcome (settings : RelaySettings) (packetId : ℕ) (outcome : NodeSendOutcome)
      (now : Time)
  | recordNodeAcknowledgement (isEarly : Bool) (acknowledgement : NodeAcknowledgement) (now : Time)
  | recordAcknowledgementDeadlinePassed (packetId : ℕ) (now : Time)

/-- What the caller continues with. -/
inductive FinishedJob
  | sendOutcome (recordedOutcome : Option RecordedSendOutcome)
  | nodeAcknowledgement (isEarly : Bool) (acknowledgement : NodeAcknowledgement)
      (acknowledgedPackets : List AcknowledgedPacket)
  | deadlinePassed (packetId : ℕ) (acknowledgementTimeout : Option AcknowledgementTimeout)

def DatabaseJob.caller : DatabaseJob → DatabaseCaller
  | .recordSendOutcome _ _ _ _ => .sender
  | .recordNodeAcknowledgement isEarly _ _ => if isEarly then .sender else .push
  | .recordAcknowledgementDeadlinePassed _ _ => .deadlineLoop

def FinishedJob.caller : FinishedJob → DatabaseCaller
  | .sendOutcome _ => .sender
  | .nodeAcknowledgement isEarly _ _ => if isEarly then .sender else .push
  | .deadlinePassed _ _ => .deadlineLoop

/-- The call itself. -/
def DatabaseJob.run (db : Db) : DatabaseJob → Db × FinishedJob
  | .recordSendOutcome settings packetId outcome now =>
      let (db, recordedOutcome) :=
        HoptalkRelay.recordSendOutcome settings db packetId outcome now
      (db, .sendOutcome recordedOutcome)
  | .recordNodeAcknowledgement isEarly acknowledgement now =>
      let (db, acknowledgedPackets) :=
        HoptalkRelay.recordNodeAcknowledgement db acknowledgement.code
          acknowledgement.roundTripMilliseconds now
      (db, .nodeAcknowledgement isEarly acknowledgement acknowledgedPackets)
  | .recordAcknowledgementDeadlinePassed packetId now =>
      let (db, acknowledgementTimeout) :=
        HoptalkRelay.recordAcknowledgementDeadlinePassed db packetId now
      (db, .deadlinePassed packetId acknowledgementTimeout)

def RecordedSendOutcome.awaitsAcknowledgement (recordedOutcome : RecordedSendOutcome) : Bool :=
  recordedOutcome.packetState = .queuedOnNode

/-! ### The other transactions -/

/-- A transaction that leaves every packet's acknowledgement columns and may prepare new packets;
only the end of the connection and the retention do more. -/
def KeepsAcknowledgements (t u : Table OutboundPacket) : Prop :=
  (∀ p ∈ t.rows, ∃ q ∈ u.rows, q.acknowledgementColumns = p.acknowledgementColumns) ∧
    ∀ q ∈ u.rows, (q.state = .prepared ∧ q.queuedAt = none) ∨
      ∃ p ∈ t.rows, q.acknowledgementColumns = p.acknowledgementColumns

instance (t u : Table OutboundPacket) : Decidable (KeepsAcknowledgements t u) :=
  inferInstanceAs (Decidable (_ ∧ _))

/-! ### The coroutines -/

/-- Where the sender is with its packet. -/
inductive SendPhase
  | idle
  /-- The node has the packet, its answer is waited for. -/
  | handed (packetId : ℕ)
  | recording (packetId : ℕ)
  /-- The early push of the packet's code is matched again. -/
  | acknowledging
  deriving DecidableEq, Repr

/-- Where the loop over the deadlines is. -/
inductive DeadlineLoopPhase
  | waiting (wakesAt : Option Time)
  | recording (rest : List AwaitedPacket)
  /-- The reply's route is settled. -/
  | settling (rest : List AwaitedPacket)
  deriving DecidableEq

structure AcknowledgingRelay where
  db : Db
  now : Time
  tracker : AcknowledgementTracker
  sender : SendPhase
  deadlineLoop : DeadlineLoopPhase
  /-- The event `acknowledgement_deadlines_changed`. -/
  deadlinesChanged : Bool
  /-- The calls that did not run yet. -/
  jobs : List DatabaseJob
  /-- The calls whose callers did not continue yet. -/
  finished : List FinishedJob

namespace AcknowledgingRelay

/-- The worker with no packet under way. -/
def start (db : Db) (now : Time) : AcknowledgingRelay where
  db
  now
  tracker := .empty
  sender := .idle
  deadlineLoop := .waiting none
  deadlinesChanged := false
  jobs := []
  finished := []

variable (timing : WorkerTiming) (relay : AcknowledgingRelay)

/-- The monotonic clock. -/
def monotonic : Seconds := relay.now / 1000000

def submit (job : DatabaseJob) : AcknowledgingRelay := { relay with jobs := relay.jobs ++ [job] }

/-- `register_sent_packet`, up to its await. -/
def registerSentPacket (recordedOutcome : RecordedSendOutcome) : AcknowledgingRelay :=
  let (tracker, earlyAcknowledgement) :=
    relay.tracker.registerSentPacket timing recordedOutcome relay.monotonic
  let relay :=
    { relay with
      tracker
      deadlinesChanged :=
        relay.deadlinesChanged ||
          recordedOutcome.awaitsAcknowledgement &&
            recordedOutcome.acknowledgementDeadlineAt.isSome }
  match earlyAcknowledgement with
  | none => { relay with sender := .idle }
  | some acknowledgement =>
      submit { relay with sender := .acknowledging }
        (.recordNodeAcknowledgement true acknowledgement relay.now)

/-- `handle_node_acknowledgement`, after its await. -/
def finishNodeAcknowledgement (isEarly : Bool) (acknowledgement : NodeAcknowledgement)
    (acknowledgedPackets : List AcknowledgedPacket) : AcknowledgingRelay :=
  { relay with
    tracker := relay.tracker.finishNodeAcknowledgement timing acknowledgement acknowledgedPackets
      relay.monotonic
    deadlinesChanged := relay.deadlinesChanged || acknowledgedPackets ≠ []
    sender := if isEarly then .idle else relay.sender }

/-- The passed deadlines that are still to be handled; after the last one the loop waits. -/
def handlePassedDeadlines : List AwaitedPacket → AcknowledgingRelay
  | [] => { relay with deadlineLoop := .waiting relay.tracker.findNextDeadline }
  | awaited :: rest =>
      submit { relay with deadlineLoop := .recording rest }
        (.recordAcknowledgementDeadlinePassed awaited.packetId relay.now)

/-- The reply's route is settled at once, the others before the next packet to the contact. -/
def needsSettlement (isRunning : Bool) (timeout : AcknowledgementTimeout) : Bool :=
  timeout.contactId.isSome && timeout.routeResetPending && timeout.purpose = .reply && isRunning

/-- `_handle_passed_deadline`, after its first await. -/
def finishPassedDeadline (isRunning : Bool) (packetId : ℕ)
    (acknowledgementTimeout : Option AcknowledgementTimeout) : AcknowledgingRelay :=
  let relay := { relay with tracker := relay.tracker.finishPassedDeadline packetId }
  match relay.deadlineLoop with
  | .recording rest =>
      if acknowledgementTimeout.any (needsSettlement isRunning) then
        { relay with deadlineLoop := .settling rest }
      else relay.handlePassedDeadlines rest
  | _ => relay

/-- The first caller whose call ran continues. -/
def continueFirst (isRunning : Bool) : FinishedJob → AcknowledgingRelay
  | .sendOutcome none => { relay with sender := .idle }
  | .sendOutcome (some recordedOutcome) => relay.registerSentPacket timing recordedOutcome
  | .nodeAcknowledgement isEarly acknowledgement acknowledgedPackets =>
      relay.finishNodeAcknowledgement timing isEarly acknowledgement acknowledgedPackets
  | .deadlinePassed packetId acknowledgementTimeout =>
      relay.finishPassedDeadline isRunning packetId acknowledgementTimeout

end AcknowledgingRelay

/-- What happens between two awaits. -/
inductive AcknowledgingEvent
  | timePasses (microseconds : ℕ)
  /-- Any other transaction commits; packets are prepared by one. -/
  | transaction (db : Db)
  /-- The sender gives a prepared packet to the node. -/
  | packetHanded (packetId : ℕ)
  /-- The node's answer, or the error in its place. -/
  | packetAnswered (settings : RelaySettings) (outcome : NodeSendOutcome)
  | acknowledgementPushed (acknowledgement : NodeAcknowledgement)
  | jobRuns
  /-- The relay mode counts for the deadline of a reply. -/
  | callerContinues (isRunning : Bool)
  | deadlineLoopWakes
  | settlementEnds

/-- The packet a step registered, and when. -/
abbrev RegisteredPacket := Option (ℕ × Time)

open AcknowledgingRelay

/-- One event; what cannot happen yet changes nothing. -/
def acknowledgingStep (timing : WorkerTiming) (relay : AcknowledgingRelay) :
    AcknowledgingEvent → AcknowledgingRelay × RegisteredPacket
  | .timePasses microseconds => ({ relay with now := relay.now + microseconds }, none)
  | .transaction db =>
      if KeepsAcknowledgements relay.db.packets db.packets then ({ relay with db }, none)
      else (relay, none)
  | .packetHanded packetId =>
      if relay.sender = .idle ∧
          (relay.db.packets.get? packetId).any fun packet => packet.state = .prepared then
        ({ relay with sender := .handed packetId }, none)
      else (relay, none)
  | .packetAnswered settings outcome =>
      match relay.sender with
      | .handed packetId =>
          (submit { relay with sender := .recording packetId }
            (.recordSendOutcome settings packetId outcome relay.now), none)
      | _ => (relay, none)
  | .acknowledgementPushed acknowledgement =>
      (relay.submit (.recordNodeAcknowledgement false acknowledgement relay.now), none)
  | .jobRuns =>
      match relay.jobs with
      | [] => (relay, none)
      | job :: jobs =>
          let (db, finishedJob) := job.run relay.db
          ({ relay with db, jobs, finished := relay.finished ++ [finishedJob] }, none)
  | .callerContinues isRunning =>
      match relay.finished with
      | [] => (relay, none)
      | finishedJob :: finished =>
          (continueFirst timing { relay with finished } isRunning finishedJob,
            match finishedJob with
            | .sendOutcome (some recordedOutcome) => some (recordedOutcome.packetId, relay.now)
            | _ => none)
  | .deadlineLoopWakes =>
      match relay.deadlineLoop with
      | .waiting wakesAt =>
          if relay.deadlinesChanged ∨ wakesAt.any (· ≤ relay.now) then
            (handlePassedDeadlines { relay with deadlinesChanged := false }
              (relay.tracker.findPassedPackets relay.now), none)
          else (relay, none)
      | _ => (relay, none)
  | .settlementEnds =>
      match relay.deadlineLoop with
      | .settling rest => (relay.handlePassedDeadlines rest, none)
      | _ => (relay, none)

/-- The worker on one connection, from a database at a time. -/
def acknowledgingRelay (timing : WorkerTiming) (db : Db) (now : Time) :
    Machine AcknowledgingRelay AcknowledgingEvent RegisteredPacket where
  init := .start db now
  step := acknowledgingStep timing

/-- No call is under way. -/
def AcknowledgingRelay.IsAnswered (relay : AcknowledgingRelay) : Prop :=
  relay.jobs = [] ∧ relay.finished = []

/-- Nothing happens any more before time passes. -/
def AcknowledgingRelay.IsQuiescent (relay : AcknowledgingRelay) : Prop :=
  relay.IsAnswered ∧ relay.deadlinesChanged = false ∧
    ∃ wakesAt, relay.deadlineLoop = .waiting wakesAt ∧ ∀ time ∈ wakesAt, relay.now < time

end HoptalkRelay
