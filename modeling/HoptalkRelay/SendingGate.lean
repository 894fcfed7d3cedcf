/-
**The pause of sending.**

The class `SendingGate` of `worker/worker_state.py`, the wait of `worker/node_quiet_period.py`, and
what a block inside a pause does with them: the contact removals of `worker/contact_reconciler.py`
and the restart of `worker/node_command_executor.py`.  A pause takes effect once the sender's lock
was taken after it, and the database decides whether a packet still awaits its acknowledgement.

Main definitions:

* `HoptalkRelay.SendingGate` — the lock of a send step, and the reasons of the pauses;
* `HoptalkRelay.PauseBlock`, `HoptalkRelay.PausePhase` — a block that pauses, and where it is;
* `HoptalkRelay.selectPacketsAwaitingNodeAcknowledgement`,
  `HoptalkRelay.readLatestAcknowledgementDeadline` — what the database is asked;
* `HoptalkRelay.removalWaitSeconds`, `HoptalkRelay.checkQuiet` — the wait.
-/

import HoptalkRelay.OutboundPackets
import HoptalkRelay.ReplyQueue
import HoptalkRelay.Transition.TaskLock

set_option relaxedAutoImplicit false
set_option autoImplicit false

namespace HoptalkRelay

open Relational Transition

/-! ### The delays -/

/-- The delays of `worker/worker_timing.py` that the sender and the pauses use. -/
structure SenderTiming where
  minimumSenderSleepSeconds : Seconds := 1
  maximumSenderSleepSeconds : Seconds := 30
  tableFullBackoffInitialSeconds : Seconds := 5
  tableFullBackoffMaximumSeconds : Seconds := 60
  minimumRemovalQuietWaitSeconds : Seconds := 30
  nodeRestartQuietWaitSeconds : Seconds := 10
  quietPollSeconds : Seconds := 1 / 2
  quietPollSeconds_nonneg : 0 ≤ quietPollSeconds := by norm_num

/-! ### The gate -/

/-- Who takes the lock of a send step. -/
inductive SendingTask
  | sender
  | pauser (pauseId : ℕ)
  deriving DecidableEq, Repr

structure SendingGate where
  sendStepLock : TaskLock SendingTask
  pauseReasons : List Text

namespace SendingGate

def empty : SendingGate := ⟨.free, []⟩

def isPaused (gate : SendingGate) : Bool := gate.pauseReasons ≠ []

def release (gate : SendingGate) : SendingGate :=
  { gate with sendStepLock := gate.sendStepLock.release }

end SendingGate

/-- Where a block that pauses is. -/
inductive PausePhase
  /-- The reason is registered, the lock is waited for. -/
  | waiting
  | paused
  /-- The latest deadline is read. -/
  | readingLatestDeadline (now : Time)
  /-- Before a check, or asleep between two. -/
  | polling (isRemoval : Bool) (monotonicDeadline : Seconds)
  | checking (isRemoval : Bool) (monotonicDeadline : Seconds) (now : Time) (waitHasEnded : Bool)
  /-- A check found no packet. -/
  | quiet
  | removing
  deriving DecidableEq

/-- A block that pauses the sending, from its entry to its end. -/
structure PauseBlock where
  pauseId : ℕ
  reason : Text
  phase : PausePhase
  deriving DecidableEq

/-- The lock was taken after the reason was registered. -/
def PauseBlock.isInside (block : PauseBlock) : Bool := block.phase ≠ .waiting

/-! ### The questions to the database -/

/-- A packet whose acknowledgement may still come. -/
def OutboundPacket.awaitsNodeAcknowledgement (packet : OutboundPacket) (now : Time) : Bool :=
  packet.acknowledgementDeadlineAt.any (now < ·) && packet.acknowledgedAt = none

def selectPacketsAwaitingNodeAcknowledgement (db : Db) (now : Time) : List OutboundPacket :=
  db.packets.filter fun packet => packet.awaitsNodeAcknowledgement now

def isAnyPacketAwaitingNodeAcknowledgement (db : Db) (now : Time) : Bool :=
  db.packets.any fun packet => packet.awaitsNodeAcknowledgement now

def readLatestAcknowledgementDeadline (db : Db) (now : Time) : Option Time :=
  ((selectPacketsAwaitingNodeAcknowledgement db now).filterMap
    OutboundPacket.acknowledgementDeadlineAt).max?

/-! ### The wait -/

/-- The monotonic clock at a time. -/
def monotonicAt (now : Time) : Seconds := now / 1000000

/-- How long a removal waits for the latest deadline that was read. -/
def removalWaitSeconds (timing : SenderTiming) (latestDeadline : Option Time) (now : Time) :
    Seconds :=
  match latestDeadline with
  | none => timing.minimumRemovalQuietWaitSeconds
  | some latestDeadline =>
      max timing.minimumRemovalQuietWaitSeconds
        (monotonicAt (latestDeadline - now) + timing.quietPollSeconds)

/-- One check: quiet, another one later, or none with the end of the wait. -/
def checkQuiet (db : Db) (isShuttingDown isRemoval : Bool) (monotonicDeadline : Seconds)
    (now : Time) (waitHasEnded : Bool) : Option PausePhase :=
  if isAnyPacketAwaitingNodeAcknowledgement db now = false then some .quiet
  else if waitHasEnded ∨ isShuttingDown then none
  else some (.polling isRemoval monotonicDeadline)

end HoptalkRelay
