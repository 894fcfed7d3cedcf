/-
**Firmware acknowledgements in the worker.**

The class of `worker/acknowledgement_tracker.py`.  What it keeps in memory are the packets that
await an acknowledgement and the codes that matched no packet yet; its coroutines are cut at their
awaits, so each definition is what happens between two of them.  A settlement holds the lock from
its first transaction to its end.

Main definitions:

* `HoptalkRelay.AcknowledgementTracker` — the awaited packets and the unmatched codes;
* `HoptalkRelay.AcknowledgementTracker.registerSentPacket`,
  `HoptalkRelay.AcknowledgementTracker.finishNodeAcknowledgement`,
  `HoptalkRelay.AcknowledgementTracker.findPassedPackets` — between the awaits;
* `HoptalkRelay.SettlementPhase`, `HoptalkRelay.settlingStep` — settlements under the lock.
-/

import HoptalkRelay.ReplyQueue
import HoptalkRelay.RouteResetEvidence
import HoptalkRelay.Transition.Run

set_option relaxedAutoImplicit false
set_option autoImplicit false

namespace HoptalkRelay

open Relational Transition

/-! ### The tracker's memory -/

structure AwaitedPacket where
  packetId : ℕ
  contactId : Option ℕ
  purpose : PacketPurpose
  expectedAcknowledgementCode : Text
  deadline : Time
  deriving DecidableEq

structure UnmatchedAcknowledgement where
  roundTripMilliseconds : Option ℕ
  /-- The worker clock's monotonic seconds. -/
  receivedAt : Seconds
  deriving DecidableEq

/-- A push of the node: the four bytes of the code in lower-case hex. -/
structure NodeAcknowledgement where
  code : Text
  roundTripMilliseconds : Option ℕ
  deriving DecidableEq

structure AcknowledgementTracker where
  awaitedPackets : AList fun _ : ℕ => AwaitedPacket
  unmatchedAcknowledgements : AList fun _ : Text => UnmatchedAcknowledgement

namespace AcknowledgementTracker

/-- The tracker of a worker that just started. -/
def empty : AcknowledgementTracker := ⟨∅, ∅⟩

def countPacketsAwaitingAcknowledgement (tracker : AcknowledgementTracker) : ℕ :=
  tracker.awaitedPackets.entries.length

/-- The link is gone: the database marks the packets dropped. -/
def forgetPacketsAwaitingAcknowledgement (tracker : AcknowledgementTracker) :
    AcknowledgementTracker :=
  { tracker with awaitedPackets := ∅ }

def forgetOldUnmatchedAcknowledgements (timing : WorkerTiming) (tracker : AcknowledgementTracker)
    (now : Seconds) : AcknowledgementTracker :=
  let oldCodes := (tracker.unmatchedAcknowledgements.entries.filter fun entry =>
    timing.unmatchedAcknowledgementLifetimeSeconds ≤ now - entry.2.receivedAt).map Sigma.fst
  { tracker with
    unmatchedAcknowledgements := oldCodes.foldl (fun unmatched code => unmatched.erase code)
      tracker.unmatchedAcknowledgements }

def takeUnmatchedAcknowledgement (timing : WorkerTiming) (tracker : AcknowledgementTracker)
    (code : Text) (now : Seconds) : AcknowledgementTracker × Option UnmatchedAcknowledgement :=
  let tracker := tracker.forgetOldUnmatchedAcknowledgements timing now
  ({ tracker with unmatchedAcknowledgements := tracker.unmatchedAcknowledgements.erase code },
    tracker.unmatchedAcknowledgements.lookup code)

/-- A recorded outcome: a queued packet is awaited, and a push that came before its outcome was
recorded is to be matched again. -/
def registerSentPacket (timing : WorkerTiming) (tracker : AcknowledgementTracker)
    (recordedOutcome : RecordedSendOutcome) (now : Seconds) :
    AcknowledgementTracker × Option NodeAcknowledgement :=
  match recordedOutcome.acknowledgementDeadlineAt with
  | none => (tracker, none)
  | some deadline =>
      if recordedOutcome.packetState ≠ .queuedOnNode then (tracker, none)
      else
        let code := recordedOutcome.expectedAcknowledgementCode
        let tracker :=
          { tracker with
            awaitedPackets := tracker.awaitedPackets.insert recordedOutcome.packetId
              { packetId := recordedOutcome.packetId
                contactId := recordedOutcome.contactId
                purpose := recordedOutcome.purpose
                expectedAcknowledgementCode := code
                deadline } }
        let (tracker, earlyAcknowledgement) :=
          tracker.takeUnmatchedAcknowledgement timing code now
        (tracker, earlyAcknowledgement.map fun unmatched =>
          ⟨code, unmatched.roundTripMilliseconds⟩)

/-- A push whose code was looked up in the database: its packets are not awaited any more, or the
code is kept. -/
def finishNodeAcknowledgement (timing : WorkerTiming) (tracker : AcknowledgementTracker)
    (acknowledgement : NodeAcknowledgement) (acknowledgedPackets : List AcknowledgedPacket)
    (now : Seconds) : AcknowledgementTracker :=
  if acknowledgedPackets = [] then
    let tracker := tracker.forgetOldUnmatchedAcknowledgements timing now
    { tracker with
      unmatchedAcknowledgements := tracker.unmatchedAcknowledgements.insert acknowledgement.code
        ⟨acknowledgement.roundTripMilliseconds, now⟩ }
  else
    { tracker with
      awaitedPackets := acknowledgedPackets.foldl
        (fun awaited acknowledged => awaited.erase acknowledged.packetId)
        tracker.awaitedPackets }

/-- The packets whose deadline passed, in the order they are handled. -/
def findPassedPackets (tracker : AcknowledgementTracker) (now : Time) : List AwaitedPacket :=
  orderBy AwaitedPacket.deadline
    ((tracker.awaitedPackets.entries.map Sigma.snd).filter fun awaited => awaited.deadline ≤ now)

/-- A deadline that was recorded: the packet is not awaited any more. -/
def finishPassedDeadline (tracker : AcknowledgementTracker) (packetId : ℕ) :
    AcknowledgementTracker :=
  { tracker with awaitedPackets := tracker.awaitedPackets.erase packetId }

/-- When the next deadline passes. -/
def findNextDeadline (tracker : AcknowledgementTracker) : Option Time :=
  ((tracker.awaitedPackets.entries.map Sigma.snd).map AwaitedPacket.deadline).min?

end AcknowledgementTracker

/-! ### Settlements -/

/-- Where a settlement is: the contact's key is looked up, the node resets the route, the reset is
recorded, and the replies are about to be queued again. -/
inductive SettlementPhase
  | decided (settlement : RouteResetSettlement) (publicKey : Option Text)
  | resetting (settlement : RouteResetSettlement)
  | recording (settlement : RouteResetSettlement)
  | recorded (settlement : RouteResetSettlement)
  deriving DecidableEq

def SettlementPhase.settlement : SettlementPhase → RouteResetSettlement
  | .decided settlement _ | .resetting settlement | .recording settlement
  | .recorded settlement => settlement

/-- What settlements work on; the lock is held by the settlement there is. -/
structure SettlingRelay where
  state : RelayDb
  replyQueue : ReplyQueue
  settlement : Option SettlementPhase

/-- What happens between two awaits. -/
inductive SettlingEvent
  /-- Any other transaction commits. -/
  | transaction (input : Input)
  | inboxChanged (inbox : Table InboundDirectMessage)
  | replyQueueChanged (replyQueue : ReplyQueue)
  /-- A settlement takes the lock and its first transaction commits. -/
  | settleRouteResets (settings : RelaySettings) (contactId : ℕ) (publicKey : Option Text)
      (now : Time)
  | readContactPublicKey
  /-- The node's answer to the reset. -/
  | resetPath (succeeded : Bool)
  | recordRouteResetPerformed (now : Time)
  | queueFloodResends (timing : WorkerTiming) (now : Seconds)
  /-- The transaction that is waited for failed, and the settlement with it. -/
  | transactionFailed
  /-- The process ends and starts again. -/
  | restarted (now : Time)

/-- What a settlement did for which packets. -/
inductive SettlingOutcome
  | nothing
  | routeReset (packetIds : List ℕ)
  | resetRecorded (packetIds : List ℕ)
  | repliesQueued (packetIds : List ℕ)
  /-- The route was reset, but that could not be recorded. -/
  | resetNotRecorded
  deriving DecidableEq, Repr

/-- The replies that are sent again, unless the queue has a newer one. -/
def queueFloodResends (timing : WorkerTiming) (now : Seconds) :
    ReplyQueue → List ReplyResendCandidate → ReplyQueue × List ℕ
  | queue, [] => (queue, [])
  | queue, reply :: replies =>
      if queue.hasReplyFor reply.contactId reply.replyKey then
        queueFloodResends timing now queue replies
      else
        let (queue, packetIds) := queueFloodResends timing now
          (queue.addFloodResend timing reply.contactId reply.replyKey reply.text now).1 replies
        (queue, reply.packetId :: packetIds)

/-- One event; a settlement that cannot take the lock waits. -/
def settlingStep (hashing : PasswordHashing) (relay : SettlingRelay) (event : SettlingEvent) :
    SettlingRelay × SettlingOutcome :=
  match event, relay.settlement with
  | .transaction input, _ =>
      ({ relay with state.db := (step hashing relay.state.db input).1 }, .nothing)
  | .inboxChanged inbox, _ => ({ relay with state.inbox := inbox }, .nothing)
  | .replyQueueChanged replyQueue, _ => ({ relay with replyQueue }, .nothing)
  | .settleRouteResets settings contactId publicKey now, none =>
      let (state, settlement) := settlePendingRouteResets settings relay.state contactId now
      ({ relay with
          state
          settlement :=
            if settlement.needsReset then some (.decided settlement publicKey) else none },
        .nothing)
  | .readContactPublicKey, some (.decided settlement publicKey) =>
      let isKeyKnown : Bool := publicKey.any (· ≠ []) ||
        (relay.state.db.contacts.get? settlement.contactId).isSome
      ({ relay with settlement := if isKeyKnown then some (.resetting settlement) else none },
        .nothing)
  | .resetPath succeeded, some (.resetting settlement) =>
      if succeeded then
        ({ relay with settlement := some (.recording settlement) },
          .routeReset settlement.packetIdsNeedingReset)
      else ({ relay with settlement := none }, .nothing)
  | .recordRouteResetPerformed now, some (.recording settlement) =>
      ({ relay with
          state.db :=
            (recordRouteResetPerformed relay.state.db settlement.packetIdsNeedingReset now).1
          settlement := some (.recorded settlement) },
        .resetRecorded settlement.packetIdsNeedingReset)
  | .queueFloodResends timing now, some (.recorded settlement) =>
      let (replyQueue, packetIds) :=
        queueFloodResends timing now relay.replyQueue settlement.repliesToResend
      ({ relay with replyQueue, settlement := none }, .repliesQueued packetIds)
  | .transactionFailed, some (.recording _) =>
      ({ relay with settlement := none }, .resetNotRecorded)
  | .transactionFailed, some (.decided _ _) | .transactionFailed, some (.recorded _) =>
      ({ relay with settlement := none }, .nothing)
  | .restarted now, _ =>
      ({ state := { relay.state with db := recoverOutboundPacketsAtStartup relay.state.db now }
         replyQueue := .empty
         settlement := none },
        .nothing)
  | _, _ => (relay, .nothing)

/-- The relay as its settlements see it. -/
def settlingRelay (hashing : PasswordHashing) :
    Machine SettlingRelay SettlingEvent SettlingOutcome where
  init := ⟨⟨Db.empty, Table.empty⟩, .empty, none⟩
  step := settlingStep hashing

end HoptalkRelay
