/-
**The delivery engine as a machine.**

The worker runs one transaction at a time; each is one input of the machine, with the settings in
force, and takes the database from one committed state to the next.  A transaction that raises an
error is rolled back: it leaves the database as it was.

Main definitions:

* `HoptalkRelay.Event` — the transactions of the worker and the deletions of the operator;
* `HoptalkRelay.Outcome` — what a transaction returns;
* `HoptalkRelay.step`, `HoptalkRelay.engine` — the machine;
* `HoptalkRelay.Input.clock?` — the clock reading of a transaction.
-/

import HoptalkRelay.Transition.Run
import HoptalkRelay.Accounts
import HoptalkRelay.Directory
import HoptalkRelay.ReadsAndAcknowledgements
import HoptalkRelay.OutboundPackets

set_option relaxedAutoImplicit false
set_option autoImplicit false

namespace HoptalkRelay

open Relational Transition

/-- One transaction: a request of a device, a step of the sender loop, a change of the contacts,
or a clean-up. -/
inductive Event
  | createContact (relayNodePublicKeys : List Text) (publicKey : Text) (nodeType : ℕ) (now : Time)
  | markContactOnNode (contactId : ℕ) (publicKey : Text) (now : Time)
  | markContactAddFailed (contactId : ℕ) (publicKey syncError : Text) (now : Time)
  | returnContactToPendingAdd (publicKey syncError : Text)
  | recordPathUpdate (publicKey : Text) (now : Time)
  /-- `A`; the salt is what `make_password` draws for a new account. -/
  | account (deviceId : ℕ) (request : AccountRequest) (salt : Text) (now : Time)
  /-- `Q` -/
  | query (deviceId : ℕ) (request : QueryRequest)
  /-- `M` -/
  | messagePart (deviceId : ℕ) (part : MessagePartRequest) (now : Time)
  /-- `K` -/
  | deliveryAcknowledgement (deviceId : ℕ) (acknowledgement : DeliveryAcknowledgement)
      (now : Time)
  /-- `R` -/
  | read (deviceId : ℕ) (request : ReadRequest) (now : Time)
  /-- `C` -/
  | receiptAcknowledgement (deviceId : ℕ) (acknowledgement : ReceiptAcknowledgement) (now : Time)
  /-- `F` -/
  | refresh (deviceId : ℕ) (request : RefreshRequest) (requestedByInboundId : Option ℕ)
      (now : Time)
  | prepareNextPacket (connectionGeneration : ℕ) (now : Time)
  | prepareReplyPacket (contactId : ℕ) (replyKey text : Text) (connectionGeneration : ℕ)
      (now : Time)
  | recordSendOutcome (packetId : ℕ) (outcome : NodeSendOutcome) (now : Time)
  | recordNodeAcknowledgement (acknowledgementCode : Text) (roundTripMilliseconds : Option ℕ)
      (now : Time)
  | recordAcknowledgementDeadlinePassed (packetId : ℕ) (now : Time)
  | markPacketsAwaitingAcknowledgementDropped (now : Time)
  | recoverAtStartup (now : Time)
  | deleteExpiredIncompleteMessages (now : Time)
  | pruneOutboundPackets (now : Time)
  | deleteContact (contactId : ℕ)
  | deleteUser (userId : ℕ)
  deriving DecidableEq

/-- An event and the settings it runs under. -/
structure Input where
  settings : RelaySettings
  event : Event

/-- What a transaction returns. -/
inductive Outcome
  | done
  | failed (serviceError : ServiceError)
  | contactCreated (contactId : ℕ)
  | contactRefused (problems : List ContactAdditionProblem)
  | answered (reply : ServerMessage)
  | partAnswered (outcome : MessagePartOutcome)
  | acknowledged (outcomeSummary : Text)
  | prepared (packetDescriptor : Option PacketDescriptor)
  | sendRecorded (outcome : Option RecordedSendOutcome)
  | nodeAcknowledged (packets : List AcknowledgedPacket)
  | timedOut (timeout : Option AcknowledgementTimeout)
  deriving DecidableEq

/-- A transaction that raises is rolled back. -/
def commit {α : Type} (db : Db) (toOutcome : α → Outcome) :
    Except ServiceError (Db × α) → Db × Outcome
  | .ok (db, result) => (db, toOutcome result)
  | .error serviceError => (db, .failed serviceError)

/-- One transaction. -/
def step (hashing : PasswordHashing) (db : Db) (input : Input) : Db × Outcome :=
  let settings := input.settings
  match input.event with
  | .createContact relayNodePublicKeys publicKey nodeType now =>
      match createContact db relayNodePublicKeys publicKey nodeType now with
      | .ok (db, contactId) => (db, .contactCreated contactId)
      | .error problems => (db, .contactRefused problems)
  | .markContactOnNode contactId publicKey now =>
      (markContactOnNode db contactId publicKey now, .done)
  | .markContactAddFailed contactId publicKey syncError now =>
      (markContactAddFailed db contactId publicKey syncError now, .done)
  | .returnContactToPendingAdd publicKey syncError =>
      (returnContactToPendingAdd db publicKey syncError, .done)
  | .recordPathUpdate publicKey now => (recordPathUpdate db publicKey now, .done)
  | .account deviceId request salt now =>
      commit db (fun outcome => .answered outcome.reply)
        (registerOrSignIn hashing db deviceId request salt now)
  | .query deviceId request => (db, .answered (userExists db deviceId request))
  | .messagePart deviceId part now =>
      commit db .partAnswered (acceptMessagePart settings db deviceId part now)
  | .deliveryAcknowledgement deviceId acknowledgement now =>
      commit db (fun summary => .acknowledged summary.toList)
        (recordDeliveryAcknowledgement settings db deviceId acknowledgement now)
  | .read deviceId request now =>
      match recordRead settings db deviceId request now with
      | (db, outcome) => (db, .answered outcome.reply)
  | .receiptAcknowledgement deviceId acknowledgement now =>
      match recordReceiptAcknowledgement db deviceId acknowledgement now with
      | (db, summary) => (db, .acknowledged summary.toList)
  | .refresh deviceId request requestedByInboundId now =>
      commit db .answered (startRefresh settings db deviceId request requestedByInboundId now)
  | .prepareNextPacket connectionGeneration now =>
      commit db .prepared (prepareNextPacket settings db now connectionGeneration)
  | .prepareReplyPacket contactId replyKey text connectionGeneration now =>
      commit db .prepared
        (prepareReplyPacket db contactId replyKey text now connectionGeneration)
  | .recordSendOutcome packetId outcome now =>
      match recordSendOutcome settings db packetId outcome now with
      | (db, recorded) => (db, .sendRecorded recorded)
  | .recordNodeAcknowledgement acknowledgementCode roundTripMilliseconds now =>
      match recordNodeAcknowledgement db acknowledgementCode roundTripMilliseconds now with
      | (db, packets) => (db, .nodeAcknowledged packets)
  | .recordAcknowledgementDeadlinePassed packetId now =>
      match recordAcknowledgementDeadlinePassed db packetId now with
      | (db, timeout) => (db, .timedOut timeout)
  | .markPacketsAwaitingAcknowledgementDropped now =>
      (markPacketsAwaitingAcknowledgementDropped db now, .done)
  | .recoverAtStartup now => (recoverOutboundPacketsAtStartup db now, .done)
  | .deleteExpiredIncompleteMessages now => (deleteExpiredIncompleteMessages db now, .done)
  | .pruneOutboundPackets now => (pruneOutboundPackets settings db now, .done)
  | .deleteContact contactId => (deleteContact db contactId, .done)
  | .deleteUser userId => (deleteUser db userId, .done)

/-- The delivery engine, from the empty database. -/
def engine (hashing : PasswordHashing) : Machine Db Input Outcome where
  init := Db.empty
  step := step hashing

/-- The clock reading of a transaction; the operator's deletions and the two changes without a
timestamp read no clock. -/
def Event.clock? : Event → Option Time
  | .createContact _ _ _ now | .markContactOnNode _ _ now | .markContactAddFailed _ _ _ now
  | .recordPathUpdate _ now | .account _ _ _ now | .messagePart _ _ now
  | .deliveryAcknowledgement _ _ now | .read _ _ now | .receiptAcknowledgement _ _ now
  | .refresh _ _ _ now | .prepareNextPacket _ now | .prepareReplyPacket _ _ _ _ now
  | .recordSendOutcome _ _ now | .recordNodeAcknowledgement _ _ now
  | .recordAcknowledgementDeadlinePassed _ now | .markPacketsAwaitingAcknowledgementDropped now
  | .recoverAtStartup now | .deleteExpiredIncompleteMessages now
  | .pruneOutboundPackets now => some now
  | .returnContactToPendingAdd _ _ | .query _ _ | .deleteContact _ | .deleteUser _ => none

end HoptalkRelay
