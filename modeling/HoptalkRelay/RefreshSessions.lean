/-
**Refresh sessions: a peer's missed messages again, oldest first, one message at a time.**

The functions of `messaging/refresh_sessions.py`.  A session owns the deliveries it re-sends;
exactly one of them, the head, is pending at a time, in acceptance order.  A delivered head hands
the session to its next message, an exhausted head stops it, and a repeated request restarts the
head.

A locking query that neither finds nor changes anything has no counterpart here: a transaction of
the model runs alone, as the locks of the source make it run.

Main definitions:

* `HoptalkRelay.startRefresh` — the `F` request;
* `HoptalkRelay.selectDeliveriesARefreshTakesOver`, `HoptalkRelay.selectMessagesNoDeviceReceived`
  — the scope of a refresh;
* `HoptalkRelay.refreshPeer` — one peer's session, started or restarted;
* `HoptalkRelay.armNextRefreshSessionHead`, `HoptalkRelay.completeRefreshSession`,
  `HoptalkRelay.stopRefreshSession`, `HoptalkRelay.cancelDeviceRefreshSessionsForRelink` — the
  session's life.
-/

import HoptalkRelay.Deliveries
import HoptalkRelay.Receipts
import Mathlib.Data.Int.ConditionallyCompleteOrder
import Mathlib.Data.Prod.Lex
import Mathlib.Tactic.Simps.Basic
import Mathlib.Order.WithBot

set_option relaxedAutoImplicit false
set_option autoImplicit false

namespace HoptalkRelay

open Relational

def outstandingDeliveryStates : List DeliveryState := [.pending, .queuedForRefresh]

/-- What one `F` did for one peer. -/
structure PeerRefresh where
  messageCount : ℕ
  startedNewSession : Bool
  deriving DecidableEq, Repr

/-! ### Queries -/

/-- The device's active session with the peer. -/
def findActiveSession (db : Db) (deviceId peerId : ℕ) : Option RefreshSession :=
  db.sessions.first? fun session =>
    session.deviceId = deviceId && session.peerId = peerId && session.state = .active

/-- The states of the deliveries a refresh takes over. -/
def isTakenOverByARefresh (delivery : MessageDelivery) : Bool :=
  delivery.state = .failed || delivery.state = .cancelled ||
    (delivery.state = .pending && delivery.refreshSessionId = none)

/-- The device's failed, relink-cancelled and not yet owned pending deliveries of accepted messages
to the user. -/
def selectDeliveriesARefreshTakesOver (db : Db) (deviceId userId : ℕ) : List MessageDelivery :=
  db.deliveries.filter fun delivery =>
    isTakenOverByARefresh delivery && delivery.deviceId = deviceId &&
      (db.messages.get? delivery.messageId).any fun message =>
        message.recipientId = userId && message.acceptedAt.isSome

/-- Accepted messages to the user that no device received and that have no delivery row for this
device. -/
def selectMessagesNoDeviceReceived (db : Db) (deviceId userId : ℕ) : List Message :=
  db.messages.filter fun message =>
    message.recipientId = userId && message.acceptedAt.isSome && message.deliveredAt = none &&
      !db.deliveries.any fun delivery =>
        delivery.messageId = message.id && delivery.deviceId = deviceId

/-- The sender of a delivery's message. -/
def deliverySenderId (db : Db) (delivery : MessageDelivery) : Option ℕ :=
  (db.messages.get? delivery.messageId).map Message.senderId

/-- For `F *`: every sender of a message in the refresh scope, and every peer of an active
session. -/
def findPeerIdsWithMissedMessages (db : Db) (deviceId userId : ℕ) : List ℕ :=
  let sendersOfTakenOverDeliveries :=
    (selectDeliveriesARefreshTakesOver db deviceId userId).filterMap (deliverySenderId db)
  let sendersOfMissedMessages :=
    (selectMessagesNoDeviceReceived db deviceId userId).map Message.senderId
  let peersOfActiveSessions :=
    (db.sessions.filter fun session => session.deviceId = deviceId && session.state = .active).map
      RefreshSession.peerId
  let peerIds :=
    (sendersOfTakenOverDeliveries ++ sendersOfMissedMessages ++ peersOfActiveSessions).dedup
  orderBy id (peerIds.filter (· ≠ userId))

/-- The session whose head this delivery is, or none when it is not a head of an active session. -/
def findActiveRefreshSessionId (db : Db) (delivery : MessageDelivery) : Option ℕ :=
  match delivery.refreshSessionId with
  | none => none
  | some refreshSessionId =>
      if (db.sessions.get? refreshSessionId).any fun session => session.state = .active then
        some refreshSessionId
      else none

def countOutstandingDeliveries (db : Db) (refreshSessionId : ℕ) : ℕ :=
  db.deliveries.count fun delivery =>
    delivery.refreshSessionId = some refreshSessionId &&
      outstandingDeliveryStates.contains delivery.state

/-! ### The session's head -/

/-- Acceptance order, as the database sorts it: the acceptance time of the message, then its id;
a message that is not accepted would come last. -/
def acceptanceOrder (db : Db) (delivery : MessageDelivery) : WithTop Time ×ₗ ℕ :=
  toLex ((db.messages.get? delivery.messageId).bind Message.acceptedAt, delivery.messageId)

/-- The owned queued delivery whose message comes first in acceptance order becomes the head. -/
def armNextRefreshSessionHead (settings : RelaySettings) (db : Db) (refreshSessionId : ℕ)
    (now : Time) : Db × Option MessageDelivery :=
  let queuedDeliveries := db.deliveries.filter fun delivery =>
    delivery.refreshSessionId = some refreshSessionId && delivery.state = .queuedForRefresh
  match firstBy? (acceptanceOrder db) queuedDeliveries with
  | none => (db, none)
  | some nextHead =>
      match armRefreshSessionHead settings db nextHead now with
      | (db, nextHead, _) => (db, some nextHead)

def restartActiveSessionHead (settings : RelaySettings) (db : Db) (refreshSessionId : ℕ)
    (now : Time) : Db :=
  match db.deliveries.first? fun delivery =>
      delivery.refreshSessionId = some refreshSessionId && delivery.state = .pending with
  | none => db
  | some head => (restartRefreshSessionHead settings db head now).1

/-! ### The session's end -/

/-- Update the sessions that satisfy a condition. -/
def finishRefreshSessions (db : Db) (p : RefreshSession → Bool) (state : RefreshSessionState)
    (now : Time) : Db :=
  { db with
    sessions := db.sessions.updateWhere p fun row =>
      { row with state := state, finishedAt := some now } }

def completeRefreshSession (db : Db) (refreshSessionId : ℕ) (now : Time) : Db :=
  finishRefreshSessions db (fun row => row.id = refreshSessionId && row.state = .active)
    .completed now

/-- The head was given up: the messages queued behind it fail unsent. -/
def stopRefreshSession (db : Db) (refreshSessionId : ℕ) (now : Time) : Db :=
  let queuedDeliveries := db.deliveries.filter fun delivery =>
    delivery.refreshSessionId = some refreshSessionId && delivery.state = .queuedForRefresh
  let db := queuedDeliveries.foldl (fun db queuedDelivery =>
    (failDeliveryOfStoppedRefresh db queuedDelivery now).1) db
  finishRefreshSessions db (fun row => row.id = refreshSessionId && row.state = .active)
    .stopped now

/-- The device's deliveries are already cancelled; its active sessions end with them. -/
def cancelDeviceRefreshSessionsForRelink (db : Db) (deviceId : ℕ) (now : Time) : Db :=
  finishRefreshSessions db (fun row => row.deviceId = deviceId && row.state = .active)
    .cancelled now

/-! ### The request -/

/-- A session of the device with the peer. -/
@[simps]
def newSession (deviceId peerId : ℕ) (isForAllPeers : Bool) (requestedByInboundId : Option ℕ)
    (messagesTotal : ℕ) (now : Time) (id : ℕ) : RefreshSession :=
  { id, deviceId, peerId
    state := .active
    requestedAt := now
    requestedForAllPeers := isForAllPeers
    messagesTotal, requestedByInboundId }

def createRefreshSession (db : Db) (deviceId peerId : ℕ) (isForAllPeers : Bool)
    (requestedByInboundId : Option ℕ) (messagesTotal : ℕ) (now : Time) : Db :=
  { db with
    sessions := db.sessions.insert
      (newSession deviceId peerId isForAllPeers requestedByInboundId messagesTotal now)
      fun _ => rfl }

/-- Start the device's session with the peer: it owns the scope, and its first message is the
head. -/
def startPeerSession (settings : RelaySettings) (db : Db) (deviceId peerId : ℕ)
    (isForAllPeers : Bool) (requestedByInboundId : Option ℕ)
    (deliveriesTakenOver : List MessageDelivery) (missedMessageIds : List ℕ) (now : Time) : Db :=
  let refreshSessionId := db.sessions.nextKey
  let db := createRefreshSession db deviceId peerId isForAllPeers requestedByInboundId
    (deliveriesTakenOver.length + missedMessageIds.length) now
  let db := deliveriesTakenOver.foldl (fun db delivery =>
    (takeDeliveryIntoRefreshSession db delivery refreshSessionId).1) db
  let db := missedMessageIds.foldl (fun db messageId =>
    createRefreshOwnedDelivery settings db messageId deviceId refreshSessionId now) db
  (armNextRefreshSessionHead settings db refreshSessionId now).1

/-- The deliveries of the peer's messages in the refresh scope. -/
def selectDeliveriesOfPeer (db : Db) (deviceId userId peerId : ℕ) : List MessageDelivery :=
  (selectDeliveriesARefreshTakesOver db deviceId userId).filter fun delivery =>
    deliverySenderId db delivery = some peerId

/-- The peer's messages in the refresh scope without a delivery to the device. -/
def selectMissedMessageIdsOfPeer (db : Db) (deviceId userId peerId : ℕ) : List ℕ :=
  ((selectMessagesNoDeviceReceived db deviceId userId).filter fun message =>
    message.senderId = peerId).map Message.id

def refreshPeer (settings : RelaySettings) (db : Db) (deviceId userId peerId : ℕ)
    (isForAllPeers : Bool) (requestedByInboundId : Option ℕ) (now : Time) : Db × PeerRefresh :=
  match findActiveSession db deviceId peerId with
  | some activeSession =>
      let db := restartActiveSessionHead settings db activeSession.id now
      (db, ⟨countOutstandingDeliveries db activeSession.id, false⟩)
  | none =>
      let deliveriesTakenOver := selectDeliveriesOfPeer db deviceId userId peerId
      let missedMessageIds := selectMissedMessageIdsOfPeer db deviceId userId peerId
      let scopeSize := deliveriesTakenOver.length + missedMessageIds.length
      if scopeSize = 0 then (db, ⟨0, false⟩)
      else
        (startPeerSession settings db deviceId peerId isForAllPeers requestedByInboundId
            deliveriesTakenOver missedMessageIds now,
          ⟨scopeSize, true⟩)

/-- Refresh one peer after the other. -/
def refreshPeers (settings : RelaySettings) (deviceId userId : ℕ) (isForAllPeers : Bool)
    (requestedByInboundId : Option ℕ) (now : Time) (db : Db) : List ℕ → Db × List PeerRefresh
  | [] => (db, [])
  | peerId :: peerIds =>
      match refreshPeer settings db deviceId userId peerId isForAllPeers requestedByInboundId now
        with
      | (db, peerRefresh) =>
          match refreshPeers settings deviceId userId isForAllPeers requestedByInboundId now db
              peerIds with
          | (db, peerRefreshes) => (db, peerRefresh :: peerRefreshes)

/-- The user and the peers that still exist, in id order; the transaction starts over when the
device changed its user. -/
def lockUsersThenDevice (db : Db) (deviceUserId : ℕ) (peerIds : List ℕ) (deviceId : ℕ) :
    Except ServiceError (List User) :=
  let lockedUsers := db.users.filter fun user => (deviceUserId :: peerIds).contains user.id
  if lockedUsers.any (fun user => user.id = deviceUserId) &&
      db.deviceUserId deviceId = some deviceUserId then .ok lockedUsers
  else .error .lockedRowChanged

/-- Answers `f <peer> <count>` or `f * <total>`, or `NOT_SIGNED_IN`, `NO_SUCH_USER` or `SELF`. -/
def startRefresh (settings : RelaySettings) (db : Db) (deviceId : ℕ) (request : RefreshRequest)
    (requestedByInboundId : Option ℕ) (now : Time) : Except ServiceError (Db × ServerMessage) :=
  let refuse (errorCode : ErrorCode) : Except ServiceError (Db × ServerMessage) :=
    .ok (db, buildRequestErrorReply errorCode (.refresh request))
  match db.deviceUserId deviceId with
  | none => refuse .notSignedIn
  | some deviceUserId =>
      if request.isForAllPeers then do
        let peerIds := findPeerIdsWithMissedMessages db deviceId deviceUserId
        let lockedUsers ← lockUsersThenDevice db deviceUserId peerIds deviceId
        let lockedPeerIds := peerIds.filter fun peerId =>
          lockedUsers.any fun user => user.id = peerId
        let (db, peerRefreshes) := refreshPeers settings deviceId deviceUserId true
          requestedByInboundId now db lockedPeerIds
        return (db, .refreshReply request.refreshTarget
          (peerRefreshes.map PeerRefresh.messageCount).sum)
      else
        match db.userByLookup (normalizeUsernameForLookup request.refreshTarget) with
        | none => refuse .noSuchUser
        | some peer =>
            if peer.id = deviceUserId then refuse .self
            else do
              let lockedUsers ← lockUsersThenDevice db deviceUserId [peer.id] deviceId
              match lockedUsers.find? fun user => user.id = peer.id with
              | none => refuse .noSuchUser
              | some lockedPeer =>
                  let db := rearmReceiptsForRefresh settings db deviceId deviceUserId
                    lockedPeer.id now
                  let (db, peerRefreshes) := refreshPeers settings deviceId deviceUserId false
                    requestedByInboundId now db [lockedPeer.id]
                  return (db, .refreshReply lockedPeer.username.val
                    (peerRefreshes.map PeerRefresh.messageCount).sum)

end HoptalkRelay
