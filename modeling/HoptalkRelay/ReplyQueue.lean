/-
**Replies waiting for the sender loop.**

The class of `worker/reply_queue.py`, kept in memory: one reply per contact and request.  A newer
reply to a request replaces the older one, an incomplete send status waits for more parts, every
reply expires, and a text equal to one sent to the same contact shortly before is dropped.  Times
are the worker clock's monotonic seconds.

Main definitions:

* `HoptalkRelay.PendingReply`, `HoptalkRelay.ReplyQueue` — a reply, and the queue;
* `HoptalkRelay.ReplyQueue.addReply`, `HoptalkRelay.ReplyQueue.addFloodResend`,
  `HoptalkRelay.ReplyQueue.putBack` — what comes in;
* `HoptalkRelay.ReplyQueue.takeNextReadyReply`, `HoptalkRelay.ReplyQueue.recordReplySent` — what
  goes out;
* `HoptalkRelay.ReplyQueue.nextReadyTime`,
  `HoptalkRelay.ReplyQueue.dropRepliesToContactsOtherThan` — what the loops around it ask for.
-/

import HoptalkRelay.RequestProcessing
import Mathlib.Data.List.AList

set_option relaxedAutoImplicit false
set_option autoImplicit false

namespace HoptalkRelay

open Relational

/-- A reading of the worker clock, or a number of seconds. -/
abbrev Seconds := ℚ

/-- The delays of the worker that the modelled classes use, with the production values. -/
structure WorkerTiming where
  incompleteStatusCoalescingSeconds : Seconds := 5
  replyLifetimeSeconds : Seconds := 60
  identicalReplySuppressionSeconds : Seconds := 10
  /-- How long an ACK that matched no packet is kept. -/
  unmatchedAcknowledgementLifetimeSeconds : Seconds := 60

/-- The contact and the answered request's key. -/
abbrev ReplyIdentity := ℕ × Text

structure PendingReply where
  contactId : ℕ
  replyKey : Text
  text : Text
  readyAt : Seconds
  createdAt : Seconds
  expiresAt : Seconds
  /-- Breaks ties between replies that became ready at the same time. -/
  sequenceNumber : ℕ
  bypassesIdenticalReplySuppression : Bool := false
  deriving DecidableEq

def PendingReply.identity (reply : PendingReply) : ReplyIdentity :=
  (reply.contactId, reply.replyKey)

def orderByReadiness (reply : PendingReply) : Seconds ×ₗ ℕ :=
  toLex (reply.readyAt, reply.sequenceNumber)

/-- The pending replies under their identities, and when which text was sent to whom. -/
structure ReplyQueue where
  pendingReplies : AList fun _ : ReplyIdentity => PendingReply
  /-- Every reply is filed under its own identity. -/
  filed : ∀ identity reply, pendingReplies.lookup identity = some reply →
    reply.identity = identity
  sentTexts : AList fun _ : ℕ × Text => Seconds
  nextSequenceNumber : ℕ

namespace ReplyQueue

/-- The queue of a worker that just started. -/
def empty : ReplyQueue where
  pendingReplies := ∅
  filed := by simp
  sentTexts := ∅
  nextSequenceNumber := 0

/-- The pending replies, in no particular order. -/
def replies (queue : ReplyQueue) : List PendingReply :=
  queue.pendingReplies.entries.map Sigma.snd

/-- File a reply, in the place of the one with its identity. -/
def put (queue : ReplyQueue) (reply : PendingReply) : ReplyQueue :=
  { queue with
    pendingReplies := queue.pendingReplies.insert reply.identity reply
    filed := by
      intro identity filed h
      by_cases heq : identity = reply.identity
      · subst heq
        rw [AList.lookup_insert] at h
        rw [← Option.some.inj h]
      · rw [AList.lookup_insert_ne heq] at h
        exact queue.filed identity filed h }

def delete (queue : ReplyQueue) (identity : ReplyIdentity) : ReplyQueue :=
  { queue with
    pendingReplies := queue.pendingReplies.erase identity
    filed := by
      intro other reply h
      by_cases heq : other = identity
      · subst heq
        simp at h
      · rw [AList.lookup_erase_ne heq] at h
        exact queue.filed other reply h }

def deleteAll (queue : ReplyQueue) (identities : List ReplyIdentity) : ReplyQueue :=
  identities.foldl delete queue

/-! ### What comes in -/

/-- Queue a reply the services produced, replacing any older reply to the same request. -/
def addReply (timing : WorkerTiming) (queue : ReplyQueue) (contactId : ℕ)
    (replyKey text : Text) (readiness : ReplyReadiness) (now : Seconds) :
    ReplyQueue × PendingReply :=
  let readyDelay :=
    if readiness = .coalescedIncompleteStatus then timing.incompleteStatusCoalescingSeconds else 0
  let pendingReply : PendingReply :=
    { contactId, replyKey, text
      readyAt := now + readyDelay
      createdAt := now
      expiresAt := now + timing.replyLifetimeSeconds
      sequenceNumber := queue.nextSequenceNumber }
  ({ queue.put pendingReply with nextSequenceNumber := queue.nextSequenceNumber + 1 },
    pendingReply)

/-- The same reply once more, after its route was reset: ready at once and never suppressed. -/
def addFloodResend (timing : WorkerTiming) (queue : ReplyQueue) (contactId : ℕ)
    (replyKey text : Text) (now : Seconds) : ReplyQueue × PendingReply :=
  let pendingReply : PendingReply :=
    { contactId, replyKey, text
      readyAt := now
      createdAt := now
      expiresAt := now + timing.replyLifetimeSeconds
      sequenceNumber := queue.nextSequenceNumber
      bypassesIdenticalReplySuppression := true }
  ({ queue.put pendingReply with nextSequenceNumber := queue.nextSequenceNumber + 1 },
    pendingReply)

def hasReplyFor (queue : ReplyQueue) (contactId : ℕ) (replyKey : Text) : Bool :=
  (queue.pendingReplies.lookup (contactId, replyKey)).isSome

/-- A reply the node could not take waits again, unless a newer one replaced it. -/
def putBack (queue : ReplyQueue) (pendingReply : PendingReply) (readyAt : Seconds) :
    ReplyQueue × Bool :=
  if (queue.pendingReplies.lookup pendingReply.identity).isSome ∨
      pendingReply.expiresAt ≤ readyAt then (queue, false)
  else (queue.put { pendingReply with readyAt }, true)

/-! ### What goes out -/

def dropExpiredReplies (queue : ReplyQueue) (now : Seconds) : ReplyQueue :=
  queue.deleteAll ((queue.replies.filter fun reply => reply.expiresAt ≤ now).map
    PendingReply.identity)

/-- The text went to the contact a few seconds ago; a flood resend is exempt. -/
def repeatsARecentlySentText (timing : WorkerTiming) (queue : ReplyQueue) (reply : PendingReply)
    (now : Seconds) : Bool :=
  if reply.bypassesIdenticalReplySuppression then false
  else
    match queue.sentTexts.lookup (reply.contactId, reply.text) with
    | none => false
    | some sentAt => now - sentAt < timing.identicalReplySuppressionSeconds

/-- Walk the replies by readiness; identical replies are dropped on the way. -/
def takeFirstReadyReply (timing : WorkerTiming) (now : Seconds) (queue : ReplyQueue) :
    List PendingReply → ReplyQueue × Option PendingReply
  | [] => (queue, none)
  | reply :: replies =>
      if now < reply.readyAt then (queue, none)
      else
        let queue := queue.delete reply.identity
        if repeatsARecentlySentText timing queue reply now then
          takeFirstReadyReply timing now queue replies
        else (queue, some reply)

/-- The earliest ready reply, removed from the queue; expired and identical replies are dropped on
the way. -/
def takeNextReadyReply (timing : WorkerTiming) (queue : ReplyQueue) (now : Seconds) :
    ReplyQueue × Option PendingReply :=
  let queue := queue.dropExpiredReplies now
  takeFirstReadyReply timing now queue (orderBy orderByReadiness queue.replies)

def forgetOldSentTexts (timing : WorkerTiming) (queue : ReplyQueue) (now : Seconds) :
    ReplyQueue :=
  let oldEntries := queue.sentTexts.entries.filter fun entry =>
    timing.identicalReplySuppressionSeconds ≤ now - entry.2
  { queue with
    sentTexts := oldEntries.foldl (fun sentTexts entry => sentTexts.erase entry.1)
      queue.sentTexts }

def recordReplySent (timing : WorkerTiming) (queue : ReplyQueue) (sentReply : PendingReply)
    (now : Seconds) : ReplyQueue :=
  if sentReply.bypassesIdenticalReplySuppression then queue
  else
    let queue := forgetOldSentTexts timing queue now
    { queue with
      sentTexts := queue.sentTexts.insert (sentReply.contactId, sentReply.text) now }

/-! ### What the loops around it ask for -/

/-- When the next reply is ready; expired replies are dropped first. -/
def nextReadyTime (queue : ReplyQueue) (now : Seconds) : ReplyQueue × Option Seconds :=
  let queue := queue.dropExpiredReplies now
  (queue, (queue.replies.map PendingReply.readyAt).min?)

/-- Replies to deleted contacts could never be sent. -/
def dropRepliesToContactsOtherThan (queue : ReplyQueue) (existingContactIds : List ℕ) :
    ReplyQueue × ℕ :=
  let staleIdentities := (queue.replies.map PendingReply.identity).filter fun identity =>
    identity.1 ∉ existingContactIds
  (queue.deleteAll staleIdentities, staleIdentities.length)

end ReplyQueue

end HoptalkRelay
