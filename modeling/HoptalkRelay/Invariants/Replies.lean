/-
**The rules of the reply queue.**

The queue has one caller that takes, sends and puts back, and others that add and drop.  The
caller finishes with one reply before it takes the next; the others come in between at any time.
Beside the queue a log is kept of what was added, taken, sent and dropped, and the rules are about
the queue and its log.

Main definitions:

* `HoptalkRelay.QueueCall`, `HoptalkRelay.SenderState`, `HoptalkRelay.queueMachine` — the calls, and
  what they do;
* `HoptalkRelay.IsAllowedCall` — what the callers promise;
* `HoptalkRelay.ReplyLog`, `HoptalkRelay.loggedQueue` — the log beside the queue.

Main results:

* `HoptalkRelay.ReplyQueue.mem_takeNextReadyReply` — what a take leaves in the queue;
* `HoptalkRelay.RepliesOk.step` — every call keeps the queue and its log together;
* `HoptalkRelay.reply_queue_rules` — **one reply per request, the latest one, once, in its time**.
-/

import HoptalkRelay.ReplyQueue
import HoptalkRelay.Transition.Run

set_option relaxedAutoImplicit false
set_option autoImplicit false

namespace HoptalkRelay

open Relational Transition

namespace ReplyQueue

variable {timing : WorkerTiming} {queue : ReplyQueue} {reply other : PendingReply} {now : Seconds}

/-! ### The pending replies -/

instance : Membership PendingReply ReplyQueue :=
  ⟨fun queue reply => queue.pendingReplies.lookup reply.identity = some reply⟩

theorem mem_def : reply ∈ queue ↔ queue.pendingReplies.lookup reply.identity = some reply := Iff.rfl

theorem mem_replies : reply ∈ queue.replies ↔ reply ∈ queue := by
  unfold replies
  rw [List.mem_map]
  constructor
  · rintro ⟨⟨identity, filed⟩, hmem, rfl⟩
    have hlookup := AList.mem_lookup_iff.mpr hmem
    have hidentity := queue.filed identity filed hlookup
    subst hidentity
    exact hlookup
  · intro h
    exact ⟨⟨reply.identity, reply⟩, AList.mem_lookup_iff.mp h, rfl⟩

instance (reply : PendingReply) (queue : ReplyQueue) : Decidable (reply ∈ queue) :=
  decidable_of_iff (reply ∈ queue.replies) mem_replies

/-- **One reply per request.** -/
theorem eq_of_identity (h : reply ∈ queue) (h' : other ∈ queue)
    (hidentity : reply.identity = other.identity) : reply = other := by
  rw [mem_def] at h h'
  rw [hidentity] at h
  exact Option.some.inj (h.symm.trans h')

theorem isSome_lookup_iff {identity : ReplyIdentity} :
    (queue.pendingReplies.lookup identity).isSome ↔
      ∃ reply ∈ queue, reply.identity = identity := by
  constructor
  · intro h
    obtain ⟨reply, hreply⟩ := Option.isSome_iff_exists.mp h
    have hidentity := queue.filed identity reply hreply
    exact ⟨reply, by rwa [mem_def, hidentity], hidentity⟩
  · rintro ⟨reply, hreply, rfl⟩
    rw [mem_def] at hreply
    simp [hreply]

@[simp] theorem not_mem_empty : reply ∉ empty := by
  rw [mem_def]
  simp [empty]

theorem mem_put : other ∈ queue.put reply ↔
    other = reply ∨ other ∈ queue ∧ other.identity ≠ reply.identity := by
  rw [mem_def, mem_def, put]
  dsimp only
  by_cases heq : other.identity = reply.identity
  · rw [heq, AList.lookup_insert, Option.some_inj]
    simp [eq_comm]
  · have hne : other ≠ reply := fun h => heq (h ▸ rfl)
    rw [AList.lookup_insert_ne heq]
    simp [heq, hne]

theorem mem_delete {identity : ReplyIdentity} :
    reply ∈ queue.delete identity ↔ reply ∈ queue ∧ reply.identity ≠ identity := by
  rw [mem_def, mem_def, delete]
  dsimp only
  by_cases heq : reply.identity = identity
  · rw [heq, AList.lookup_erase]
    simp
  · rw [AList.lookup_erase_ne heq]
    simp [heq]

theorem mem_deleteAll {identities : List ReplyIdentity} :
    reply ∈ queue.deleteAll identities ↔ reply ∈ queue ∧ reply.identity ∉ identities := by
  unfold deleteAll
  induction identities generalizing queue with
  | nil => simp
  | cons identity identities ih =>
      rw [List.foldl_cons, ih, mem_delete]
      simp only [List.mem_cons, not_or, and_assoc]

/-- Deletions leave the sent texts and the counter alone. -/
theorem frame_deleteAll (queue : ReplyQueue) (identities : List ReplyIdentity) :
    (queue.deleteAll identities).sentTexts = queue.sentTexts ∧
      (queue.deleteAll identities).nextSequenceNumber = queue.nextSequenceNumber := by
  unfold deleteAll
  induction identities generalizing queue with
  | nil => exact ⟨rfl, rfl⟩
  | cons identity identities ih => exact ih (queue.delete identity)

theorem mem_dropExpiredReplies :
    reply ∈ queue.dropExpiredReplies now ↔ reply ∈ queue ∧ now < reply.expiresAt := by
  unfold dropExpiredReplies
  rw [mem_deleteAll]
  refine and_congr_right fun h => ?_
  rw [List.mem_map, ← not_le, not_iff_not]
  constructor
  · rintro ⟨expired, hexpired, hidentity⟩
    rw [List.mem_filter, mem_replies, decide_eq_true_eq] at hexpired
    obtain rfl := eq_of_identity hexpired.1 h hidentity
    exact hexpired.2
  · intro hexpired
    exact ⟨reply, List.mem_filter.mpr ⟨mem_replies.2 h, decide_eq_true hexpired⟩, rfl⟩

theorem mem_dropRepliesToContactsOtherThan {existingContactIds : List ℕ} :
    reply ∈ (queue.dropRepliesToContactsOtherThan existingContactIds).1 ↔
      reply ∈ queue ∧ reply.contactId ∈ existingContactIds := by
  unfold dropRepliesToContactsOtherThan
  rw [mem_deleteAll]
  refine and_congr_right fun h => ?_
  rw [List.mem_filter, decide_eq_true_eq, not_and_not_right]
  refine ⟨fun himp => himp (List.mem_map_of_mem (mem_replies.2 h)), fun hexists _ => hexists⟩

/-! ### Taking a reply -/

theorem repeatsARecentlySentText_congr {queue' : ReplyQueue}
    (h : queue'.sentTexts = queue.sentTexts) :
    repeatsARecentlySentText timing queue' reply now =
      repeatsARecentlySentText timing queue reply now := by
  unfold repeatsARecentlySentText
  rw [h]

/-- The replies at the front of a list that a take drops as identical. -/
def suppressedReplies (timing : WorkerTiming) (queue : ReplyQueue) (now : Seconds)
    (replies : List PendingReply) : List PendingReply :=
  replies.takeWhile fun reply =>
    reply.readyAt ≤ now && repeatsARecentlySentText timing queue reply now

/-- What a walk over the replies does: the identical replies at the front are dropped, and the next
one is taken if it is ready. -/
structure TakeOutcome (timing : WorkerTiming) (now : Seconds) (queue : ReplyQueue)
    (replies : List PendingReply) (queue' : ReplyQueue) (taken : Option PendingReply) : Prop where
  mem : ∀ reply, reply ∈ queue' ↔
    reply ∈ queue ∧ reply ∉ suppressedReplies timing queue now replies ∧ taken ≠ some reply
  ready : ∀ reply, taken = some reply → reply ∈ replies ∧ reply.readyAt ≤ now ∧
    repeatsARecentlySentText timing queue reply now = false
  waiting : taken = none → ∀ reply ∈ replies, reply ∈ queue' → now < reply.readyAt
  sentTexts : queue'.sentTexts = queue.sentTexts
  counter : queue'.nextSequenceNumber = queue.nextSequenceNumber

/-- The walk over the replies by readiness. -/
theorem takeFirstReadyReply_outcome (replies : List PendingReply) (queue : ReplyQueue)
    (hsorted : replies.Pairwise fun a b => orderByReadiness a ≤ orderByReadiness b)
    (hdistinct : replies.Pairwise fun a b => a.identity ≠ b.identity)
    (hmem : ∀ reply ∈ replies, reply ∈ queue) :
    TakeOutcome timing now queue replies (takeFirstReadyReply timing now queue replies).1
      (takeFirstReadyReply timing now queue replies).2 := by
  induction replies generalizing queue with
  | nil => exact ⟨by simp [takeFirstReadyReply, suppressedReplies], by simp [takeFirstReadyReply],
      by simp, rfl, rfl⟩
  | cons first replies ih =>
      obtain ⟨hfirst, hsorted⟩ := List.pairwise_cons.mp hsorted
      obtain ⟨hother, hdistinct⟩ := List.pairwise_cons.mp hdistinct
      unfold takeFirstReadyReply
      by_cases hwaits : now < first.readyAt
      · -- all replies behind it wait as well
        rw [if_pos hwaits]
        have hnone : suppressedReplies timing queue now (first :: replies) = [] := by
          simp [suppressedReplies, not_le.mpr hwaits]
        refine ⟨by simp [hnone], by simp, fun _ reply hreply _ => ?_, rfl, rfl⟩
        rcases List.mem_cons.mp hreply with rfl | hreply
        · exact hwaits
        · have hle := hfirst reply hreply
          exact hwaits.trans_le ((Prod.Lex.toLex_le_toLex.mp hle).elim le_of_lt fun h => h.1.le)
      rw [if_neg hwaits]
      dsimp only
      have hsame : ∀ reply,
          repeatsARecentlySentText timing (queue.delete first.identity) reply now =
            repeatsARecentlySentText timing queue reply now :=
        fun reply => repeatsARecentlySentText_congr rfl
      rw [hsame]
      have hdelete : ∀ reply,
          reply ∈ queue.delete first.identity ↔ reply ∈ queue ∧ reply ≠ first := by
        intro reply
        rw [mem_delete]
        refine and_congr_right fun h => not_iff_not.mpr ⟨fun heq => ?_, fun heq => heq ▸ rfl⟩
        exact eq_of_identity h (hmem first List.mem_cons_self) heq
      cases hrepeats : repeatsARecentlySentText timing queue first now with
      | false =>
          rw [if_neg (by simp)]
          have hnone : suppressedReplies timing queue now (first :: replies) = [] := by
            simp [suppressedReplies, hrepeats]
          refine ⟨fun reply => ?_, ?_, by simp, rfl, rfl⟩
          · rw [hdelete, hnone]
            simp [eq_comm]
          · rintro reply heq
            obtain rfl := Option.some.inj heq
            exact ⟨List.mem_cons_self, not_lt.mp hwaits, hrepeats⟩
      | true =>
          rw [if_pos rfl]
          have hrest := ih (queue.delete first.identity) hsorted hdistinct fun reply hreply =>
            (hdelete reply).mpr ⟨hmem reply (List.mem_cons_of_mem _ hreply),
              fun heq => hother reply hreply (heq ▸ rfl)⟩
          have hall : suppressedReplies timing queue now (first :: replies) =
              first :: suppressedReplies timing (queue.delete first.identity) now replies := by
            simp [suppressedReplies, not_lt.mp hwaits, hrepeats, hsame]
          refine ⟨fun reply => ?_, fun reply heq => ?_, fun hnone reply hreply hleft => ?_,
            hrest.sentTexts, hrest.counter⟩
          · rw [hrest.mem, hdelete, hall, List.mem_cons, not_or, and_assoc, and_assoc]
          · obtain ⟨hreply, hready, hfresh⟩ := hrest.ready reply heq
            exact ⟨List.mem_cons_of_mem _ hreply, hready, by rwa [hsame] at hfresh⟩
          · rcases List.mem_cons.mp hreply with rfl | hreply
            · exact absurd rfl ((hdelete reply).mp ((hrest.mem reply).mp hleft).1).2
            · exact hrest.waiting hnone reply hreply hleft

/-- The replies that do not expire at this time, by readiness. -/
def liveReplies (queue : ReplyQueue) (now : Seconds) : List PendingReply :=
  orderBy orderByReadiness (queue.dropExpiredReplies now).replies

theorem mem_liveReplies :
    reply ∈ queue.liveReplies now ↔ reply ∈ queue ∧ now < reply.expiresAt := by
  rw [liveReplies, mem_orderBy, mem_replies, mem_dropExpiredReplies]

theorem pairwise_identity_replies (queue : ReplyQueue) :
    queue.replies.Pairwise fun a b => a.identity ≠ b.identity := by
  unfold replies
  rw [List.pairwise_map]
  have hkeys : queue.pendingReplies.entries.Pairwise fun a b => a.1 ≠ b.1 :=
    List.pairwise_map.mp queue.pendingReplies.nodupKeys
  refine hkeys.imp_of_mem fun {a b} ha hb hne => ?_
  rwa [queue.filed a.1 a.2 (AList.mem_lookup_iff.mpr ha),
    queue.filed b.1 b.2 (AList.mem_lookup_iff.mpr hb)]

/-- **What a take does**, by the replies that do not expire. -/
theorem takeNextReadyReply_outcome (timing : WorkerTiming) (queue : ReplyQueue) (now : Seconds) :
    TakeOutcome timing now (queue.dropExpiredReplies now) (queue.liveReplies now)
      (queue.takeNextReadyReply timing now).1 (queue.takeNextReadyReply timing now).2 := by
  refine takeFirstReadyReply_outcome _ _ (pairwise_orderBy _ _) ?_ fun reply hreply =>
    mem_replies.1 (mem_orderBy.1 hreply)
  refine (List.Perm.pairwise_iff (fun h => Ne.symm h) (orderBy_perm _ _)).mpr ?_
  exact pairwise_identity_replies _

end ReplyQueue

/-! ### The calls -/

inductive QueueCall
  | addReply (contactId : ℕ) (replyKey text : Text) (readiness : ReplyReadiness)
  | addFloodResend (contactId : ℕ) (replyKey text : Text)
  | putBack (readyAt : Seconds)
  | takeNextReadyReply
  | recordReplySent
  | nextReadyTime
  | dropRepliesToContactsOtherThan (existingContactIds : List ℕ)
  deriving DecidableEq

inductive QueueResult
  | added (reply : PendingReply)
  | wasPutBack (wasPutBack : Bool)
  | taken (reply : Option PendingReply)
  | recorded
  | readyTime (time : Option Seconds)
  | dropped (count : ℕ)
  deriving DecidableEq

/-- The queue, the time of the last call, and the reply the sender took and is not done with. -/
structure SenderState where
  queue : ReplyQueue
  clock : Seconds
  outstanding : Option PendingReply

/-- One call at one time.  The sender puts back, or records as sent, the reply it took. -/
def queueStep (timing : WorkerTiming) (s : SenderState) (input : QueueCall × Seconds) :
    SenderState × QueueResult :=
  let now := input.2
  match input.1 with
  | .addReply contactId replyKey text readiness =>
      match s.queue.addReply timing contactId replyKey text readiness now with
      | (queue, reply) => (⟨queue, now, s.outstanding⟩, .added reply)
  | .addFloodResend contactId replyKey text =>
      match s.queue.addFloodResend timing contactId replyKey text now with
      | (queue, reply) => (⟨queue, now, s.outstanding⟩, .added reply)
  | .putBack readyAt =>
      match s.outstanding with
      | none => (⟨s.queue, now, none⟩, .wasPutBack false)
      | some reply =>
          match s.queue.putBack reply readyAt with
          | (queue, wasPutBack) => (⟨queue, now, none⟩, .wasPutBack wasPutBack)
  | .takeNextReadyReply =>
      match s.queue.takeNextReadyReply timing now with
      | (queue, reply) => (⟨queue, now, reply⟩, .taken reply)
  | .recordReplySent =>
      match s.outstanding with
      | none => (⟨s.queue, now, none⟩, .recorded)
      | some reply => (⟨s.queue.recordReplySent timing reply now, now, none⟩, .recorded)
  | .nextReadyTime =>
      match s.queue.nextReadyTime now with
      | (queue, time) => (⟨queue, now, s.outstanding⟩, .readyTime time)
  | .dropRepliesToContactsOtherThan existingContactIds =>
      match s.queue.dropRepliesToContactsOtherThan existingContactIds with
      | (queue, count) => (⟨queue, now, s.outstanding⟩, .dropped count)

/-- The queue and its callers. -/
def queueMachine (timing : WorkerTiming) :
    Machine SenderState (QueueCall × Seconds) QueueResult where
  init := ⟨.empty, 0, none⟩
  step := queueStep timing

/-- What the callers promise: the clock does not go back, only a taken reply is recorded or put
back, and a flood resend is added when no reply to its request is pending. -/
def IsAllowedCall (s : SenderState) (input : QueueCall × Seconds) : Prop :=
  s.clock ≤ input.2 ∧
    match input.1 with
    | .addFloodResend contactId replyKey _ => s.queue.hasReplyFor contactId replyKey = false
    | .putBack _ | .recordReplySent => s.outstanding.isSome
    | _ => True

instance (s : SenderState) (input : QueueCall × Seconds) : Decidable (IsAllowedCall s input) := by
  unfold IsAllowedCall
  split <;> infer_instance

/-! ### The log -/

/-- A reply as it was added, and whether it is an incomplete send status. -/
structure AddedReply where
  reply : PendingReply
  isIncompleteStatus : Bool
  deriving DecidableEq

structure ReplyLog where
  /-- The replies added so far, the latest one first. -/
  added : List AddedReply := []
  /-- The sequence numbers of the replies that were taken and not put back since. -/
  released : List ℕ := []
  /-- The replies the queue dropped. -/
  dropped : List PendingReply := []
  /-- The replies that were recorded as sent, and when. -/
  sends : List (PendingReply × Seconds) := []

/-- The latest reply that was added for a request. -/
def ReplyLog.latestAdded (log : ReplyLog) (identity : ReplyIdentity) : Option AddedReply :=
  log.added.find? fun a => a.reply.identity = identity

/-- The replies that left the queue without being taken. -/
def lostReplies (before after : ReplyQueue) (taken : Option PendingReply) : List PendingReply :=
  before.replies.filter fun reply => reply ∉ after ∧ taken ≠ some reply

/-- What a call does to the log. -/
def updateReplyLog (timing : WorkerTiming) (log : ReplyLog) (s : SenderState)
    (input : QueueCall × Seconds) (s' : SenderState) : ReplyLog :=
  match input.1, (queueStep timing s input).2 with
  | .addReply _ _ _ readiness, .added reply =>
      { log with added := ⟨reply, decide (readiness = .coalescedIncompleteStatus)⟩ :: log.added }
  | .addFloodResend _ _ _, .added reply => { log with added := ⟨reply, false⟩ :: log.added }
  | .putBack _, .wasPutBack true =>
      { log with
        released := log.released.filter fun sequenceNumber =>
          s.outstanding.all fun reply => reply.sequenceNumber ≠ sequenceNumber }
  | .takeNextReadyReply, .taken reply =>
      { log with
        released := (reply.map PendingReply.sequenceNumber).toList ++ log.released
        dropped := lostReplies s.queue s'.queue reply ++ log.dropped }
  | .recordReplySent, _ =>
      { log with sends := (s.outstanding.map fun reply => (reply, input.2)).toList ++ log.sends }
  | .nextReadyTime, _ | .dropRepliesToContactsOtherThan _, _ =>
      { log with dropped := lostReplies s.queue s'.queue none ++ log.dropped }
  | _, _ => log

/-- The queue with its log beside it. -/
def loggedQueue (timing : WorkerTiming) :
    Machine (SenderState × ReplyLog) (QueueCall × Seconds) QueueResult :=
  (queueMachine timing).instrument {} (updateReplyLog timing)

/-! ### The queue and its log -/

/-- A reply is what was added, up to the time it is ready at. -/
def IsAdded (log : ReplyLog) (reply : PendingReply) : Prop :=
  ∃ a ∈ log.added, reply = { a.reply with readyAt := reply.readyAt }

/-- A reply with this sequence number was dropped. -/
def WasDropped (log : ReplyLog) (sequenceNumber : ℕ) : Prop :=
  ∃ reply ∈ log.dropped, reply.sequenceNumber = sequenceNumber

/-- The coalescing delay passed since an incomplete status was added. -/
def IsCoalesced (timing : WorkerTiming) (log : ReplyLog) (reply : PendingReply)
    (time : Seconds) : Prop :=
  ∀ a ∈ log.added, a.reply.sequenceNumber = reply.sequenceNumber → a.isIncompleteStatus = true →
    a.reply.createdAt + timing.incompleteStatusCoalescingSeconds ≤ time

/-- What holds of the pending replies and the log. -/
structure PendingOk (timing : WorkerTiming) (queue : ReplyQueue) (clock : Seconds)
    (log : ReplyLog) : Prop where
  counter : ∀ a ∈ log.added, a.reply.sequenceNumber < queue.nextSequenceNumber
  distinct : ∀ a ∈ log.added, ∀ b ∈ log.added,
    a.reply.sequenceNumber = b.reply.sequenceNumber → a = b
  origin : ∀ reply ∈ queue, IsAdded log reply
  latest : ∀ reply ∈ queue, ∀ a, log.latestAdded reply.identity = some a →
    a.reply.sequenceNumber = reply.sequenceNumber ∨ WasDropped log a.reply.sequenceNumber
  released : ∀ reply ∈ queue, reply.sequenceNumber ∉ log.released
  spent : ∀ sequenceNumber ∈ log.released, sequenceNumber < queue.nextSequenceNumber
  coalesced : ∀ reply ∈ queue, IsCoalesced timing log reply reply.readyAt ∨
    IsCoalesced timing log reply clock
  sends : ∀ send ∈ log.sends, send.1.bypassesIdenticalReplySuppression = false →
    send.2 ≤ clock ∧ (send.2 + timing.identicalReplySuppressionSeconds ≤ clock ∨
      ∃ sentAt, queue.sentTexts.lookup (send.1.contactId, send.1.text) = some sentAt ∧
        send.2 ≤ sentAt)

/-- What holds of the reply the sender took. -/
structure HeldOk (timing : WorkerTiming) (queue : ReplyQueue) (clock : Seconds) (log : ReplyLog)
    (reply : PendingReply) : Prop where
  origin : IsAdded log reply
  latest : ∀ a, log.latestAdded reply.identity = some a →
    a.reply.sequenceNumber = reply.sequenceNumber ∨ WasDropped log a.reply.sequenceNumber ∨
      ∃ newer ∈ queue, newer.identity = reply.identity
  coalesced : IsCoalesced timing log reply clock

/-- What every call keeps. -/
structure RepliesOk (timing : WorkerTiming) (s : SenderState) (log : ReplyLog) : Prop where
  pending : PendingOk timing s.queue s.clock log
  held : ∀ reply, s.outstanding = some reply → HeldOk timing s.queue s.clock log reply

section Steps

variable {timing : WorkerTiming} {queue queue' : ReplyQueue} {clock now : Seconds}
  {log : ReplyLog} {reply : PendingReply}

theorem IsAdded.sequenceNumber_lt (h : IsAdded log reply)
    (hok : PendingOk timing queue clock log) : reply.sequenceNumber < queue.nextSequenceNumber := by
  obtain ⟨a, ha, heq⟩ := h
  rw [heq]
  exact hok.counter a ha

theorem IsCoalesced.mono {time time' : Seconds} (h : IsCoalesced timing log reply time)
    (hle : time ≤ time') : IsCoalesced timing log reply time' :=
  fun a ha hsame hstatus => (h a ha hsame hstatus).trans hle

/-- The latest reply of a request is one of the added ones. -/
theorem ReplyLog.latestAdded_spec {identity : ReplyIdentity} {a : AddedReply}
    (h : log.latestAdded identity = some a) : a ∈ log.added ∧ a.reply.identity = identity :=
  ⟨List.mem_of_find?_eq_some h, by simpa using List.find?_some h⟩

theorem mem_lostReplies {taken : Option PendingReply} :
    reply ∈ lostReplies queue queue' taken ↔
      reply ∈ queue ∧ reply ∉ queue' ∧ taken ≠ some reply := by
  unfold lostReplies
  rw [List.mem_filter, ReplyQueue.mem_replies, decide_eq_true_eq]

/-- Replies leave the queue. -/
theorem PendingOk.lose (hok : PendingOk timing queue clock log)
    (hsub : ∀ reply, reply ∈ queue' → reply ∈ queue)
    (hsent : queue'.sentTexts = queue.sentTexts)
    (hcounter : queue'.nextSequenceNumber = queue.nextSequenceNumber) (hclock : clock ≤ now)
    (taken : Option PendingReply) {released : List ℕ}
    (hreleased : ∀ reply ∈ queue', reply.sequenceNumber ∉ released)
    (hspent : ∀ sequenceNumber ∈ released, sequenceNumber < queue.nextSequenceNumber) :
    PendingOk timing queue' now
      { log with released, dropped := lostReplies queue queue' taken ++ log.dropped } where
  counter a ha := hcounter ▸ hok.counter a ha
  distinct := hok.distinct
  origin reply hreply := hok.origin reply (hsub reply hreply)
  latest reply hreply a ha := by
    refine (hok.latest reply (hsub reply hreply) a ha).imp_right ?_
    rintro ⟨dropped, hdropped, hsame⟩
    exact ⟨dropped, List.mem_append_right _ hdropped, hsame⟩
  released := hreleased
  spent := hcounter ▸ hspent
  coalesced reply hreply := (hok.coalesced reply (hsub reply hreply)).imp_right
    fun h => h.mono hclock
  sends send hsend hbypass := by
    obtain ⟨hle, hsend⟩ := hok.sends send hsend hbypass
    rw [hsent]
    exact ⟨hle.trans hclock, hsend.imp_left fun h => h.trans hclock⟩

/-- Time passes. -/
theorem PendingOk.later (hok : PendingOk timing queue clock log) (hclock : clock ≤ now) :
    PendingOk timing queue now log :=
  { hok with
    coalesced := fun reply hreply => (hok.coalesced reply hreply).imp_right
      fun h a ha hsame hstatus => (h a ha hsame hstatus).trans hclock
    sends := fun send hsend hbypass =>
      ⟨(hok.sends send hsend hbypass).1.trans hclock,
        (hok.sends send hsend hbypass).2.imp_left fun h => h.trans hclock⟩ }

/-- Replies leave the queue while the sender is busy. -/
theorem HeldOk.lose (hok : HeldOk timing queue clock log reply)
    (hpending : PendingOk timing queue clock log) (hclock : clock ≤ now) :
    HeldOk timing queue' now
      { log with dropped := lostReplies queue queue' none ++ log.dropped } reply where
  origin := hok.origin
  latest a ha := by
    have hdropped : WasDropped log a.reply.sequenceNumber →
        WasDropped { log with dropped := lostReplies queue queue' none ++ log.dropped }
          a.reply.sequenceNumber := by
      rintro ⟨dropped, hdropped, hsame⟩
      exact ⟨dropped, List.mem_append_right _ hdropped, hsame⟩
    rcases hok.latest a ha with hsame | hgone | ⟨newer, hnewer, hidentity⟩
    · exact Or.inl hsame
    · exact Or.inr (Or.inl (hdropped hgone))
    · by_cases hstays : newer ∈ queue'
      · exact Or.inr (Or.inr ⟨newer, hstays, hidentity⟩)
      · -- the newer reply is lost now
        rcases hpending.latest newer hnewer a (hidentity ▸ ha) with hsame | hgone
        · exact Or.inr (Or.inl ⟨newer, List.mem_append_left _
            (mem_lostReplies.2 ⟨hnewer, hstays, by simp⟩), hsame.symm⟩)
        · exact Or.inr (Or.inl (hdropped hgone))
  coalesced := hok.coalesced.mono hclock

/-- Two replies with one sequence number are one reply. -/
theorem PendingOk.eq_of_sequenceNumber (hok : PendingOk timing queue clock log)
    {other : PendingReply} (hreply : reply ∈ queue) (hother : other ∈ queue)
    (hsame : reply.sequenceNumber = other.sequenceNumber) : reply = other := by
  obtain ⟨a, ha, hreply'⟩ := hok.origin reply hreply
  obtain ⟨b, hb, hother'⟩ := hok.origin other hother
  have hnumber : a.reply.sequenceNumber = b.reply.sequenceNumber := by
    rw [hreply', hother'] at hsame
    exact hsame
  obtain rfl := hok.distinct a ha b hb hnumber
  refine ReplyQueue.eq_of_identity hreply hother ?_
  rw [hreply', hother']
  rfl

/-- The sender takes the next reply. -/
theorem RepliesOk.take {s : SenderState} (hok : RepliesOk timing s log) (hclock : s.clock ≤ now) :
    RepliesOk timing (queueStep timing s (.takeNextReadyReply, now)).1
      (updateReplyLog timing log s (.takeNextReadyReply, now)
        (queueStep timing s (.takeNextReadyReply, now)).1) := by
  have houtcome := ReplyQueue.takeNextReadyReply_outcome timing s.queue now
  simp only [queueStep, updateReplyLog]
  generalize (s.queue.takeNextReadyReply timing now).1 = queue' at houtcome ⊢
  generalize (s.queue.takeNextReadyReply timing now).2 = taken at houtcome ⊢
  have hframe := s.queue.frame_deleteAll
    ((s.queue.replies.filter fun reply => reply.expiresAt ≤ now).map PendingReply.identity)
  have hsub : ∀ reply, reply ∈ queue' → reply ∈ s.queue := fun reply hreply =>
    (ReplyQueue.mem_dropExpiredReplies.1 ((houtcome.mem reply).mp hreply).1).1
  have htaken : ∀ reply, taken = some reply → reply ∈ s.queue := fun reply heq =>
    (ReplyQueue.mem_liveReplies.1 (houtcome.ready reply heq).1).1
  refine ⟨hok.pending.lose hsub (houtcome.sentTexts.trans hframe.1)
    (houtcome.counter.trans hframe.2) hclock taken (fun reply hreply => ?_)
    fun sequenceNumber hmem => ?_, fun reply heq => ?_⟩
  · rw [List.mem_append, not_or]
    refine ⟨fun hmem => ?_, hok.pending.released reply (hsub reply hreply)⟩
    rw [Option.mem_toList, Option.map_eq_some_iff] at hmem
    obtain ⟨other, hother, hsame⟩ := hmem
    obtain rfl := hok.pending.eq_of_sequenceNumber (htaken other hother) (hsub reply hreply) hsame
    exact ((houtcome.mem other).mp hreply).2.2 hother
  · rw [List.mem_append, Option.mem_toList, Option.map_eq_some_iff] at hmem
    rcases hmem with ⟨reply, hreply, rfl⟩ | hmem
    · exact (hok.pending.origin reply (htaken reply hreply)).sequenceNumber_lt hok.pending
    · exact hok.pending.spent sequenceNumber hmem
  · dsimp only at heq
    have hmem := htaken reply heq
    refine ⟨hok.pending.origin reply hmem, fun a ha => ?_, ?_⟩
    · refine (hok.pending.latest reply hmem a ha).imp_right fun h => Or.inl ?_
      obtain ⟨dropped, hdropped, hsame⟩ := h
      exact ⟨dropped, List.mem_append_right _ hdropped, hsame⟩
    · rcases hok.pending.coalesced reply hmem with h | h
      · exact h.mono (houtcome.ready reply heq).2.1
      · exact h.mono hclock

/-- A call that only takes replies out of the queue. -/
theorem RepliesOk.lose {s : SenderState} (hok : RepliesOk timing s log) (hclock : s.clock ≤ now)
    {identities : List ReplyIdentity} :
    RepliesOk timing ⟨s.queue.deleteAll identities, now, s.outstanding⟩
      { log with dropped :=
          lostReplies s.queue (s.queue.deleteAll identities) none ++ log.dropped } := by
  have hframe := s.queue.frame_deleteAll identities
  have hsub : ∀ reply, reply ∈ s.queue.deleteAll identities → reply ∈ s.queue :=
    fun reply hreply => (ReplyQueue.mem_deleteAll.1 hreply).1
  exact ⟨hok.pending.lose hsub hframe.1 hframe.2 hclock none
      (fun reply hreply => hok.pending.released reply (hsub reply hreply)) hok.pending.spent,
    fun reply heq => (hok.held reply heq).lose hok.pending hclock⟩

/-- A new reply leaves what is known of the older ones. -/
theorem IsCoalesced.add {a : AddedReply} {time : Seconds} (h : IsCoalesced timing log reply time)
    (hne : a.reply.sequenceNumber ≠ reply.sequenceNumber) :
    IsCoalesced timing { log with added := a :: log.added } reply time := by
  intro b hb hsame hstatus
  rcases List.mem_cons.mp hb with rfl | hb
  · exact absurd hsame hne
  · exact h b hb hsame hstatus

theorem IsAdded.add {a : AddedReply} (h : IsAdded log reply) :
    IsAdded { log with added := a :: log.added } reply := by
  obtain ⟨b, hb, heq⟩ := h
  exact ⟨b, List.mem_cons_of_mem _ hb, heq⟩

theorem ReplyLog.latestAdded_cons (log : ReplyLog) (a : AddedReply) (identity : ReplyIdentity) :
    ReplyLog.latestAdded { log with added := a :: log.added } identity =
      if a.reply.identity = identity then some a else log.latestAdded identity := by
  unfold latestAdded
  rw [List.find?_cons]
  by_cases h : a.reply.identity = identity <;> simp [h]

/-- **A new reply** takes the place of the older one to its request. -/
theorem RepliesOk.add {s : SenderState} (hok : RepliesOk timing s log) (hclock : s.clock ≤ now)
    {a : AddedReply} (hnumber : a.reply.sequenceNumber = s.queue.nextSequenceNumber)
    (hstatus : a.isIncompleteStatus = true →
      a.reply.createdAt + timing.incompleteStatusCoalescingSeconds ≤ a.reply.readyAt) :
    RepliesOk timing
      ⟨{ s.queue.put a.reply with nextSequenceNumber := s.queue.nextSequenceNumber + 1 }, now,
        s.outstanding⟩
      { log with added := a :: log.added } := by
  have hmem : ∀ reply, reply ∈ ({ s.queue.put a.reply with
      nextSequenceNumber := s.queue.nextSequenceNumber + 1 } : ReplyQueue) ↔
      reply = a.reply ∨ reply ∈ s.queue ∧ reply.identity ≠ a.reply.identity :=
    fun reply => ReplyQueue.mem_put
  have hold : ∀ reply, IsAdded log reply → a.reply.sequenceNumber ≠ reply.sequenceNumber := by
    intro reply hadded heq
    exact absurd (hadded.sequenceNumber_lt hok.pending) (by omega)
  refine ⟨⟨?_, ?_, ?_, ?_, ?_, ?_, ?_, ?_⟩, fun reply heq => ⟨?_, ?_, ?_⟩⟩
  · intro b hb
    dsimp only
    rcases List.mem_cons.mp hb with rfl | hb
    · omega
    · exact Nat.lt_succ_of_lt (hok.pending.counter b hb)
  · intro b hb c hc hsame
    rcases List.mem_cons.mp hb with hb' | hb' <;> rcases List.mem_cons.mp hc with hc' | hc'
    · rw [hb', hc']
    · rw [hb', hnumber] at hsame
      exact absurd (hok.pending.counter c hc') (by omega)
    · rw [hc', hnumber] at hsame
      exact absurd (hok.pending.counter b hb') (by omega)
    · exact hok.pending.distinct b hb' c hc' hsame
  · intro reply hreply
    rcases (hmem reply).mp hreply with rfl | ⟨hreply, -⟩
    · exact ⟨a, List.mem_cons_self, rfl⟩
    · exact (hok.pending.origin reply hreply).add
  · intro reply hreply b hb
    rw [ReplyLog.latestAdded_cons] at hb
    rcases (hmem reply).mp hreply with rfl | ⟨hreply, hne⟩
    · rw [if_pos rfl] at hb
      obtain rfl := Option.some.inj hb
      exact Or.inl rfl
    · rw [if_neg (Ne.symm hne)] at hb
      exact hok.pending.latest reply hreply b hb
  · intro reply hreply hreleased
    rcases (hmem reply).mp hreply with rfl | ⟨hreply, -⟩
    · exact absurd (hok.pending.spent _ hreleased) (by omega)
    · exact hok.pending.released reply hreply hreleased
  · exact fun sequenceNumber h => Nat.lt_succ_of_lt (hok.pending.spent sequenceNumber h)
  · intro reply hreply
    rcases (hmem reply).mp hreply with rfl | ⟨hreply, -⟩
    · refine Or.inl fun b hb hsame hincomplete => ?_
      rcases List.mem_cons.mp hb with rfl | hb
      · exact hstatus hincomplete
      · exact absurd (hok.pending.counter b hb) (by omega)
    · have hne := hold reply (hok.pending.origin reply hreply)
      exact (hok.pending.coalesced reply hreply).imp (fun h => h.add hne)
        fun h => (h.mono hclock).add hne
  · intro send hsend hbypass
    obtain ⟨hle, hsent⟩ := hok.pending.sends send hsend hbypass
    exact ⟨hle.trans hclock, hsent.imp_left fun h => h.trans hclock⟩
  · exact (hok.held reply heq).origin.add
  · intro b hb
    rw [ReplyLog.latestAdded_cons] at hb
    by_cases hidentity : a.reply.identity = reply.identity
    · exact Or.inr (Or.inr ⟨a.reply, (hmem a.reply).mpr (Or.inl rfl), hidentity⟩)
    · rw [if_neg hidentity] at hb
      rcases (hok.held reply heq).latest b hb with hsame | hgone | ⟨newer, hnewer, hsame⟩
      · exact Or.inl hsame
      · exact Or.inr (Or.inl hgone)
      · exact Or.inr (Or.inr ⟨newer, (hmem newer).mpr (Or.inr ⟨hnewer, fun h =>
          hidentity (h.symm.trans hsame)⟩), hsame⟩)
  · have hheld := hok.held reply heq
    exact (hheld.coalesced.mono hclock).add (hold reply hheld.origin)

/-- **A reply is put back**: nothing newer of its request is pending. -/
theorem RepliesOk.putBack {s : SenderState} (hok : RepliesOk timing s log)
    (hclock : s.clock ≤ now) (hheld : s.outstanding = some reply) (readyAt : Seconds) :
    RepliesOk timing (queueStep timing s (.putBack readyAt, now)).1
      (updateReplyLog timing log s (.putBack readyAt, now)
        (queueStep timing s (.putBack readyAt, now)).1) := by
  have hok' := hok.held reply hheld
  simp only [queueStep, hheld, updateReplyLog, ReplyQueue.putBack]
  by_cases hrefused : (s.queue.pendingReplies.lookup reply.identity).isSome ∨
      reply.expiresAt ≤ readyAt
  · rw [if_pos hrefused]
    exact ⟨hok.pending.later hclock, fun _ heq => by cases heq⟩
  rw [if_neg hrefused]
  obtain ⟨hfree, -⟩ := not_or.mp hrefused
  dsimp only
  have hmem : ∀ other, other ∈ s.queue.put { reply with readyAt } ↔
      other = { reply with readyAt } ∨ other ∈ s.queue ∧ other.identity ≠ reply.identity :=
    fun other => ReplyQueue.mem_put
  refine ⟨⟨hok.pending.counter, hok.pending.distinct, ?_, ?_, ?_, ?_, ?_, ?_⟩,
    fun _ heq => by cases heq⟩
  · intro other hother
    rcases (hmem other).mp hother with rfl | ⟨hother, -⟩
    · obtain ⟨a, ha, heq⟩ := hok'.origin
      refine ⟨a, ha, ?_⟩
      rw [heq]
    · exact hok.pending.origin other hother
  · intro other hother a ha
    rcases (hmem other).mp hother with rfl | ⟨hother, -⟩
    · rcases hok'.latest a ha with hsame | hgone | ⟨newer, hnewer, hidentity⟩
      · exact Or.inl hsame
      · exact Or.inr hgone
      · exact absurd (ReplyQueue.isSome_lookup_iff.2 ⟨newer, hnewer, hidentity⟩) hfree
    · exact hok.pending.latest other hother a ha
  · intro other hother hreleased
    obtain ⟨hreleased, hne⟩ := List.mem_filter.mp hreleased
    rcases (hmem other).mp hother with rfl | ⟨hother, -⟩
    · simp at hne
    · exact hok.pending.released other hother hreleased
  · exact fun sequenceNumber h => hok.pending.spent sequenceNumber (List.mem_filter.mp h).1
  · intro other hother
    rcases (hmem other).mp hother with rfl | ⟨hother, -⟩
    · exact Or.inr (hok'.coalesced.mono hclock)
    · exact (hok.pending.coalesced other hother).imp_right fun h => h.mono hclock
  · intro send hsend hbypass
    obtain ⟨hle, hsent⟩ := hok.pending.sends send hsend hbypass
    exact ⟨hle.trans hclock, hsent.imp_left fun h => h.trans hclock⟩

/-- Only old texts are forgotten. -/
theorem lookup_forgetOldSentTexts {key : ℕ × Text} {sentAt : Seconds}
    (hsent : queue.sentTexts.lookup key = some sentAt)
    (hrecent : now - sentAt < timing.identicalReplySuppressionSeconds) :
    (queue.forgetOldSentTexts timing now).sentTexts.lookup key = some sentAt := by
  have herase : ∀ (old : List (Sigma fun _ : ℕ × Text => Seconds))
      (sentTexts : AList fun _ : ℕ × Text => Seconds), (∀ entry ∈ old, entry.1 ≠ key) →
      (old.foldl (fun sentTexts entry => sentTexts.erase entry.1) sentTexts).lookup key =
        sentTexts.lookup key := by
    intro old
    induction old with
    | nil => exact fun _ _ => rfl
    | cons entry old ih =>
        intro sentTexts hold
        rw [List.foldl_cons, ih _ fun other hother => hold other (List.mem_cons_of_mem _ hother)]
        exact AList.lookup_erase_ne (Ne.symm (hold entry List.mem_cons_self))
  unfold ReplyQueue.forgetOldSentTexts
  dsimp only
  rw [herase _ _ fun entry hentry heq => ?_, hsent]
  obtain ⟨hentry, hold⟩ := List.mem_filter.mp hentry
  subst heq
  have hfound := AList.mem_lookup_iff.mpr hentry
  obtain rfl := Option.some.inj (hsent.symm.trans hfound)
  exact absurd (of_decide_eq_true hold) (not_le.mpr hrecent)

/-- **A send is recorded**: what was forgotten is too old to matter. -/
theorem RepliesOk.recordReplySent {s : SenderState} (hok : RepliesOk timing s log)
    (hclock : s.clock ≤ now) (hheld : s.outstanding = some reply) :
    RepliesOk timing (queueStep timing s (.recordReplySent, now)).1
      (updateReplyLog timing log s (.recordReplySent, now)
        (queueStep timing s (.recordReplySent, now)).1) := by
  simp only [queueStep, hheld, updateReplyLog, Option.map_some, Option.toList_some,
    List.singleton_append]
  have hlater := hok.pending.later hclock
  cases hbypass : reply.bypassesIdenticalReplySuppression with
  | true =>
      have hsame : s.queue.recordReplySent timing reply now = s.queue := by
        rw [ReplyQueue.recordReplySent, if_pos hbypass]
      rw [hsame]
      refine ⟨{ hlater with sends := fun send hsend hnot => ?_ }, fun _ heq => by cases heq⟩
      rcases List.mem_cons.mp hsend with rfl | hsend
      · rw [hbypass] at hnot
        cases hnot
      · exact hlater.sends send hsend hnot
  | false =>
      have hsame : s.queue.recordReplySent timing reply now =
          { s.queue with
            sentTexts := (s.queue.forgetOldSentTexts timing now).sentTexts.insert
              (reply.contactId, reply.text) now } := by
        rw [ReplyQueue.recordReplySent, if_neg (by simp [hbypass])]
        rfl
      rw [hsame]
      refine ⟨⟨hlater.counter, hlater.distinct, hlater.origin, hlater.latest, hlater.released,
        hlater.spent, hlater.coalesced, fun send hsend hnot => ?_⟩, fun _ heq => by cases heq⟩
      dsimp only
      rcases List.mem_cons.mp hsend with rfl | hsend
      · exact ⟨le_rfl, Or.inr ⟨now, AList.lookup_insert _, le_rfl⟩⟩
      obtain ⟨hle, hsent⟩ := hlater.sends send hsend hnot
      refine ⟨hle, ?_⟩
      rcases hsent with hold | ⟨sentAt, hfound, hsentAt⟩
      · exact Or.inl hold
      by_cases hkey : (send.1.contactId, send.1.text) = (reply.contactId, reply.text)
      · rw [hkey, AList.lookup_insert]
        exact Or.inr ⟨now, rfl, hle⟩
      rw [AList.lookup_insert_ne hkey]
      by_cases hrecent : now - sentAt < timing.identicalReplySuppressionSeconds
      · exact Or.inr ⟨sentAt, lookup_forgetOldSentTexts hfound hrecent, hsentAt⟩
      · refine Or.inl ?_
        rw [not_lt] at hrecent
        linarith

/-- **Every call** keeps the queue and its log together. -/
theorem RepliesOk.step {s : SenderState} {input : QueueCall × Seconds}
    (hok : RepliesOk timing s log) (hallowed : IsAllowedCall s input) :
    RepliesOk timing (queueStep timing s input).1
      (updateReplyLog timing log s input (queueStep timing s input).1) := by
  obtain ⟨call, now⟩ := input
  obtain ⟨hclock, hpromise⟩ := hallowed
  cases call with
  | addReply contactId replyKey text readiness =>
      let added : AddedReply :=
        ⟨(s.queue.addReply timing contactId replyKey text readiness now).2,
          decide (readiness = .coalescedIncompleteStatus)⟩
      have hnumber : added.reply.sequenceNumber = s.queue.nextSequenceNumber := rfl
      refine hok.add hclock hnumber fun hstatus => ?_
      simp only [added, ReplyQueue.addReply] at hstatus ⊢
      rw [if_pos (of_decide_eq_true hstatus)]
  | addFloodResend contactId replyKey text =>
      let added : AddedReply :=
        ⟨(s.queue.addFloodResend timing contactId replyKey text now).2, false⟩
      have hnumber : added.reply.sequenceNumber = s.queue.nextSequenceNumber := rfl
      exact hok.add hclock hnumber fun hstatus => by cases hstatus
  | putBack readyAt =>
      obtain ⟨reply, hheld⟩ := Option.isSome_iff_exists.mp hpromise
      exact hok.putBack hclock hheld readyAt
  | takeNextReadyReply => exact hok.take hclock
  | recordReplySent =>
      obtain ⟨reply, hheld⟩ := Option.isSome_iff_exists.mp hpromise
      exact hok.recordReplySent hclock hheld
  | nextReadyTime => exact hok.lose hclock
  | dropRepliesToContactsOtherThan existingContactIds => exact hok.lose hclock

end Steps

/-! ### Runs -/

/-- A worker that just started. -/
def startState (start : Seconds) : SenderState × ReplyLog := (⟨.empty, start, none⟩, {})

/-- The callers keep their promises throughout a history. -/
def IsAllowedHistory (timing : WorkerTiming) (start : Seconds)
    (history : List ((QueueCall × Seconds) × QueueResult)) : Prop :=
  Machine.Run.Always (loggedQueue timing) (fun s input => IsAllowedCall s.1 input)
    (startState start) history

instance (timing : WorkerTiming) (start : Seconds)
    (history : List ((QueueCall × Seconds) × QueueResult)) :
    Decidable (IsAllowedHistory timing start history) :=
  Machine.Run.Always.decidable _ _

section Runs

variable {timing : WorkerTiming} {start : Seconds}
  {history : List ((QueueCall × Seconds) × QueueResult)} {s : SenderState} {log : ReplyLog}

theorem repliesOk_of_run (run : (loggedQueue timing).Run (startState start) history (s, log))
    (hallowed : IsAllowedHistory timing start history) : RepliesOk timing s log := by
  have hstart : RepliesOk timing (startState start).1 (startState start).2 := by
    refine ⟨⟨?_, ?_, ?_, ?_, ?_, ?_, ?_, ?_⟩, ?_⟩ <;> simp [startState]
  have hboth := run.invariant (P := fun before reached =>
    IsAllowedHistory timing start before → RepliesOk timing reached.1 reached.2)
    (fun _ => hstart) ?_
  · exact hboth hallowed
  rintro before ⟨s, log⟩ input run' - hok hall
  obtain ⟨hbefore, hcall⟩ := (Machine.Run.always_snoc run' _).mp hall
  exact (hok hbefore).step hcall

/-- A pending reply has a latest reply of its request. -/
theorem RepliesOk.latestAdded (hok : RepliesOk timing s log) {reply : PendingReply}
    (hreply : reply ∈ s.queue) : ∃ a, log.latestAdded reply.identity = some a ∧
      (reply = { a.reply with readyAt := reply.readyAt } ∨
        WasDropped log a.reply.sequenceNumber) := by
  obtain ⟨b, hb, horigin⟩ := hok.pending.origin reply hreply
  have hidentity : b.reply.identity = reply.identity := by
    rw [horigin]
    rfl
  cases hlatest : log.latestAdded reply.identity with
  | none =>
      have hnot := List.find?_eq_none.mp hlatest b hb
      simp [hidentity] at hnot
  | some a =>
      refine ⟨a, rfl, (hok.pending.latest reply hreply a hlatest).imp_left fun hsame => ?_⟩
      have hnumber : a.reply.sequenceNumber = b.reply.sequenceNumber := by
        rw [hsame, horigin]
      obtain rfl := hok.pending.distinct a (ReplyLog.latestAdded_spec hlatest).1 b hb hnumber
      exact horigin

/-- **The rules of the reply queue.**  In every run whose callers keep their promises: one reply
per request is pending, and it is the latest one added unless that one was dropped; putting back
displaces none; a reply that is taken is ready and not expired, was not taken before without being
put back, is no incomplete status of the last seconds, and repeats no text sent in the last seconds;
and when none is taken, none will be ready before later. -/
theorem reply_queue_rules
    (run : (loggedQueue timing).Run (startState start) history (s, log))
    (hallowed : IsAllowedHistory timing start history) :
    (∀ reply ∈ s.queue.replies, ∀ other ∈ s.queue.replies,
      reply.identity = other.identity → reply = other) ∧
    (∀ reply ∈ s.queue.replies, ∃ a, log.latestAdded reply.identity = some a ∧
      (reply = { a.reply with readyAt := reply.readyAt } ∨
        WasDropped log a.reply.sequenceNumber)) ∧
    (∀ stale readyAt, ∀ reply ∈ s.queue.replies,
      reply ∈ (s.queue.putBack stale readyAt).1.replies) ∧
    ∀ now, s.clock ≤ now →
      (∀ queue' reply, s.queue.takeNextReadyReply timing now = (queue', some reply) →
        reply ∈ s.queue.replies ∧ reply ∉ queue'.replies ∧
        reply.readyAt ≤ now ∧ now < reply.expiresAt ∧
        reply.sequenceNumber ∉ log.released ∧
        (∀ a, log.latestAdded reply.identity = some a → a.isIncompleteStatus = true →
          a.reply.createdAt + timing.incompleteStatusCoalescingSeconds ≤ now ∨
            WasDropped log a.reply.sequenceNumber) ∧
        ∀ send ∈ log.sends, send.1.bypassesIdenticalReplySuppression = false →
          reply.bypassesIdenticalReplySuppression = false → send.1.contactId = reply.contactId →
          send.1.text = reply.text → send.2 + timing.identicalReplySuppressionSeconds ≤ now) ∧
      ∀ queue', s.queue.takeNextReadyReply timing now = (queue', none) →
        ∀ time, (queue'.nextReadyTime now).2 = some time → now < time := by
  have hok := repliesOk_of_run run hallowed
  refine ⟨fun reply hreply other hother hidentity => ?_, fun reply hreply => ?_,
    fun stale readyAt reply hreply => ?_,
    fun now hclock => ⟨fun queue' reply htake => ?_, fun queue' htake time htime => ?_⟩⟩
  · exact ReplyQueue.eq_of_identity (ReplyQueue.mem_replies.1 hreply)
      (ReplyQueue.mem_replies.1 hother) hidentity
  · exact hok.latestAdded (ReplyQueue.mem_replies.1 hreply)
  · rw [ReplyQueue.mem_replies] at hreply ⊢
    unfold ReplyQueue.putBack
    split
    · exact hreply
    · rename_i hfree
      refine ReplyQueue.mem_put.2 (Or.inr ⟨hreply, fun hidentity => (not_or.mp hfree).1 ?_⟩)
      exact ReplyQueue.isSome_lookup_iff.2 ⟨reply, hreply, hidentity⟩
  · have houtcome := ReplyQueue.takeNextReadyReply_outcome timing s.queue now
    rw [htake] at houtcome
    obtain ⟨hlive, hready, hfresh⟩ := houtcome.ready reply rfl
    obtain ⟨hmem, hexpires⟩ := ReplyQueue.mem_liveReplies.1 hlive
    refine ⟨ReplyQueue.mem_replies.2 hmem, fun hleft => ?_, hready, hexpires,
      hok.pending.released reply hmem, fun a ha hstatus => ?_,
      fun send hsend hsent hbypass hcontact htext => ?_⟩
    · exact ((houtcome.mem reply).mp (ReplyQueue.mem_replies.1 hleft)).2.2 rfl
    · refine (hok.pending.latest reply hmem a ha).imp_left fun hsame => ?_
      have hadded := (ReplyLog.latestAdded_spec ha).1
      rcases hok.pending.coalesced reply hmem with h | h
      · exact (h a hadded hsame hstatus).trans hready
      · exact (h a hadded hsame hstatus).trans hclock
    · rcases (hok.pending.sends send hsend hsent).2 with hold | ⟨sentAt, hfound, hle⟩
      · exact hold.trans hclock
      · have hframe := s.queue.frame_deleteAll
          ((s.queue.replies.filter fun reply => reply.expiresAt ≤ now).map PendingReply.identity)
        unfold ReplyQueue.repeatsARecentlySentText at hfresh
        rw [if_neg (by simp [hbypass]), ReplyQueue.dropExpiredReplies, hframe.1, ← hcontact,
          ← htext, hfound] at hfresh
        have hwindow := of_decide_eq_false hfresh
        rw [not_lt] at hwindow
        linarith
  · have houtcome := ReplyQueue.takeNextReadyReply_outcome timing s.queue now
    rw [htake] at houtcome
    obtain ⟨hmem, -⟩ := List.min?_eq_some_iff.mp htime
    obtain ⟨reply, hreply, rfl⟩ := List.mem_map.mp hmem
    obtain ⟨hleft, -⟩ := ReplyQueue.mem_dropExpiredReplies.1 (ReplyQueue.mem_replies.1 hreply)
    have hbefore := ReplyQueue.mem_dropExpiredReplies.1 ((houtcome.mem reply).mp hleft).1
    exact houtcome.waiting rfl reply (ReplyQueue.mem_liveReplies.2 hbefore) hleft

end Runs

/-! ### A stale reply is put back -/

def sampleTiming : WorkerTiming := {}

def sampleReplyKey : Text := "q:bob".toList

/-- The log and the queue after these calls of a worker that just started. -/
def sampleCalls (calls : List (QueueCall × Seconds)) : SenderState × ReplyLog :=
  ((loggedQueue sampleTiming).exec (startState 0) calls).2

/-- What was called and returned. -/
def sampleCallHistory (calls : List (QueueCall × Seconds)) :
    List ((QueueCall × Seconds) × QueueResult) :=
  ((loggedQueue sampleTiming).exec (startState 0) calls).1

theorem run_sampleCalls (calls : List (QueueCall × Seconds)) :
    (loggedQueue sampleTiming).Run (startState 0) (sampleCallHistory calls)
      ((sampleCalls calls).1, (sampleCalls calls).2) :=
  (loggedQueue sampleTiming).run_exec (startState 0) calls

/-- While a reply is on its way to the node, a newer one to the same request comes in and is dropped
because the contact was deleted; the node's packet pool is full, and the older reply is put back. -/
def sampleStalePutBack : List (QueueCall × Seconds) :=
  [(.addReply 1 sampleReplyKey "HT1 q bob 0".toList .immediate, 0), (.takeNextReadyReply, 1),
    (.addReply 1 sampleReplyKey "HT1 q bob 1".toList .immediate, 2),
    (.dropRepliesToContactsOtherThan [], 3), (.putBack 8, 4)]

/-- **A pending reply need not be the latest one**: the latest one may have been dropped. -/
theorem stale_reply_put_back_sampleStalePutBack :
    ¬ ∀ (timing : WorkerTiming) (start : Seconds)
        (history : List ((QueueCall × Seconds) × QueueResult)) (s : SenderState) (log : ReplyLog),
        (loggedQueue timing).Run (startState start) history (s, log) →
        IsAllowedHistory timing start history →
        ∀ reply ∈ s.queue.replies, ∃ a, log.latestAdded reply.identity = some a ∧
          a.reply.sequenceNumber = reply.sequenceNumber := by
  intro hlatest
  have hall := hlatest sampleTiming 0 _ _ _ (run_sampleCalls sampleStalePutBack)
    (by decide +kernel)
  have hstale : (sampleCalls sampleStalePutBack).1.queue.replies.any (fun reply =>
      ((sampleCalls sampleStalePutBack).2.latestAdded reply.identity).all fun a =>
        a.reply.sequenceNumber ≠ reply.sequenceNumber) = true := by decide +kernel
  obtain ⟨reply, hreply, hnot⟩ := List.any_eq_true.mp hstale
  obtain ⟨a, ha, hsame⟩ := hall reply hreply
  rw [ha] at hnot
  simp [hsame] at hnot

/-- Two answers to a request: the second one is the one that is taken. -/
def sampleReplacement : List (QueueCall × Seconds) :=
  [(.addReply 1 sampleReplyKey "HT1 q bob 0".toList .immediate, 0),
    (.addReply 1 sampleReplyKey "HT1 q bob 1".toList .immediate, 2)]

theorem reply_queue_rules_sampleReplacement :
    (sampleCalls sampleReplacement).1.queue.replies.map PendingReply.text =
        ["HT1 q bob 1".toList] ∧
      ∀ reply ∈ (sampleCalls sampleReplacement).1.queue.replies,
        ∃ a, (sampleCalls sampleReplacement).2.latestAdded reply.identity = some a ∧
          (reply = { a.reply with readyAt := reply.readyAt } ∨
            WasDropped (sampleCalls sampleReplacement).2 a.reply.sequenceNumber) :=
  ⟨by decide +kernel,
    (reply_queue_rules (run_sampleCalls sampleReplacement) (by decide +kernel)).2.1⟩

end HoptalkRelay
