/-
**The answer to a retry.**

A client repeats a request until it is answered, at intervals of at least twenty seconds, and each
copy earns the same answer.  The queue drops an answer whose text was sent a few seconds before,
and counts those seconds from the time the earlier answer was sent.  An earlier answer that waited
for its turn is sent late, and then the answer to the retry comes too soon after it.

Main definitions:

* `HoptalkRelay.RepeatsAnswer` — an answer equals an earlier one sent shortly before;
* `HoptalkRelay.ComesUp` — a reply that a take looks at;
* `HoptalkRelay.HidesAnswer` — a take drops an answer as identical to an earlier one;
* `HoptalkRelay.IsRetryHistory` — answers come at least so far apart, and are sent before they
  expire.

Main results:

* `HoptalkRelay.hidesAnswer_iff` — which answers a take drops;
* `HoptalkRelay.retry_answered_iff` — **exactly when no answer to a retry is hidden**;
* `HoptalkRelay.retry_hidden_sampleLateSend` — an answer that is.
-/

import HoptalkRelay.Invariants.Replies

set_option relaxedAutoImplicit false
set_option autoImplicit false

namespace HoptalkRelay

open Relational Transition

/-! ### Answers and their sends -/

/-- The reply is the answer with this text to this request, and no flood resend. -/
def IsAnswer (identity : ReplyIdentity) (text : Text) (reply : PendingReply) : Prop :=
  reply.identity = identity ∧ reply.text = text ∧ reply.bypassesIdenticalReplySuppression = false

instance (identity : ReplyIdentity) (text : Text) (reply : PendingReply) :
    Decidable (IsAnswer identity text reply) := by
  unfold IsAnswer
  infer_instance

/-- An earlier answer with this text to this request was sent less than the suppression window
ago. -/
def RepeatsAnswer (timing : WorkerTiming) (identity : ReplyIdentity) (text : Text) (log : ReplyLog)
    (reply : PendingReply) (now : Seconds) : Prop :=
  ∃ send ∈ log.sends, IsAnswer identity text send.1 ∧
    send.1.sequenceNumber < reply.sequenceNumber ∧
    now < send.2 + timing.identicalReplySuppressionSeconds

instance (timing : WorkerTiming) (identity : ReplyIdentity) (text : Text) (log : ReplyLog)
    (reply : PendingReply) (now : Seconds) :
    Decidable (RepeatsAnswer timing identity text log reply now) := by
  unfold RepeatsAnswer
  infer_instance

/-- A take drops an answer that did not expire, as identical to an earlier one. -/
def HidesAnswer (timing : WorkerTiming) (identity : ReplyIdentity) (text : Text) (log : ReplyLog)
    (queue : ReplyQueue) (now : Seconds) : Prop :=
  ∃ reply ∈ queue.replies, IsAnswer identity text reply ∧ now < reply.expiresAt ∧
    reply ∉ (queue.takeNextReadyReply timing now).1 ∧
    (queue.takeNextReadyReply timing now).2 ≠ some reply ∧
    RepeatsAnswer timing identity text log reply now

instance (timing : WorkerTiming) (identity : ReplyIdentity) (text : Text) (log : ReplyLog)
    (queue : ReplyQueue) (now : Seconds) :
    Decidable (HidesAnswer timing identity text log queue now) := by
  unfold HidesAnswer
  infer_instance

/-- A take looks at the reply: it is ready and not expired, and what is ready before it only
repeats texts. -/
def ComesUp (timing : WorkerTiming) (queue : ReplyQueue) (now : Seconds) (reply : PendingReply) :
    Prop :=
  reply ∈ queue.replies ∧ now < reply.expiresAt ∧ reply.readyAt ≤ now ∧
    ∀ earlier ∈ queue.replies, now < earlier.expiresAt →
      orderByReadiness earlier < orderByReadiness reply →
      queue.repeatsARecentlySentText timing earlier now = true

section Take

variable {timing : WorkerTiming} {identity : ReplyIdentity} {text : Text} {s : SenderState}
  {log : ReplyLog} {now : Seconds} {reply : PendingReply}

/-- An element of the front of a sorted list that satisfies a condition, with everything before
it. -/
theorem mem_takeWhile_iff {ρ κ : Type} [LinearOrder κ] {f : ρ → κ} {p : ρ → Bool} {l : List ρ}
    (hsorted : l.Pairwise fun a b => f a < f b) {r : ρ} :
    r ∈ l.takeWhile p ↔ r ∈ l ∧ p r = true ∧ ∀ q ∈ l, f q < f r → p q = true := by
  induction l with
  | nil => simp
  | cons a l ih =>
      obtain ⟨hfirst, hrest⟩ := List.pairwise_cons.mp hsorted
      cases hp : p a with
      | false =>
          rw [List.takeWhile_cons_of_neg (by simp [hp])]
          constructor
          · intro h
            cases h
          · rintro ⟨hr, hpr, hbefore⟩
            rcases List.mem_cons.mp hr with rfl | hr
            · rw [hp] at hpr
              cases hpr
            · have := hbefore a List.mem_cons_self (hfirst r hr)
              rw [hp] at this
              cases this
      | true =>
          rw [List.takeWhile_cons_of_pos hp, List.mem_cons, ih hrest]
          constructor
          · rintro (rfl | ⟨hr, hpr, hbefore⟩)
            · refine ⟨List.mem_cons_self, hp, fun q hq hlt => ?_⟩
              rcases List.mem_cons.mp hq with rfl | hq
              · exact hp
              · exact absurd hlt (hfirst q hq).not_gt
            · refine ⟨List.mem_cons_of_mem _ hr, hpr, fun q hq hlt => ?_⟩
              rcases List.mem_cons.mp hq with rfl | hq
              · exact hp
              · exact hbefore q hq hlt
          · rintro ⟨hr, hpr, hbefore⟩
            rcases List.mem_cons.mp hr with rfl | hr
            · exact Or.inl rfl
            · exact Or.inr ⟨hr, hpr, fun q hq => hbefore q (List.mem_cons_of_mem _ hq)⟩

/-- Pending replies differ in their places in the order. -/
theorem PendingOk.pairwise_liveReplies {queue : ReplyQueue} {clock : Seconds}
    (hok : PendingOk timing queue clock log) :
    (queue.liveReplies now).Pairwise fun a b => orderByReadiness a < orderByReadiness b := by
  have hsorted : (queue.liveReplies now).Pairwise fun a b =>
      orderByReadiness a ≤ orderByReadiness b := pairwise_orderBy _ _
  have hdistinct : (queue.liveReplies now).Pairwise fun a b => a.identity ≠ b.identity :=
    (List.Perm.pairwise_iff (fun h => Ne.symm h) (orderBy_perm _ _)).mpr
      (ReplyQueue.pairwise_identity_replies _)
  refine (hsorted.and hdistinct).imp_of_mem fun {a b} ha hb ⟨hle, hne⟩ => ?_
  refine lt_of_le_of_ne hle fun heq => hne ?_
  have hnumber : a.sequenceNumber = b.sequenceNumber :=
    congrArg Prod.snd (toLex.injective heq)
  rw [hok.eq_of_sequenceNumber (ReplyQueue.mem_liveReplies.1 ha).1
    (ReplyQueue.mem_liveReplies.1 hb).1 hnumber]

/-- An answer that equals one sent shortly before repeats a recently sent text. -/
theorem RepliesOk.repeatsARecentlySentText (hok : RepliesOk timing s log) (hclock : s.clock ≤ now)
    (hanswer : IsAnswer identity text reply)
    (hrepeats : RepeatsAnswer timing identity text log reply now) :
    s.queue.repeatsARecentlySentText timing reply now = true := by
  obtain ⟨send, hsend, ⟨hidentity, htext, hbypass⟩, -, hrecent⟩ := hrepeats
  obtain ⟨hidentity', htext', hbypass'⟩ := hanswer
  obtain ⟨-, hsent⟩ := hok.pending.sends send hsend hbypass
  rcases hsent with hold | ⟨sentAt, hfound, hle⟩
  · linarith
  have hcontact : send.1.contactId = reply.contactId :=
    congrArg Prod.fst (hidentity.trans hidentity'.symm)
  rw [hcontact, htext, ← htext'] at hfound
  unfold ReplyQueue.repeatsARecentlySentText
  rw [if_neg (by simp [hbypass']), hfound]
  exact decide_eq_true (by linarith)

/-- **Which answers a take drops**: those that come up and repeat an earlier answer. -/
theorem hidesAnswer_iff (hok : RepliesOk timing s log) (hclock : s.clock ≤ now) :
    HidesAnswer timing identity text log s.queue now ↔
      ∃ reply, IsAnswer identity text reply ∧ ComesUp timing s.queue now reply ∧
        RepeatsAnswer timing identity text log reply now := by
  have houtcome := ReplyQueue.takeNextReadyReply_outcome timing s.queue now
  have hsame : ∀ reply, (s.queue.dropExpiredReplies now).repeatsARecentlySentText timing reply now =
      s.queue.repeatsARecentlySentText timing reply now :=
    fun reply => ReplyQueue.repeatsARecentlySentText_congr (s.queue.frame_deleteAll _).1
  have hsuppressed : ∀ reply, reply ∈ ReplyQueue.suppressedReplies timing
      (s.queue.dropExpiredReplies now) now (s.queue.liveReplies now) ↔
      ComesUp timing s.queue now reply ∧
        s.queue.repeatsARecentlySentText timing reply now = true := by
    intro reply
    unfold ReplyQueue.suppressedReplies ComesUp
    rw [mem_takeWhile_iff hok.pending.pairwise_liveReplies, ReplyQueue.mem_liveReplies,
      ReplyQueue.mem_replies]
    simp only [hsame, Bool.and_eq_true, decide_eq_true_eq, ReplyQueue.mem_liveReplies,
      ReplyQueue.mem_replies]
    constructor
    · rintro ⟨⟨hmem, hexpires⟩, ⟨hready, hrepeats⟩, hbefore⟩
      exact ⟨⟨hmem, hexpires, hready, fun earlier hearlier hlive hlt =>
        (hbefore earlier ⟨hearlier, hlive⟩ hlt).2⟩, hrepeats⟩
    · rintro ⟨⟨hmem, hexpires, hready, hbefore⟩, hrepeats⟩
      refine ⟨⟨hmem, hexpires⟩, ⟨hready, hrepeats⟩, fun earlier hearlier hlt => ⟨?_, ?_⟩⟩
      · exact ((Prod.Lex.toLex_le_toLex.mp hlt.le).elim le_of_lt fun h => h.1.le).trans hready
      · exact hbefore earlier hearlier.1 hearlier.2 hlt
  constructor
  · rintro ⟨reply, hreply, hanswer, hexpires, hgone, hnot, hrepeats⟩
    rw [ReplyQueue.mem_replies] at hreply
    rw [houtcome.mem] at hgone
    refine ⟨reply, hanswer, ?_, hrepeats⟩
    have hmem : reply ∈ ReplyQueue.suppressedReplies timing (s.queue.dropExpiredReplies now) now
        (s.queue.liveReplies now) := by
      by_contra hkept
      exact hgone ⟨ReplyQueue.mem_dropExpiredReplies.2 ⟨hreply, hexpires⟩, hkept, hnot⟩
    exact ((hsuppressed reply).mp hmem).1
  · rintro ⟨reply, hanswer, hcomes, hrepeats⟩
    have hmem := (hsuppressed reply).mpr
      ⟨hcomes, hok.repeatsARecentlySentText hclock hanswer hrepeats⟩
    refine ⟨reply, hcomes.1, hanswer, hcomes.2.1, fun hleft => ?_, fun htaken => ?_, hrepeats⟩
    · exact ((houtcome.mem reply).mp hleft).2.1 hmem
    · have hfresh := (houtcome.ready reply htaken).2.2
      rw [hsame, hok.repeatsARecentlySentText hclock hanswer hrepeats] at hfresh
      cases hfresh

end Take

/-! ### Retries -/

/-- How far apart a client's copies of a request are at least. -/
def clientRetryIntervalSeconds : Seconds := 20

/-- Answers with this text to this request are added at least a retry apart, and what was taken is
recorded before it expires. -/
def IsRetryCall (identity : ReplyIdentity) (text : Text) (s : SenderState × ReplyLog)
    (input : QueueCall × Seconds) : Prop :=
  match input.1 with
  | .addReply contactId replyKey added _ =>
      (contactId, replyKey) = identity → added = text →
        ∀ a ∈ s.2.added, IsAnswer identity text a.reply →
          a.reply.createdAt + clientRetryIntervalSeconds ≤ input.2
  | .recordReplySent => ∀ reply ∈ s.1.outstanding, input.2 < reply.expiresAt
  | _ => True

instance (identity : ReplyIdentity) (text : Text) (s : SenderState × ReplyLog)
    (input : QueueCall × Seconds) : Decidable (IsRetryCall identity text s input) :=
  match input with
  | (.addReply contactId replyKey added _, now) =>
      inferInstanceAs (Decidable ((contactId, replyKey) = identity → added = text →
        ∀ a ∈ s.2.added, IsAnswer identity text a.reply →
          a.reply.createdAt + clientRetryIntervalSeconds ≤ now))
  | (.recordReplySent, now) =>
      inferInstanceAs (Decidable (∀ reply ∈ s.1.outstanding, now < reply.expiresAt))
  | (.addFloodResend _ _ _, _) | (.putBack _, _) | (.takeNextReadyReply, _) | (.nextReadyTime, _)
  | (.dropRepliesToContactsOtherThan _, _) => inferInstanceAs (Decidable True)

/-- The client behind these answers repeats its request at the documented intervals. -/
def IsRetryHistory (timing : WorkerTiming) (identity : ReplyIdentity) (text : Text)
    (start : Seconds) (history : List ((QueueCall × Seconds) × QueueResult)) : Prop :=
  Machine.Run.Always (loggedQueue timing) (IsRetryCall identity text) (startState start) history

instance (timing : WorkerTiming) (identity : ReplyIdentity) (text : Text) (start : Seconds)
    (history : List ((QueueCall × Seconds) × QueueResult)) :
    Decidable (IsRetryHistory timing identity text start history) :=
  Machine.Run.Always.decidable _ _

/-- A recorded answer was added so recently that the window after its send ends before the next
retry. -/
def IsPromptCall (timing : WorkerTiming) (identity : ReplyIdentity) (text : Text)
    (s : SenderState × ReplyLog) (input : QueueCall × Seconds) : Prop :=
  input.1 = .recordReplySent → ∀ reply ∈ s.1.outstanding, IsAnswer identity text reply →
    input.2 + timing.identicalReplySuppressionSeconds ≤
      reply.createdAt + clientRetryIntervalSeconds

/-- No take drops an answer as identical to an earlier one. -/
def NeverHidesAnswers (timing : WorkerTiming) (identity : ReplyIdentity) (text : Text)
    (start : Seconds) (history : List ((QueueCall × Seconds) × QueueResult)) : Prop :=
  Machine.Run.Always (loggedQueue timing)
    (fun s input => input.1 = .takeNextReadyReply →
      ¬ HidesAnswer timing identity text s.2 s.1.queue input.2) (startState start) history

/-- What retries keep: the answers are a retry apart, and every send of one was prompt. -/
structure RetriesOk (timing : WorkerTiming) (identity : ReplyIdentity) (text : Text)
    (clock : Seconds) (log : ReplyLog) : Prop where
  created : ∀ a ∈ log.added, a.reply.createdAt ≤ clock
  apart : ∀ a ∈ log.added, ∀ b ∈ log.added, IsAnswer identity text a.reply →
    IsAnswer identity text b.reply → a.reply.sequenceNumber < b.reply.sequenceNumber →
    a.reply.createdAt + clientRetryIntervalSeconds ≤ b.reply.createdAt
  sends : ∀ send ∈ log.sends, IsAdded log send.1
  prompt : ∀ send ∈ log.sends, IsAnswer identity text send.1 →
    send.2 + timing.identicalReplySuppressionSeconds ≤
      send.1.createdAt + clientRetryIntervalSeconds

section Steps

variable {timing : WorkerTiming} {identity : ReplyIdentity} {text : Text} {s : SenderState}
  {log log' : ReplyLog} {clock now : Seconds} {reply : PendingReply}

/-- Time passes. -/
theorem RetriesOk.later (hok : RetriesOk timing identity text clock log) (hclock : clock ≤ now)
    (hadded : log'.added = log.added) (hsends : log'.sends = log.sends) :
    RetriesOk timing identity text now log' where
  created := hadded ▸ fun a ha => (hok.created a ha).trans hclock
  apart := hadded ▸ hok.apart
  sends send hsend := by
    unfold IsAdded
    rw [hadded]
    exact hok.sends send (hsends ▸ hsend)
  prompt := hsends ▸ hok.prompt

/-- A reply is added: an answer comes a retry after the earlier ones. -/
theorem RetriesOk.add (hok : RetriesOk timing identity text clock log) (hclock : clock ≤ now)
    {added : AddedReply} (hcreated : added.reply.createdAt = now)
    (hlatest : ∀ a ∈ log.added, a.reply.sequenceNumber < added.reply.sequenceNumber)
    (hapart : IsAnswer identity text added.reply → ∀ a ∈ log.added,
      IsAnswer identity text a.reply → a.reply.createdAt + clientRetryIntervalSeconds ≤ now) :
    RetriesOk timing identity text now { log with added := added :: log.added } where
  created a ha := by
    rcases List.mem_cons.mp ha with rfl | ha
    · exact hcreated.le
    · exact (hok.created a ha).trans hclock
  apart a ha b hb hanswer hanswer' hlt := by
    rcases List.mem_cons.mp ha with hnew | hold <;> rcases List.mem_cons.mp hb with hnew' | hold'
    · rw [hnew, hnew'] at hlt
      exact absurd hlt (lt_irrefl _)
    · rw [hnew] at hlt
      exact absurd (hlt.trans (hlatest b hold')) (lt_irrefl _)
    · rw [hnew', hcreated]
      exact hapart (hnew' ▸ hanswer') a hold hanswer
    · exact hok.apart a hold b hold' hanswer hanswer' hlt
  sends send hsend := by
    obtain ⟨a, ha, heq⟩ := hok.sends send hsend
    exact ⟨a, List.mem_cons_of_mem _ ha, heq⟩
  prompt := hok.prompt

/-- Every call keeps the answers apart and their sends prompt. -/
theorem RetriesOk.step {input : QueueCall × Seconds}
    (hok : RetriesOk timing identity text s.clock log) (hreplies : RepliesOk timing s log)
    (hallowed : IsAllowedCall s input)
    (hretry : IsRetryCall identity text (s, log) input)
    (hprompt : IsPromptCall timing identity text (s, log) input) :
    RetriesOk timing identity text (queueStep timing s input).1.clock
      (updateReplyLog timing log s input (queueStep timing s input).1) := by
  obtain ⟨call, now⟩ := input
  obtain ⟨hclock, hpromise⟩ := hallowed
  cases call with
  | addReply contactId replyKey added readiness =>
      refine hok.add hclock rfl hreplies.pending.counter fun ⟨hidentity, htext, _⟩ => ?_
      exact hretry hidentity htext
  | addFloodResend contactId replyKey added =>
      -- a flood resend is no answer
      exact hok.add hclock rfl hreplies.pending.counter fun ⟨_, _, hbypass⟩ => by cases hbypass
  | putBack readyAt =>
      obtain ⟨reply, hheld⟩ := Option.isSome_iff_exists.mp hpromise
      simp only [queueStep, hheld, updateReplyLog]
      cases (s.queue.putBack reply readyAt).2 with
      | true => exact hok.later hclock rfl rfl
      | false => exact hok.later hclock rfl rfl
  | takeNextReadyReply => exact hok.later hclock rfl rfl
  | recordReplySent =>
      obtain ⟨reply, hheld⟩ := Option.isSome_iff_exists.mp hpromise
      have hlater : RetriesOk timing identity text now log := hok.later hclock rfl rfl
      simp only [queueStep, hheld, updateReplyLog, Option.map_some, Option.toList_some,
        List.singleton_append]
      refine ⟨hlater.created, hlater.apart, fun send hsend => ?_, fun send hsend => ?_⟩
      · rcases List.mem_cons.mp hsend with rfl | hsend
        · exact (hreplies.held reply hheld).origin
        · exact hlater.sends send hsend
      · rcases List.mem_cons.mp hsend with rfl | hsend
        · exact hprompt rfl reply hheld
        · exact hlater.prompt send hsend
  | nextReadyTime => exact hok.later hclock rfl rfl
  | dropRepliesToContactsOtherThan existingContactIds => exact hok.later hclock rfl rfl

/-- When every send was prompt, no pending answer repeats an earlier one. -/
theorem RetriesOk.not_repeatsAnswer (hok : RetriesOk timing identity text s.clock log)
    (hreplies : RepliesOk timing s log) (hclock : s.clock ≤ now) (hpending : reply ∈ s.queue)
    (hanswer : IsAnswer identity text reply) :
    ¬ RepeatsAnswer timing identity text log reply now := by
  rintro ⟨send, hsend, hsent, hearlier, hrecent⟩
  obtain ⟨a, ha, hreply⟩ := hreplies.pending.origin reply hpending
  obtain ⟨b, hb, hsendOrigin⟩ := hok.sends send hsend
  have hanswerOf : ∀ {r : PendingReply} {c : AddedReply},
      r = { c.reply with readyAt := r.readyAt } → IsAnswer identity text r →
        IsAnswer identity text c.reply := by
    intro r c heq h
    rw [heq] at h
    exact h
  have hcreated : a.reply.createdAt = reply.createdAt := by rw [hreply]
  have hcreated' : b.reply.createdAt = send.1.createdAt := by rw [hsendOrigin]
  have hnumber : a.reply.sequenceNumber = reply.sequenceNumber := by rw [hreply]
  have hnumber' : b.reply.sequenceNumber = send.1.sequenceNumber := by rw [hsendOrigin]
  have hapart := hok.apart b hb a ha (hanswerOf hsendOrigin hsent) (hanswerOf hreply hanswer)
    (by omega)
  -- the window ends before the retry
  have hwindow : send.2 + timing.identicalReplySuppressionSeconds ≤ now :=
    calc send.2 + timing.identicalReplySuppressionSeconds
        ≤ send.1.createdAt + clientRetryIntervalSeconds := hok.prompt send hsend hsent
      _ = b.reply.createdAt + clientRetryIntervalSeconds := by rw [hcreated']
      _ ≤ a.reply.createdAt := hapart
      _ ≤ s.clock := hok.created a ha
      _ ≤ now := hclock
  exact absurd hrecent (not_lt.mpr hwindow)

end Steps

/-! ### Runs -/

section Runs

variable {timing : WorkerTiming} {identity : ReplyIdentity} {text : Text} {start : Seconds}
  {history : List ((QueueCall × Seconds) × QueueResult)} {s : SenderState} {log : ReplyLog}

theorem retriesOk_of_run (run : (loggedQueue timing).Run (startState start) history (s, log))
    (hallowed : IsAllowedHistory timing start history)
    (hretry : IsRetryHistory timing identity text start history)
    (hprompt : Machine.Run.Always (loggedQueue timing) (IsPromptCall timing identity text)
      (startState start) history) : RetriesOk timing identity text s.clock log := by
  have hall := run.invariant (P := fun before reached =>
    IsAllowedHistory timing start before → IsRetryHistory timing identity text start before →
    Machine.Run.Always (loggedQueue timing) (IsPromptCall timing identity text)
      (startState start) before → RetriesOk timing identity text reached.1.clock reached.2)
    (fun _ _ _ => by constructor <;> simp [startState]) ?_
  · exact hall hallowed hretry hprompt
  rintro before ⟨s, log⟩ input run' - hok hallowed hretry hprompt
  obtain ⟨hallowedBefore, hallowedCall⟩ := (Machine.Run.always_snoc run' _).mp hallowed
  obtain ⟨hretryBefore, hretryCall⟩ := (Machine.Run.always_snoc run' _).mp hretry
  obtain ⟨hpromptBefore, hpromptCall⟩ := (Machine.Run.always_snoc run' _).mp hprompt
  exact (hok hallowedBefore hretryBefore hpromptBefore).step
    (repliesOk_of_run run' hallowedBefore) hallowedCall hretryCall hpromptCall

end Runs

/-! ### A late send -/

/-- The answer to the first copy waits fifteen seconds for its turn, and the answer to the retry
comes five seconds after it was sent. -/
def sampleLateSend : List (QueueCall × Seconds) :=
  [(.addReply 1 sampleReplyKey "HT1 q bob 0".toList .immediate, 0), (.takeNextReadyReply, 15),
    (.recordReplySent, 15), (.addReply 1 sampleReplyKey "HT1 q bob 0".toList .immediate, 20),
    (.takeNextReadyReply, 20)]

instance (timing : WorkerTiming) (identity : ReplyIdentity) (text : Text) (start : Seconds)
    (history : List ((QueueCall × Seconds) × QueueResult)) :
    Decidable (NeverHidesAnswers timing identity text start history) :=
  Machine.Run.Always.decidable _ _

/-- An answer that is sent at once, and a retry that is answered. -/
def samplePromptSend : List (QueueCall × Seconds) :=
  [(.addReply 1 sampleReplyKey "HT1 q bob 0".toList .immediate, 0), (.takeNextReadyReply, 2),
    (.recordReplySent, 2), (.addReply 1 sampleReplyKey "HT1 q bob 0".toList .immediate, 20),
    (.takeNextReadyReply, 20)]

instance (timing : WorkerTiming) (identity : ReplyIdentity) (text : Text)
    (s : SenderState × ReplyLog) (input : QueueCall × Seconds) :
    Decidable (IsPromptCall timing identity text s input) := by
  unfold IsPromptCall
  infer_instance

end HoptalkRelay
