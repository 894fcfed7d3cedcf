/-
**What a stored message holds was sent.**

A message is created by the first of its parts and grows by the others.  The parts it holds came
from the device that created it, under its id, to its recipient; none of them is replaced, and
nothing of an accepted message changes any more.

Main definitions:

* `HoptalkRelay.receivedSetOf` — the parts a message holds;
* `HoptalkRelay.StoresPart` — what storing a part does;
* `HoptalkRelay.IsLaterMessage` — what may change about a message;
* `HoptalkRelay.Uploaded` — a part was sent.

Main results:

* `HoptalkRelay.step_messagePart` — every `M` is refused, or stores its part;
* `HoptalkRelay.holdsPart_of_reachable` — no stored message is empty;
* `HoptalkRelay.stored_parts_were_uploaded` — **no splice, and no change after acceptance**.
-/

import HoptalkRelay.Transactions.Steps

set_option relaxedAutoImplicit false
set_option autoImplicit false

namespace HoptalkRelay

open Relational Transition

/-! ### The received set -/

/-- One character per part: whether it is held. -/
def receivedSetOf (m : Message) : Text := m.partTexts.map fun t => if t.isSome then '1' else '0'

/-- The mask after some parts more has their bits as well. -/
theorem testBit_foldl_heldParts (partTexts : List (Option Text)) (start mask i : ℕ) :
    ((partTexts.zipIdx start).foldl (fun mask part =>
      match part with
      | (some _, partIndex) => mask ||| 2 ^ partIndex
      | (none, _) => mask) mask).testBit i =
    (mask.testBit i || decide (start ≤ i) && (partTexts.getD (i - start) none).isSome) := by
  induction partTexts generalizing start mask with
  | nil => simp
  | cons partText partTexts ih =>
      rw [List.zipIdx_cons, List.foldl_cons, ih]
      rcases lt_trichotomy start i with hlt | rfl | hgt
      · -- the bit belongs to one of the other parts
        have hindex : i - start = i - (start + 1) + 1 := by omega
        have hle : start + 1 ≤ i := hlt
        cases partText <;> simp [hindex, hlt.le, hle, hlt.ne]
      · cases partText <;> simp
      · have hle : ¬ start + 1 ≤ i := by omega
        cases partText <;> simp [hgt.not_ge, hle, hgt.ne']

theorem testBit_heldPartsMask (partTexts : List (Option Text)) (i : ℕ) :
    (heldPartsMask partTexts).testBit i = (partTexts.getD i none).isSome := by
  refine (testBit_foldl_heldParts partTexts 0 0 i).trans ?_
  simp

/-- **The received set says which parts are held.** -/
theorem buildReceivedSet_eq {m : Message} (hparts : m.partTexts.length = m.partCount.val) :
    buildReceivedSet m = .ok (receivedSetOf m) := by
  have hlt : heldPartsMask m.partTexts < 2 ^ m.partCount.val := by
    refine Nat.lt_pow_two_of_testBit _ fun i hi => ?_
    rw [testBit_heldPartsMask, List.getD_eq_getElem?_getD, List.getElem?_eq_none (hparts ▸ hi)]
    rfl
  have hle : heldPartsMask m.partTexts ≤ calculateAllPartsMask m.partCount := by
    unfold calculateAllPartsMask
    omega
  have hset : (List.range m.partCount.val).map (fun partIndex =>
      if (heldPartsMask m.partTexts).testBit partIndex then '1' else '0') = receivedSetOf m := by
    refine List.ext_getElem (by simp [receivedSetOf, hparts]) fun i hi hi' => ?_
    simp only [receivedSetOf, List.length_map] at hi'
    simp [receivedSetOf, testBit_heldPartsMask, hi']
  rw [buildReceivedSet, convertPartsMaskToReceivedSet, if_pos hle, hset]

/-- The set of a message whose every part is held is all ones. -/
theorem receivedSetOf_eq_replicate {m : Message} (hparts : m.partTexts.length = m.partCount.val) :
    receivedSetOf m = List.replicate m.partCount.val '1' ↔ ∀ t ∈ m.partTexts, t.isSome := by
  rw [receivedSetOf, ← hparts, ← List.map_const, List.map_inj_left]
  refine forall₂_congr fun t _ => ?_
  cases t <;> simp

/-! ### What an `M` does -/

/-- The part completes the message. -/
def Completes (m : Message) (part : MessagePartRequest) (now : Time) : Prop :=
  m.acceptedAt = none ∧ ∀ t ∈ (messageWithPart m part now).partTexts, t.isSome

/-- A message is about to be created for the part. -/
structure IsFirstPart (db : Db) (deviceId : ℕ) (part : MessagePartRequest) (now : Time)
    (m : Message) : Prop where
  new : m = newMessage m.senderId m.recipientId deviceId m.clientMessageId m.partCount now
    db.messages.nextKey
  unused : ∀ n ∈ db.messages,
    ¬ (n.senderId = m.senderId ∧ n.clientMessageId = m.clientMessageId)

/-- A part is stored in its message, which becomes another row. -/
structure StoresPart (input : Input) (db db' : Db) (deviceId : ℕ) (part : MessagePartRequest)
    (now : Time) (m m' : Message) : Prop where
  upload : PartUpload input db deviceId part m.senderId m.recipientId now
  fits : PartFits m m.recipientId deviceId part
  id : m.clientMessageId.val = part.messageId
  parts : m.partTexts.length = m.partCount.val
  origin : m ∈ db.messages ∨ IsFirstPart db deviceId part now m
  rows : ∀ n, n ∈ db'.messages ↔ n = m' ∨ n ∈ db.messages ∧ n.id ≠ m.id
  result : ¬ Completes m part now ∧ m' = messageWithPart m part now ∧
      db'.deliveries = db.deliveries ∨
    Completes m part now ∧ m' = acceptedMessage (messageWithPart m part now) now
  unchanged : m.acceptedAt.isSome → db' = db

/-- How an `M` ends. -/
inductive PartStep (input : Input) (db : Db) (deviceId : ℕ) (part : MessagePartRequest)
    (now : Time) : Db → Outcome → Prop
  | failed (serviceError : ServiceError) :
      PartStep input db deviceId part now db (.failed serviceError)
  | refused (errorCode : ErrorCode) (reason : Text)
      (hcode : errorCode = .idConflict ∨ errorCode ∈ partRefusals)
      (hsigned : errorCode = .notSignedIn → db.deviceUserId deviceId = none) :
      PartStep input db deviceId part now db
        (.partAnswered (buildPartErrorOutcome errorCode part reason))
  | stored {m n : Message} {recipient : User} {db' : Db} {outcome : MessagePartOutcome}
      (stores : StoresPart input db db' deviceId part now m n)
      (hrecipient : db.users.get? m.recipientId = some recipient)
      (hreply : outcome.reply =
        .sendStatusReply recipient.username.val part.messageId (receivedSetOf n)) :
      PartStep input db deviceId part now db' (.partAnswered outcome)

section MessagePart

variable {hashing : PasswordHashing} {input : Input} {db : Db} {deviceId : ℕ}
  {part : MessagePartRequest} {now : Time}

theorem StoresPart.keeps {db' : Db} {m m' : Message}
    (h : StoresPart input db db' deviceId part now m m') :
    m'.id = m.id ∧ m'.senderId = m.senderId ∧ m'.recipientId = m.recipientId ∧
      m'.clientMessageId = m.clientMessageId ∧ m'.partCount = m.partCount ∧
      m'.senderDeviceId = m.senderDeviceId ∧
      m'.partTexts = (messageWithPart m part now).partTexts := by
  rcases h.result with ⟨-, rfl, -⟩ | ⟨-, rfl⟩ <;> exact ⟨rfl, rfl, rfl, rfl, rfl, rfl, rfl⟩

/-- Replacing the locked message, seen from the database before it was locked. -/
theorem LockedMessage.mem_put_iff {senderId recipientId : ℕ} {partCount : PartCount} {db' : Db}
    {m : Message} (h : LockedMessage db senderId recipientId deviceId part partCount now db' m)
    (m' : Message) (hid : m'.id = m.id) {n : Message} :
    n ∈ db'.messages.put m' ↔ n = m' ∨ n ∈ db.messages ∧ n.id ≠ m.id := by
  have hmem := h.spec.1
  have hput : n ∈ db'.messages.put m' ↔ n = m' ∨ n ∈ db'.messages ∧ n.id ≠ m.id :=
    Table.mem_put_iff hmem hid
  cases h with
  | existing hm hsender hid => exact hput
  | created hid hnew =>
      rw [hput, Table.mem_insert (h := fun _ => rfl)]
      refine or_congr_right ⟨?_, fun ⟨hn, hne⟩ => ⟨Or.inl hn, hne⟩⟩
      rintro ⟨hn | rfl, hne⟩
      · exact ⟨hn, hne⟩
      · exact absurd rfl hne

/-- Where the locked message comes from. -/
theorem LockedMessage.origin {senderId recipientId : ℕ} {partCount : PartCount} {db' : Db}
    {m : Message} (h : LockedMessage db senderId recipientId deviceId part partCount now db' m) :
    db'.deliveries = db.deliveries ∧
      (m ∈ db.messages ∧ db' = db ∨ IsFirstPart db deviceId part now m ∧ m.acceptedAt = none) := by
  cases h with
  | existing hm => exact ⟨rfl, Or.inl ⟨hm, rfl⟩⟩
  | created hid hnew => exact ⟨rfl, Or.inr ⟨⟨rfl, hnew⟩, rfl⟩⟩

theorem lockSenderRecipientAndDevice_eq {senderId recipientId : ℕ}
    (hsender : (db.users.get? senderId).isSome) (hrecipient : (db.users.get? recipientId).isSome)
    (hne : senderId ≠ recipientId) (hlinked : db.deviceUserId deviceId = some senderId) :
    lockSenderRecipientAndDevice db senderId recipientId deviceId = .ok () := by
  have hlength : (db.users.filter fun user =>
      [senderId, recipientId].contains user.id).length = 2 := by
    rw [← Table.count_eq_length_filter]
    have hnodup : [senderId, recipientId].Nodup := by simpa using hne
    refine (Table.length_eq_count hnodup fun k => ⟨fun hk => ?_, ?_⟩).symm
    · have hsome : (db.users.get? k).isSome := by
        rcases List.mem_pair.1 hk with rfl | rfl
        · exact hsender
        · exact hrecipient
      obtain ⟨user, huser⟩ := Option.isSome_iff_exists.1 hsome
      have hid : user.id = k := Table.key_of_get? huser
      exact ⟨user, Table.mem_of_get? huser, by simpa [hid] using hk, hid⟩
    · rintro ⟨user, -, hmem, rfl⟩
      simpa using hmem
  unfold lockSenderRecipientAndDevice
  dsimp only
  rw [if_neg]
  rw [not_or, not_not, not_not]
  exact ⟨hlength, hlinked⟩

theorem length_partTexts_messageWithPart (m : Message) (part : MessagePartRequest) (now : Time) :
    (messageWithPart m part now).partTexts.length = m.partTexts.length := by
  rw [messageWithPart_partTexts]
  split
  · exact List.length_set
  · rfl

theorem storePartOfMessage_isOk (settings : RelaySettings) {m : Message} (recipient : User)
    (part : MessagePartRequest) (now : Time) (hm : m ∈ db.messages)
    (hparts : m.partTexts.length = m.partCount.val) :
    ∃ committed, storePartOfMessage settings db m recipient part now = .ok committed := by
  have hset : buildReceivedSet (messageWithPart m part now) =
      .ok (receivedSetOf (messageWithPart m part now)) :=
    buildReceivedSet_eq ((length_partTexts_messageWithPart m part now).trans hparts)
  have hmem : messageWithPart m part now ∈
      (db.putMessage (messageWithPart m part now)).messages :=
    Table.mem_put_self hm rfl
  have hsame : buildReceivedSet (acceptedMessage (messageWithPart m part now) now) =
      buildReceivedSet (messageWithPart m part now) := buildReceivedSet_congr rfl rfl
  unfold storePartOfMessage
  rw [storePart_of_mem hm]
  dsimp only
  split
  · dsimp only
    rw [acceptMessage_message hmem, hsame, hset]
    exact ⟨_, rfl⟩
  · dsimp only
    rw [hset]
    exact ⟨_, rfl⟩

/-- **No `M` with an id in range fails.** -/
theorem acceptMessagePart_isOk (settings : RelaySettings) (hdb : Consistent db) (deviceId : ℕ)
    (part : MessagePartRequest) (now : Time)
    (hid : messageIdMinimum ≤ part.messageId ∧ part.messageId ≤ messageIdMaximum) :
    ∃ committed, acceptMessagePart settings db deviceId part now = .ok committed := by
  unfold acceptMessagePart
  split
  · exact ⟨_, rfl⟩
  next senderId hsender =>
  split
  · exact ⟨_, rfl⟩
  next recipient hrecipient =>
  split
  · exact ⟨_, rfl⟩
  next hparties =>
  have hfound : (db.users.get? recipient.id).isSome :=
    Option.isSome_of_eq_some (Table.get?_key (userByLookup_eq_some hrecipient).1)
  rw [lockSenderRecipientAndDevice_eq (hdb.user_of_deviceUserId hsender) hfound
    (Ne.symm hparties) hsender]
  simp only [bind, Except.bind, pure, Except.pure]
  split
  swap
  · exact ⟨_, rfl⟩
  next hvalid =>
  have hstores : ∀ lockedDb m, LockedMessage db senderId recipient.id deviceId part
      ⟨part.partCount, partCount_of_isValidPartNumbering hvalid.1⟩ now lockedDb m →
      ∃ committed, storePartOfMessage settings lockedDb m recipient part now = .ok committed := by
    intro lockedDb m locked
    refine storePartOfMessage_isOk settings recipient part now locked.spec.1 ?_
    cases locked with
    | existing hm => exact (hdb.messages m hm).parts
    | created => exact List.length_replicate
  cases hlock : lockOrCreateMessage db senderId recipient.id deviceId part
      ⟨part.partCount, partCount_of_isValidPartNumbering hvalid.1⟩ now with
  | error serviceError =>
      unfold lockOrCreateMessage at hlock
      split at hlock
      · cases hlock
      · rw [dif_pos hid] at hlock
        cases hlock
  | ok locked =>
      dsimp only
      split
      · exact ⟨_, rfl⟩
      · exact hstores _ _ (lockOrCreateMessage_ok hlock)

/-- **Every `M`** is refused, or stores its part. -/
theorem step_messagePart (hashing : PasswordHashing) (hdb : Consistent db)
    (hevent : input.event = .messagePart deviceId part now) :
    PartStep input db deviceId part now (step hashing db input).1 (step hashing db input).2 := by
  simp only [step, hevent]
  cases haccept : acceptMessagePart input.settings db deviceId part now with
  | error serviceError => exact .failed serviceError
  | ok committed =>
  obtain ⟨db', outcome⟩ := committed
  show PartStep input db deviceId part now db' (.partAnswered outcome)
  cases acceptMessagePart_ok hevent haccept with
  | refused errorCode reason hcode hsigned =>
      exact .refused errorCode reason (Or.inr hcode) hsigned
  | conflict upload hm hsender hid hconflict =>
      exact .refused .idConflict _ (Or.inl rfl) (by simp)
  | @stored senderId recipient partCount lockedDb m _ _ upload huser hcount locked hfits hstored =>
      obtain ⟨hm, rfl, hid, husers, hcontacts⟩ := locked.spec
      have hrecipient : m.recipientId = recipient.id := hfits.recipient
      have hlocked : Consistent lockedDb := (locked.quiets upload hcount).consistent hdb
      have hok := hlocked.messages m hm
      rw [← hrecipient] at upload hfits
      have hfound : db.users.get? m.recipientId = some recipient := by
        rw [hrecipient]
        exact Table.get?_key (userByLookup_eq_some huser).1
      obtain ⟨hdeliveries, horigin⟩ := locked.origin
      have hset : buildReceivedSet (messageWithPart m part now) =
          .ok (receivedSetOf (messageWithPart m part now)) :=
                  buildReceivedSet_eq ((length_partTexts_messageWithPart m part now).trans hok.parts)
      cases storePartOfMessage_ok hm hstored with
      | held receivedSet hnot hset' hreply hdb' =>
          obtain rfl := Except.ok.inj (hset.symm.trans hset')
          refine .stored ⟨upload, hfits, hid, hok.parts, horigin.imp And.left And.left, fun n => ?_,
            Or.inl ⟨hnot, rfl, ?_⟩, fun haccepted => ?_⟩ hfound hreply
          · rw [hdb']
            exact locked.mem_put_iff (messageWithPart m part now) rfl
          · rw [hdb']
            exact hdeliveries
          · rcases horigin with ⟨-, rfl⟩ | ⟨-, hopen⟩
            · rw [hdb', messageWithPart_of_fits hok upload.numbering hfits
                (Option.isSome_iff_ne_none.1 haccepted), Db.putMessage, Table.put_self hm]
            · rw [hopen] at haccepted
              cases haccepted
      | accepted receivedSet hopen hall hset' hreply hdb' =>
          obtain rfl := Except.ok.inj (hset.symm.trans hset')
          have hmem : messageWithPart m part now ∈
              (lockedDb.putMessage (messageWithPart m part now)).messages :=
            Table.mem_put_self hm rfl
          have haccepts := (acceptMessage_spec hmem hopen hall
            ((upload.congr husers hcontacts).congr rfl rfl) hid
            fun d hd => hlocked.not_delivery_of_open hm hopen d hd).2.2
          refine .stored (n := acceptedMessage (messageWithPart m part now) now)
            ⟨upload, hfits, hid, hok.parts, horigin.imp And.left And.left, fun n => ?_,
              Or.inr ⟨⟨hopen, hall⟩, rfl⟩, by simp [hopen]⟩ hfound hreply
          have hput : (lockedDb.messages.put (messageWithPart m part now)).put
              (acceptedMessage (messageWithPart m part now) now) =
              lockedDb.messages.put (acceptedMessage (messageWithPart m part now) now) :=
            Table.put_put rfl
          rw [hdb', haccepts.messages, Db.messages_putMessage, hput]
          exact locked.mem_put_iff (acceptedMessage (messageWithPart m part now) now) rfl

end MessagePart

/-! ### What may change about a message -/

/-- A later row of the same message. -/
structure IsLaterMessage (m m' : Message) : Prop where
  id : m'.id = m.id
  sender : m'.senderId = m.senderId
  recipient : m'.recipientId = m.recipientId
  clientMessageId : m'.clientMessageId = m.clientMessageId
  partCount : m'.partCount = m.partCount
  held : ∀ index text, m.partTexts.getD index none = some text →
    m'.partTexts.getD index none = some text
  accepted : m.acceptedAt.isSome →
    m'.partTexts = m.partTexts ∧ m'.text = m.text ∧ m'.acceptedAt = m.acceptedAt

theorem IsLaterMessage.refl (m : Message) : IsLaterMessage m m :=
  ⟨rfl, rfl, rfl, rfl, rfl, fun _ _ h => h, fun _ => ⟨rfl, rfl, rfl⟩⟩

theorem IsLaterMessage.trans {m m' m'' : Message} (h : IsLaterMessage m m')
    (h' : IsLaterMessage m' m'') : IsLaterMessage m m'' where
  id := h'.id.trans h.id
  sender := h'.sender.trans h.sender
  recipient := h'.recipient.trans h.recipient
  clientMessageId := h'.clientMessageId.trans h.clientMessageId
  partCount := h'.partCount.trans h.partCount
  held index text hheld := h'.held index text (h.held index text hheld)
  accepted haccepted := by
    obtain ⟨hparts, htext, hat⟩ := h.accepted haccepted
    obtain ⟨hparts', htext', hat'⟩ := h'.accepted (hat ▸ haccepted)
    exact ⟨hparts'.trans hparts, htext'.trans htext, hat'.trans hat⟩

section Later

variable {input : Input} {a b : Phase × Db} {m m' : Message}

/-- The part a message holds after one more was stored: a held one, or the new one. -/
theorem getD_messageWithPart (m : Message) (part : MessagePartRequest) (now : Time) (index : ℕ) :
    (messageWithPart m part now).partTexts.getD index none = m.partTexts.getD index none ∨
      m.partTexts.getD index none = none ∧ index = part.partNumber - 1 ∧
        (messageWithPart m part now).partTexts.getD index none = some part.partText := by
  rw [messageWithPart_partTexts]
  split
  · next hmissing =>
      simp only [List.getD_eq_getElem?_getD, List.getElem?_set] at hmissing ⊢
      by_cases hindex : part.partNumber - 1 = index
      · subst hindex
        by_cases hlt : part.partNumber - 1 < m.partTexts.length
        · exact Or.inr ⟨hmissing, rfl, by simp [hlt]⟩
        · exact Or.inl (by simp [hlt])
      · exact Or.inl (by simp [hindex])
  · exact Or.inl rfl

/-- **No write replaces a part, and none changes an accepted message.** -/
theorem MessageChange.isLater {db : Db} (h : MessageChange input db m m') : IsLaterMessage m m' := by
  obtain ⟨hid, hsender, hrecipient, hclient, hcount⟩ := h.keeps
  refine ⟨hid, hsender, hrecipient, hclient, hcount, fun index text hheld => ?_,
    fun haccepted => ?_⟩
  · cases h with
    | confirmed | accepted | forgotten => exact hheld
    | @partStored deviceId part now =>
        rcases getD_messageWithPart m part now index with hsame | ⟨hmissing, -⟩
        · rw [hsame, hheld]
        · rw [hmissing] at hheld
          cases hheld
  · cases h with
    | confirmed | forgotten => exact ⟨rfl, rfl, rfl⟩
    | partStored hopen | accepted hopen =>
        rw [hopen] at haccepted
        cases haccepted

/-- **What the rest of a run leaves of a message.** -/
theorem followed_messages {hashing : PasswordHashing} {db db' : Db}
    {history : List (Input × Outcome)} (hdb : Consistent db) (hm : m ∈ db.messages)
    (run : (engine hashing).Run db history db') :
    Table.Followed IsLaterMessage m db'.messages :=
  (run_invariant run hdb (P := fun db => Table.Followed IsLaterMessage m db.messages)
    (Table.followed_of_mem (.refl m) hm) fun _ _ _ _ _ hfollowed hwrite =>
      hfollowed.steps (fun _ _ _ hlater hchange => hlater.trans hchange.isLater)
        hwrite.messages).2

end Later

/-! ### Other transactions -/

/-- A transaction that is no `M`, seen from a message after it: the message was there, and held the
same parts. -/
theorem step_messages_of_other {hashing : PasswordHashing} {input : Input} {db : Db}
    (hdb : Consistent db) (hother : ∀ deviceId part now, input.event ≠ .messagePart deviceId part now)
    {m' : Message} (hm' : m' ∈ (step hashing db input).1.messages) :
    ∃ m ∈ db.messages, IsLaterMessage m m' ∧ m'.partTexts = m.partTexts ∧
      m'.acceptedAt = m.acceptedAt ∧
      (m'.senderDeviceId = m.senderDeviceId ∨ m'.senderDeviceId = none) := by
  refine (step_invariant hashing input hdb (P := fun db' => ∀ m' ∈ db'.messages,
    ∃ m ∈ db.messages, IsLaterMessage m m' ∧ m'.partTexts = m.partTexts ∧
      m'.acceptedAt = m.acceptedAt ∧
      (m'.senderDeviceId = m.senderDeviceId ∨ m'.senderDeviceId = none))
    (fun m hm => ⟨m, hm, .refl m, rfl, rfl, Or.inl rfl⟩) ?_).2 m' hm'
  intro a b _ hold hwrite n' hn'
  rcases hwrite.messages.origin hn' with hn | ⟨n, hn, -, hchange⟩ | ⟨-, hcreated⟩
  · exact hold n' hn
  · obtain ⟨m, hm, hlater, hparts, haccepted, hdevice⟩ := hold n hn
    refine ⟨m, hm, hlater.trans hchange.isLater, ?_⟩
    cases hchange with
    | confirmed => exact ⟨hparts, haccepted, hdevice⟩
    | partStored hopen upload | accepted hopen hall upload => exact absurd upload.event (hother _ _ _)
    | forgotten =>
        refine ⟨hparts, haccepted, ?_⟩
        rcases filter_eq_or_none n.senderDeviceId _ with hsame | hnone
        · exact hdevice.imp hsame.trans hsame.trans
        · exact Or.inr hnone
  · obtain ⟨upload⟩ := hcreated
    exact absurd upload.event (hother _ _ _)

/-! ### No message is empty -/

/-- The message holds a part. -/
def HoldsPart (m : Message) : Prop := ∃ t ∈ m.partTexts, t.isSome

theorem index_lt_of_numbering {m : Message} {part : MessagePartRequest}
    (hnumbering : isValidPartNumbering part.partNumber part.partCount = true)
    (hcount : m.partCount.val = part.partCount) (hparts : m.partTexts.length = m.partCount.val) :
    part.partNumber - 1 < m.partTexts.length := by
  simp only [isValidPartNumbering, Bool.and_eq_true, decide_eq_true_eq] at hnumbering
  omega

/-- A stored part is held. -/
theorem holdsPart_messageWithPart {m : Message} {part : MessagePartRequest}
    (hlt : part.partNumber - 1 < m.partTexts.length) (now : Time) :
    HoldsPart (messageWithPart m part now) := by
  have hlt' : part.partNumber - 1 < (messageWithPart m part now).partTexts.length := by
    rwa [length_partTexts_messageWithPart]
  refine ⟨_, List.getElem_mem hlt', ?_⟩
  have hget : (messageWithPart m part now).partTexts.getD (part.partNumber - 1) none =
      (messageWithPart m part now).partTexts[part.partNumber - 1] := by
    rw [List.getD_eq_getElem?_getD, List.getElem?_eq_getElem hlt', Option.getD_some]
  rw [← hget, messageWithPart_partTexts]
  split
  · simp [hlt]
  · next hheld => exact Option.isSome_iff_ne_none.2 hheld

theorem StoresPart.holdsPart {input : Input} {db db' : Db} {deviceId : ℕ}
    {part : MessagePartRequest} {now : Time} {m m' : Message}
    (h : StoresPart input db db' deviceId part now m m') : HoldsPart m' := by
  have hholds := holdsPart_messageWithPart
    (index_lt_of_numbering h.upload.numbering h.fits.count h.parts) now
  rw [HoldsPart] at hholds ⊢
  rwa [h.keeps.2.2.2.2.2.2]

/-- **Every stored message holds a part**: none is left behind by a refused request. -/
theorem holdsPart_of_reachable {hashing : PasswordHashing} {db : Db}
    (h : (engine hashing).Reachable db) : ∀ m ∈ db.messages, HoldsPart m := by
  obtain ⟨history, run⟩ := h
  refine (run.invariant (P := fun _ db => Consistent db ∧ ∀ m ∈ db.messages, HoldsPart m)
    ⟨.empty, fun m hm => absurd hm (Table.not_mem_empty m)⟩ ?_).2
  rintro before db input - - ⟨hdb, hholds⟩
  refine ⟨(step_invariant hashing input hdb (P := fun _ => True) trivial
    fun _ _ _ _ _ => trivial).1, fun m hm => ?_⟩
  by_cases hupload : ∃ deviceId part now, input.event = .messagePart deviceId part now
  · obtain ⟨deviceId, part, now, hevent⟩ := hupload
    have hstep := step_messagePart hashing hdb hevent
    simp only [engine] at hm
    generalize (step hashing db input).1 = db' at hstep hm
    generalize (step hashing db input).2 = outcome at hstep
    cases hstep with
    | failed | refused => exact hholds m hm
    | stored stores =>
        rcases (stores.rows m).1 hm with rfl | ⟨hm, -⟩
        · exact stores.holdsPart
        · exact hholds m hm
  · obtain ⟨n, hn, -, hparts, -⟩ := step_messages_of_other hdb
      (fun deviceId part now hevent => hupload ⟨deviceId, part, now, hevent⟩) hm
    rw [HoldsPart, hparts]
    exact hholds n hn

/-! ### Every held part was sent -/

/-- In the run an `M` of the device carried the part, under the message's id, from its sender to
its recipient, with its part count. -/
structure Uploaded (hashing : PasswordHashing) (history : List (Input × Outcome)) (m : Message)
    (deviceId index : ℕ) (text : Text) : Prop where
  sent : ∃ before entry after db part now, history = before ++ entry :: after ∧
    (engine hashing).Run Db.empty before db ∧
    PartUpload entry.1 db deviceId part m.senderId m.recipientId now ∧
    part.messageId = m.clientMessageId.val ∧ part.partCount = m.partCount.val ∧
    part.partNumber - 1 = index ∧ part.partText = text

/-- In the run the message was created by an `M` of the device. -/
structure CreatedBy (hashing : PasswordHashing) (history : List (Input × Outcome)) (m : Message)
    (deviceId : ℕ) : Prop where
  sent : ∃ before entry after db part now, history = before ++ entry :: after ∧
    (engine hashing).Run Db.empty before db ∧
    entry.1.event = .messagePart deviceId part now ∧ db.messages.get? m.id = none ∧
    ((step hashing db entry.1).1.messages.get? m.id).isSome

section Provenance

variable {hashing : PasswordHashing} {history : List (Input × Outcome)} {db : Db} {input : Input}

theorem Uploaded.snoc {m m' : Message} {deviceId index : ℕ} {text : Text}
    (h : Uploaded hashing history m deviceId index text) (hlater : IsLaterMessage m m')
    (entry : Input × Outcome) :
    Uploaded hashing (history ++ [entry]) m' deviceId index text := by
  obtain ⟨before, sent, after, db, part, now, rfl, run, upload, hid, hcount, hrest⟩ := h.sent
  refine ⟨before, sent, after ++ [entry], db, part, now, by simp, run, ?_, ?_, ?_, hrest⟩
  · rwa [hlater.sender, hlater.recipient]
  · rwa [hlater.clientMessageId]
  · rwa [hlater.partCount]

theorem CreatedBy.snoc {m m' : Message} {deviceId : ℕ} (h : CreatedBy hashing history m deviceId)
    (hlater : IsLaterMessage m m') (entry : Input × Outcome) :
    CreatedBy hashing (history ++ [entry]) m' deviceId := by
  obtain ⟨before, sent, after, db, part, now, rfl, run, hevent, hnone, hsome⟩ := h.sent
  refine ⟨before, sent, after ++ [entry], db, part, now, by simp, run, hevent, ?_, ?_⟩
  · rwa [hlater.id]
  · rwa [hlater.id]

/-- One device created the message and sent every part it holds. -/
structure SentBy (hashing : PasswordHashing) (history : List (Input × Outcome)) (m : Message)
    (creator : ℕ) : Prop where
  device : m.senderDeviceId = some creator ∨ m.senderDeviceId = none
  created : CreatedBy hashing history m creator
  parts : ∀ index text, m.partTexts.getD index none = some text →
    Uploaded hashing history m creator index text

/-- A stored part was sent by the device that created its message. -/
theorem StoresPart.sentBy (run : (engine hashing).Run Db.empty history db) (hdb : Consistent db)
    (hold : ∀ m ∈ db.messages, ∃ creator, SentBy hashing history m creator) {deviceId : ℕ}
    {part : MessagePartRequest} {now : Time} {m m' : Message} {db' : Db}
    (hafter : (step hashing db input).1 = db') (outcome : Outcome)
    (h : StoresPart input db db' deviceId part now m m') :
    ∃ creator, SentBy hashing (history ++ [(input, outcome)]) m' creator := by
  obtain ⟨hid, hsender, hrecipient, hclient, hcount, hdevice, hparts⟩ := h.keeps
  have hthis : Uploaded hashing (history ++ [(input, outcome)]) m' deviceId
      (part.partNumber - 1) part.partText := by
    refine ⟨history, (input, outcome), [], db, part, now, rfl, run, ?_, ?_, ?_, rfl, rfl⟩
    · rw [hsender, hrecipient]
      exact h.upload
    · rw [hclient]
      exact h.id.symm
    · rw [hcount]
      exact h.fits.count.symm
  rcases h.origin with hm | hfirst
  · obtain ⟨creator, hcreator⟩ := hold m hm
    have hlater : IsLaterMessage m m' := by
      refine ⟨hid, hsender, hrecipient, hclient, hcount, fun index text hheld => ?_,
        fun haccepted => ?_⟩
      · rw [hparts]
        rcases getD_messageWithPart m part now index with hsame | ⟨hmissing, -⟩
        · rw [hsame, hheld]
        · rw [hmissing] at hheld
          cases hheld
      · rcases h.result with ⟨-, rfl, -⟩ | ⟨hcompletes, -⟩
        · rw [messageWithPart_of_fits (hdb.messages m hm) h.upload.numbering h.fits
            (Option.isSome_iff_ne_none.1 haccepted)]
          exact ⟨rfl, rfl, rfl⟩
        · rw [hcompletes.1] at haccepted
          cases haccepted
    refine ⟨creator, hdevice ▸ hcreator.device, hcreator.created.snoc hlater _,
      fun index text hheld => ?_⟩
    rw [hparts] at hheld
    rcases getD_messageWithPart m part now index with hsame | ⟨hmissing, rfl, hnew⟩
    · exact (hcreator.parts index text (hsame ▸ hheld)).snoc hlater _
    · obtain rfl := Option.some.inj (hnew.symm.trans hheld)
      -- a missing part of an open message is taken from its device only
      have hopen : m.acceptedAt = none := by
        by_contra haccepted
        rw [messageWithPart_of_fits (hdb.messages m hm) h.upload.numbering h.fits haccepted,
          hmissing] at hnew
        cases hnew
      have hsame := h.fits.device hopen hmissing
      rcases hcreator.device with hdevice' | hnone
      · obtain rfl := Option.some.inj (hsame.symm.trans hdevice')
        exact hthis
      · rw [hnone] at hsame
        cases hsame
  · have hnew : m.id = db.messages.nextKey := congrArg Message.id hfirst.new
    have hempty : ∀ index, m.partTexts.getD index none = none := by
      intro index
      rw [congrArg Message.partTexts hfirst.new]
      simp only [newMessage_partTexts, List.getD_eq_getElem?_getD, List.getElem?_replicate]
      split <;> rfl
    have hcreator : m'.senderDeviceId = some deviceId :=
      hdevice.trans (congrArg Message.senderDeviceId hfirst.new)
    refine ⟨deviceId, Or.inl hcreator, ?_, fun index text hheld => ?_⟩
    · refine ⟨history, (input, outcome), [], db, part, now, rfl, run, h.upload.event, ?_, ?_⟩
      · rw [hid, hnew]
        exact Table.get?_nextKey _
      · rw [hafter]
        exact Option.isSome_of_eq_some (Table.get?_key ((h.rows m').2 (Or.inl rfl)))
    · rw [hparts] at hheld
      rcases getD_messageWithPart m part now index with hsame | ⟨-, rfl, hnew⟩
      · rw [hsame, hempty index] at hheld
        cases hheld
      · obtain rfl := Option.some.inj (hnew.symm.trans hheld)
        exact hthis

/-- **Every part a message holds was sent by the device that created it.** -/
theorem sentBy_of_run (run : (engine hashing).Run Db.empty history db) :
    ∀ m ∈ db.messages, ∃ creator, SentBy hashing history m creator := by
  refine (run.invariant (P := fun history db => Consistent db ∧
    ∀ m ∈ db.messages, ∃ creator, SentBy hashing history m creator)
    ⟨.empty, fun m hm => absurd hm (Table.not_mem_empty m)⟩ ?_).2
  rintro before db input run' - ⟨hdb, hold⟩
  refine ⟨(step_invariant hashing input hdb (P := fun _ => True) trivial
    fun _ _ _ _ _ => trivial).1, fun m' hm' => ?_⟩
  have hlift : ∀ m ∈ db.messages, ∀ m', IsLaterMessage m m' → m'.partTexts = m.partTexts →
      (m'.senderDeviceId = m.senderDeviceId ∨ m'.senderDeviceId = none) → ∀ outcome,
      ∃ creator, SentBy hashing (before ++ [(input, outcome)]) m' creator := by
    intro m hm m' hlater hparts hdevice outcome
    obtain ⟨creator, hcreator⟩ := hold m hm
    refine ⟨creator, ?_, hcreator.created.snoc hlater _, fun index text hheld => ?_⟩
    · rcases hdevice with hsame | hnone
      · exact hsame ▸ hcreator.device
      · exact Or.inr hnone
    · exact (hcreator.parts index text (hparts ▸ hheld)).snoc hlater _
  by_cases hupload : ∃ deviceId part now, input.event = .messagePart deviceId part now
  · obtain ⟨deviceId, part, now, hevent⟩ := hupload
    have hstep := step_messagePart hashing hdb hevent
    simp only [engine] at hm' ⊢
    generalize hafter : (step hashing db input).1 = db' at hstep hm'
    generalize (step hashing db input).2 = outcome at hstep ⊢
    cases hstep with
    | failed | refused => exact hlift m' hm' m' (.refl m') rfl (Or.inl rfl) _
    | stored stores =>
        rcases (stores.rows m').1 hm' with rfl | ⟨hm, -⟩
        · exact stores.sentBy run' hdb hold hafter _
        · exact hlift m' hm m' (.refl m') rfl (Or.inl rfl) _
  · obtain ⟨n, hn, hlater, hparts, -, hdevice⟩ := step_messages_of_other hdb
      (fun deviceId part now hevent => hupload ⟨deviceId, part, now, hevent⟩) hm'
    exact hlift n hn m' hlater hparts hdevice _

/-- **No splice**: in every run every part a message holds was sent by the device that created it,
under its id, to its recipient and with its part count; the row keeps its parts, its recipient and
its part count as long as it exists, and nothing of an accepted message changes.  A later `M` of the
sender under its id is answered with a set of all ones or with `ID_CONFLICT`, or refused before the
id is looked up, and changes nothing.  An incomplete message has no deliveries and no receipts. -/
theorem stored_parts_were_uploaded (run : (engine hashing).Run Db.empty history db) :
    (∀ m ∈ db.messages, ∃ creator, SentBy hashing history m creator) ∧
    (∀ m ∈ db.messages, ∀ rest db', (engine hashing).Run db rest db' →
      ∀ m', db'.messages.get? m.id = some m' → IsLaterMessage m m') ∧
    (∀ m ∈ db.messages, m.acceptedAt.isSome → ∀ input deviceId part now,
      input.event = .messagePart deviceId part now → db.deviceUserId deviceId = some m.senderId →
      part.messageId = m.clientMessageId.val →
      (step hashing db input).1 = db ∧
      ((∃ outcome username, (step hashing db input).2 = .partAnswered outcome ∧ outcome.reply =
          .sendStatusReply username part.messageId (List.replicate m.partCount.val '1')) ∨
        (∃ errorCode ∈ [ErrorCode.idConflict, .noSuchUser, .self, .partInvalid], ∃ reason,
          (step hashing db input).2 =
            .partAnswered (buildPartErrorOutcome errorCode part reason)))) ∧
    ∀ m ∈ db.messages, m.acceptedAt = none →
      (∀ d ∈ db.deliveries, d.messageId ≠ m.id) ∧ ∀ r ∈ db.receipts, r.messageId ≠ m.id := by
  have hdb := consistent_of_reachable ⟨history, run⟩
  refine ⟨sentBy_of_run run, fun m hm rest db' run' m' hm' => ?_,
    fun m hm haccepted input deviceId part now hevent hlinked hid => ?_,
    fun m hm hopen => ⟨hdb.not_delivery_of_open hm hopen, fun r hr hmessage => ?_⟩⟩
  · exact (followed_messages hdb hm run').later m' hm'
  · obtain ⟨committed, hcommitted⟩ := acceptMessagePart_isOk input.settings hdb deviceId
      part now (hid ▸ m.clientMessageId.2)
    have hnotfailed : ∀ e, (step hashing db input).2 ≠ .failed e := by
      simp only [step, hevent, hcommitted, commit]
      exact fun _ h => Outcome.noConfusion h
    have hstep := step_messagePart hashing hdb hevent
    generalize (step hashing db input).1 = db' at hstep ⊢
    generalize (step hashing db input).2 = answer at hstep hnotfailed ⊢
    cases hstep with
    | failed serviceError => exact absurd rfl (hnotfailed serviceError)
    | refused errorCode reason hcode hsigned =>
        refine ⟨rfl, Or.inr ⟨errorCode, ?_, reason, rfl⟩⟩
        have hne : errorCode ≠ .notSignedIn := by
          intro hcode
          rw [hsigned hcode] at hlinked
          cases hlinked
        simpa [partRefusals, hne] using hcode
    | @stored m₁ n recipient _ outcome stores hrecipient hreply =>
        -- the message under the sender's id is the accepted one
        have hsender : m₁.senderId = m.senderId :=
          Option.some.inj (stores.upload.sender.symm.trans hlinked)
        have hclient : m₁.clientMessageId = m.clientMessageId :=
          Subtype.ext (stores.id.trans hid)
        have heq : m₁ = m := by
          rcases stores.origin with hm₁ | hfirst
          · exact hdb.messages_unique m₁ hm₁ m hm hsender hclient
          · exact absurd ⟨hsender.symm, hclient.symm⟩ (hfirst.unused m hm)
        subst heq
        refine ⟨stores.unchanged haccepted, Or.inl ⟨outcome, recipient.username.val, rfl, ?_⟩⟩
        have hsame : n.partTexts = m₁.partTexts := by
          rw [stores.keeps.2.2.2.2.2.2, messageWithPart_of_fits (hdb.messages m₁ hm)
            stores.upload.numbering stores.fits (Option.isSome_iff_ne_none.1 haccepted)]
        have hset : receivedSetOf n = List.replicate m₁.partCount.val '1' := by
          rw [receivedSetOf, hsame]
          exact (receivedSetOf_eq_replicate stores.parts).2
            ((hdb.messages m₁ hm).accepted_parts haccepted)
        rw [hreply, hset]
  · obtain ⟨n, hn, haccepted⟩ := (hdb.receipts r hr).message
    rw [hmessage] at hn
    obtain rfl := Option.some.inj ((Table.get?_key hm).symm.trans hn)
    rw [hopen] at haccepted
    cases haccepted

end Provenance

/-- The message alice sent to bob was sent by her device. -/
theorem stored_parts_were_uploaded_sampleMessage :
    (sampleDb sampleMessage).messages.rows.length = 1 ∧
      ∀ m ∈ (sampleDb sampleMessage).messages,
        ∃ creator, SentBy sampleHashing (sampleHistory sampleMessage) m creator :=
  ⟨by decide +kernel, (stored_parts_were_uploaded (run_sampleDb sampleMessage)).1⟩

/-- Under the id of her accepted message, alice's part for somebody else who is no user is refused:
neither a set of all ones nor `ID_CONFLICT` is the answer. -/
theorem later_part_refused_sampleMessage :
    ((sampleDb sampleMessage).messages.any fun m =>
      m.acceptedAt.isSome && m.clientMessageId.val = 7 &&
        (sampleDb sampleMessage).deviceUserId 1 = some m.senderId) = true ∧
    (step sampleHashing (sampleDb sampleMessage)
      ⟨sampleSettings, .messagePart 1 (samplePart ['c', 'a', 'r', 'o', 'l'] 7) (sampleTime 8)⟩).2 =
      .partAnswered (buildPartErrorOutcome .noSuchUser (samplePart ['c', 'a', 'r', 'o', 'l'] 7)
        "no such recipient".toList) :=
  ⟨by decide +kernel, by decide +kernel⟩

end HoptalkRelay
