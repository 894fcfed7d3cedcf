/-
**The transaction of `M`.**

One part of a message: it is refused, conflicts with what is stored under its id, or is stored.
With the last part the message is accepted, and every device its recipient has at that moment gets
a delivery, behind the device's refresh session with the sender when there is one.

Main definitions:

* `HoptalkRelay.PartAnswer` — the three ways a part is answered.

Main results:

* `HoptalkRelay.acceptMessagePart_ok` — every answered part is answered in one of them;
* `HoptalkRelay.fanOut_spec` — the deliveries of an accepted message;
* `HoptalkRelay.writes_acceptMessagePart` — the request as a sequence of writes.
-/

import HoptalkRelay.Transactions.Quiet

set_option relaxedAutoImplicit false
set_option autoImplicit false

namespace HoptalkRelay

open Relational

variable {input : Input} {db : Db} {m : Message}

/-! ### The answers -/

/-- A part that does not conflict with the message under its id. -/
structure PartFits (m : Message) (recipientId deviceId : ℕ) (part : MessagePartRequest) :
    Prop where
  recipient : m.recipientId = recipientId
  count : m.partCount.val = part.partCount
  held : ∀ text, m.partTexts.getD (part.partNumber - 1) none = some text → text = part.partText
  device : m.acceptedAt = none → m.partTexts.getD (part.partNumber - 1) none = none →
    m.senderDeviceId = some deviceId

theorem findPartConflict_eq_nil {recipientId deviceId : ℕ} {part : MessagePartRequest} :
    findPartConflict m recipientId deviceId part = [] ↔ PartFits m recipientId deviceId part := by
  unfold findPartConflict
  constructor
  · intro h
    split at h
    · exact absurd h (by simp)
    next hrecipient =>
    split at h
    · exact absurd h (by simp)
    next hcount =>
    dsimp only at h
    split at h
    · exact absurd h (by simp)
    next hheld =>
    split at h
    · exact absurd h (by simp)
    next hdevice =>
    refine ⟨not_not.1 hrecipient, not_not.1 hcount, fun text htext => ?_, fun hopen hmissing => ?_⟩
    · rw [htext] at hheld
      simpa using hheld
    · by_contra hother
      exact hdevice ⟨hopen, hmissing, hother⟩
  · rintro ⟨hrecipient, hcount, hheld, hdevice⟩
    rw [if_neg (not_not.2 hrecipient), if_neg (not_not.2 hcount)]
    dsimp only
    rw [if_neg, if_neg]
    · rintro ⟨hopen, hmissing, hother⟩
      exact hother (hdevice hopen hmissing)
    · cases htext : m.partTexts.getD (part.partNumber - 1) none with
      | none => simp
      | some text => simp [hheld text htext]

/-- The errors of a part that never reaches a message. -/
def partRefusals : List ErrorCode := [.notSignedIn, .noSuchUser, .self, .partInvalid]

/-- How a part is answered, and the database afterwards. -/
inductive PartAnswer (input : Input) (db : Db) (deviceId : ℕ) (part : MessagePartRequest)
    (now : Time) : Db → MessagePartOutcome → Prop
  | refused (errorCode : ErrorCode) (reason : Text) (hcode : errorCode ∈ partRefusals)
      (hsigned : errorCode = .notSignedIn → db.deviceUserId deviceId = none) :
      PartAnswer input db deviceId part now db (buildPartErrorOutcome errorCode part reason)
  | conflict {senderId recipientId : ℕ} {m : Message}
      (upload : PartUpload input db deviceId part senderId recipientId now)
      (hm : m ∈ db.messages) (hsender : m.senderId = senderId)
      (hid : m.clientMessageId.val = part.messageId)
      (hconflict : ¬ PartFits m recipientId deviceId part) :
      PartAnswer input db deviceId part now db
        (buildPartErrorOutcome .idConflict part (findPartConflict m recipientId deviceId part))
  | stored {senderId : ℕ} {recipient : User} {partCount : PartCount} {lockedDb : Db} {m : Message}
      {db' : Db} {outcome : MessagePartOutcome}
      (upload : PartUpload input db deviceId part senderId recipient.id now)
      (huser : db.userByLookup (normalizeUsernameForLookup part.recipientUsername) =
        some recipient)
      (hcount : partCount.val = part.partCount)
      (locked : LockedMessage db senderId recipient.id deviceId part partCount now lockedDb m)
      (hfits : PartFits m recipient.id deviceId part)
      (hstored : storePartOfMessage input.settings lockedDb m recipient part now =
        .ok (db', outcome)) :
      PartAnswer input db deviceId part now db' outcome

theorem lockSenderRecipientAndDevice_ok {senderId recipientId deviceId : ℕ}
    (h : lockSenderRecipientAndDevice db senderId recipientId deviceId = .ok ()) :
    db.deviceUserId deviceId = some senderId := by
  unfold lockSenderRecipientAndDevice at h
  dsimp only at h
  split at h
  · simp at h
  · next hlocked =>
      rw [not_or, not_not, not_not] at hlocked
      exact hlocked.2

/-- **Every answered part** is refused, conflicts with a stored message or is stored. -/
theorem acceptMessagePart_ok {deviceId : ℕ} {part : MessagePartRequest} {now : Time}
    (hevent : input.event = .messagePart deviceId part now) {db' : Db}
    {outcome : MessagePartOutcome}
    (h : acceptMessagePart input.settings db deviceId part now = .ok (db', outcome)) :
    PartAnswer input db deviceId part now db' outcome := by
  unfold acceptMessagePart at h
  split at h
  · next hsender =>
      obtain ⟨rfl, rfl⟩ := Prod.mk.injEq .. ▸ Except.ok.inj h
      exact .refused .notSignedIn _ (by simp [partRefusals]) fun _ => hsender
  next senderId hsender =>
  split at h
  · obtain ⟨rfl, rfl⟩ := Prod.mk.injEq .. ▸ Except.ok.inj h
    exact .refused .noSuchUser _ (by simp [partRefusals]) (by simp)
  next recipient hrecipient =>
  split at h
  · obtain ⟨rfl, rfl⟩ := Prod.mk.injEq .. ▸ Except.ok.inj h
    exact .refused .self _ (by simp [partRefusals]) (by simp)
  next hparties =>
  cases hlock : lockSenderRecipientAndDevice db senderId recipient.id deviceId with
  | error serviceError =>
      rw [hlock] at h
      simp [bind, Except.bind] at h
  | ok =>
  rw [hlock] at h
  simp only [bind, Except.bind, pure, Except.pure] at h
  split at h
  swap
  · obtain ⟨rfl, rfl⟩ := Prod.mk.injEq .. ▸ Except.ok.inj h
    exact .refused .partInvalid _ (by simp [partRefusals]) (by simp)
  next hvalid =>
  have upload : PartUpload input db deviceId part senderId recipient.id now :=
    ⟨hevent, hsender, ⟨recipient, hrecipient, rfl⟩, Ne.symm hparties, hvalid.1, hvalid.2⟩
  split at h
  · simp at h
  next locked hlocked =>
  obtain ⟨lockedDb, m⟩ := locked
  have hlocked := lockOrCreateMessage_ok hlocked
  dsimp only at h
  split at h
  · next hconflict =>
      obtain ⟨rfl, rfl⟩ := Prod.mk.injEq .. ▸ Except.ok.inj h
      obtain ⟨hm, hsenderId, hid, -⟩ := hlocked.spec
      obtain rfl := hlocked.no_conflict rfl hconflict
      exact .conflict upload hm hsenderId hid fun hfits =>
        hconflict (findPartConflict_eq_nil.2 hfits)
  · next hconflict =>
      exact .stored upload hrecipient rfl hlocked (findPartConflict_eq_nil.1 (not_not.1 hconflict))
        h

/-! ### The deliveries of an accepted message -/

/-- The sessions the fan-out looks up. -/
theorem lookup_activeSessionIdsByDeviceId {deviceIds : List ℕ} {deviceId peerId : ℕ}
    (hdevice : deviceId ∈ deviceIds) :
    match (activeSessionIdsByDeviceId db deviceIds peerId).lookup deviceId with
    | none => findActiveSession db deviceId peerId = none
    | some sessionId => ∃ s ∈ db.sessions, s.id = sessionId ∧ s.deviceId = deviceId ∧
        s.peerId = peerId ∧ s.state = .active := by
  split
  · next hnone =>
      refine Table.first?_eq_none.2 fun s hs => ?_
      have := List.lookup_eq_none_iff.1 hnone (s.deviceId, s.id)
      simp only [activeSessionIdsByDeviceId, List.mem_map, Table.mem_filter] at this
      by_contra hmatch
      simp only [Bool.and_eq_true, decide_eq_true_eq, Bool.not_eq_false] at hmatch
      have hne := this ⟨s, ⟨hs, by simp [hmatch, hdevice]⟩, rfl⟩
      simp [hmatch.1.1] at hne
  · next sessionId hsome =>
      obtain ⟨front, back, heq, -⟩ := List.lookup_eq_some_iff.1 hsome
      have hmem : (deviceId, sessionId) ∈ activeSessionIdsByDeviceId db deviceIds peerId := by
        rw [heq]
        simp
      simp only [activeSessionIdsByDeviceId, List.mem_map, Table.mem_filter, Bool.and_eq_true,
        decide_eq_true_eq, Prod.mk.injEq] at hmem
      obtain ⟨s, ⟨hs, hcond⟩, rfl, rfl⟩ := hmem
      exact ⟨s, hs, rfl, rfl, hcond.1.2, hcond.2⟩

/-- The delivery of one device. -/
theorem writes_createDeliveryForDevice (input : Input) {db : Db} {m : Message} {deviceId : ℕ} {activeSessionIds : List (ℕ × ℕ)}
    (hm : m ∈ db.messages) (haccepted : m.acceptedAt.isSome)
    (hlinked : db.deviceUserId deviceId = some m.recipientId)
    (hnew : ∀ d ∈ db.deliveries, ¬ (d.messageId = m.id ∧ d.deviceId = deviceId))
    (hsession : match activeSessionIds.lookup deviceId with
      | none => findActiveSession db deviceId m.senderId = none
      | some sessionId => ∃ s ∈ db.sessions, s.id = sessionId ∧ s.deviceId = deviceId ∧
          s.peerId = m.senderId ∧ s.state = .active) (now : Time) :
    let db' := createDeliveryForDevice input.settings m.id activeSessionIds now db deviceId
    Writes input (.fanningOut m.id, db) (.fanningOut m.id, db') ∧
      CreatesDeliveries db db' [deviceId] (IsDeliveryOf m.id) := by
  unfold createDeliveryForDevice
  cases hlookup : activeSessionIds.lookup deviceId with
  | none =>
      rw [hlookup] at hsession
      exact ⟨(Write.newDelivery hm haccepted hlinked hnew hsession).writes,
        .insert fun _ => ⟨rfl, rfl⟩⟩
  | some sessionId =>
      rw [hlookup] at hsession
      obtain ⟨s, hs, rfl, hdevice, hpeer, hactive⟩ := hsession
      exact ⟨(Write.newOwnedDelivery hm haccepted hlinked hnew hs hdevice hpeer hactive
        (Or.inr rfl) nofun).writes, .insert fun _ => ⟨rfl, rfl⟩⟩

theorem findActiveSession_congr {db' : Db} (hsessions : db'.sessions = db.sessions)
    (deviceId peerId : ℕ) : findActiveSession db' deviceId peerId =
      findActiveSession db deviceId peerId := by
  rw [findActiveSession, findActiveSession, hsessions]

/-- **The fan-out** to the devices, one after the other. -/
theorem fanOut_spec (input : Input) {m : Message} (activeSessionIds : List (ℕ × ℕ)) (now : Time) :
    ∀ (deviceIds : List ℕ) (db : Db), deviceIds.Nodup → m ∈ db.messages → m.acceptedAt.isSome →
      (∀ d ∈ deviceIds, db.deviceUserId d = some m.recipientId) →
      (∀ d ∈ db.deliveries, d.deviceId ∈ deviceIds → d.messageId ≠ m.id) →
      (∀ d ∈ deviceIds, match activeSessionIds.lookup d with
        | none => findActiveSession db d m.senderId = none
        | some sessionId => ∃ s ∈ db.sessions, s.id = sessionId ∧ s.deviceId = d ∧
            s.peerId = m.senderId ∧ s.state = .active) →
      let db' := deviceIds.foldl (createDeliveryForDevice input.settings m.id activeSessionIds now)
        db
      Writes input (.fanningOut m.id, db) (.fanningOut m.id, db') ∧
        CreatesDeliveries db db' deviceIds (IsDeliveryOf m.id) := by
  intro deviceIds
  induction deviceIds with
  | nil => exact fun _ _ _ _ _ _ _ => ⟨.refl, .nil⟩
  | cons deviceId deviceIds ih =>
      intro db hnodup hm haccepted hlinked hnew hsession
      obtain ⟨hnot, hnodup⟩ := List.nodup_cons.1 hnodup
      obtain ⟨hwrites, hfan⟩ := writes_createDeliveryForDevice input hm haccepted
        (hlinked deviceId List.mem_cons_self)
        (fun d hd h => hnew d hd (h.2 ▸ List.mem_cons_self) h.1)
        (hsession deviceId List.mem_cons_self) now
      obtain ⟨hwrites', hfan'⟩ := ih _ hnodup (hfan.messages ▸ hm) haccepted
        (fun d hd => (Db.deviceUserId_congr hfan.contacts d).trans
          (hlinked d (List.mem_cons_of_mem _ hd)))
        (fun d hd hdev => by
          rcases hfan.only d hd with hd | ⟨device, hdevice, -, rfl⟩
          · exact hnew d hd (List.mem_cons_of_mem _ hdev)
          · exact absurd (List.mem_singleton.1 hdevice ▸ hdev) hnot)
        (fun d hd => by
          rw [findActiveSession_congr hfan.sessions, hfan.sessions]
          exact hsession d (List.mem_cons_of_mem _ hd))
      exact ⟨hwrites.trans hwrites', hfan.cons hfan'⟩

/-! ### Acceptance -/

theorem quiets_addToSessionTotals (activeSessionIds : List (ℕ × ℕ)) :
    Quiets input db (addToSessionTotals db activeSessionIds) := by
  refine quiets_updateSessions _ _ _ fun s => ?_
  exact ⟨rfl, rfl, rfl⟩

/-- The message was accepted: it has a delivery to every device of its recipient. -/
structure Accepts (db db' : Db) (m : Message) (now : Time) : Prop where
  users : db'.users = db.users
  contacts : db'.contacts = db.contacts
  messages : db'.messages = db.messages.put (acceptedMessage m now)
  kept : ∀ d ∈ db.deliveries, d ∈ db'.deliveries
  created : ∀ deviceId, db.deviceUserId deviceId = some m.recipientId →
    ∃ d ∈ db'.deliveries, d.messageId = m.id ∧ d.deviceId = deviceId
  only : ∀ d ∈ db'.deliveries, d ∈ db.deliveries ∨
    d.messageId = m.id ∧ db.deviceUserId d.deviceId = some m.recipientId

theorem markMessageAccepted_of_mem (hm : m ∈ db.messages) (now : Time) :
    markMessageAccepted db m now =
      (db.putMessage (acceptedMessage m now), acceptedMessage m now) := by
  have hrow := updateMessage_of_mem hm
    (fun row => { row with
      text := (acceptedMessage m now).text
      acceptedAt := (acceptedMessage m now).acceptedAt }) fun _ _ => rfl
  exact congrArg (·, acceptedMessage m now) hrow

theorem acceptMessage_message {settings : RelaySettings} (hm : m ∈ db.messages) (now : Time) :
    (acceptMessage settings db m now).2.1 = acceptedMessage m now := by
  unfold acceptMessage
  rw [markMessageAccepted_of_mem hm]

/-- **The acceptance of a message** whose every part is held. -/
theorem acceptMessage_spec {deviceId : ℕ} {part : MessagePartRequest} {now : Time}
    (hm : m ∈ db.messages) (hopen : m.acceptedAt = none) (hall : ∀ t ∈ m.partTexts, t.isSome)
    (upload : PartUpload input db deviceId part m.senderId m.recipientId now)
    (hid : m.clientMessageId.val = part.messageId)
    (hnone : ∀ d ∈ db.deliveries, d.messageId ≠ m.id) :
    let accepted := acceptMessage input.settings db m now
    Writes input (.settled, db) (.fannedOut, accepted.1) ∧
      accepted.2.1 = acceptedMessage m now ∧ Accepts db accepted.1 m now := by
  have hmem : acceptedMessage m now ∈ (db.putMessage (acceptedMessage m now)).messages :=
    Table.mem_put_self hm rfl
  obtain ⟨hwrites, hfan⟩ := fanOut_spec input
    (activeSessionIdsByDeviceId (db.putMessage (acceptedMessage m now))
      (db.deviceIdsOfUser m.recipientId) m.senderId)
    now (db.deviceIdsOfUser m.recipientId) (db.putMessage (acceptedMessage m now))
    (nodup_deviceIdsOfUser _) hmem rfl (fun _ hd => mem_deviceIdsOfUser.1 hd)
    (fun d hd _ => hnone d hd) fun _ hd => lookup_activeSessionIdsByDeviceId hd
  unfold acceptMessage
  rw [markMessageAccepted_of_mem hm]
  refine ⟨?_, rfl, hfan.users, hfan.contacts, hfan.messages, hfan.kept,
    fun device hlinked => hfan.created device (mem_deviceIdsOfUser.2 hlinked), fun d hd => ?_⟩
  · have haccepted : Write input (.settled, db)
        (.fanningOut m.id, db.putMessage (acceptedMessage m now)) :=
      .accepted hm hopen hall upload hid
    refine (haccepted.writes.trans hwrites).trans
      (((quiets_addToSessionTotals _).writes _).tail
        (.fannedOut (m := acceptedMessage m now) ?_ fun device hlinked => ?_))
    · exact hfan.messages ▸ hmem
    · refine hfan.created device (mem_deviceIdsOfUser.2 ?_)
      exact (Db.deviceUserId_congr hfan.contacts device).symm.trans hlinked
  · rcases hfan.only d hd with hd | ⟨device, hdevice, hmessage, rfl⟩
    · exact Or.inl hd
    · exact Or.inr ⟨hmessage, mem_deviceIdsOfUser.1 hdevice⟩

/-! ### A stored part -/

/-- The reply of a stored part, and whether the message was accepted with it. -/
inductive PartStored (settings : RelaySettings) (db : Db) (m : Message) (recipient : User)
    (part : MessagePartRequest) (now : Time) (db' : Db) (outcome : MessagePartOutcome) : Prop
  | accepted (receivedSet : Text) (hopen : m.acceptedAt = none)
      (hall : ∀ t ∈ (messageWithPart m part now).partTexts, t.isSome)
      (hset : buildReceivedSet (messageWithPart m part now) = .ok receivedSet)
      (hreply : outcome.reply =
        .sendStatusReply recipient.username.val part.messageId receivedSet)
      (hdb : db' = (acceptMessage settings (db.putMessage (messageWithPart m part now))
        (messageWithPart m part now) now).1)
  | held (receivedSet : Text)
      (hnot : ¬ (m.acceptedAt = none ∧ ∀ t ∈ (messageWithPart m part now).partTexts, t.isSome))
      (hset : buildReceivedSet (messageWithPart m part now) = .ok receivedSet)
      (hreply : outcome.reply =
        .sendStatusReply recipient.username.val part.messageId receivedSet)
      (hdb : db' = db.putMessage (messageWithPart m part now))

theorem buildReceivedSet_congr {m m' : Message} (hparts : m'.partTexts = m.partTexts)
    (hcount : m'.partCount = m.partCount) : buildReceivedSet m' = buildReceivedSet m := by
  rw [buildReceivedSet, buildReceivedSet, hparts, hcount]

theorem storePartOfMessage_ok {settings : RelaySettings} {recipient : User}
    {part : MessagePartRequest} {now : Time} {db' : Db} {outcome : MessagePartOutcome}
    (hm : m ∈ db.messages)
    (h : storePartOfMessage settings db m recipient part now = .ok (db', outcome)) :
    PartStored settings db m recipient part now db' outcome := by
  unfold storePartOfMessage at h
  rw [storePart_of_mem hm] at h
  have hmem : messageWithPart m part now ∈
      (db.putMessage (messageWithPart m part now)).messages :=
    Table.mem_put_self hm rfl
  dsimp only at h
  split at h
  · next hcomplete =>
      dsimp only at h
      have hsame : buildReceivedSet (acceptedMessage (messageWithPart m part now) now) =
          buildReceivedSet (messageWithPart m part now) := buildReceivedSet_congr rfl rfl
      rw [acceptMessage_message hmem, hsame] at h
      cases hset : buildReceivedSet (messageWithPart m part now) with
      | error serviceError =>
          rw [hset] at h
          simp [bind, Except.bind] at h
      | ok receivedSet =>
          rw [hset] at h
          obtain ⟨rfl, rfl⟩ := Prod.mk.injEq .. ▸ Except.ok.inj h
          exact .accepted receivedSet hcomplete.1
            (fun t ht => List.all_eq_true.1 hcomplete.2 t ht) hset rfl rfl
  · next hincomplete =>
      dsimp only at h
      cases hset : buildReceivedSet (messageWithPart m part now) with
      | error serviceError =>
          rw [hset] at h
          simp [bind, Except.bind] at h
      | ok receivedSet =>
          rw [hset] at h
          obtain ⟨rfl, rfl⟩ := Prod.mk.injEq .. ▸ Except.ok.inj h
          refine .held receivedSet (fun hcomplete => hincomplete ⟨hcomplete.1, ?_⟩) hset rfl rfl
          exact List.all_eq_true.2 hcomplete.2

/-- A part that does not conflict with its message changes nothing when the message is accepted. -/
theorem messageWithPart_of_fits {users : Table User} {contacts : Table Contact}
    (hok : MessageOk users contacts m) {recipientId deviceId : ℕ} {part : MessagePartRequest}
    (hnumbering : isValidPartNumbering part.partNumber part.partCount = true)
    (hfits : PartFits m recipientId deviceId part) (haccepted : m.acceptedAt ≠ none) (now : Time) :
    messageWithPart m part now = m := by
  refine messageWithPart_of_accepted haccepted ?_ now
  simp only [isValidPartNumbering, Bool.and_eq_true, decide_eq_true_eq] at hnumbering
  have hlt : part.partNumber - 1 < m.partTexts.length := by
    rw [hok.parts, hfits.count]
    omega
  rw [List.getD_eq_getElem?_getD, List.getElem?_eq_getElem hlt, Option.getD_some]
  exact Option.isSome_iff_ne_none.1
    (hok.accepted_parts (Option.isSome_iff_ne_none.2 haccepted) _ (List.getElem_mem hlt))

/-- Storing a part is quiet. -/
theorem quiets_messageWithPart {users : Table User} {contacts : Table Contact}
    {deviceId : ℕ} {part : MessagePartRequest} {now : Time} (hm : m ∈ db.messages)
    (hok : MessageOk users contacts m)
    (upload : PartUpload input db deviceId part m.senderId m.recipientId now)
    (hid : m.clientMessageId.val = part.messageId)
    (hfits : PartFits m m.recipientId deviceId part) :
    Quiets input db (db.putMessage (messageWithPart m part now)) := by
  by_cases hopen : m.acceptedAt = none
  · exact (Quiet.partStored hm hopen upload hid hfits.count (hfits.device hopen)).quiets
  · rw [messageWithPart_of_fits hok upload.numbering hfits hopen, Db.putMessage,
      Table.put_self hm]

theorem PartUpload.congr {db' : Db} {deviceId senderId recipientId : ℕ}
    {part : MessagePartRequest} {now : Time}
    (h : PartUpload input db deviceId part senderId recipientId now)
    (husers : db'.users = db.users) (hcontacts : db'.contacts = db.contacts) :
    PartUpload input db' deviceId part senderId recipientId now :=
  { h with
    sender := (Db.deviceUserId_congr hcontacts deviceId).trans h.sender
    recipient := by
      rw [Db.userByLookup, husers]
      exact h.recipient }

/-- An incomplete message has no deliveries. -/
theorem Consistent.not_delivery_of_open (hdb : Consistent db) (hm : m ∈ db.messages)
    (hopen : m.acceptedAt = none) : ∀ d ∈ db.deliveries, d.messageId ≠ m.id := by
  rintro d hd hmessage
  obtain ⟨n, hn, haccepted⟩ := (hdb.deliveries d hd).message
  have hm' := Table.get?_key hm
  rw [key_message, ← hmessage, hn] at hm'
  obtain rfl := Option.some.inj hm'
  simp [hopen] at haccepted

/-- **`M`.** -/
theorem writes_acceptMessagePart (hdb : Consistent db) {deviceId : ℕ} {part : MessagePartRequest}
    {now : Time} (hevent : input.event = .messagePart deviceId part now) {db' : Db}
    {outcome : MessagePartOutcome}
    (h : acceptMessagePart input.settings db deviceId part now = .ok (db', outcome)) :
    ∃ phase : Phase, phase.IsFinal ∧ Writes input (.settled, db) (phase, db') := by
  cases acceptMessagePart_ok hevent h with
  | refused | conflict => exact ⟨.settled, Or.inl rfl, .refl⟩
  | @stored senderId recipient partCount lockedDb m _ _ upload huser hcount locked hfits hstored =>
      obtain ⟨hm, rfl, hid, husers, hcontacts⟩ := locked.spec
      have hrecipient : m.recipientId = recipient.id := hfits.recipient
      have hquiets := locked.quiets upload hcount
      have hlocked : Consistent lockedDb := hquiets.consistent hdb
      have hupload := upload.congr husers hcontacts
      rw [← hrecipient] at hupload hfits
      have hstore : Quiets input db _ := hquiets.trans
        (quiets_messageWithPart hm (hlocked.messages m hm) hupload hid hfits)
      cases storePartOfMessage_ok hm hstored with
      | held receivedSet hnot hset hreply hdb =>
          subst hdb
          exact ⟨.settled, Or.inl rfl, hstore.writes .settled⟩
      | accepted receivedSet hopen hall hset hreply hdb =>
          subst hdb
          have hmem : messageWithPart m part now ∈
              (lockedDb.putMessage (messageWithPart m part now)).messages :=
            Table.mem_put_self hm rfl
          have hnone := hlocked.not_delivery_of_open hm hopen
          exact ⟨.fannedOut, Or.inr rfl, (hstore.writes .settled).trans
            (acceptMessage_spec hmem hopen hall (hupload.congr rfl rfl) hid hnone).1⟩

end HoptalkRelay
