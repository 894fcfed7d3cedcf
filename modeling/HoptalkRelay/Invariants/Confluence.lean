/-
**The parts of a message in any order.**

A device sends the parts of one message in any order and as often as it likes, while everybody else
goes on.  After each part the relay holds exactly the parts that were sent, the message is accepted
with the last missing one, and every device its recipient has at that moment gets one delivery.  A
device the recipient links later gets one when it asks for it, and not before.

Main definitions:

* `HoptalkRelay.Split` — a message cut into parts, and the device that sends it;
* `HoptalkRelay.Split.During` — a run in which the device sends parts of the message;
* `HoptalkRelay.Split.IsHeld` — what the relay holds after these parts.

Main results:

* `HoptalkRelay.Split.isHeld_of_run` — **the order does not matter**;
* `HoptalkRelay.accepts_once` — the deliveries of a message that was just accepted;
* `HoptalkRelay.upload_confluent` — **every part of an upload**.
-/

import HoptalkRelay.Invariants.Repeats

set_option relaxedAutoImplicit false
set_option autoImplicit false

namespace HoptalkRelay

open Relational Transition

/-! ### An upload -/

/-- A message cut into parts: the device that sends it, its parties, its id and its texts. -/
structure Split where
  deviceId : ℕ
  senderId : ℕ
  recipient : User
  clientMessageId : MessageId
  texts : List Text
  parties : recipient.id ≠ senderId
  count : 1 ≤ texts.length ∧ texts.length ≤ maximumPartCount
  valid : ∀ text ∈ texts, isValidPartText text = true

namespace Split

/-- The request carries one of the parts. -/
def isPart (u : Split) (part : MessagePartRequest) : Bool :=
  normalizeUsernameForLookup part.recipientUsername = u.recipient.usernameLookup &&
    part.messageId = u.clientMessageId.val && part.partCount = u.texts.length &&
    1 ≤ part.partNumber && u.texts[part.partNumber - 1]? = some part.partText

/-- The number of the part the device sends under the id. -/
def numberSent? (u : Split) (input : Input) : Option ℕ :=
  match input.event with
  | .messagePart deviceId part _ =>
      if deviceId = u.deviceId ∧ part.messageId = u.clientMessageId.val then some part.partNumber
      else none
  | _ => none

/-- The numbers of the parts the device sent, repetitions included. -/
def sent (u : Split) (history : List (Input × Outcome)) : List ℕ :=
  history.filterMap fun entry => u.numberSent? entry.1

/-- The device is the sender's, and the recipient exists. -/
def Linked (u : Split) (db : Db) : Prop :=
  db.deviceUserId u.deviceId = some u.senderId ∧
    db.users.get? u.recipient.id = some u.recipient

/-- Under the id the device sends parts of the message, and the sender's other devices send
anything, but not before it; nothing expires. -/
def Allows (u : Split) (sent : List ℕ) (db : Db) (input : Input) : Prop :=
  match input.event with
  | .messagePart deviceId part _ =>
      part.messageId = u.clientMessageId.val →
        if deviceId = u.deviceId then u.isPart part = true
        else db.deviceUserId deviceId = some u.senderId → sent ≠ []
  | .deleteExpiredIncompleteMessages _ => False
  | _ => True

/-- A run during which the device sends parts of the message, after it sent these. -/
def During (u : Split) (hashing : PasswordHashing) : List ℕ → Db → List (Input × Outcome) → Prop
  | _, db, [] => u.Linked db
  | sent, db, (input, _) :: history =>
      u.Linked db ∧ u.Allows sent db input ∧
        During u hashing (sent ++ (u.numberSent? input).toList) (step hashing db input).1 history

instance (u : Split) (db : Db) : Decidable (u.Linked db) := inferInstanceAs (Decidable (_ ∧ _))

instance (u : Split) (sent : List ℕ) (db : Db) (input : Input) :
    Decidable (u.Allows sent db input) := by
  unfold Allows
  cases input.event <;> infer_instance

instance During.decidable (u : Split) (hashing : PasswordHashing) :
    ∀ (sent : List ℕ) (db : Db) (history : List (Input × Outcome)),
      Decidable (u.During hashing sent db history)
  | _, db, [] => inferInstanceAs (Decidable (u.Linked db))
  | sent, db, (input, _) :: history =>
      @instDecidableAnd _ _ _ (@instDecidableAnd _ _ _ (During.decidable u hashing
        (sent ++ (u.numberSent? input).toList) (step hashing db input).1 history))

/-! ### What is held -/

/-- The texts of the parts that were sent. -/
def heldTexts (u : Split) (sent : List ℕ) : List (Option Text) :=
  (List.range u.texts.length).map fun index =>
    if index + 1 ∈ sent then u.texts[index]? else none

/-- The set of the parts that were sent. -/
def receivedSet (u : Split) (sent : List ℕ) : Text :=
  (List.range u.texts.length).map fun index => if index + 1 ∈ sent then '1' else '0'

/-- Every part was sent. -/
def IsWhole (u : Split) (sent : List ℕ) : Prop := ∀ index < u.texts.length, index + 1 ∈ sent

/-- The message under the sender's id. -/
def IsRow (u : Split) (m : Message) : Prop :=
  m.senderId = u.senderId ∧ m.clientMessageId = u.clientMessageId

/-- The message holds the parts that were sent, and is accepted when every part was. -/
structure Holds (u : Split) (sent : List ℕ) (m : Message) : Prop where
  row : u.IsRow m
  recipient : m.recipientId = u.recipient.id
  count : m.partCount.val = u.texts.length
  device : m.senderDeviceId = some u.deviceId
  parts : m.partTexts = u.heldTexts sent
  accepted : m.acceptedAt.isSome ↔ u.IsWhole sent

/-- **What the relay holds** after these parts. -/
structure IsHeld (u : Split) (sent : List ℕ) (db : Db) : Prop where
  unused : sent = [] → ∀ m ∈ db.messages, ¬ u.IsRow m
  held : sent ≠ [] → ∃ m ∈ db.messages, u.Holds sent m

section Parts

variable {u : Split} {sent : List ℕ} {m : Message} {part : MessagePartRequest}

theorem getElem?_heldTexts (u : Split) (sent : List ℕ) (index : ℕ) :
    (u.heldTexts sent)[index]? =
      if index < u.texts.length then
        some (if index + 1 ∈ sent then u.texts[index]? else none)
      else none := by
  unfold heldTexts
  rw [List.getElem?_map]
  by_cases hlt : index < u.texts.length
  · rw [if_pos hlt, List.getElem?_range hlt]
    rfl
  · rw [if_neg hlt, List.getElem?_eq_none (by simpa using hlt)]
    rfl

/-- What a part of the message shows. -/
theorem isPart_iff : u.isPart part = true ↔
    normalizeUsernameForLookup part.recipientUsername = u.recipient.usernameLookup ∧
      part.messageId = u.clientMessageId.val ∧ part.partCount = u.texts.length ∧
      1 ≤ part.partNumber ∧ u.texts[part.partNumber - 1]? = some part.partText := by
  simp only [isPart, Bool.and_eq_true, decide_eq_true_eq, and_assoc]

/-- A part of the message is valid. -/
theorem isValid_of_isPart (hpart : u.isPart part = true) :
    isValidPartNumbering part.partNumber part.partCount = true ∧
      isValidPartText part.partText = true := by
  obtain ⟨-, -, hcount, hone, htext⟩ := isPart_iff.1 hpart
  obtain ⟨hlt, -⟩ := List.getElem?_eq_some_iff.1 htext
  refine ⟨?_, u.valid _ (List.mem_of_getElem? htext)⟩
  have hmax := u.count.2
  simp only [isValidPartNumbering, Bool.and_eq_true, decide_eq_true_eq]
  omega

/-- **One more part.** -/
theorem partTexts_messageWithPart (hparts : m.partTexts = u.heldTexts sent)
    (hpart : u.isPart part = true) (now : Time) :
    (messageWithPart m part now).partTexts = u.heldTexts (sent ++ [part.partNumber]) := by
  obtain ⟨-, -, -, hone, htext⟩ := isPart_iff.1 hpart
  obtain ⟨hlt, -⟩ := List.getElem?_eq_some_iff.1 htext
  have hnumber : part.partNumber - 1 + 1 = part.partNumber := by omega
  rw [messageWithPart_partTexts, hparts, List.getD_eq_getElem?_getD, getElem?_heldTexts,
    if_pos hlt, hnumber, Option.getD_some, htext]
  by_cases hsent : part.partNumber ∈ sent
  · -- a repeated part
    rw [if_pos hsent, if_neg (by simp)]
    refine List.map_congr_left fun index _ => ?_
    have hsame : (index + 1 ∈ sent ++ [part.partNumber]) ↔ index + 1 ∈ sent := by
      rw [List.mem_append, List.mem_singleton]
      exact ⟨fun h => h.elim id fun h => h ▸ hsent, Or.inl⟩
    simp only [hsame]
  · rw [if_neg hsent, if_pos rfl]
    refine List.ext_getElem? fun index => ?_
    rw [List.getElem?_set, getElem?_heldTexts, getElem?_heldTexts]
    by_cases hindex : part.partNumber - 1 = index
    · subst hindex
      have hlength : part.partNumber - 1 < (u.heldTexts sent).length := by
        simpa [heldTexts] using hlt
      rw [if_pos rfl, if_pos hlength, if_pos hlt, hnumber, if_pos (by simp), htext]
    · have hother : index + 1 ≠ part.partNumber := by omega
      rw [if_neg hindex]
      simp [hother]

/-- The set of a message that holds these parts. -/
theorem receivedSetOf_eq (hparts : m.partTexts = u.heldTexts sent) :
    receivedSetOf m = u.receivedSet sent := by
  unfold receivedSetOf receivedSet
  rw [hparts, heldTexts, List.map_map]
  refine List.map_congr_left fun index hindex => ?_
  have hlt := List.mem_range.1 hindex
  rw [Function.comp_apply]
  by_cases hsent : index + 1 ∈ sent
  · rw [if_pos hsent, if_pos hsent, List.getElem?_eq_getElem hlt]
    rfl
  · rw [if_neg hsent, if_neg hsent]
    rfl

/-- The set is all ones when every part was sent. -/
theorem receivedSet_eq_replicate :
    u.receivedSet sent = List.replicate u.texts.length '1' ↔ u.IsWhole sent := by
  rw [List.eq_replicate_iff]
  simp only [receivedSet, List.length_map, List.length_range, true_and, List.mem_map,
    List.mem_range]
  constructor
  · intro h index hlt
    by_contra hsent
    have := h _ ⟨index, hlt, rfl⟩
    rw [if_neg hsent] at this
    cases this
  · rintro h b ⟨index, hlt, rfl⟩
    rw [if_pos (h index hlt)]

/-- Every part is held when every part was sent. -/
theorem isSome_heldTexts : (∀ t ∈ u.heldTexts sent, t.isSome) ↔ u.IsWhole sent := by
  simp only [heldTexts, List.mem_map, List.mem_range]
  constructor
  · intro h index hlt
    by_contra hsent
    have := h _ ⟨index, hlt, rfl⟩
    rw [if_neg hsent] at this
    cases this
  · rintro h t ⟨index, hlt, rfl⟩
    rw [if_pos (h index hlt), List.getElem?_eq_getElem hlt]
    rfl

/-- The text of a whole message is its texts one after the other. -/
theorem filterMap_heldTexts (hwhole : u.IsWhole sent) :
    (u.heldTexts sent).filterMap id = u.texts := by
  have hall : u.heldTexts sent = u.texts.map some := by
    refine List.ext_getElem? fun index => ?_
    rw [getElem?_heldTexts, List.getElem?_map]
    by_cases hlt : index < u.texts.length
    · rw [if_pos hlt, if_pos (hwhole index hlt), List.getElem?_eq_getElem hlt]
      rfl
    · rw [if_neg hlt, List.getElem?_eq_none (not_lt.1 hlt)]
      rfl
  rw [hall, List.filterMap_map]
  simp

end Parts

end Split

/-! ### A part of the upload -/

section Uploading

variable {hashing : PasswordHashing} {input : Input} {db : Db} {deviceId : ℕ}
  {part : MessagePartRequest} {now : Time}

/-- **A valid part that fits the message under its id is not refused.** -/
theorem acceptMessagePart_fits (settings : RelaySettings) (hdb : Consistent db) {senderId : ℕ}
    {recipient : User} (hlinked : db.deviceUserId deviceId = some senderId)
    (huser : db.userByLookup (normalizeUsernameForLookup part.recipientUsername) = some recipient)
    (hparties : recipient.id ≠ senderId)
    (hvalid : isValidPartNumbering part.partNumber part.partCount = true ∧
      isValidPartText part.partText = true)
    (hid : messageIdMinimum ≤ part.messageId ∧ part.messageId ≤ messageIdMaximum)
    (hfits : ∀ m ∈ db.messages, m.senderId = senderId → m.clientMessageId.val = part.messageId →
      PartFits m recipient.id deviceId part) (now : Time) :
    ∃ db' outcome, acceptMessagePart settings db deviceId part now = .ok (db', outcome) ∧
      ∀ e, outcome.reply ≠ .errorReply e := by
  have hfound : (db.users.get? recipient.id).isSome :=
    Option.isSome_of_eq_some (Table.get?_key (userByLookup_eq_some huser).1)
  unfold acceptMessagePart
  rw [hlinked]
  simp only [huser]
  rw [if_neg hparties, lockSenderRecipientAndDevice_eq (hdb.user_of_deviceUserId hlinked) hfound
    hparties.symm hlinked]
  simp only [bind, Except.bind, pure, Except.pure]
  rw [dif_pos hvalid]
  cases hlocked : lockOrCreateMessage db senderId recipient.id deviceId part
      ⟨part.partCount, partCount_of_isValidPartNumbering hvalid.1⟩ now with
  | error serviceError =>
      unfold lockOrCreateMessage at hlocked
      split at hlocked
      · cases hlocked
      · rw [dif_pos hid] at hlocked
        cases hlocked
  | ok committed =>
      obtain ⟨lockedDb, m⟩ := committed
      have locked := lockOrCreateMessage_ok hlocked
      have hm := locked.spec.1
      have hno : findPartConflict m recipient.id deviceId part = [] ∧
          m.partTexts.length = m.partCount.val := by
        cases locked with
        | existing hm hsender hid =>
            exact ⟨findPartConflict_eq_nil.2 (hfits m hm hsender hid), (hdb.messages m hm).parts⟩
        | created hid hnew =>
            refine ⟨findPartConflict_of_empty rfl rfl ?_ rfl, List.length_replicate⟩
            simp only [newMessage_partTexts, List.getD_eq_getElem?_getD, List.getElem?_replicate]
            split <;> rfl
      dsimp only
      rw [if_neg (not_not.2 hno.1)]
      exact not_errorReply_storePartOfMessage settings recipient part now hm hno.2

/-- **Such a part is stored.** -/
theorem step_messagePart_fits (hashing : PasswordHashing) (hdb : Consistent db)
    (hevent : input.event = .messagePart deviceId part now) {senderId : ℕ} {recipient : User}
    (hlinked : db.deviceUserId deviceId = some senderId)
    (huser : db.userByLookup (normalizeUsernameForLookup part.recipientUsername) = some recipient)
    (hparties : recipient.id ≠ senderId)
    (hvalid : isValidPartNumbering part.partNumber part.partCount = true ∧
      isValidPartText part.partText = true)
    (hid : messageIdMinimum ≤ part.messageId ∧ part.messageId ≤ messageIdMaximum)
    (hfits : ∀ m ∈ db.messages, m.senderId = senderId → m.clientMessageId.val = part.messageId →
      PartFits m recipient.id deviceId part) :
    ∃ m n outcome, (step hashing db input).2 = .partAnswered outcome ∧
      StoresPart input db (step hashing db input).1 deviceId part now m n ∧
      m.senderId = senderId ∧ m.recipientId = recipient.id ∧
      outcome.reply = .sendStatusReply recipient.username.val part.messageId (receivedSetOf n) := by
  obtain ⟨db', outcome, haccept, hreply⟩ := acceptMessagePart_fits input.settings hdb hlinked huser
    hparties hvalid hid hfits now
  have hanswer : (step hashing db input).2 = .partAnswered outcome := by
    simp only [step, hevent, haccept, commit]
  have hstep := step_messagePart hashing hdb hevent
  rw [hanswer] at hstep ⊢
  generalize (step hashing db input).1 = db' at hstep ⊢
  generalize hsame : Outcome.partAnswered outcome = answer at hstep ⊢
  cases hstep with
  | failed => cases hsame
  | refused =>
      obtain rfl := Outcome.partAnswered.inj hsame
      exact absurd rfl (hreply _)
  | @stored m n user _ _ stores hrecipient hset =>
      obtain ⟨found, hfound, hkey⟩ := stores.upload.recipient
      rw [huser] at hfound
      obtain rfl := Option.some.inj hfound
      have hother : user = recipient := by
        refine Table.eq_of_key_eq (Table.mem_of_get? hrecipient) (userByLookup_eq_some huser).1 ?_
        rw [key_user, key_user, hkey]
        exact Table.key_of_get? hrecipient
      subst hother
      exact ⟨m, n, _, rfl, stores,
        Option.some.inj (stores.upload.sender.symm.trans hlinked), hkey.symm, hset⟩

end Uploading

namespace Split

variable {u : Split} {sent : List ℕ} {hashing : PasswordHashing} {input : Input} {db : Db}

/-- There is one message under the sender's id. -/
theorem IsRow.eq {m n : Message} (h : u.IsRow m) (h' : u.IsRow n) (hdb : Consistent db)
    (hm : m ∈ db.messages) (hn : n ∈ db.messages) : m = n :=
  hdb.messages_unique m hm n hn (h.1.trans h'.1.symm) (h.2.trans h'.2.symm)

/-- The recipient is found by its name. -/
theorem userByLookup_recipient (hdb : Consistent db) (hlinked : u.Linked db) :
    db.userByLookup u.recipient.usernameLookup = some u.recipient := by
  have hmem := Table.mem_of_get? hlinked.2
  refine Table.first?_eq_of_unique hmem (by simp) fun user huser hlookup => ?_
  exact hdb.users_unique user huser _ hmem (by simpa using hlookup)

/-- A part fits what is held under the id. -/
theorem fits_of_isHeld (hdb : Consistent db) (hheld : u.IsHeld sent db) {part : MessagePartRequest}
    (hpart : u.isPart part = true) {m : Message} (hm : m ∈ db.messages) (hrow : u.IsRow m) :
    u.Holds sent m ∧ PartFits m u.recipient.id u.deviceId part := by
  obtain ⟨-, -, hcount, hone, htext⟩ := isPart_iff.1 hpart
  obtain ⟨hlt, -⟩ := List.getElem?_eq_some_iff.1 htext
  have hsent : sent ≠ [] := fun h => hheld.unused h m hm hrow
  obtain ⟨n, hn, hholds⟩ := hheld.held hsent
  obtain rfl := hrow.eq hholds.row hdb hm hn
  refine ⟨hholds, hholds.recipient, hholds.count.trans hcount.symm, fun text htext' => ?_,
    fun _ _ => hholds.device⟩
  rw [hholds.parts, List.getD_eq_getElem?_getD, getElem?_heldTexts, if_pos hlt,
    Option.getD_some] at htext'
  split at htext'
  · exact Option.some.inj (htext'.symm.trans htext)
  · cases htext'

/-- **A part of the upload** is answered with the set of the parts that were sent, and is held. -/
theorem step_part (hdb : Consistent db) (hlinked : u.Linked db) (hheld : u.IsHeld sent db)
    {part : MessagePartRequest} {now : Time}
    (hevent : input.event = .messagePart u.deviceId part now) (hpart : u.isPart part = true) :
    (∃ outcome, (step hashing db input).2 = .partAnswered outcome ∧ outcome.reply =
        .sendStatusReply u.recipient.username.val u.clientMessageId.val
          (u.receivedSet (sent ++ [part.partNumber]))) ∧
      ∃ n ∈ (step hashing db input).1.messages, u.Holds (sent ++ [part.partNumber]) n := by
  obtain ⟨hrecipient, hid, hcount, -⟩ := isPart_iff.1 hpart
  obtain ⟨m, n, outcome, hanswer, stores, hsender, hto, hreply⟩ := step_messagePart_fits
    hashing hdb hevent hlinked.1 (hrecipient ▸ userByLookup_recipient hdb hlinked) u.parties
    (isValid_of_isPart hpart)
    (hid ▸ u.clientMessageId.2) fun m hm hsender hclient =>
      (fits_of_isHeld hdb hheld hpart hm ⟨hsender, Subtype.ext (hclient.trans hid)⟩).2
  obtain ⟨-, hsender', hto', hclient', hcount', hdevice', hparts'⟩ := stores.keeps
  have hrow : u.IsRow m := ⟨hsender, Subtype.ext (stores.id.trans hid)⟩
  -- the message before the part: the one under the id, or one that was just created
  have hbefore : m.partTexts = u.heldTexts sent ∧ m.senderDeviceId = some u.deviceId ∧
      (m.acceptedAt.isSome → u.IsWhole sent) := by
    rcases stores.origin with hm | hfirst
    · obtain ⟨hholds, -⟩ := fits_of_isHeld hdb hheld hpart hm hrow
      exact ⟨hholds.parts, hholds.device, hholds.accepted.1⟩
    · have hsent : sent = [] := by
        by_contra hsent
        obtain ⟨n, hn, hholds⟩ := hheld.held hsent
        exact hfirst.unused n hn ⟨hholds.row.1.trans hsender.symm,
          hholds.row.2.trans hrow.2.symm⟩
      have hlength : m.partCount.val = u.texts.length := stores.fits.count.trans hcount
      refine ⟨?_, congrArg Message.senderDeviceId hfirst.new, fun haccepted => ?_⟩
      · rw [congrArg Message.partTexts hfirst.new, newMessage_partTexts, hlength, hsent]
        simp [heldTexts]
      · rw [congrArg Message.acceptedAt hfirst.new] at haccepted
        cases haccepted
  obtain ⟨hparts, hdevice, hwhole⟩ := hbefore
  have hafter : n.partTexts = u.heldTexts (sent ++ [part.partNumber]) :=
    hparts'.trans (partTexts_messageWithPart hparts hpart now)
  refine ⟨⟨outcome, hanswer, ?_⟩, n, (stores.rows n).2 (Or.inl rfl), ⟨⟨hsender'.trans hsender,
    hclient'.trans hrow.2⟩, hto'.trans hto, ?_, hdevice'.trans hdevice, hafter, ?_⟩⟩
  · rw [hreply, receivedSetOf_eq hafter, hid]
  · rw [hcount']
    exact stores.fits.count.trans hcount
  · rw [← isSome_heldTexts, ← hafter]
    rcases stores.result with ⟨hnot, rfl, -⟩ | ⟨hcompletes, rfl⟩
    · constructor
      · intro haccepted
        rw [hafter, isSome_heldTexts]
        intro index hlt
        exact List.mem_append_left _ (hwhole haccepted index hlt)
      · intro hall
        by_contra hopen
        exact hnot ⟨by simpa using hopen, hall⟩
    · exact iff_of_true rfl hcompletes.2

/-- The row of another transaction's database still holds what it held. -/
theorem Holds.congr {m m' : Message} (h : u.Holds sent m) (hsender : m'.senderId = m.senderId)
    (hrecipient : m'.recipientId = m.recipientId)
    (hclient : m'.clientMessageId = m.clientMessageId) (hcount : m'.partCount = m.partCount)
    (hdevice : m'.senderDeviceId = m.senderDeviceId) (hparts : m'.partTexts = m.partTexts)
    (haccepted : m'.acceptedAt = m.acceptedAt) : u.Holds sent m' where
  row := ⟨hsender.trans h.row.1, hclient.trans h.row.2⟩
  recipient := hrecipient.trans h.recipient
  count := by rw [hcount, h.count]
  device := hdevice.trans h.device
  parts := hparts.trans h.parts
  accepted := by rw [haccepted, h.accepted]

/-- A deletion that keeps the device and both parties keeps the message. -/
theorem Holds.deleteRows {roots : DeletionRoots} {m : Message} (h : u.Holds sent m)
    (hm : m ∈ db.messages) (hdb' : Consistent (deleteRows db roots))
    (hlinked : u.Linked (deleteRows db roots)) (hroots : roots.message m = false) :
    ∃ m' ∈ (HoptalkRelay.deleteRows db roots).messages, u.Holds sent m' := by
  have huser : ∀ userId, ((HoptalkRelay.deleteRows db roots).users.get? userId).isSome →
      isUserDeleted db roots userId = false := by
    intro userId hfound
    change ((db.users.deleteWhere roots.user).get? userId).isSome at hfound
    rw [Table.get?_deleteWhere] at hfound
    unfold isUserDeleted
    cases huser : db.users.get? userId with
    | none => rfl
    | some user =>
        rw [huser] at hfound
        by_contra hdeleted
        simp only [Option.any_some, Bool.not_eq_false] at hdeleted
        simp [Option.filter, hdeleted] at hfound
  have hsender : isUserDeleted db roots m.senderId = false := by
    rw [h.row.1]
    exact huser _ (hdb'.user_of_deviceUserId hlinked.1)
  have hrecipient : isUserDeleted db roots m.recipientId = false := by
    rw [h.recipient]
    exact huser _ (Option.isSome_of_eq_some hlinked.2)
  have hdevice : isContactDeleted db roots u.deviceId = false := by
    by_contra hdeleted
    have hnone := get?_contacts_of_isContactDeleted (by simpa using hdeleted)
    have hlink := hlinked.1
    rw [Db.deviceUserId, hnone] at hlink
    cases hlink
  refine ⟨forgetSenderDevice db roots m, mem_messages_deleteRows.2 ⟨m, hm, ?_, rfl⟩,
    h.congr rfl rfl rfl rfl ?_ rfl rfl⟩
  · simp [isMessageRowDeleted, hroots, hsender, hrecipient]
  · simp [forgetSenderDevice, h.device, Option.filter, hdevice]

/-- **Another transaction** leaves what is held. -/
theorem IsHeld.step_other (hheld : u.IsHeld sent db) (hdb : Consistent db)
    (hdb' : Consistent (step hashing db input).1) (hlinked : u.Linked (step hashing db input).1)
    (hother : ∀ deviceId part now, input.event ≠ .messagePart deviceId part now)
    (hkeep : ∀ now, input.event ≠ .deleteExpiredIncompleteMessages now) :
    u.IsHeld sent (step hashing db input).1 := by
  refine ⟨fun hsent m' hm' hrow => ?_, fun hsent => ?_⟩
  · obtain ⟨m, hm, hlater, -⟩ := step_messages_of_other hdb hother hm'
    exact hheld.unused hsent m hm
      ⟨hlater.sender.symm.trans hrow.1, hlater.clientMessageId.symm.trans hrow.2⟩
  obtain ⟨m, hm, hholds⟩ := hheld.held hsent
  cases hroots : input.event.deletionRoots? with
  | none =>
      -- without a deletion the message stays, and a confirmation is all that can change it
      refine (step_invariant hashing input hdb (P := fun db' => ∃ m' ∈ db'.messages,
        m'.id = m.id ∧ u.Holds sent m') ⟨m, hm, rfl, hholds⟩ ?_).2.imp
        fun m' hm' => ⟨hm'.1, hm'.2.2⟩
      rintro a b - ⟨n, hn, hid, hn'⟩ hwrite
      rcases hwrite.messages.outcome (Table.get?_key hn) with hsame | ⟨n', hn'', hchange⟩ |
        ⟨-, roots, hdeletes, -⟩
      · exact ⟨n, Table.mem_of_get? hsame, hid, hn'⟩
      · refine ⟨n', Table.mem_of_get? hn'', hchange.keeps.1.trans hid, ?_⟩
        cases hchange with
        | confirmed => exact hn'.congr rfl rfl rfl rfl rfl rfl rfl
        | partStored hopen upload | accepted hopen hall upload =>
            exact absurd upload.event (hother _ _ _)
        | forgotten hevent =>
            rw [hroots] at hevent
            cases hevent
      · have hevent := hdeletes.event
        rw [hroots] at hevent
        cases hevent
  | some roots =>
      have hstep : (step hashing db input).1 = HoptalkRelay.deleteRows db roots ∧
          roots.message m = false := by
        cases hevent : input.event with
        | deleteContact contactId =>
            rw [hevent] at hroots
            obtain rfl := Option.some.inj hroots
            simp only [step, hevent]
            exact ⟨rfl, trivial⟩
        | deleteUser userId =>
            rw [hevent] at hroots
            obtain rfl := Option.some.inj hroots
            simp only [step, hevent]
            exact ⟨rfl, trivial⟩
        | deleteExpiredIncompleteMessages now => exact absurd hevent (hkeep now)
        | _ =>
            rw [hevent] at hroots
            cases hroots
      rw [hstep.1] at hdb' hlinked ⊢
      exact hholds.deleteRows hm hdb' hlinked hstep.2

/-- **A part of another device**, or of another message, leaves what is held. -/
theorem IsHeld.step_part_of_other (hheld : u.IsHeld sent db) (hdb : Consistent db)
    {deviceId : ℕ} {part : MessagePartRequest} {now : Time}
    (hevent : input.event = .messagePart deviceId part now)
    (hother : part.messageId = u.clientMessageId.val → deviceId ≠ u.deviceId ∧
      (db.deviceUserId deviceId = some u.senderId → sent ≠ [])) :
    u.IsHeld sent (step hashing db input).1 := by
  have hstep := step_messagePart hashing hdb hevent
  generalize (step hashing db input).1 = db' at hstep ⊢
  generalize (step hashing db input).2 = answer at hstep
  cases hstep with
  | failed | refused => exact hheld
  | @stored m n recipient _ outcome stores =>
      obtain ⟨hid, hsender, hrecipient, hclient, hcount, hdevice, hparts⟩ := stores.keeps
      by_cases hrow : u.IsRow m
      · -- the message under the id takes no part from another device
        obtain ⟨hne, hused⟩ := hother (by rw [← stores.id, hrow.2])
        have hsent := hused (hrow.1 ▸ stores.upload.sender)
        obtain ⟨k, hk, hholds⟩ := hheld.held hsent
        have hm : m ∈ db.messages := by
          rcases stores.origin with hm | hfirst
          · exact hm
          · exact absurd ⟨hholds.row.1.trans hrow.1.symm, hholds.row.2.trans hrow.2.symm⟩
              (hfirst.unused k hk)
        obtain rfl := hrow.eq hholds.row hdb hm hk
        refine ⟨fun h => absurd h hsent, fun _ => ?_⟩
        by_cases haccepted : m.acceptedAt.isSome
        · rw [stores.unchanged haccepted]
          exact ⟨m, hm, hholds⟩
        · have hopen : m.acceptedAt = none := by simpa using haccepted
          have hheldPart : m.partTexts.getD (part.partNumber - 1) none ≠ none := by
            intro hmissing
            have hsame := hholds.device.symm.trans (stores.fits.device hopen hmissing)
            exact hne (Option.some.inj hsame).symm
          have hsame : (messageWithPart m part now).partTexts = m.partTexts := if_neg hheldPart
          refine ⟨n, (stores.rows n).2 (Or.inl rfl), ?_⟩
          rcases stores.result with ⟨-, rfl, -⟩ | ⟨hcompletes, -⟩
          · exact hholds.congr rfl rfl rfl rfl rfl hsame rfl
          · refine absurd (hholds.accepted.2 ?_) haccepted
            rw [← isSome_heldTexts, ← hholds.parts, ← hsame]
            exact hcompletes.2
      · have hrows : ∀ k, u.IsRow k → (k ∈ db'.messages ↔ k ∈ db.messages) := by
          intro k hk
          rw [stores.rows k]
          constructor
          · rintro (rfl | ⟨hk', -⟩)
            · exact absurd ⟨hsender.symm.trans hk.1, hclient.symm.trans hk.2⟩ hrow
            · exact hk'
          · intro hk'
            refine Or.inr ⟨hk', fun hsame => hrow ?_⟩
            rcases stores.origin with hm | hfirst
            · exact Table.eq_of_key_eq hm hk' hsame.symm ▸ hk
            · have hnew : m.id = db.messages.nextKey := congrArg Message.id hfirst.new
              have hbelow := db.messages.below k hk'
              rw [key_message, hsame, hnew] at hbelow
              exact absurd hbelow (lt_irrefl _)
        refine ⟨fun hsent k hk hk' => hheld.unused hsent k ((hrows k hk').1 hk) hk',
          fun hsent => ?_⟩
        obtain ⟨k, hk, hholds⟩ := hheld.held hsent
        exact ⟨k, (hrows k hholds.row).2 hk, hholds⟩

/-! ### The runs -/

theorem numberSent?_eq_some {number : ℕ} : u.numberSent? input = some number ↔
    ∃ part now, input.event = .messagePart u.deviceId part now ∧
      part.messageId = u.clientMessageId.val ∧ part.partNumber = number := by
  unfold numberSent?
  split
  · next deviceId part now hevent =>
      constructor
      · intro h
        split at h
        · next hsent =>
            obtain ⟨rfl, hid⟩ := hsent
            exact ⟨part, now, hevent, hid, Option.some.inj h⟩
        · cases h
      · rintro ⟨part', now', hevent', hid, rfl⟩
        obtain ⟨rfl, rfl, rfl⟩ := Event.messagePart.injEq .. ▸ hevent.symm.trans hevent'
        rw [if_pos ⟨rfl, hid⟩]
  · next hother =>
      refine iff_of_false (by simp) ?_
      rintro ⟨part, now, hevent, -⟩
      exact hother _ _ _ hevent

/-- **Every allowed transaction** leaves the parts that were sent held. -/
theorem IsHeld.step (hheld : u.IsHeld sent db) (hdb : Consistent db)
    (hdb' : Consistent (step hashing db input).1) (hlinked : u.Linked db)
    (hlinked' : u.Linked (HoptalkRelay.step hashing db input).1)
    (hallows : u.Allows sent db input) :
    u.IsHeld (sent ++ (u.numberSent? input).toList) (HoptalkRelay.step hashing db input).1 := by
  unfold Allows at hallows
  cases hnumber : u.numberSent? input with
  | some number =>
      obtain ⟨part, now, hevent, hid, rfl⟩ := numberSent?_eq_some.1 hnumber
      rw [hevent] at hallows
      have hpart : u.isPart part = true := by simpa using hallows hid
      exact ⟨fun h => absurd h (by simp), fun _ =>
        (step_part hdb hlinked hheld hevent hpart).2⟩
  | none =>
      rw [Option.toList_none, List.append_nil]
      by_cases hpart : ∃ deviceId part now, input.event = .messagePart deviceId part now
      · obtain ⟨deviceId, part, now, hevent⟩ := hpart
        rw [hevent] at hallows
        refine hheld.step_part_of_other hdb hevent fun hid => ?_
        have hne : deviceId ≠ u.deviceId := by
          rintro rfl
          have hsome := numberSent?_eq_some.2 ⟨part, now, hevent, hid, rfl⟩
          rw [hnumber] at hsome
          cases hsome
        have hlater := hallows hid
        rw [if_neg hne] at hlater
        exact ⟨hne, hlater⟩
      · refine hheld.step_other hdb hdb' hlinked'
          (fun deviceId part now hevent => hpart ⟨deviceId, part, now, hevent⟩) fun now hevent => ?_
        rw [hevent] at hallows
        exact hallows

theorem During.linked {history : List (Input × Outcome)} (h : u.During hashing sent db history) :
    u.Linked db := by
  cases history with
  | nil => exact h
  | cons entry history => exact h.1

/-- The rest of such a run is one, after the parts of its beginning. -/
theorem During.of_append {start : Db} {before after : List (Input × Outcome)}
    (run : (engine hashing).Run start before db)
    (h : u.During hashing sent start (before ++ after)) :
    u.During hashing (sent ++ u.sent before) db after := by
  induction before generalizing sent start with
  | nil =>
      obtain rfl := run.nil_inv
      simpa [Split.sent] using h
  | cons entry before ih =>
      obtain ⟨input, outcome⟩ := entry
      have hrest := ih run.cons_inv.2 h.2.2
      have hsent : u.sent ((input, outcome) :: before) =
          (u.numberSent? input).toList ++ u.sent before := by
        unfold Split.sent
        cases hnumber : u.numberSent? input <;> simp [hnumber]
      rwa [hsent, ← List.append_assoc]

/-- **The order of the parts does not matter**: after each step of such a run the relay holds the
parts that were sent. -/
theorem isHeld_of_run {start : Db} {before after : List (Input × Outcome)}
    (hstart : Consistent start) (hunused : ∀ m ∈ start.messages, ¬ u.IsRow m)
    (run : (engine hashing).Run start before db)
    (hduring : u.During hashing [] start (before ++ after)) :
    Consistent db ∧ u.IsHeld (u.sent before) db := by
  refine run.invariant (P := fun history db => Consistent db ∧ u.IsHeld (u.sent history) db)
    ⟨hstart, fun _ => hunused, fun h => absurd rfl h⟩ ?_
  rintro history db input run' hprefix ⟨hdb, hheld⟩
  obtain ⟨rest, hrest⟩ := hprefix
  have hdb' : Consistent (HoptalkRelay.step hashing db input).1 :=
    (step_invariant hashing input hdb (P := fun _ => True) trivial fun _ _ _ _ _ => trivial).1
  rw [← hrest, List.append_assoc, List.append_assoc] at hduring
  have hhere := During.of_append run' hduring
  rw [List.nil_append, List.singleton_append] at hhere
  have hheld' := hheld.step hdb hdb' hhere.1 hhere.2.2.linked hhere.2.1
  refine ⟨hdb', ?_⟩
  have hsent : u.sent (history ++ [(input, ((engine hashing).step db input).2)]) =
      u.sent history ++ (u.numberSent? input).toList := by
    unfold Split.sent
    cases hnumber : u.numberSent? input <;> simp [hnumber]
  rw [hsent]
  exact hheld'

end Split

/-! ### The deliveries -/

section Deliveries

variable {hashing : PasswordHashing} {input : Input} {db : Db} {n : Message}

/-- A message that a step accepts was uploaded in this step. -/
theorem accepts_of_step (hdb : Consistent db) (hn : n ∈ (step hashing db input).1.messages)
    (haccepted : n.acceptedAt.isSome)
    (hopen : ∀ m ∈ db.messages, m.id = n.id → m.acceptedAt = none) :
    ∃ lockedDb m now, Accepts lockedDb (step hashing db input).1 m now ∧ m.id = n.id ∧
      m.recipientId = n.recipientId ∧ lockedDb.contacts = db.contacts ∧
      ∀ d ∈ lockedDb.deliveries, d.messageId ≠ n.id := by
  have hnot : n ∉ db.messages := by
    intro hmem
    rw [hopen n hmem rfl] at haccepted
    cases haccepted
  by_cases hpart : ∃ deviceId part now, input.event = .messagePart deviceId part now
  swap
  · obtain ⟨m, hm, hlater, -, hsame, -⟩ := step_messages_of_other hdb
      (fun deviceId part now hevent => hpart ⟨deviceId, part, now, hevent⟩) hn
    rw [hsame, hopen m hm hlater.id.symm] at haccepted
    cases haccepted
  obtain ⟨deviceId, part, now, hevent⟩ := hpart
  simp only [step, hevent] at hn ⊢
  cases haccept : acceptMessagePart input.settings db deviceId part now with
  | error serviceError =>
      rw [haccept] at hn
      exact absurd hn hnot
  | ok committed =>
  obtain ⟨db', outcome⟩ := committed
  rw [haccept] at hn
  replace hn : n ∈ db'.messages := hn
  show ∃ lockedDb m now, Accepts lockedDb db' m now ∧ _
  cases acceptMessagePart_ok hevent haccept with
  | refused | conflict => exact absurd hn hnot
  | @stored senderId recipient partCount lockedDb m _ _ upload huser hcount locked hfits hstored =>
      obtain ⟨hm, rfl, hid, husers, hcontacts⟩ := locked.spec
      have hto : m.recipientId = recipient.id := hfits.recipient
      have hlocked : Consistent lockedDb := (locked.quiets upload hcount).consistent hdb
      rw [← hto] at upload
      cases storePartOfMessage_ok hm hstored with
      | held receivedSet hwhole hset hreply hdb' =>
          rw [hdb'] at hn
          rcases (locked.mem_put_iff (messageWithPart m part now) rfl).1 hn with rfl | ⟨hn, -⟩
          · rcases locked.origin.2 with ⟨hm, -⟩ | ⟨-, hnone⟩
            · have hnone := hopen m hm rfl
              rw [messageWithPart_acceptedAt, hnone] at haccepted
              cases haccepted
            · rw [messageWithPart_acceptedAt, hnone] at haccepted
              cases haccepted
          · exact absurd hn hnot
      | accepted receivedSet hnone hall hset hreply hdb' =>
          have hmem : messageWithPart m part now ∈
              (lockedDb.putMessage (messageWithPart m part now)).messages :=
            Table.mem_put_self hm rfl
          have hdeliveries : ∀ d ∈ lockedDb.deliveries, d.messageId ≠ m.id :=
            hlocked.not_delivery_of_open hm hnone
          have haccepts := (acceptMessage_spec hmem hnone hall
            ((upload.congr husers hcontacts).congr rfl rfl) hid hdeliveries).2.2
          have hput : (lockedDb.messages.put (messageWithPart m part now)).put
              (acceptedMessage (messageWithPart m part now) now) =
              lockedDb.messages.put (acceptedMessage (messageWithPart m part now) now) :=
            Table.put_put rfl
          rw [hdb', haccepts.messages, Db.messages_putMessage, hput] at hn
          rcases (locked.mem_put_iff (acceptedMessage (messageWithPart m part now) now) rfl).1 hn
            with rfl | ⟨hn, -⟩
          · rw [hdb']
            exact ⟨_, _, now, haccepts, rfl, rfl, hcontacts, hdeliveries⟩
          · exact absurd hn hnot

/-- **The step that accepts a message** gives every device of its recipient a delivery, and no other
device. -/
theorem accepts_once (hdb : Consistent db) (hn : n ∈ (step hashing db input).1.messages)
    (haccepted : n.acceptedAt.isSome)
    (hopen : ∀ m ∈ db.messages, m.id = n.id → m.acceptedAt = none) (deviceId : ℕ) :
    (step hashing db input).1.deliveries.count (fun d => d.messageId = n.id &&
        d.deviceId = deviceId) =
      if db.deviceUserId deviceId = some n.recipientId then 1 else 0 := by
  have hdb' : Consistent (step hashing db input).1 :=
    (step_invariant hashing input hdb (P := fun _ => True) trivial fun _ _ _ _ _ => trivial).1
  obtain ⟨lockedDb, m, now, haccepts, hid, hrecipient, hcontacts, hnone⟩ :=
    accepts_of_step hdb hn haccepted hopen
  have hlink := Db.deviceUserId_congr hcontacts deviceId
  generalize (step hashing db input).1 = db' at *
  split
  · next hlinked =>
      obtain ⟨d, hd, hmessage, hdevice⟩ :=
        haccepts.created deviceId (by rw [hlink, hlinked, hrecipient])
      have hone := Table.length_eq_count (t := db'.deliveries) (p := fun d : MessageDelivery =>
        d.messageId = n.id && d.deviceId = deviceId) (List.nodup_singleton d.id) fun k => ?_
      · exact hone.symm
      · rw [List.mem_singleton]
        constructor
        · rintro rfl
          exact ⟨d, hd, by simp [hmessage, hid, hdevice], rfl⟩
        · rintro ⟨e, he, hcond, rfl⟩
          simp only [Bool.and_eq_true, decide_eq_true_eq] at hcond
          rw [hdb'.deliveries_unique e he d hd (hcond.1.trans (hid.symm.trans hmessage.symm))
            (hcond.2.trans hdevice.symm)]
          rfl
  · next hother =>
      refine Table.count_eq_zero.2 fun d hd => ?_
      by_contra hcond
      simp only [Bool.not_eq_false, Bool.and_eq_true, decide_eq_true_eq] at hcond
      rcases haccepts.only d hd with hold | ⟨-, hlinked⟩
      · exact hnone d hold hcond.1
      · rw [hcond.2, hlink, hrecipient] at hlinked
        exact hother hlinked

/-- A message that is being fanned out was accepted in this transaction. -/
theorem Write.fanningOut {a b : Phase × Db} (h : Write input a b) {messageId : ℕ}
    (hphase : b.1 = .fanningOut messageId) :
    a.1 = .fanningOut messageId ∨ ∃ m ∈ a.2.messages, m.id = messageId ∧ m.acceptedAt = none := by
  cases h with
  | quiet p h => exact Or.inl hphase
  | @delivery db d d' p p' hd change =>
      cases change with
      | exhausted now =>
          cases hfound : findActiveRefreshSessionId db d <;>
            simp [hfound, Phase.afterFailure] at hphase
      | stopped | takenOver | armed => cases hphase
  | @delivered db d m now mask isRead hd hstate hm =>
      cases hfound : headSessionId db d <;> simp [hfound, Phase.afterConfirmation] at hphase
  | newDelivery => exact Or.inl hphase
  | newOwnedDelivery => exact Or.inl hphase
  | accepted hm hnone => exact Or.inr ⟨_, hm, Phase.fanningOut.inj hphase, hnone⟩
  | readAgain | fannedOut | newSession | opened | completed | stopped | linked | relinked
  | deleted => cases hphase

/-- Where the deliveries of an accepted message stand within a transaction. -/
structure CreatedByRefresh (input : Input) (start : Db) (m : Message) (b : Phase × Db) : Prop where
  later : Table.Followed (fun m n : Message => m.acceptedAt.isSome → n.acceptedAt.isSome) m
    b.2.messages
  notFanning : b.1 ≠ .fanningOut m.id
  kept : input.event.deletionRoots? = none → ∀ e ∈ start.deliveries, ∃ e' ∈ b.2.deliveries,
    e'.messageId = e.messageId ∧ e'.deviceId = e.deviceId
  rows : ∀ d ∈ b.2.deliveries, d.messageId = m.id →
    (∃ e ∈ start.deliveries, e.id = d.id ∧ e.messageId = m.id ∧ e.deviceId = d.deviceId) ∨
      input.event.refreshes d.deviceId = true ∧
        ∀ e ∈ start.deliveries, ¬ (e.messageId = m.id ∧ e.deviceId = d.deviceId)

theorem deletionRoots?_of_refreshes {deviceId : ℕ}
    (h : input.event.refreshes deviceId = true) : input.event.deletionRoots? = none := by
  unfold Event.refreshes at h
  split at h
  · next hevent => rw [hevent]; rfl
  · cases h

theorem CreatedByRefresh.write {m : Message} {a b : Phase × Db} (haccepted : m.acceptedAt.isSome)
    (h : CreatedByRefresh input db m a) (hwrite : Write input a b) :
    CreatedByRefresh input db m b where
  later := by
    refine h.later.steps (fun n n' hn hlater hchange haccepted => ?_) hwrite.messages
    rw [hchange.acceptedAt (hlater haccepted)]
    exact hlater haccepted
  notFanning := by
    intro hphase
    rcases hwrite.fanningOut hphase with hphase' | ⟨n, hn, hid, hopen⟩
    · exact h.notFanning hphase'
    · have hfound : a.2.messages.get? (key m) = some n := by
        rw [key_message, ← hid]
        exact Table.get?_key hn
      have hsome := h.later.later n hfound haccepted
      rw [hopen] at hsome
      cases hsome
  kept := by
    intro hroots e he
    obtain ⟨e', he', hmessage, hdevice⟩ := h.kept hroots e he
    rcases hwrite.deliveries.outcome (Table.get?_key he') with hsame | ⟨e'', hfound, hchange⟩ |
      ⟨-, roots, hdeletes, -⟩
    · exact ⟨e', Table.mem_of_get? hsame, hmessage, hdevice⟩
    · obtain ⟨-, hmessage', hdevice'⟩ := hchange.keeps
      exact ⟨e'', Table.mem_of_get? hfound, hmessage'.trans hmessage, hdevice'.trans hdevice⟩
    · have hevent := hdeletes.event
      rw [hroots] at hevent
      cases hevent
  rows := by
    intro d hd hmessage
    rcases hwrite.deliveries.origin hd with hd' | ⟨e, he, -, hchange⟩ | ⟨-, hcreated⟩
    · exact h.rows d hd' hmessage
    · obtain ⟨hid, hmessage', hdevice⟩ := hchange.keeps
      rw [hid, hdevice]
      exact h.rows e he (hmessage'.symm.trans hmessage)
    · have hnone : ∀ deviceId, input.event.refreshes deviceId = true →
          (∀ e ∈ a.2.deliveries, ¬ (e.messageId = m.id ∧ e.deviceId = deviceId)) →
          ∀ e ∈ db.deliveries, ¬ (e.messageId = m.id ∧ e.deviceId = deviceId) := by
        rintro deviceId hrefreshes hnew e he ⟨hof, hdev⟩
        obtain ⟨e', he', hmessage', hdevice'⟩ :=
          h.kept (deletionRoots?_of_refreshes hrefreshes) e he
        exact hnew e' he' ⟨hmessage'.trans hof, hdevice'.trans hdev⟩
      cases hcreated with
      | pending hm haccepted' hlinked hnew hphase =>
          rw [pendingDelivery_messageId] at hmessage
          exact absurd (hmessage ▸ hphase) h.notFanning
      | owned hm haccepted' hlinked hnew hs hdevice hpeer hactive hphase hevent =>
          rw [queuedDelivery_messageId] at hmessage
          rw [hmessage] at hnew hphase
          have hopening := hphase.resolve_right h.notFanning
          exact Or.inr ⟨hevent hopening, hnone _ (hevent hopening) hnew⟩

/-- **A delivery of a message that was accepted before** is created by an `F` of its device only,
when the device has none. -/
theorem created_by_refresh {m : Message} (hdb : Consistent db) (hm : m ∈ db.messages)
    (haccepted : m.acceptedAt.isSome) {d : MessageDelivery}
    (hd : d ∈ (step hashing db input).1.deliveries) (hmessage : d.messageId = m.id) :
    (∃ e ∈ db.deliveries, e.id = d.id ∧ e.messageId = m.id ∧ e.deviceId = d.deviceId) ∨
      input.event.refreshes d.deviceId = true ∧
        ∀ e ∈ db.deliveries, ¬ (e.messageId = m.id ∧ e.deviceId = d.deviceId) := by
  obtain ⟨phase, -, -, hcreated⟩ := step_phase_invariant hashing input hdb
    (P := CreatedByRefresh input db m)
    ⟨Table.followed_of_mem id hm, nofun, fun _ e he => ⟨e, he, rfl, rfl⟩,
      fun e he hof => Or.inl ⟨e, he, rfl, hof, rfl⟩⟩
    fun a b _ h hwrite => h.write haccepted hwrite
  exact hcreated.rows d hd hmessage

end Deliveries

/-- The message under an id after a step was there before it, or there was none. -/
theorem row_before {hashing : PasswordHashing} {input : Input} {db : Db} {m : Message}
    (hdb : Consistent db) (hm : m ∈ (step hashing db input).1.messages) :
    (∃ k ∈ db.messages, k.id = m.id ∧ k.senderId = m.senderId ∧
      k.clientMessageId = m.clientMessageId) ∨
    (∀ k ∈ db.messages, k.id ≠ m.id) ∧
      ∀ k ∈ db.messages, ¬ (k.senderId = m.senderId ∧ k.clientMessageId = m.clientMessageId) := by
  by_cases hpart : ∃ deviceId part now, input.event = .messagePart deviceId part now
  · obtain ⟨deviceId, part, now, hevent⟩ := hpart
    have hstep := step_messagePart hashing hdb hevent
    generalize (step hashing db input).1 = db' at hstep hm
    generalize (step hashing db input).2 = answer at hstep
    cases hstep with
    | failed | refused => exact Or.inl ⟨m, hm, rfl, rfl, rfl⟩
    | @stored n n' recipient _ outcome stores =>
        rcases (stores.rows m).1 hm with rfl | ⟨hm, -⟩
        · obtain ⟨hid, hsender, -, hclient, -⟩ := stores.keeps
          rcases stores.origin with hn | hfirst
          · exact Or.inl ⟨n, hn, hid.symm, hsender.symm, hclient.symm⟩
          · refine Or.inr ⟨fun k hk hsame => ?_, fun k hk h => hfirst.unused k hk ?_⟩
            · have hbelow := db.messages.below k hk
              have hnew : n.id = db.messages.nextKey := congrArg Message.id hfirst.new
              rw [key_message, hsame, hid, hnew] at hbelow
              exact absurd hbelow (lt_irrefl _)
            · exact ⟨h.1.trans hsender, h.2.trans hclient⟩
        · exact Or.inl ⟨m, hm, rfl, rfl, rfl⟩
  · obtain ⟨k, hk, hlater, -⟩ := step_messages_of_other hdb
      (fun deviceId part now hevent => hpart ⟨deviceId, part, now, hevent⟩) hm
    exact Or.inl ⟨k, hk, hlater.id.symm, hlater.sender.symm, hlater.clientMessageId.symm⟩

/-! ### Every upload -/

/-- **An upload in any order.**  From a state without a message under the sender's id, whatever the
other devices do and in whatever order, with whatever repetitions the device sends parts of one
message: each is answered with the set of the parts that were sent so far, this one included, and
this set is all ones exactly when the message is accepted; the message holds these parts, is
accepted with the last missing one, and its text is the parts in their order.  The step that accepts
it gives every device of the recipient one delivery; before there is none, and after it a device
without one gets one with an `F` of its own. -/
theorem upload_confluent {u : Split} {hashing : PasswordHashing} {start db : Db}
    {before : List (Input × Outcome)} {input : Input}
    (hreachable : (engine hashing).Reachable start) (hunused : ∀ m ∈ start.messages, ¬ u.IsRow m)
    (run : (engine hashing).Run start before db)
    (hduring : u.During hashing [] start (before ++ [(input, (step hashing db input).2)])) :
    let sent := u.sent before ++ (u.numberSent? input).toList
    let db' := (step hashing db input).1
    (∀ part now, input.event = .messagePart u.deviceId part now →
      part.messageId = u.clientMessageId.val →
      ∃ outcome, (step hashing db input).2 = .partAnswered outcome ∧ outcome.reply =
        .sendStatusReply u.recipient.username.val u.clientMessageId.val (u.receivedSet sent)) ∧
    (sent = [] → ∀ m ∈ db'.messages, ¬ u.IsRow m) ∧ (sent ≠ [] → ∃ m ∈ db'.messages, u.IsRow m) ∧
    ∀ m ∈ db'.messages, u.IsRow m →
      m.partTexts = u.heldTexts sent ∧
      (m.acceptedAt.isSome ↔ u.receivedSet sent = List.replicate u.texts.length '1') ∧
      (m.acceptedAt.isSome ↔ u.IsWhole sent) ∧
      (m.acceptedAt.isSome → m.text = some u.texts.flatten) ∧
      (m.acceptedAt = none → ∀ d ∈ db'.deliveries, d.messageId ≠ m.id) ∧
      (m.acceptedAt.isSome → ¬ u.IsWhole (u.sent before) → ∀ deviceId,
        db'.deliveries.count (fun d => d.messageId = m.id && d.deviceId = deviceId) =
          if db.deviceUserId deviceId = some u.recipient.id then 1 else 0) ∧
      (u.IsWhole (u.sent before) → ∀ d ∈ db'.deliveries, d.messageId = m.id →
        (∃ e ∈ db.deliveries, e.id = d.id ∧ e.messageId = m.id ∧ e.deviceId = d.deviceId) ∨
          input.event.refreshes d.deviceId = true ∧
            ∀ e ∈ db.deliveries, ¬ (e.messageId = m.id ∧ e.deviceId = d.deviceId)) := by
  obtain ⟨hdb, hheld⟩ :=
    Split.isHeld_of_run (consistent_of_reachable hreachable) hunused run hduring
  have hhere := Split.During.of_append run hduring
  rw [List.nil_append] at hhere
  have hdb' : Consistent (step hashing db input).1 :=
    (step_invariant hashing input hdb (P := fun _ => True) trivial fun _ _ _ _ _ => trivial).1
  have hheld' := hheld.step hdb hdb' hhere.1 hhere.2.2 hhere.2.1
  refine ⟨fun part now hevent hid => ?_, hheld'.unused,
    fun h => (hheld'.held h).imp fun m hm => ⟨hm.1, hm.2.row⟩, fun m hm hrow => ?_⟩
  · have hallows := hhere.2.1
    unfold Split.Allows at hallows
    rw [hevent] at hallows
    have hpart : u.isPart part = true := by simpa using hallows hid
    have hnumber : u.numberSent? input = some part.partNumber :=
      Split.numberSent?_eq_some.2 ⟨part, now, hevent, hid, rfl⟩
    rw [hnumber]
    exact (Split.step_part hdb hhere.1 hheld hevent hpart).1
  · have hsent : u.sent before ++ (u.numberSent? input).toList ≠ [] :=
      fun h => hheld'.unused h m hm hrow
    obtain ⟨n, hn, hholds⟩ := hheld'.held hsent
    obtain rfl := hrow.eq hholds.row hdb' hm hn
    refine ⟨hholds.parts, hholds.accepted.trans Split.receivedSet_eq_replicate.symm,
      hholds.accepted, fun haccepted => ?_, hdb'.not_delivery_of_open hm,
      fun haccepted hnot => ?_, fun hwhole => ?_⟩
    · obtain ⟨acceptedAt, hat⟩ := Option.isSome_iff_exists.1 haccepted
      rw [(hdb'.messages m hm).accepted_text, hat, hholds.parts,
        Split.filterMap_heldTexts (hholds.accepted.1 haccepted)]
      rfl
    · rw [← hholds.recipient]
      refine accepts_once hdb hm haccepted fun k hk hid => ?_
      -- the row that was there held the parts that were sent, and these are not all
      have hk' : u.IsRow k := by
        rcases row_before hdb hm with ⟨l, hl, hid', hsender, hclient⟩ | hnone
        · obtain rfl := Table.eq_of_key_eq hk hl (hid.trans hid'.symm)
          exact ⟨hsender.trans hrow.1, hclient.trans hrow.2⟩
        · exact absurd hid (hnone.1 k hk)
      have hused : u.sent before ≠ [] := fun h => hheld.unused h k hk hk'
      obtain ⟨l, hl, hl'⟩ := hheld.held hused
      obtain rfl := hk'.eq hl'.row hdb hk hl
      by_contra hsome
      exact hnot (hl'.accepted.1 (Option.isSome_iff_ne_none.2 hsome))
    · have hused : u.sent before ≠ [] := by
        intro hnone
        have hfirst := hwhole 0 (by have := u.count.1; omega)
        rw [hnone] at hfirst
        cases hfirst
      obtain ⟨k, hk, hk'⟩ := hheld.held hused
      have hid : k.id = m.id := by
        rcases row_before hdb hm with ⟨l, hl, hid, hsender, hclient⟩ | hnone
        · have hl' : u.IsRow l := ⟨hsender.trans hrow.1, hclient.trans hrow.2⟩
          obtain rfl := hk'.row.eq hl' hdb hk hl
          exact hid
        · exact absurd ⟨hk'.row.1.trans hrow.1.symm, hk'.row.2.trans hrow.2.symm⟩ (hnone.2 k hk)
      rw [← hid]
      exact fun d hd hmessage =>
        created_by_refresh hdb hk (hk'.accepted.2 hwhole) hd hmessage

/-! ### A message of two parts -/

/-- Bob, as he signed in. -/
def sampleBob : User where
  id := 2
  username := ⟨bob, by decide⟩
  passwordHash := samplePassword
  createdAt := sampleTime 6

/-- Alice's device sends bob a message of two parts. -/
def sampleSplit : Split where
  deviceId := 1
  senderId := 1
  recipient := sampleBob
  clientMessageId := ⟨7, by decide⟩
  texts := [['h'], ['i']]
  parties := by decide
  count := by decide
  valid := by decide

def sampleSplitPart (partNumber : ℕ) (partText : Text) : Event :=
  .messagePart 1
    { recipientUsername := bob, messageId := 7, partNumber, partCount := 2, partText }
    (sampleTime 8)

/-- Both users are signed in, and there is a third contact. -/
def sampleThirdContact : List Event :=
  sampleSignIns ++
    [.createContact [] ['c'] chatNodeType (sampleTime 7), .markContactOnNode 3 ['c'] (sampleTime 7)]

/-- The second part comes first, and twice. -/
def sampleUpload : List Event :=
  [sampleSplitPart 2 ['i'], .query 2 ⟨alice⟩, sampleSplitPart 2 ['i']]

/-- The first part completes the message; then the third contact signs in as bob, and asks for what
alice wrote. -/
def sampleLaterDevice : List Event :=
  sampleUpload ++
    [sampleSplitPart 1 ['h'], .account 3 ⟨bob, samplePassword⟩ [] (sampleTime 11),
      .refresh 3 ⟨alice⟩ none (sampleTime 12)]

/-- What the relay does with these requests. -/
def sampleUploadRun (events : List Event) : List (Input × Outcome) × Db :=
  (engine sampleHashing).exec (sampleDb sampleThirdContact) (sampleInputs events)

/-- The part that comes last is answered with a set of two ones. -/
theorem upload_confluent_sampleUpload :
    ∃ outcome, (step sampleHashing (sampleUploadRun sampleUpload).2
        ⟨sampleSettings, sampleSplitPart 1 ['h']⟩).2 = .partAnswered outcome ∧
      outcome.reply = .sendStatusReply bob 7 ['1', '1'] :=
  (upload_confluent (u := sampleSplit) (reachable_sampleDb sampleThirdContact)
    (fun m hm => by
      have hnone : (sampleDb sampleThirdContact).messages.rows = [] := by decide +kernel
      rw [← Table.mem_rows, hnone] at hm
      cases hm)
    ((engine sampleHashing).run_exec (sampleDb sampleThirdContact) (sampleInputs sampleUpload))
    (by decide +kernel)).1 _ (sampleTime 8) rfl rfl

/-- Bob's second device gets a delivery of the message long after the message was accepted. -/
theorem delivered_later_sampleLaterDevice :
    (sampleDb sampleThirdContact).messages.rows = [] ∧
      sampleSplit.During sampleHashing [] (sampleDb sampleThirdContact)
        (sampleUploadRun sampleLaterDevice).1 ∧
      (sampleUploadRun (sampleLaterDevice.take 4)).2.messages.rows.map
        (fun m => m.acceptedAt.isSome) = [true] ∧
      (sampleUploadRun (sampleLaterDevice.take 4)).2.deliveries.rows.map
        MessageDelivery.deviceId = [2] ∧
      (sampleUploadRun sampleLaterDevice).2.deliveries.rows.map
        MessageDelivery.deviceId = [2, 3] := by
  decide +kernel

end HoptalkRelay
