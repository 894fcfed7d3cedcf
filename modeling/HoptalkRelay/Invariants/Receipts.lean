/-
**Receipts only move forward.**

A receipt tells one device of the sender how far its message got.  Its target never exceeds what
happened to the message, its confirmed level never exceeds the target, and neither ever falls.  So
the levels sent to a device about one message never fall either.

A receipt is deleted only with its message or its device, and neither key is given again: there is
never a second receipt of a message for a device.

Main definitions:

* `HoptalkRelay.LevelsOk` — the levels of a receipt and its state belong together;
* `HoptalkRelay.IsForward` — a later row of the same receipt;
* `HoptalkRelay.PreparesReceipt` — a step prepares a packet of a receipt.

Main results:

* `HoptalkRelay.ReceiptFollowed.write` — a receipt moves forward, or is gone for good;
* `HoptalkRelay.receipts_only_move_forward` — **all of it, in every run**.
-/

import HoptalkRelay.Rows
import HoptalkRelay.Transactions.Steps

set_option relaxedAutoImplicit false
set_option autoImplicit false

namespace HoptalkRelay

open Relational Transition

/-! ### Levels -/

/-- The levels of a receipt of this message, and its state. -/
structure LevelsOk (r : ReceiptNotification) (m : Message) : Prop where
  confirmed_le : r.confirmedLevel ≤ r.targetLevel
  target_le : r.targetLevel ≤ readMessageLevel m
  state_iff : r.state ≠ .cancelled → (r.state = .confirmed ↔ r.confirmedLevel = r.targetLevel)

/-- Every receipt's levels belong together. -/
def ReceiptsOk (db : Db) : Prop :=
  ∀ r ∈ db.receipts, ∀ m, db.messages.get? r.messageId = some m → LevelsOk r m

theorem ReceiptsOk.empty : ReceiptsOk Db.empty :=
  fun _ h => absurd h (Table.not_mem_empty _)

theorem readMessageLevel_le (m : Message) : readMessageLevel m ≤ readLevel := by
  unfold readMessageLevel
  split_ifs <;> decide

section Write

variable {input : Input} {a b : Phase × Db} {db : Db} {r q : ReceiptNotification} {m n : Message}

/-- What happened to a message is never undone. -/
theorem MessageChange.readMessageLevel_le (h : MessageChange input db m n) :
    readMessageLevel m ≤ readMessageLevel n := by
  cases h with
  | partStored | accepted | forgotten => exact le_rfl
  | @confirmed now isRead =>
      unfold readMessageLevel
      cases hd : m.deliveredAt <;> cases hr : m.readAt <;> cases isRead <;>
        simp [confirmedMessage, hd, hr, readLevel, deliveredLevel]

/-- The level of a message never falls. -/
theorem Write.readMessageLevel_le (h : Write input a b) {messageId : ℕ}
    (hm : a.2.messages.get? messageId = some m) (hn : b.2.messages.get? messageId = some n) :
    readMessageLevel m ≤ readMessageLevel n := by
  rcases h.messages.outcome hm with hsame | ⟨n', hn', hchange⟩ | ⟨hnone, -⟩
  · obtain rfl := Option.some.inj (hn.symm.trans hsame)
    exact le_rfl
  · obtain rfl := Option.some.inj (hn.symm.trans hn')
    exact hchange.readMessageLevel_le
  · cases hn.symm.trans hnone

/-- Every change of a receipt keeps its levels in order. -/
theorem ReceiptChange.levelsOk (h : ReceiptChange input db r q)
    (hm : db.messages.get? r.messageId = some m) (hok : LevelsOk r m) : LevelsOk q m := by
  have hlink : ∀ message, ReceiptLink db r message → message = m := fun message hlink =>
    Option.some.inj (hlink.found.symm.trans hm)
  obtain ⟨hconfirmed, htarget, hstate⟩ := hok
  cases h with
  | started now hpending | sent now due hpending =>
      refine ⟨hconfirmed, htarget, fun _ => ?_⟩
      exact hstate (by simp [hpending])
  | exhausted now hpending =>
      refine ⟨hconfirmed, htarget, fun _ => ?_⟩
      have hne := hstate (by simp [hpending])
      simpa [hpending] using hne
  | acknowledged now => exact ⟨hconfirmed, htarget, hstate⟩
  | confirmed level now hlive hup hcap =>
      rw [max_eq_right hconfirmed] at hcap
      refine ⟨hcap, htarget, fun _ => ?_⟩
      have hnot : r.state ≠ .confirmed := by rcases hlive with h | h <;> simp [h]
      by_cases hlevel : level = r.targetLevel
      · simp [hlevel]
      · simp [hlevel, hnot]
  | raised message now hread hlevel hunread =>
      obtain rfl := hlink message hread
      have hbound := readMessageLevel_le message
      refine ⟨?_, hlevel.ge, fun _ => ?_⟩
      · simp only [raisedReceipt_confirmedLevel, raisedReceipt_targetLevel]
        omega
      · simpa using hunread
  | rearmed message now hread hlive =>
      refine ⟨hconfirmed, htarget, fun _ => ?_⟩
      have hne := hstate (by rcases hlive with h | h <;> simp [h])
      rcases hlive with h | h <;> simpa [h] using hne
  | revivedConfirmed message now hread hcancelled hlevel =>
      obtain rfl := hlink message hread
      exact ⟨hlevel.le, max_le htarget le_rfl, fun _ => by simpa using hlevel⟩
  | revivedPending message now hread hcancelled hlevel =>
      obtain rfl := hlink message hread
      refine ⟨hconfirmed.trans (le_max_left _ _), max_le htarget le_rfl, fun _ => ?_⟩
      simpa using hlevel

/-- Every change of a receipt keeps its levels in order. -/
theorem ReceiptRowChange.levelsOk (h : ReceiptRowChange input db r q)
    (hm : db.messages.get? r.messageId = some m) (hok : LevelsOk r m) : LevelsOk q m := by
  cases h with
  | changed change => exact change.levelsOk hm hok
  | cancelled => exact ⟨hok.confirmed_le, hok.target_le, fun h => absurd rfl h⟩

/-- No write brings the levels out of order. -/
theorem ReceiptsOk.write (hdb : Consistent a.2) (hok : ReceiptsOk a.2) (h : Write input a b) :
    ReceiptsOk b.2 := by
  intro q hq n hn
  have hraise : ∀ m, a.2.messages.get? q.messageId = some m → LevelsOk q m → LevelsOk q n :=
    fun m hm hlevels =>
      ⟨hlevels.confirmed_le, hlevels.target_le.trans (h.readMessageLevel_le hm hn),
        hlevels.state_iff⟩
  rcases h.receipts.origin hq with hq' | ⟨r, hr, -, hchange⟩ | ⟨-, hcreated⟩
  · obtain ⟨m, hm, -⟩ := (hdb.receipts q hq').message
    exact hraise m hm (hok q hq' m hm)
  · obtain ⟨m, hm, -⟩ := (hdb.receipts r hr).message
    refine hraise m ?_ (hchange.levelsOk hm (hok r hr m hm))
    rw [hchange.keeps.2.1]
    exact hm
  · cases hcreated with
    | @first m deviceId now hm haccepted hlevel =>
        refine hraise m (Table.get?_key hm) ⟨Nat.zero_le _, le_rfl, fun _ => ?_⟩
        simp only [newReceipt_state, newReceipt_confirmedLevel, newReceipt_targetLevel]
        constructor
        · rintro ⟨⟩
        · omega

/-! ### Forward -/

/-- A later row of the same receipt. -/
structure IsForward (r q : ReceiptNotification) : Prop where
  messageId : q.messageId = r.messageId
  deviceId : q.deviceId = r.deviceId
  target_le : r.targetLevel ≤ q.targetLevel
  confirmed_le : r.confirmedLevel ≤ q.confirmedLevel
  terminal : r.state = .confirmed → r.confirmedLevel = readLevel →
    q.state = .confirmed ∧ q.targetLevel = r.targetLevel ∧ q.confirmedLevel = r.confirmedLevel

theorem IsForward.refl (r : ReceiptNotification) : IsForward r r :=
  ⟨rfl, rfl, le_rfl, le_rfl, fun hstate _ => ⟨hstate, rfl, rfl⟩⟩

theorem IsForward.trans {r q p : ReceiptNotification} (h : IsForward r q) (h' : IsForward q p) :
    IsForward r p where
  messageId := h'.messageId.trans h.messageId
  deviceId := h'.deviceId.trans h.deviceId
  target_le := h.target_le.trans h'.target_le
  confirmed_le := h.confirmed_le.trans h'.confirmed_le
  terminal := by
    intro hstate hread
    obtain ⟨hstate', htarget, hconfirmed⟩ := h.terminal hstate hread
    obtain ⟨hstate'', htarget', hconfirmed'⟩ := h'.terminal hstate' (hconfirmed.trans hread)
    exact ⟨hstate'', htarget'.trans htarget, hconfirmed'.trans hconfirmed⟩

/-- Every change moves a receipt forward. -/
theorem ReceiptRowChange.isForward (h : ReceiptRowChange input db r q) (hok : LevelsOk r m) :
    IsForward r q := by
  obtain ⟨-, hmessage, hdevice⟩ := h.keeps
  have hnot : ∀ {P : Prop}, r.state ≠ .confirmed → r.state = .confirmed → P :=
    fun hne heq => absurd heq hne
  cases h with
  | cancelled hlive =>
      exact ⟨hmessage, hdevice, le_rfl, le_rfl,
        fun hstate hread => absurd (Or.inr ⟨hstate, hread⟩) hlive⟩
  | changed change =>
      cases change with
      | started now hpending | sent now due hpending | exhausted now hpending =>
          exact ⟨hmessage, hdevice, le_rfl, le_rfl,
            fun hstate _ => hnot (by simp [hpending]) hstate⟩
      | acknowledged now =>
          exact ⟨hmessage, hdevice, le_rfl, le_rfl, fun hstate _ => ⟨hstate, rfl, rfl⟩⟩
      | confirmed level now hlive hup hcap =>
          refine ⟨hmessage, hdevice, le_rfl, hup.le, fun hstate _ => hnot ?_ hstate⟩
          rcases hlive with h | h <;> simp [h]
      | raised message now hlink hlevel hunread =>
          exact ⟨hmessage, hdevice, hok.target_le.trans (HoptalkRelay.readMessageLevel_le m),
            le_rfl, fun _ hread => absurd hread hunread⟩
      | rearmed message now hlink hlive =>
          refine ⟨hmessage, hdevice, le_rfl, le_rfl, fun hstate _ => hnot ?_ hstate⟩
          rcases hlive with h | h <;> simp [h]
      | revivedConfirmed message now hlink hcancelled
      | revivedPending message now hlink hcancelled =>
          exact ⟨hmessage, hdevice, le_max_left _ _, le_rfl,
            fun hstate _ => hnot (by simp [hcancelled]) hstate⟩

/-! ### Following a receipt -/

/-- What became of a receipt: it moved forward, or it went with its message or its device.  None of
their keys is given again. -/
structure ReceiptFollowed (r : ReceiptNotification) (db : Db) : Prop where
  given : r.id < db.receipts.nextKey
  message_given : r.messageId < db.messages.nextKey
  device_given : r.deviceId < db.contacts.nextKey
  followed : (∃ q, db.receipts.get? r.id = some q ∧ IsForward r q) ∨
    db.receipts.get? r.id = none ∧
      (db.messages.get? r.messageId = none ∨ db.contacts.get? r.deviceId = none)

/-- A receipt is followed from any database it is in. -/
theorem receiptFollowed_of_mem (hdb : Consistent db) (hr : r ∈ db.receipts) :
    ReceiptFollowed r db where
  given := db.receipts.below r hr
  message_given := by
    obtain ⟨m, hm, -⟩ := (hdb.receipts r hr).message
    exact Table.lt_nextKey_of_isSome (Option.isSome_of_eq_some hm)
  device_given := Table.lt_nextKey_of_isSome (hdb.receipts r hr).device
  followed := Or.inl ⟨r, Table.get?_key hr, .refl r⟩

/-- **A receipt moves forward, or is gone for good.** -/
theorem ReceiptFollowed.write (hdb : Consistent a.2) (hok : ReceiptsOk a.2)
    (hr : ReceiptFollowed r a.2) (h : Write input a b) : ReceiptFollowed r b.2 where
  given := hr.given.trans_le h.receipts.nextKey
  message_given := hr.message_given.trans_le h.messages.nextKey
  device_given := hr.device_given.trans_le h.contacts.nextKey
  followed := by
    rcases hr.followed with ⟨q, hq, hforward⟩ | ⟨hnone, hgone⟩
    · rcases h.receipts.outcome hq with hsame | ⟨q', hq', hchange⟩ | ⟨hnone, hdeleted⟩
      · exact Or.inl ⟨q, hsame, hforward⟩
      · obtain ⟨m, hm, -⟩ := (hdb.receipts q (Table.mem_of_get? hq)).message
        have hstep := hchange.isForward (hok q (Table.mem_of_get? hq) m hm)
        exact Or.inl ⟨q', hq', hforward.trans hstep⟩
      · refine Or.inr ⟨hnone, ?_⟩
        rw [← hforward.messageId, ← hforward.deviceId]
        exact hdeleted.gone
    · refine Or.inr ⟨h.receipts.get?_eq_none hnone hr.given, ?_⟩
      rcases hgone with hmessage | hdevice
      · exact Or.inl (h.messages.get?_eq_none hmessage hr.message_given)
      · exact Or.inr (h.contacts.get?_eq_none hdevice hr.device_given)

/-- The receipt itself, and any receipt of its message for its device, is a later row of it. -/
theorem ReceiptFollowed.isForward (hdb : Consistent db) (hr : ReceiptFollowed r db)
    (hq : q ∈ db.receipts)
    (hsame : q.id = r.id ∨ q.messageId = r.messageId ∧ q.deviceId = r.deviceId) :
    IsForward r q := by
  have hfound := Table.get?_key hq
  rcases hr.followed with ⟨p, hp, hforward⟩ | ⟨hnone, hgone⟩
  · suffices heq : p = q by rwa [← heq]
    rcases hsame with hid | ⟨hmessage, hdevice⟩
    · rw [key_receipt, hid, hp] at hfound
      exact Option.some.inj hfound
    · exact hdb.receipts_unique p (Table.mem_of_get? hp) q hq
        (hforward.messageId.trans hmessage.symm) (hforward.deviceId.trans hdevice.symm)
  · rcases hsame with hid | ⟨hmessage, hdevice⟩
    · rw [key_receipt, hid, hnone] at hfound
      cases hfound
    · obtain ⟨m, hm, -⟩ := (hdb.receipts q hq).message
      have hcontact := (hdb.receipts q hq).device
      rw [hmessage] at hm
      rw [hdevice] at hcontact
      rcases hgone with hgone | hgone <;> simp [hgone] at hm hcontact

end Write

/-! ### Reachable databases -/

section Reachable

variable {hashing : PasswordHashing} {db db' : Db} {input : Input}
  {history : List (Input × Outcome)} {r : ReceiptNotification}

theorem receiptsOk_of_reachable (h : (engine hashing).Reachable db) : ReceiptsOk db :=
  (reachable_invariant h .empty fun _ _ _ hdb hok hwrite => hok.write hdb hwrite).2

/-- A receipt is followed through the writes of a transaction. -/
theorem ReceiptFollowed.writes {a b : Phase × Db} (hdb : Consistent a.2) (hok : ReceiptsOk a.2)
    (hr : ReceiptFollowed r a.2) (h : Writes input a b) : ReceiptFollowed r b.2 :=
  (h.invariant hdb (P := fun c => ReceiptsOk c.2 ∧ ReceiptFollowed r c.2) ⟨hok, hr⟩
    fun _ _ hdb hP hwrite => ⟨hP.1.write hdb hwrite, hP.2.write hdb hP.1 hwrite⟩).2.2

/-- A receipt is followed along every run. -/
theorem ReceiptFollowed.run (hdb : Consistent db) (hok : ReceiptsOk db)
    (hr : ReceiptFollowed r db) (run : (engine hashing).Run db history db') :
    ReceiptFollowed r db' :=
  (run_invariant run hdb (P := fun db => ReceiptsOk db ∧ ReceiptFollowed r db) ⟨hok, hr⟩
    fun _ _ _ _ hdb hP hwrite => ⟨hP.1.write hdb hwrite, hP.2.write hdb hP.1 hwrite⟩).2.2

/-- The step prepares a packet of the message's receipt for the device, at this level. -/
structure PreparesReceipt (hashing : PasswordHashing) (db : Db) (input : Input)
    (messageId deviceId level : ℕ) : Prop where
  prepared : ∃ packet ∈ (step hashing db input).1.packets,
    db.packets.get? packet.id = none ∧ packet.purpose = .receipt ∧
      packet.receiptLevel = some level ∧
      ∃ r ∈ (step hashing db input).1.receipts, packet.receiptNotificationId = some r.id ∧
        r.messageId = messageId ∧ r.deviceId = deviceId

/-- The level of a prepared packet is the target of its receipt. -/
theorem PreparesReceipt.exists_receipt {messageId deviceId level : ℕ} (hdb : Consistent db)
    (h : PreparesReceipt hashing db input messageId deviceId level) :
    ∃ r ∈ (step hashing db input).1.receipts, r.messageId = messageId ∧ r.deviceId = deviceId ∧
      r.targetLevel = level := by
  obtain ⟨packet, hpacket, hnew, hpurpose, hlevel, r, hr, hreceipt, hmessage, hdevice⟩ := h.prepared
  obtain ⟨db₁, now, device, -, -, hinserts, hwork, -⟩ := step_newPacket hdb hpacket hnew
  have hreceipts : (step hashing db input).1.receipts = db₁.receipts := by rw [hinserts.frame]
  rcases hwork with hwork | ⟨hreply, -⟩
  · cases hwork with
    | delivery _ _ _ _ _ _ _ _ _ _ _ _ hdelivery =>
        rw [hpurpose] at hdelivery
        cases hdelivery
    | receipt r' m recipient receiptLevel hr' hstate hm hrecipient hcode htext hreceiptPurpose
        hcontact hid hnumber =>
        have hsame : r' = r := by
          refine Table.eq_of_key_eq (hreceipts ▸ hr') hr ?_
          exact Option.some.inj (hid.symm.trans hreceipt)
        subst hsame
        exact ⟨r', hr, hmessage, hdevice, Option.some.inj (hnumber.symm.trans hlevel)⟩
  · have hnone := hreply.receipt
    rw [hreceipt] at hnone
    cases hnone

/-- A packet of a receipt that was seen before carries at least its target. -/
theorem PreparesReceipt.target_le {level : ℕ} (h : (engine hashing).Reachable db)
    (hr : ReceiptFollowed r db)
    (hprepares : PreparesReceipt hashing db input r.messageId r.deviceId level) :
    r.targetLevel ≤ level := by
  have hdb := consistent_of_reachable h
  obtain ⟨q, hq, hmessage, hdevice, rfl⟩ := hprepares.exists_receipt hdb
  obtain ⟨phase, -, hwrites⟩ := step_writes hashing input hdb
  have hfollowed := hr.writes hdb (receiptsOk_of_reachable h) hwrites
  exact (hfollowed.isForward (hwrites.consistent hdb) hq (Or.inr ⟨hmessage, hdevice⟩)).target_le

/-! ### The first confirmations -/

/-- The step confirms the delivery of the message for the first time. -/
def FirstDelivered (db db' : Db) (m : Message) : Prop :=
  m ∈ db'.messages ∧ m.deliveredAt.isSome ∧
    ∀ n, db.messages.get? m.id = some n → n.deliveredAt = none

/-- The step confirms the reading of the message for the first time. -/
def FirstRead (db db' : Db) (m : Message) : Prop :=
  m ∈ db'.messages ∧ m.readAt.isSome ∧ ∀ n, db.messages.get? m.id = some n → n.readAt = none

/-- A write of a transaction that confirms nothing keeps the confirmations of the messages. -/
theorem Write.confirmations_kept {a b : Phase × Db} (h : Write input a b)
    (hevent : input.event.confirms = false) {m : Message} (hm : m ∈ b.2.messages)
    (hconfirmed : m.deliveredAt.isSome ∨ m.readAt.isSome) :
    ∃ n ∈ a.2.messages, n.id = m.id ∧ n.deliveredAt = m.deliveredAt ∧ n.readAt = m.readAt := by
  rcases h.messages.origin hm with hm' | ⟨n, hn, hkey, hchange⟩ | ⟨-, hcreated⟩
  · exact ⟨m, hm', rfl, rfl, rfl⟩
  · refine ⟨n, hn, hkey, ?_⟩
    cases hchange with
    | confirmed haccepted hconfirms =>
        rw [hevent] at hconfirms
        cases hconfirms
    | partStored | accepted | forgotten => exact ⟨rfl, rfl⟩
  · cases hcreated with
    | first => simp [newMessage] at hconfirmed

/-- So does the transaction. -/
theorem step_confirmations_kept (hdb : Consistent db) (hevent : input.event.confirms = false)
    {m : Message} (hm : m ∈ (step hashing db input).1.messages)
    (hconfirmed : m.deliveredAt.isSome ∨ m.readAt.isSome) :
    ∃ n ∈ db.messages, n.id = m.id ∧ n.deliveredAt = m.deliveredAt ∧ n.readAt = m.readAt := by
  have hkept := (step_invariant hashing input hdb (P := fun db' =>
    ∀ m ∈ db'.messages, m.deliveredAt.isSome ∨ m.readAt.isSome →
      ∃ n ∈ db.messages, n.id = m.id ∧ n.deliveredAt = m.deliveredAt ∧ n.readAt = m.readAt)
    (fun m hm _ => ⟨m, hm, rfl, rfl, rfl⟩) ?_).2
  · exact hkept m hm hconfirmed
  · intro a b _ hold hwrite m hm hconfirmed
    obtain ⟨n, hn, hid, hdelivered, hread⟩ := hwrite.confirmations_kept hevent hm hconfirmed
    obtain ⟨n', hn', hid', hdelivered', hread'⟩ := hold n hn (by rwa [hdelivered, hread])
    exact ⟨n', hn', hid'.trans hid, hdelivered'.trans hdelivered, hread'.trans hread⟩

/-- **A message is delivered or read for the first time**: then its receipts are raised. -/
theorem step_raises (hdb : Consistent db) {m : Message}
    (hfirst : FirstDelivered db (step hashing db input).1 m ∨
      FirstRead db (step hashing db input).1 m) :
    ∀ deviceId, (step hashing db input).1.deviceUserId deviceId = some m.senderId →
      HasRaisedReceipt db.receipts (step hashing db input).1 m deviceId := by
  have hm : m ∈ (step hashing db input).1.messages := hfirst.elim And.left And.left
  have hold : ∀ n ∈ db.messages, n.id = m.id →
      ¬ (n.deliveredAt = m.deliveredAt ∧ n.readAt = m.readAt) := by
    rintro n hn hid ⟨hdelivered, hread⟩
    have hfound : db.messages.get? m.id = some n := hid ▸ Table.get?_key hn
    rcases hfirst with ⟨-, hset, hnone⟩ | ⟨-, hset, hnone⟩
    · rw [← hdelivered, hnone n hfound] at hset
      cases hset
    · rw [← hread, hnone n hfound] at hset
      cases hset
  have hconfirms : input.event.confirms = true := by
    by_contra hnot
    obtain ⟨n, hn, hid, hkept⟩ := step_confirmations_kept hdb (by simpa using hnot) hm
      (hfirst.elim (fun h => Or.inl h.2.1) fun h => Or.inr h.2.1)
    exact hold n hn hid hkept
  rcases step_confirms hashing hconfirms with hsame | ⟨n, hn, now, isRead, hstep⟩
  · exact absurd ⟨rfl, rfl⟩ (hold m (hsame ▸ hm) rfl)
  rw [hstep.messages] at hm
  rcases (Table.mem_put_iff (r := confirmedMessage n now isRead) hn rfl).1 hm with rfl | ⟨hm, -⟩
  swap
  · exact absurd ⟨rfl, rfl⟩ (hold m hm rfl)
  have hfound : db.messages.get? (confirmedMessage n now isRead).id = some n := Table.get?_key hn
  intro deviceId hlinked
  refine hstep.raised ?_ deviceId ?_
  · rcases hfirst with ⟨-, -, hnone⟩ | ⟨-, hset, hnone⟩
    · exact Or.inl (hnone n hfound)
    · have hunread := hnone n hfound
      cases isRead with
      | true => exact Or.inr ⟨rfl, hunread⟩
      | false => simp [confirmedMessage, hunread] at hset
  · rwa [← Db.deviceUserId_congr hstep.contacts deviceId]

/-- After the first reading every device of the sender has a receipt that is to be sent as read:
none can have confirmed that before. -/
theorem step_firstRead (h : (engine hashing).Reachable db) {m : Message}
    (hfirst : FirstRead db (step hashing db input).1 m) {deviceId : ℕ}
    (hlinked : (step hashing db input).1.deviceUserId deviceId = some m.senderId) :
    ∃ r ∈ (step hashing db input).1.receipts, r.messageId = m.id ∧ r.deviceId = deviceId ∧
      r.state = .pending ∧ r.targetLevel = readLevel := by
  have hdb := consistent_of_reachable h
  obtain ⟨r, hr, hmessage, hdevice, hraised⟩ :=
    step_raises hdb (Or.inr hfirst) deviceId hlinked
  obtain ⟨hm, hread, hunread⟩ := hfirst
  have hdelivered := ((consistent_of_reachable (reachable_step h input)).messages m hm).read_delivered
    hread
  refine ⟨r, hr, hmessage, hdevice, ?_⟩
  rcases hraised (by rw [readMessageLevel, if_pos hdelivered, if_pos hread]) with
    hpending | ⟨hbefore, hconfirmed⟩
  · exact hpending
  · obtain ⟨n, hn, -⟩ := (hdb.receipts r hbefore).message
    obtain ⟨hle, hle', -⟩ := receiptsOk_of_reachable h r hbefore n hn
    have hlevel : readLevel ≤ readMessageLevel n := hconfirmed ▸ hle.trans hle'
    rw [hmessage] at hn
    have hlow : readMessageLevel n ≤ deliveredLevel := by
      rw [readMessageLevel, hunread n hn]
      split_ifs <;> simp_all
    exact absurd (hlevel.trans hlow) (by decide)

/-- **Receipts only move forward.** -/
theorem receipts_only_move_forward (h : (engine hashing).Reachable db) :
    (∀ r ∈ db.receipts, ∃ m, db.messages.get? r.messageId = some m ∧
      r.confirmedLevel ≤ r.targetLevel ∧ r.targetLevel ≤ readMessageLevel m ∧
      (r.state ≠ .cancelled → (r.state = .confirmed ↔ r.confirmedLevel = r.targetLevel))) ∧
    (∀ history db', (engine hashing).Run db history db' →
      ∀ r ∈ db.receipts, ∀ q ∈ db'.receipts, q.id = r.id →
        r.targetLevel ≤ q.targetLevel ∧ r.confirmedLevel ≤ q.confirmedLevel ∧
        (r.state = .confirmed → r.confirmedLevel = readLevel →
          q.state = .confirmed ∧ q.targetLevel = r.targetLevel ∧
            q.confirmedLevel = r.confirmedLevel)) ∧
    (∀ input messageId deviceId level,
      PreparesReceipt hashing db input messageId deviceId level →
      ∀ history db', (engine hashing).Run (step hashing db input).1 history db' →
      ∀ input' level', PreparesReceipt hashing db' input' messageId deviceId level' →
        level ≤ level') ∧
    (∀ history db', (engine hashing).Run db history db' →
      ∀ r ∈ db.receipts, ∀ input level,
        PreparesReceipt hashing db' input r.messageId r.deviceId level → r.targetLevel ≤ level) ∧
    ∀ input m,
      (FirstDelivered db (step hashing db input).1 m →
        ∀ deviceId, (step hashing db input).1.deviceUserId deviceId = some m.senderId →
          ∃ r ∈ (step hashing db input).1.receipts, r.messageId = m.id ∧ r.deviceId = deviceId) ∧
      (FirstRead db (step hashing db input).1 m →
        ∀ deviceId, (step hashing db input).1.deviceUserId deviceId = some m.senderId →
          ∃ r ∈ (step hashing db input).1.receipts, r.messageId = m.id ∧ r.deviceId = deviceId ∧
            r.state = .pending ∧ r.targetLevel = readLevel) := by
  have hdb := consistent_of_reachable h
  have hok := receiptsOk_of_reachable h
  have hlevels : ∀ {db₁ : Db}, (engine hashing).Reachable db₁ → ∀ r ∈ db₁.receipts,
      ∀ history db', (engine hashing).Run db₁ history db' → ∀ input level,
        PreparesReceipt hashing db' input r.messageId r.deviceId level → r.targetLevel ≤ level := by
    intro db₁ h₁ r hr history db' run input level hprepares
    have hdb₁ := consistent_of_reachable h₁
    have hfollowed := (receiptFollowed_of_mem hdb₁ hr).run hdb₁ (receiptsOk_of_reachable h₁) run
    obtain ⟨before, runBefore⟩ := h₁
    exact hprepares.target_le ⟨_, runBefore.append run⟩ hfollowed
  refine ⟨fun r hr => ?_, fun history db' run r hr q hq hid => ?_,
    fun input messageId deviceId level hprepares history db' run input' level' hprepares' => ?_,
    fun history db' run r hr => hlevels h r hr history db' run, fun input m => ⟨?_, ?_⟩⟩
  · obtain ⟨m, hm, -⟩ := (hdb.receipts r hr).message
    obtain ⟨hconfirmed, htarget, hstate⟩ := hok r hr m hm
    exact ⟨m, hm, hconfirmed, htarget, hstate⟩
  · have hfollowed := (receiptFollowed_of_mem hdb hr).run hdb hok run
    obtain ⟨before, runBefore⟩ := h
    have hdb' := consistent_of_reachable ⟨_, runBefore.append run⟩
    have hforward := hfollowed.isForward hdb' hq (Or.inl hid)
    exact ⟨hforward.target_le, hforward.confirmed_le, hforward.terminal⟩
  · obtain ⟨r, hr, rfl, rfl, rfl⟩ := hprepares.exists_receipt hdb
    exact hlevels (reachable_step h input) r hr history db' run input' level' hprepares'
  · intro hfirst deviceId hlinked
    obtain ⟨r, hr, hmessage, hdevice, -⟩ := step_raises hdb (Or.inl hfirst) deviceId hlinked
    exact ⟨r, hr, hmessage, hdevice⟩
  · exact fun hfirst deviceId hlinked => step_firstRead h hfirst hlinked

end Reachable

/-- Alice's device is to be sent that bob read what she wrote. -/
theorem receipts_only_move_forward_sampleRead :
    (sampleDb sampleRead).receipts.rows.map
        (fun r => (r.state, r.targetLevel, r.confirmedLevel)) = [(.pending, readLevel, 0)] ∧
    ∀ r ∈ (sampleDb sampleRead).receipts, ∃ m,
      (sampleDb sampleRead).messages.get? r.messageId = some m ∧
      r.confirmedLevel ≤ r.targetLevel ∧ r.targetLevel ≤ readMessageLevel m ∧
      (r.state ≠ .cancelled → (r.state = .confirmed ↔ r.confirmedLevel = r.targetLevel)) :=
  ⟨by decide +kernel, (receipts_only_move_forward (reachable_sampleDb sampleRead)).1⟩

end HoptalkRelay
