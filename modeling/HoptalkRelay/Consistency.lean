/-
**The constraints of the database.**

The tables of the source carry unique constraints, check constraints and foreign keys.  The model
writes rows without checking them; this file states them, so that the following ones can prove
that every reachable database satisfies them: no transaction of the source is ever refused for a
constraint the model does not check.

A deletion apart, a transaction never takes away what another row refers to.  `Extends` says so,
and every row that satisfied its constraints still does in an extension.

Main definitions:

* `HoptalkRelay.Consistent` — the constraints;
* `HoptalkRelay.Extends` — a later database that still has every row, and what others look at in
  it.

Main results:

* `HoptalkRelay.Consistent.putDelivery`, `HoptalkRelay.Consistent.putReceipt`,
  `HoptalkRelay.Consistent.putMessage`, … — what a write must keep;
* `HoptalkRelay.Consistent.deleteRows` — deletions keep every constraint.
-/

import HoptalkRelay.Directory

set_option relaxedAutoImplicit false
set_option autoImplicit false

namespace HoptalkRelay

open Relational

/-! ### The constraints of a row -/

/-- A linked contact's user exists. -/
def ContactOk (users : Table User) (c : Contact) : Prop :=
  ∀ u, c.userId = some u → (users.get? u).isSome

/-- The parties of a message exist and differ, it has one entry per part, and its timestamps and
its text belong together. -/
structure MessageOk (users : Table User) (contacts : Table Contact) (m : Message) : Prop where
  sender : (users.get? m.senderId).isSome
  recipient : (users.get? m.recipientId).isSome
  parties : m.senderId ≠ m.recipientId
  senderDevice : ∀ c, m.senderDeviceId = some c → (contacts.get? c).isSome
  parts : m.partTexts.length = m.partCount.val
  accepted_parts : m.acceptedAt.isSome → ∀ t ∈ m.partTexts, t.isSome
  accepted_text : m.text = m.acceptedAt.map fun _ => (m.partTexts.filterMap id).flatten
  delivered_accepted : m.deliveredAt.isSome → m.acceptedAt.isSome
  read_delivered : m.readAt.isSome → m.deliveredAt.isSome

/-- A delivery's message is accepted, and its device and its session exist. -/
structure DeliveryOk (messages : Table Message) (contacts : Table Contact)
    (sessions : Table RefreshSession) (d : MessageDelivery) : Prop where
  message : ∃ m, messages.get? d.messageId = some m ∧ m.acceptedAt.isSome
  device : (contacts.get? d.deviceId).isSome
  session : ∀ s, d.refreshSessionId = some s → (sessions.get? s).isSome

/-- A receipt's message is accepted, and its device exists. -/
structure ReceiptOk (messages : Table Message) (contacts : Table Contact)
    (r : ReceiptNotification) : Prop where
  message : ∃ m, messages.get? r.messageId = some m ∧ m.acceptedAt.isSome
  device : (contacts.get? r.deviceId).isSome

/-- A session's device and peer exist. -/
structure SessionOk (contacts : Table Contact) (users : Table User) (s : RefreshSession) :
    Prop where
  device : (contacts.get? s.deviceId).isSome
  peer : (users.get? s.peerId).isSome

/-- **The constraints of the database.** -/
structure Consistent (db : Db) : Prop where
  contacts : ∀ c ∈ db.contacts, ContactOk db.users c
  messages : ∀ m ∈ db.messages, MessageOk db.users db.contacts m
  deliveries : ∀ d ∈ db.deliveries, DeliveryOk db.messages db.contacts db.sessions d
  receipts : ∀ r ∈ db.receipts, ReceiptOk db.messages db.contacts r
  sessions : ∀ s ∈ db.sessions, SessionOk db.contacts db.users s
  users_unique : ∀ u ∈ db.users, ∀ v ∈ db.users, u.usernameLookup = v.usernameLookup → u = v
  messages_unique : ∀ m ∈ db.messages, ∀ n ∈ db.messages, m.senderId = n.senderId →
    m.clientMessageId = n.clientMessageId → m = n
  deliveries_unique : ∀ d ∈ db.deliveries, ∀ e ∈ db.deliveries, d.messageId = e.messageId →
    d.deviceId = e.deviceId → d = e
  receipts_unique : ∀ r ∈ db.receipts, ∀ q ∈ db.receipts, r.messageId = q.messageId →
    r.deviceId = q.deviceId → r = q

/-- The empty database satisfies every constraint. -/
theorem Consistent.empty : Consistent Db.empty := by
  constructor <;> intro _ h <;> exact absurd h (Table.not_mem_empty _)

/-! ### Extensions -/

/-- Every row is still there; a message keeps its parties and stays accepted. -/
structure Extends (db db' : Db) : Prop where
  user : ∀ k, (db.users.get? k).isSome → (db'.users.get? k).isSome
  contact : ∀ k, (db.contacts.get? k).isSome → (db'.contacts.get? k).isSome
  message : ∀ k m, db.messages.get? k = some m →
    ∃ m', db'.messages.get? k = some m' ∧ (m.acceptedAt.isSome → m'.acceptedAt.isSome)
  session : ∀ k, (db.sessions.get? k).isSome → (db'.sessions.get? k).isSome

section Extension

variable {db db' : Db} (h : Extends db db')

include h

theorem ContactOk.mono {c : Contact} (hc : ContactOk db.users c) : ContactOk db'.users c :=
  fun u hu => h.user u (hc u hu)

theorem MessageOk.mono {m : Message} (hm : MessageOk db.users db.contacts m) : MessageOk db'.users db'.contacts m :=
  { hm with
    sender := h.user _ hm.sender
    recipient := h.user _ hm.recipient
    senderDevice := fun c hc => h.contact c (hm.senderDevice c hc) }

theorem DeliveryOk.mono {d : MessageDelivery} (hd : DeliveryOk db.messages db.contacts db.sessions d) : DeliveryOk db'.messages db'.contacts db'.sessions d where
  message := by
    obtain ⟨m, hm, haccepted⟩ := hd.message
    obtain ⟨m', hm', hkeep⟩ := h.message _ _ hm
    exact ⟨m', hm', hkeep haccepted⟩
  device := h.contact _ hd.device
  session := fun s hs => h.session s (hd.session s hs)

theorem ReceiptOk.mono {r : ReceiptNotification} (hr : ReceiptOk db.messages db.contacts r) : ReceiptOk db'.messages db'.contacts r where
  message := by
    obtain ⟨m, hm, haccepted⟩ := hr.message
    obtain ⟨m', hm', hkeep⟩ := h.message _ _ hm
    exact ⟨m', hm', hkeep haccepted⟩
  device := h.contact _ hr.device

theorem SessionOk.mono {s : RefreshSession} (hs : SessionOk db.contacts db.users s) : SessionOk db'.contacts db'.users s :=
  ⟨h.contact _ hs.device, h.user _ hs.peer⟩

end Extension

theorem Extends.refl (db : Db) : Extends db db :=
  ⟨fun _ h => h, fun _ h => h, fun _ m h => ⟨m, h, id⟩, fun _ h => h⟩

/-! ### Tables that grow -/

section Tables

variable {ρ : Type} [Keyed ρ] {t : Table ρ}

theorem isSome_get?_insert {mk : ℕ → ρ} {h : ∀ k, key (mk k) = k} {k : ℕ}
    (hk : (t.get? k).isSome) : ((t.insert mk h).get? k).isSome := by
  obtain ⟨r, hr⟩ := Option.isSome_iff_exists.1 hk
  rw [Table.get?_insert_of_mem hr]
  rfl

theorem isSome_get?_updateWhere {p : ρ → Bool} {f : ρ → ρ}
    {h : ∀ r, p r = true → key (f r) = key r} {k : ℕ} :
    ((t.updateWhere p f h).get? k).isSome = (t.get? k).isSome := by
  rw [Table.get?_updateWhere, Option.isSome_map]

theorem isSome_get?_put {r : ρ} {k : ℕ} : ((t.put r).get? k).isSome = (t.get? k).isSome :=
  isSome_get?_updateWhere

/-- A constraint between two rows survives an insertion that satisfies it. -/
theorem unique_insert (same : ρ → ρ → Prop) {mk : ℕ → ρ} {h : ∀ k, key (mk k) = k}
    (hsymm : ∀ a b, same a b → same b a) (hunique : ∀ a ∈ t, ∀ b ∈ t, same a b → a = b)
    (hnew : ∀ a ∈ t, ¬ same a (mk t.nextKey)) :
    ∀ a ∈ t.insert mk h, ∀ b ∈ t.insert mk h, same a b → a = b := by
  intro a ha b hb hab
  rcases Table.mem_insert.1 ha with ha | rfl <;> rcases Table.mem_insert.1 hb with hb | rfl
  · exact hunique a ha b hb hab
  · exact absurd hab (hnew a ha)
  · exact absurd (hsymm _ _ hab) (hnew b hb)
  · rfl

/-- A constraint between two rows survives replacing a row by one that looks the same. -/
theorem unique_put (same : ρ → ρ → Prop) {r r' : ρ} (hr : r ∈ t) (hkey : key r' = key r)
    (hsame : ∀ a, (same a r' ↔ same a r) ∧ (same r' a ↔ same r a))
    (hunique : ∀ a ∈ t, ∀ b ∈ t, same a b → a = b) :
    ∀ a ∈ t.put r', ∀ b ∈ t.put r', same a b → a = b := by
  intro a ha b hb hab
  rcases (Table.mem_put_iff hr hkey).1 ha with rfl | ⟨ha, hak⟩ <;>
    rcases (Table.mem_put_iff hr hkey).1 hb with hb' | ⟨hb, hbk⟩
  · exact hb'.symm
  · exact absurd (congrArg key (hunique r hr b hb ((hsame b).2.1 hab))) (Ne.symm hbk)
  · exact absurd (congrArg key (hunique a ha r hr ((hsame a).1.1 (hb' ▸ hab)))) hak
  · exact hunique a ha b hb hab

end Tables

/-! ### Writes that keep the constraints -/

namespace Consistent

variable {db : Db} (h : Consistent db)

include h

theorem putDelivery {d d' : MessageDelivery} (hd : d ∈ db.deliveries) (hid : d'.id = d.id)
    (hmessage : d'.messageId = d.messageId) (hdevice : d'.deviceId = d.deviceId)
    (hsession : ∀ s, d'.refreshSessionId = some s → (db.sessions.get? s).isSome) :
    Consistent (db.putDelivery d') :=
  { h with
    deliveries := by
      intro e he
      rcases (Table.mem_put_iff hd hid).1 he with rfl | ⟨he, -⟩
      · exact ⟨hmessage ▸ (h.deliveries d hd).message, hdevice ▸ (h.deliveries d hd).device,
          hsession⟩
      · exact h.deliveries e he
    deliveries_unique := by
      intro a ha b hb hm hdev
      exact unique_put (fun a b => a.messageId = b.messageId ∧ a.deviceId = b.deviceId)
        hd hid (by simp [hmessage, hdevice]) (fun a ha b hb hab =>
          h.deliveries_unique a ha b hb hab.1 hab.2) a ha b hb ⟨hm, hdev⟩ }

theorem putReceipt {r r' : ReceiptNotification} (hr : r ∈ db.receipts) (hid : r'.id = r.id)
    (hmessage : r'.messageId = r.messageId) (hdevice : r'.deviceId = r.deviceId) :
    Consistent (db.putReceipt r') :=
  { h with
    receipts := by
      intro q hq
      rcases (Table.mem_put_iff hr hid).1 hq with rfl | ⟨hq, -⟩
      · exact ⟨hmessage ▸ (h.receipts r hr).message, hdevice ▸ (h.receipts r hr).device⟩
      · exact h.receipts q hq
    receipts_unique := by
      intro a ha b hb hm hdev
      exact unique_put (fun a b => a.messageId = b.messageId ∧ a.deviceId = b.deviceId)
        hr hid (by simp [hmessage, hdevice]) (fun a ha b hb hab =>
          h.receipts_unique a ha b hb hab.1 hab.2) a ha b hb ⟨hm, hdev⟩ }

theorem putMessage {m m' : Message} (hm : m ∈ db.messages) (hid : m'.id = m.id)
    (hsender : m'.senderId = m.senderId) (hclient : m'.clientMessageId = m.clientMessageId)
    (haccepted : m.acceptedAt.isSome → m'.acceptedAt.isSome) (hok : MessageOk db.users db.contacts m') :
    Consistent (db.putMessage m') := by
  have hext : Extends db (db.putMessage m') := by
    refine ⟨fun _ hk => hk, fun _ hk => hk, fun k n hn => ?_, fun _ hk => hk⟩
    rw [Db.messages_putMessage, Table.get?_put]
    split
    · next hk =>
        refine ⟨m', by simp [hn], ?_⟩
        have : n = m := Table.eq_of_key_eq (Table.mem_of_get? hn) hm
          ((Table.key_of_get? hn).trans (hk.trans hid))
        exact this ▸ haccepted
    · exact ⟨n, hn, id⟩
  exact
    { h with
      messages := by
        intro n hn
        rcases (Table.mem_put_iff hm hid).1 hn with rfl | ⟨hn, -⟩
        · exact hok.mono hext
        · exact (h.messages n hn).mono hext
      deliveries := fun d hd => (h.deliveries d hd).mono hext
      receipts := fun r hr => (h.receipts r hr).mono hext
      messages_unique := by
        intro a ha b hb hs hc
        exact unique_put
          (fun a b => a.senderId = b.senderId ∧ a.clientMessageId = b.clientMessageId)
          hm hid (by simp [hsender, hclient]) (fun a ha b hb hab =>
            h.messages_unique a ha b hb hab.1 hab.2) a ha b hb ⟨hs, hc⟩ }

theorem insertDelivery {mk : ℕ → MessageDelivery} {hkey : ∀ k, key (mk k) = k}
    (hok : ∀ k, DeliveryOk db.messages db.contacts db.sessions (mk k))
    (hnew : ∀ d ∈ db.deliveries, ¬ (d.messageId = (mk db.deliveries.nextKey).messageId ∧
      d.deviceId = (mk db.deliveries.nextKey).deviceId)) :
    Consistent { db with deliveries := db.deliveries.insert mk hkey } :=
  { h with
    deliveries := by
      intro d hd
      rcases (Table.mem_insert (h := hkey)).1 hd with hd | rfl
      · exact h.deliveries d hd
      · exact hok _
    deliveries_unique := by
      intro a ha b hb hm hdev
      exact unique_insert (h := hkey)
        (fun a b => a.messageId = b.messageId ∧ a.deviceId = b.deviceId)
        (fun _ _ hab => ⟨hab.1.symm, hab.2.symm⟩) (fun a ha b hb hab =>
          h.deliveries_unique a ha b hb hab.1 hab.2) hnew a ha b hb ⟨hm, hdev⟩ }

theorem insertReceipt {mk : ℕ → ReceiptNotification} {hkey : ∀ k, key (mk k) = k}
    (hok : ∀ k, ReceiptOk db.messages db.contacts (mk k))
    (hnew : ∀ r ∈ db.receipts, ¬ (r.messageId = (mk db.receipts.nextKey).messageId ∧
      r.deviceId = (mk db.receipts.nextKey).deviceId)) :
    Consistent { db with receipts := db.receipts.insert mk hkey } :=
  { h with
    receipts := by
      intro r hr
      rcases (Table.mem_insert (h := hkey)).1 hr with hr | rfl
      · exact h.receipts r hr
      · exact hok _
    receipts_unique := by
      intro a ha b hb hm hdev
      exact unique_insert (h := hkey)
        (fun a b => a.messageId = b.messageId ∧ a.deviceId = b.deviceId)
        (fun _ _ hab => ⟨hab.1.symm, hab.2.symm⟩) (fun a ha b hb hab =>
          h.receipts_unique a ha b hb hab.1 hab.2) hnew a ha b hb ⟨hm, hdev⟩ }

theorem insertMessage {mk : ℕ → Message} {hkey : ∀ k, key (mk k) = k}
    (hok : ∀ k, MessageOk db.users db.contacts (mk k))
    (hnew : ∀ m ∈ db.messages, ¬ (m.senderId = (mk db.messages.nextKey).senderId ∧
      m.clientMessageId = (mk db.messages.nextKey).clientMessageId)) :
    Consistent { db with messages := db.messages.insert mk hkey } := by
  have hext : Extends db { db with messages := db.messages.insert mk hkey } :=
    ⟨fun _ hk => hk, fun _ hk => hk,
      fun _ m hm => ⟨m, Table.get?_insert_of_mem (h := hkey) hm, id⟩, fun _ hk => hk⟩
  exact
    { h with
      messages := by
        intro m hm
        rcases (Table.mem_insert (h := hkey)).1 hm with hm | rfl
        · exact (h.messages m hm).mono hext
        · exact (hok _).mono hext
      deliveries := fun d hd => (h.deliveries d hd).mono hext
      receipts := fun r hr => (h.receipts r hr).mono hext
      messages_unique := by
        intro a ha b hb hs hc
        exact unique_insert (h := hkey)
          (fun a b => a.senderId = b.senderId ∧ a.clientMessageId = b.clientMessageId)
          (fun _ _ hab => ⟨hab.1.symm, hab.2.symm⟩) (fun a ha b hb hab =>
            h.messages_unique a ha b hb hab.1 hab.2) hnew a ha b hb ⟨hs, hc⟩ }

theorem insertUser {mk : ℕ → User} {hkey : ∀ k, key (mk k) = k}
    (hnew : ∀ u ∈ db.users, u.usernameLookup ≠ (mk db.users.nextKey).usernameLookup) :
    Consistent { db with users := db.users.insert mk hkey } := by
  have hext : Extends db { db with users := db.users.insert mk hkey } :=
    ⟨fun _ hk => isSome_get?_insert (h := hkey) hk, fun _ hk => hk, fun _ m hm => ⟨m, hm, id⟩,
      fun _ hk => hk⟩
  exact
    { h with
      contacts := fun c hc => (h.contacts c hc).mono hext
      messages := fun m hm => (h.messages m hm).mono hext
      sessions := fun s hs => (h.sessions s hs).mono hext
      users_unique := unique_insert (fun u v => u.usernameLookup = v.usernameLookup) (h := hkey)
        (fun _ _ hab => hab.symm) h.users_unique hnew }

/-- The contacts may change as long as none disappears and every linked one has a user. -/
theorem changeContacts {t : Table Contact}
    (hkeys : ∀ k, (db.contacts.get? k).isSome → (t.get? k).isSome)
    (hok : ∀ c ∈ t, ContactOk db.users c) : Consistent { db with contacts := t } := by
  have hext : Extends db { db with contacts := t } :=
    ⟨fun _ hk => hk, hkeys, fun _ m hm => ⟨m, hm, id⟩, fun _ hk => hk⟩
  exact
    { h with
      contacts := hok
      messages := fun m hm => (h.messages m hm).mono hext
      deliveries := fun d hd => (h.deliveries d hd).mono hext
      receipts := fun r hr => (h.receipts r hr).mono hext
      sessions := fun s hs => (h.sessions s hs).mono hext }

/-- The sessions may change as long as none disappears and each has a device and a peer. -/
theorem changeSessions {t : Table RefreshSession}
    (hkeys : ∀ k, (db.sessions.get? k).isSome → (t.get? k).isSome)
    (hok : ∀ s ∈ t, SessionOk db.contacts db.users s) : Consistent { db with sessions := t } := by
  have hext : Extends db { db with sessions := t } :=
    ⟨fun _ hk => hk, fun _ hk => hk, fun _ m hm => ⟨m, hm, id⟩, hkeys⟩
  exact
    { h with
      deliveries := fun d hd => (h.deliveries d hd).mono hext
      sessions := hok }

theorem changePackets (t : Table OutboundPacket) : Consistent { db with packets := t } := { h with }

/-- The deliveries may change their states as long as each keeps what it refers to. -/
theorem changeDeliveries {p : MessageDelivery → Bool} {f : MessageDelivery → MessageDelivery}
    {hkey : ∀ d, p d = true → key (f d) = key d}
    (hf : ∀ d, (f d).messageId = d.messageId ∧ (f d).deviceId = d.deviceId ∧
      (f d).refreshSessionId = d.refreshSessionId) :
    Consistent { db with deliveries := db.deliveries.updateWhere p f hkey } := by
  have hview : ∀ d, (if p d = true then f d else d).messageId = d.messageId ∧
      (if p d = true then f d else d).deviceId = d.deviceId ∧
      (if p d = true then f d else d).refreshSessionId = d.refreshSessionId := by
    intro d
    split
    · exact hf d
    · exact ⟨rfl, rfl, rfl⟩
  exact
    { h with
      deliveries := by
        intro e he
        obtain ⟨d, hd, rfl⟩ := (Table.mem_updateWhere (h := hkey)).1 he
        obtain ⟨hm, hdev, hs⟩ := hview d
        have := h.deliveries d hd
        exact ⟨hm ▸ this.message, hdev ▸ this.device, hs ▸ this.session⟩
      deliveries_unique := by
        intro a ha b hb hm hdev
        obtain ⟨d, hd, rfl⟩ := (Table.mem_updateWhere (h := hkey)).1 ha
        obtain ⟨e, he, rfl⟩ := (Table.mem_updateWhere (h := hkey)).1 hb
        rw [(hview d).1, (hview e).1] at hm
        rw [(hview d).2.1, (hview e).2.1] at hdev
        rw [h.deliveries_unique d hd e he hm hdev] }

/-- The receipts may change their states as long as each keeps what it refers to. -/
theorem changeReceipts {p : ReceiptNotification → Bool}
    {f : ReceiptNotification → ReceiptNotification}
    {hkey : ∀ r, p r = true → key (f r) = key r}
    (hf : ∀ r, (f r).messageId = r.messageId ∧ (f r).deviceId = r.deviceId) :
    Consistent { db with receipts := db.receipts.updateWhere p f hkey } := by
  have hview : ∀ r, (if p r = true then f r else r).messageId = r.messageId ∧
      (if p r = true then f r else r).deviceId = r.deviceId := by
    intro r
    split
    · exact hf r
    · exact ⟨rfl, rfl⟩
  exact
    { h with
      receipts := by
        intro q hq
        obtain ⟨r, hr, rfl⟩ := (Table.mem_updateWhere (h := hkey)).1 hq
        have := h.receipts r hr
        exact ⟨(hview r).1 ▸ this.message, (hview r).2 ▸ this.device⟩
      receipts_unique := by
        intro a ha b hb hm hdev
        obtain ⟨r, hr, rfl⟩ := (Table.mem_updateWhere (h := hkey)).1 ha
        obtain ⟨q, hq, rfl⟩ := (Table.mem_updateWhere (h := hkey)).1 hb
        rw [(hview r).1, (hview q).1] at hm
        rw [(hview r).2, (hview q).2] at hdev
        rw [h.receipts_unique r hr q hq hm hdev] }

end Consistent

/-! ### Deletions -/

section Deletion

variable {db : Db} {roots : DeletionRoots}

/-- What a key that finds a kept row of a table finds after a deletion. -/
theorem isSome_get?_deleteWhere {ρ : Type} [Keyed ρ] {t : Table ρ} {p : ρ → Bool} {k : ℕ}
    (hk : (t.get? k).isSome) (hkeep : (t.get? k).any p = false) :
    ((t.deleteWhere p).get? k).isSome := by
  obtain ⟨r, hr⟩ := Option.isSome_iff_exists.1 hk
  simp only [hr, Option.any_some] at hkeep
  simp [Table.get?_deleteWhere, hr, Option.filter, hkeep]

theorem get?_messages_deleteRows (k : ℕ) :
    (deleteRows db roots).messages.get? k =
      ((db.messages.get? k).filter fun m => !isMessageRowDeleted db roots m).map
        (forgetSenderDevice db roots) := by
  simp only [deleteRows]
  rw [Table.get?_updateWhere, Table.get?_deleteWhere]
  simp

/-- A message after a deletion is a kept one, possibly without its sender device. -/
theorem mem_messages_deleteRows {m : Message} :
    m ∈ (deleteRows db roots).messages ↔
      ∃ n ∈ db.messages, isMessageRowDeleted db roots n = false ∧
        forgetSenderDevice db roots n = m := by
  simp only [deleteRows]
  rw [Table.mem_updateWhere]
  simp [and_assoc]

@[simp] theorem mem_contacts_deleteRows {c : Contact} :
    c ∈ (deleteRows db roots).contacts ↔ c ∈ db.contacts ∧ isContactRowDeleted db roots c = false :=
  Table.mem_deleteWhere

@[simp] theorem mem_deliveries_deleteRows {d : MessageDelivery} :
    d ∈ (deleteRows db roots).deliveries ↔
      d ∈ db.deliveries ∧ isDeliveryRowDeleted db roots d = false := Table.mem_deleteWhere

@[simp] theorem mem_receipts_deleteRows {r : ReceiptNotification} :
    r ∈ (deleteRows db roots).receipts ↔
      r ∈ db.receipts ∧ isReceiptRowDeleted db roots r = false := Table.mem_deleteWhere

@[simp] theorem mem_sessions_deleteRows {s : RefreshSession} :
    s ∈ (deleteRows db roots).sessions ↔
      s ∈ db.sessions ∧ isSessionRowDeleted db roots s = false := Table.mem_deleteWhere

/-- **Deletions keep every constraint**: what a kept row refers to is kept. -/
theorem Consistent.deleteRows (h : Consistent db) (roots : DeletionRoots) :
    Consistent (deleteRows db roots) := by
  have huser : ∀ k, (db.users.get? k).isSome → isUserDeleted db roots k = false →
      ((HoptalkRelay.deleteRows db roots).users.get? k).isSome :=
    fun k hk hkeep => isSome_get?_deleteWhere hk hkeep
  have hcontact : ∀ k, (db.contacts.get? k).isSome → isContactDeleted db roots k = false →
      ((HoptalkRelay.deleteRows db roots).contacts.get? k).isSome :=
    fun k hk hkeep => isSome_get?_deleteWhere hk hkeep
  have hsession : ∀ k, (db.sessions.get? k).isSome → isSessionDeleted db roots k = false →
      ((HoptalkRelay.deleteRows db roots).sessions.get? k).isSome :=
    fun k hk hkeep => isSome_get?_deleteWhere hk hkeep
  have hmessage : ∀ k, (∃ m, db.messages.get? k = some m ∧ m.acceptedAt.isSome) →
      isMessageDeleted db roots k = false →
      ∃ m, (HoptalkRelay.deleteRows db roots).messages.get? k = some m ∧ m.acceptedAt.isSome := by
    rintro k ⟨m, hm, haccepted⟩ hkeep
    simp only [isMessageDeleted, hm, Option.any_some] at hkeep
    exact ⟨forgetSenderDevice db roots m,
      by simp [get?_messages_deleteRows, hm, Option.filter, hkeep], haccepted⟩
  constructor
  case contacts =>
    rintro c hc u hu
    obtain ⟨hc, hkeep⟩ := mem_contacts_deleteRows.1 hc
    simp only [isContactRowDeleted, hu, Option.any_some, Bool.or_eq_false_iff] at hkeep
    exact huser u (h.contacts c hc u hu) hkeep.2
  case messages =>
    rintro m hm
    obtain ⟨n, hn, hkeep, rfl⟩ := mem_messages_deleteRows.1 hm
    simp only [isMessageRowDeleted, Bool.or_eq_false_iff] at hkeep
    have hok := h.messages n hn
    exact
      { hok with
        sender := huser _ hok.sender hkeep.1.2
        recipient := huser _ hok.recipient hkeep.2
        senderDevice := by
          intro c hc
          simp only [forgetSenderDevice, Option.filter_eq_some_iff, Bool.not_eq_true'] at hc
          exact hcontact c (hok.senderDevice c hc.1) hc.2 }
  case deliveries =>
    rintro d hd
    obtain ⟨hd, hkeep⟩ := mem_deliveries_deleteRows.1 hd
    simp only [isDeliveryRowDeleted, Bool.or_eq_false_iff] at hkeep
    have hok := h.deliveries d hd
    refine ⟨hmessage _ hok.message hkeep.1.1, hcontact _ hok.device hkeep.1.2, fun s hs => ?_⟩
    exact hsession s (hok.session s hs) (by simpa [hs] using hkeep.2)
  case receipts =>
    rintro r hr
    obtain ⟨hr, hkeep⟩ := mem_receipts_deleteRows.1 hr
    simp only [isReceiptRowDeleted, Bool.or_eq_false_iff] at hkeep
    have hok := h.receipts r hr
    exact ⟨hmessage _ hok.message hkeep.1, hcontact _ hok.device hkeep.2⟩
  case sessions =>
    rintro s hs
    obtain ⟨hs, hkeep⟩ := mem_sessions_deleteRows.1 hs
    simp only [isSessionRowDeleted, Bool.or_eq_false_iff] at hkeep
    have hok := h.sessions s hs
    exact ⟨hcontact _ hok.device hkeep.1, huser _ hok.peer hkeep.2⟩
  case users_unique =>
    intro u hu v hv
    exact h.users_unique u (Table.mem_deleteWhere.1 hu).1 v (Table.mem_deleteWhere.1 hv).1
  case messages_unique =>
    intro a ha b hb hs hc
    obtain ⟨m, hm, -, rfl⟩ := mem_messages_deleteRows.1 ha
    obtain ⟨n, hn, -, rfl⟩ := mem_messages_deleteRows.1 hb
    rw [h.messages_unique m hm n hn hs hc]
  case deliveries_unique =>
    intro a ha b hb
    exact h.deliveries_unique a (mem_deliveries_deleteRows.1 ha).1 b
      (mem_deliveries_deleteRows.1 hb).1
  case receipts_unique =>
    intro a ha b hb
    exact h.receipts_unique a (mem_receipts_deleteRows.1 ha).1 b (mem_receipts_deleteRows.1 hb).1

end Deletion

end HoptalkRelay
