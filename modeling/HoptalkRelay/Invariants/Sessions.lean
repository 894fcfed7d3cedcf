/-
**Refresh sessions: one head at a time, and nothing missed.**

An active session re-sends a peer's messages to one device, one at a time.  Exactly one of its
deliveries is pending, and every accepted message of the peer to the device's user is either
delivered to the device, or waits in the session, or was delivered to another device and has no
delivery here.  A session that ended owns nothing that still waits.

Within a transaction a session can be without a head, or its scope can be incomplete.  `Phase` says
which session this is, and the invariant is stated for every phase.

Main definitions:

* `HoptalkRelay.IsOwnedBy` — what a session's delivery is;
* `HoptalkRelay.IsCovered` — what an active session has for a message of its peer;
* `HoptalkRelay.SessionsOk` — the invariant;
* `HoptalkRelay.SameView` — two databases the invariant cannot tell apart.

Main results:

* `HoptalkRelay.SessionsOk.write` — **every write keeps the invariant**;
* `HoptalkRelay.sessionsOk_of_reachable` — it holds in every reachable database.
-/

import HoptalkRelay.Rows
import HoptalkRelay.Transactions.Steps

set_option relaxedAutoImplicit false
set_option autoImplicit false

namespace HoptalkRelay

open Relational Transition

/-! ### The invariant -/

/-- The delivery is pending in this session. -/
def isHeadOf (refreshSessionId : ℕ) (d : MessageDelivery) : Bool :=
  d.refreshSessionId = some refreshSessionId && d.state = .pending

theorem isHeadOf_iff {refreshSessionId : ℕ} {d : MessageDelivery} :
    isHeadOf refreshSessionId d = true ↔
      d.refreshSessionId = some refreshSessionId ∧ d.state = .pending := by
  simp [isHeadOf]

/-- How many heads an active session has in a phase. -/
def Phase.headCount : Phase → ℕ → ℕ
  | .headless t, s | .opening t, s | .stopping t, s => if s = t then 0 else 1
  | .settled, _ | .fanningOut _, _ | .fannedOut, _ => 1

/-- What a session's delivery is: one to the session's device, of a message of its peer.  One that
still waits has an active session; in an active session every delivery waits or is delivered,
unless the session is just being stopped. -/
structure IsOwnedBy (p : Phase) (db : Db) (s : RefreshSession) (d : MessageDelivery) : Prop where
  device : d.deviceId = s.deviceId
  message : ∃ m, db.messages.get? d.messageId = some m ∧ m.senderId = s.peerId ∧
    (s.state = .active → db.deviceUserId s.deviceId = some m.recipientId)
  live : d.state = .pending ∨ d.state = .queuedForRefresh → s.state = .active
  states : s.state = .active → d.state = .pending ∨ d.state = .queuedForRefresh ∨
    d.state = .delivered ∨ p = .stopping s.id ∧ d.state = .failed

/-- The delivery is settled, or waits in the session. -/
def IsServed (s : RefreshSession) (d : MessageDelivery) : Prop :=
  d.state = .delivered ∨
    d.refreshSessionId = some s.id ∧ (d.state = .pending ∨ d.state = .queuedForRefresh)

/-- What an active session has for a message: a delivery that is settled or waits in the session,
or none when another device received the message. -/
def IsCovered (db : Db) (s : RefreshSession) (m : Message) : Prop :=
  (∃ d ∈ db.deliveries, d.messageId = m.id ∧ d.deviceId = s.deviceId ∧ IsServed s d) ∨
    m.deliveredAt.isSome ∧
      ∀ d ∈ db.deliveries, ¬ (d.messageId = m.id ∧ d.deviceId = s.deviceId)

/-- **The invariant of the refresh sessions.** -/
structure SessionsOk (p : Phase) (db : Db) : Prop where
  unique : ∀ s ∈ db.sessions, ∀ t ∈ db.sessions, s.state = .active → t.state = .active →
    s.deviceId = t.deviceId → s.peerId = t.peerId → s = t
  owned : ∀ d ∈ db.deliveries, ∀ s ∈ db.sessions, d.refreshSessionId = some s.id →
    IsOwnedBy p db s d
  queued : ∀ d ∈ db.deliveries, d.state = .queuedForRefresh → d.refreshSessionId.isSome
  heads : ∀ s ∈ db.sessions, s.state = .active →
    db.deliveries.count (isHeadOf s.id) = p.headCount s.id
  covered : ∀ s ∈ db.sessions, s.state = .active → p ≠ .opening s.id → p ≠ .stopping s.id →
    ∀ m, IsRefreshed db s m → p ≠ .fanningOut m.id → IsCovered db s m
  fanning : ∀ d ∈ db.deliveries, p = .fanningOut d.messageId → ∀ s ∈ db.sessions,
    s.state = .active → s.deviceId = d.deviceId →
    (∃ m, db.messages.get? d.messageId = some m ∧ m.senderId = s.peerId) →
      d.refreshSessionId = some s.id ∧ d.state = .queuedForRefresh

theorem SessionsOk.empty : SessionsOk .settled Db.empty := by
  constructor <;> intro _ h <;> exact absurd h (Table.not_mem_empty _)

/-! ### What the invariant looks at -/

/-- Two rows of one delivery that the sessions cannot tell apart. -/
structure SameDelivery (d e : MessageDelivery) : Prop where
  message : e.messageId = d.messageId
  device : e.deviceId = d.deviceId
  state : e.state = d.state
  session : e.refreshSessionId = d.refreshSessionId

theorem SameDelivery.refl (d : MessageDelivery) : SameDelivery d d := ⟨rfl, rfl, rfl, rfl⟩

/-- Two rows of one session that are the same to its deliveries. -/
structure SameSession (s t : RefreshSession) : Prop where
  id : t.id = s.id
  device : t.deviceId = s.deviceId
  peer : t.peerId = s.peerId
  state : t.state = s.state

theorem SameSession.refl (s : RefreshSession) : SameSession s s := ⟨rfl, rfl, rfl, rfl⟩

/-- Two rows of one message: who it is from and to, and when it was accepted, is the same. -/
structure SameMessage (m n : Message) : Prop where
  id : n.id = m.id
  sender : n.senderId = m.senderId
  recipient : n.recipientId = m.recipientId
  accepted : n.acceptedAt = m.acceptedAt
  delivered : m.deliveredAt.isSome → n.deliveredAt.isSome

theorem SameMessage.refl (m : Message) : SameMessage m m := ⟨rfl, rfl, rfl, rfl, fun h => h⟩

/-- Two databases the sessions cannot tell apart. -/
structure SameView (db db' : Db) : Prop where
  deliveries : ∀ e ∈ db'.deliveries, ∃ d ∈ db.deliveries, SameDelivery d e
  deliveries_kept : ∀ d ∈ db.deliveries, ∃ e ∈ db'.deliveries, SameDelivery d e
  heads : ∀ s, db'.deliveries.count (isHeadOf s) = db.deliveries.count (isHeadOf s)
  sessions : ∀ t ∈ db'.sessions, ∃ s ∈ db.sessions, SameSession s t
  links : ∀ k, db'.deviceUserId k = db.deviceUserId k
  messages : ∀ n ∈ db'.messages, n.acceptedAt.isSome → ∃ m ∈ db.messages, SameMessage m n
  messages_kept : ∀ k m, db.messages.get? k = some m →
    ∃ n, db'.messages.get? k = some n ∧ SameMessage m n

/-- Two databases that differ in receipts, packets and users only. -/
theorem SameView.of_eq {db db' : Db} (hdeliveries : db'.deliveries = db.deliveries)
    (hsessions : db'.sessions = db.sessions) (hcontacts : db'.contacts = db.contacts)
    (hmessages : db'.messages = db.messages) : SameView db db' where
  deliveries e he := ⟨e, hdeliveries ▸ he, .refl e⟩
  deliveries_kept d hd := ⟨d, hdeliveries ▸ hd, .refl d⟩
  heads s := by rw [hdeliveries]
  sessions t ht := ⟨t, hsessions ▸ ht, .refl t⟩
  links := Db.deviceUserId_congr hcontacts
  messages n hn _ := ⟨n, hmessages ▸ hn, .refl n⟩
  messages_kept k m hm := ⟨m, hmessages ▸ hm, .refl m⟩

section SameView

variable {db db' : Db}

/-- Replacing a delivery by one that looks the same. -/
theorem SameView.putDelivery {d e : MessageDelivery} (hd : d ∈ db.deliveries) (hid : e.id = d.id)
    (hsame : SameDelivery d e) : SameView db (db.putDelivery e) where
  deliveries x hx := by
    rcases (Table.mem_put_iff hd hid).1 hx with rfl | ⟨hx, -⟩
    · exact ⟨d, hd, hsame⟩
    · exact ⟨x, hx, .refl x⟩
  deliveries_kept x hx := by
    by_cases hkey : key x = key d
    · obtain rfl := Table.eq_of_key_eq hx hd hkey
      exact ⟨e, Table.mem_put_self hd hid, hsame⟩
    · exact ⟨x, (Table.mem_put_iff hd hid).2 (Or.inr ⟨hx, hkey⟩), .refl x⟩
  heads s := by
    have hcount := Table.count_put (isHeadOf s) hd (show key d = key e from hid.symm)
    have heq : isHeadOf s e = isHeadOf s d := by simp [isHeadOf, hsame.session, hsame.state]
    rw [heq] at hcount
    rw [Db.deliveries_putDelivery]
    omega
  sessions t ht := ⟨t, ht, .refl t⟩
  links _ := rfl
  messages n hn _ := ⟨n, hn, .refl n⟩
  messages_kept k m hm := ⟨m, hm, .refl m⟩

/-- Replacing a message by one that looks the same. -/
theorem SameView.putMessage {m n : Message} (hm : m ∈ db.messages) (hsame : SameMessage m n) :
    SameView db (db.putMessage n) where
  deliveries e he := ⟨e, he, .refl e⟩
  deliveries_kept d hd := ⟨d, hd, .refl d⟩
  heads _ := rfl
  sessions t ht := ⟨t, ht, .refl t⟩
  links _ := rfl
  messages x hx _ := by
    rcases (Table.mem_put_iff hm hsame.id).1 hx with rfl | ⟨hx, -⟩
    · exact ⟨m, hm, hsame⟩
    · exact ⟨x, hx, .refl x⟩
  messages_kept k x hx := by
    rw [Db.messages_putMessage, Table.get?_put]
    split
    · next hk =>
        obtain rfl : m = x := by
          refine Table.eq_of_key_eq hm (Table.mem_of_get? hx) ?_
          rw [Table.key_of_get? hx, hk]
          exact hsame.id.symm
        exact ⟨n, by simp [hx], hsame⟩
    · exact ⟨x, hx, .refl x⟩

theorem deviceUserId_insertContact {mk : ℕ → Contact} {hkey : ∀ k, key (mk k) = k}
    (hfree : ∀ k, (mk k).userId = none) (deviceId : ℕ) :
    ({ db with contacts := db.contacts.insert mk hkey } : Db).deviceUserId deviceId =
      db.deviceUserId deviceId := by
  unfold Db.deviceUserId
  rw [Table.get?_insert]
  split
  · next hk => rw [hk, Table.get?_nextKey, Option.bind_some, hfree, Option.bind_none]
  · rfl

/-- **Quiet writes are invisible to the sessions.** -/
theorem Quiet.sameView {input : Input} (h : Quiet input db db') : SameView db db' := by
  cases h with
  | delivery hd change =>
      obtain ⟨hid, hmessage, hdevice, hstate, hsession⟩ := change.keeps
      exact .putDelivery hd hid ⟨hmessage, hdevice, hstate, hsession⟩
  | receipt | newReceipt | newUser | packets => exact .of_eq rfl rfl rfl rfl
  | messageConfirmed hm =>
      refine .putMessage hm ⟨rfl, rfl, rfl, rfl, fun h => ?_⟩
      obtain ⟨t, ht⟩ := Option.isSome_iff_exists.1 h
      simp [confirmedMessage, ht]
  | newMessage upload hid hcount hnew =>
      refine ⟨fun e he => ⟨e, he, .refl e⟩, fun d hd => ⟨d, hd, .refl d⟩, fun _ => rfl,
        fun t ht => ⟨t, ht, .refl t⟩, fun _ => rfl, fun n hn haccepted => ?_,
        fun k m hm => ⟨m, Table.get?_insert_of_mem (h := fun _ => rfl) hm, .refl m⟩⟩
      rcases (Table.mem_insert (h := fun _ => rfl)).1 hn with hn | rfl
      · exact ⟨n, hn, .refl n⟩
      · simp at haccepted
  | partStored hm => exact .putMessage hm ⟨rfl, rfl, rfl, rfl, fun h => h⟩
  | contacts hnext hsame =>
      have hlinks : ∀ (u : Table Contact) (k : ℕ),
          (u.get? k).bind Contact.userId = ((u.get? k).map Contact.userId).join := fun u k => by
        cases u.get? k <;> rfl
      have hview : SameView db db := .of_eq rfl rfl rfl rfl
      refine { hview with links := fun k => ?_ }
      rw [Db.deviceUserId, Db.deviceUserId, hlinks, hlinks, hsame k]
  | newContact hfree =>
      have hview : SameView db db := .of_eq rfl rfl rfl rfl
      exact { hview with links := deviceUserId_insertContact hfree }
  | sessions hnext hsame =>
      have hview : SameView db db := .of_eq rfl rfl rfl rfl
      refine { hview with sessions := fun t ht => ?_ }
      obtain ⟨s, hs, hkey, hview⟩ := exists_mem_of_map_eq hsame ht
      simp only [Prod.mk.injEq] at hview
      exact ⟨s, hs, hkey.symm, hview.1.symm, hview.2.1.symm, hview.2.2.symm⟩
  | packetPrepared hevent hinserts =>
      obtain ⟨mk, hkey, -, rfl⟩ := hinserts.insert
      exact .of_eq rfl rfl rfl rfl

end SameView

/-! ### Quiet writes -/

section Write

variable {input : Input} {db db' : Db} {p p' : Phase}

/-- A session serves what looks like a delivery it serves. -/
theorem IsServed.congr {s t : RefreshSession} {d e : MessageDelivery} (h : IsServed s d)
    (hid : t.id = s.id) (hsame : SameDelivery d e) : IsServed t e := by
  unfold IsServed
  rw [hsame.state, hsame.session, hid]
  exact h

/-- A session's delivery stays one in a database that looks the same. -/
theorem IsOwnedBy.congr {s t : RefreshSession} {d e : MessageDelivery} (h : IsOwnedBy p db s d)
    (hview : SameView db db') (hs : SameSession s t) (hd : SameDelivery d e) :
    IsOwnedBy p db' t e where
  device := by rw [hd.device, hs.device, h.device]
  message := by
    obtain ⟨m, hm, hsender, hlink⟩ := h.message
    obtain ⟨n, hn, hsame⟩ := hview.messages_kept _ m hm
    rw [hd.message, hs.device, hs.peer, hs.state]
    refine ⟨n, hn, hsame.sender.trans hsender, fun hactive => ?_⟩
    rw [hview.links, hsame.recipient]
    exact hlink hactive
  live := by
    rw [hd.state, hs.state]
    exact h.live
  states := by
    rw [hd.state, hs.state, hs.id]
    exact h.states

/-- **The invariant does not tell the two databases apart.** -/
theorem SessionsOk.sameView (hdb : Consistent db) (h : SessionsOk p db)
    (hview : SameView db db') : SessionsOk p db' where
  unique := by
    intro t ht t' ht' hactive hactive' hdevice hpeer
    obtain ⟨s, hs, hsame⟩ := hview.sessions t ht
    obtain ⟨s', hs', hsame'⟩ := hview.sessions t' ht'
    have heq : s = s' := by
      refine h.unique s hs s' hs' ?_ ?_ ?_ ?_
      · rw [← hsame.state, hactive]
      · rw [← hsame'.state, hactive']
      · rw [← hsame.device, ← hsame'.device, hdevice]
      · rw [← hsame.peer, ← hsame'.peer, hpeer]
    refine Table.eq_of_key_eq ht ht' ?_
    rw [key_session, key_session, hsame.id, hsame'.id, heq]
  owned := by
    intro e he t ht howned
    obtain ⟨d, hd, hsame⟩ := hview.deliveries e he
    obtain ⟨s, hs, hsame'⟩ := hview.sessions t ht
    refine (h.owned d hd s hs ?_).congr hview hsame' hsame
    rw [← hsame.session, howned, hsame'.id]
  queued := by
    intro e he hstate
    obtain ⟨d, hd, hsame⟩ := hview.deliveries e he
    rw [hsame.session]
    exact h.queued d hd (hsame.state ▸ hstate)
  heads := by
    intro t ht hactive
    obtain ⟨s, hs, hsame⟩ := hview.sessions t ht
    rw [hview.heads, hsame.id]
    exact h.heads s hs (hsame.state ▸ hactive)
  covered := by
    intro t ht hactive hopening hstopping n hn hfanning
    obtain ⟨s, hs, hsame⟩ := hview.sessions t ht
    obtain ⟨m, hm, hsame'⟩ := hview.messages n hn.found hn.accepted
    rw [hsame.id] at hopening hstopping
    have hrefreshed : IsRefreshed db s m := by
      refine ⟨hm, hsame'.accepted ▸ hn.accepted, ?_, ?_⟩
      · rw [← hsame'.sender, hn.sender, hsame.peer]
      · rw [← hview.links, ← hsame.device, hn.recipient, hsame'.recipient]
    rcases h.covered s hs (hsame.state ▸ hactive) hopening hstopping m hrefreshed
      (hsame'.id ▸ hfanning) with ⟨d, hd, hmessage, hdevice, hserved⟩ | ⟨hdelivered, hnone⟩
    · obtain ⟨e, he, hsame''⟩ := hview.deliveries_kept d hd
      refine Or.inl ⟨e, he, ?_, ?_, hserved.congr hsame.id hsame''⟩
      · rw [hsame''.message, hmessage, hsame'.id]
      · rw [hsame''.device, hdevice, hsame.device]
    · refine Or.inr ⟨hsame'.delivered hdelivered, fun e he hof => ?_⟩
      obtain ⟨d, hd, hsame''⟩ := hview.deliveries e he
      refine hnone d hd ⟨?_, ?_⟩
      · rw [← hsame''.message, hof.1, hsame'.id]
      · rw [← hsame''.device, hof.2, hsame.device]
  fanning := by
    intro e he hphase t ht hactive hdevice hmessage
    obtain ⟨d, hd, hsame⟩ := hview.deliveries e he
    obtain ⟨s, hs, hsame'⟩ := hview.sessions t ht
    obtain ⟨n, hn, hsender⟩ := hmessage
    rw [hsame.session, hsame.state, hsame'.id]
    refine h.fanning d hd (hsame.message ▸ hphase) s hs (hsame'.state ▸ hactive) ?_ ?_
    · rw [← hsame.device, ← hsame'.device, hdevice]
    · obtain ⟨m, hm, -⟩ := (hdb.deliveries d hd).message
      obtain ⟨n', hn', hsame''⟩ := hview.messages_kept _ m hm
      rw [hsame.message, hn'] at hn
      obtain rfl := Option.some.inj hn
      exact ⟨m, hm, by rw [← hsame''.sender, hsender, hsame'.peer]⟩

/-! ### One delivery -/

/-- **A delivery moves on**: the others keep what they are, and the heads are counted. -/
theorem SessionsOk.putDelivery {d e : MessageDelivery} (h : SessionsOk p db)
    (hd : d ∈ db.deliveries) (hid : e.id = d.id) (hmessage : e.messageId = d.messageId)
    (hdevice : e.deviceId = d.deviceId)
    (hopening : ∀ s, p = .opening s → p' = .opening s)
    (hstopping : ∀ s, p = .stopping s → p' = .stopping s)
    (hfanning : ∀ m, p ≠ .fanningOut m ∧ p' ≠ .fanningOut m)
    (howned : ∀ s ∈ db.sessions, e.refreshSessionId = some s.id → IsOwnedBy p' db s e)
    (hqueued : e.state = .queuedForRefresh → e.refreshSessionId.isSome)
    (hheads : ∀ s ∈ db.sessions, s.state = .active →
      p'.headCount s.id + (if isHeadOf s.id d then 1 else 0) =
        p.headCount s.id + if isHeadOf s.id e then 1 else 0)
    (hserved : ∀ s ∈ db.sessions, s.state = .active → p' ≠ .opening s.id → p' ≠ .stopping s.id →
      s.deviceId = d.deviceId →
      (∃ m, db.messages.get? d.messageId = some m ∧ m.senderId = s.peerId) →
      IsServed s d → IsServed s e) : SessionsOk p' (db.putDelivery e) where
  unique := h.unique
  owned := by
    intro x hx s hs hsession
    rcases (Table.mem_put_iff hd hid).1 hx with rfl | ⟨hx, -⟩
    · obtain ⟨howner, hfound, hlive, hstates⟩ := howned s hs hsession
      exact ⟨howner, hfound, hlive, hstates⟩
    · have hold := h.owned x hx s hs hsession
      refine ⟨hold.device, hold.message, hold.live, fun hactive => ?_⟩
      rcases hold.states hactive with hstate | hstate | hstate | ⟨hphase, hstate⟩
      · exact Or.inl hstate
      · exact Or.inr (Or.inl hstate)
      · exact Or.inr (Or.inr (Or.inl hstate))
      · exact Or.inr (Or.inr (Or.inr ⟨hstopping _ hphase, hstate⟩))
  queued := by
    intro x hx hstate
    rcases (Table.mem_put_iff hd hid).1 hx with rfl | ⟨hx, -⟩
    · exact hqueued hstate
    · exact h.queued x hx hstate
  heads := by
    intro s hs hactive
    have hcount := Table.count_put (isHeadOf s.id) hd (show key d = key e from hid.symm)
    have hbefore := h.heads s hs hactive
    have hmoved := hheads s hs hactive
    rw [Db.deliveries_putDelivery]
    omega
  covered := by
    intro s hs hactive hopen hstop m hm hfan
    have hcovered := h.covered s hs hactive (fun heq => hopen (hopening _ heq))
      (fun heq => hstop (hstopping _ heq)) m ⟨hm.found, hm.accepted, hm.sender, hm.recipient⟩
      (hfanning _).1
    rcases hcovered with ⟨x, hx, hxm, hxd, hxs⟩ | ⟨hdelivered, hnone⟩
    · by_cases hkey : key x = key d
      · obtain rfl := Table.eq_of_key_eq hx hd hkey
        have hfound : db.messages.get? x.messageId = some m := hxm ▸ Table.get?_key hm.found
        refine Or.inl ⟨e, Table.mem_put_self hd hid, hmessage.trans hxm, hdevice.trans hxd, ?_⟩
        exact hserved s hs hactive hopen hstop hxd.symm ⟨m, hfound, hm.sender⟩ hxs
      · exact Or.inl ⟨x, (Table.mem_put_iff hd hid).2 (Or.inr ⟨hx, hkey⟩), hxm, hxd, hxs⟩
    · refine Or.inr ⟨hdelivered, fun x hx hof => ?_⟩
      rcases (Table.mem_put_iff hd hid).1 hx with rfl | ⟨hx, -⟩
      · exact hnone d hd ⟨hmessage ▸ hof.1, hdevice ▸ hof.2⟩
      · exact hnone x hx hof
  fanning := fun x _ hphase => absurd hphase (hfanning _).2

/-- Two active sessions that a delivery can belong to are one. -/
theorem SessionsOk.session_eq {d : MessageDelivery} {s t : RefreshSession} (h : SessionsOk p db)
    (hs : s ∈ db.sessions) (hactive : s.state = .active) (hsdevice : s.deviceId = d.deviceId)
    (hsmessage : ∃ m, db.messages.get? d.messageId = some m ∧ m.senderId = s.peerId)
    (ht : t ∈ db.sessions) (hactive' : t.state = .active) (htdevice : t.deviceId = d.deviceId)
    (htmessage : ∃ m, db.messages.get? d.messageId = some m ∧ m.senderId = t.peerId) : s = t := by
  obtain ⟨m, hm, hpeer⟩ := hsmessage
  obtain ⟨n, hn, hpeer'⟩ := htmessage
  obtain rfl := Option.some.inj (hm.symm.trans hn)
  exact h.unique s hs t ht hactive hactive' (hsdevice.trans htdevice.symm)
    (hpeer.symm.trans hpeer')

theorem IsOwnedBy.exists_message {s : RefreshSession} {d : MessageDelivery}
    (h : IsOwnedBy p db s d) :
    ∃ m, db.messages.get? d.messageId = some m ∧ m.senderId = s.peerId := by
  obtain ⟨m, hm, hsender, -⟩ := h.message
  exact ⟨m, hm, hsender⟩

/-- The active session a pending delivery is the head of. -/
theorem findActiveRefreshSessionId_eq_some {d : MessageDelivery} {s : RefreshSession}
    (hs : s ∈ db.sessions) (hactive : s.state = .active)
    (hsession : d.refreshSessionId = some s.id) :
    findActiveRefreshSessionId db d = some s.id := by
  have hfound : db.sessions.get? s.id = some s := Table.get?_key hs
  simp [findActiveRefreshSessionId, hsession, hfound, hactive]

/-- A delivery that is no session's row leaves the sessions with their heads. -/
theorem findActiveRefreshSessionId_cases (db : Db) (d : MessageDelivery) :
    findActiveRefreshSessionId db d = none ∨ ∃ s ∈ db.sessions, s.state = .active ∧
      d.refreshSessionId = some s.id ∧ findActiveRefreshSessionId db d = some s.id := by
  cases hsession : d.refreshSessionId with
  | none => exact Or.inl (by simp [findActiveRefreshSessionId, hsession])
  | some sid =>
      cases hs : db.sessions.get? sid with
      | none => exact Or.inl (by simp [findActiveRefreshSessionId, hsession, hs])
      | some s =>
          have hid : s.id = sid := Table.key_of_get? hs
          by_cases hactive : s.state = .active
          · refine Or.inr ⟨s, Table.mem_of_get? hs, hactive, by rw [hid], ?_⟩
            simp [findActiveRefreshSessionId, hsession, hs, hactive, hid]
          · exact Or.inl (by simp [findActiveRefreshSessionId, hsession, hs, hactive])

/-- A session without the delivery as its head keeps its own. -/
theorem not_isHeadOf {refreshSessionId : ℕ} {d : MessageDelivery} (hstate : d.state ≠ .pending) :
    isHeadOf refreshSessionId d = false := by
  simp [isHeadOf, hstate]

/-- The phase after the head of a session, if the delivery is one, is gone. -/
theorem headCount_after {d e : MessageDelivery} (after : Option ℕ → Phase)
    (hnone : ∀ s, (after none).headCount s = 1)
    (hsome : ∀ t s, (after (some t)).headCount s = if s = t then 0 else 1)
    (hstate : d.state = .pending) (hleft : e.state ≠ .pending) :
    ∀ s ∈ db.sessions, s.state = .active →
      (after (findActiveRefreshSessionId db d)).headCount s.id +
          (if isHeadOf s.id d then 1 else 0) = 1 + if isHeadOf s.id e then 1 else 0 := by
  intro s hs hactive
  rw [not_isHeadOf hleft]
  by_cases hhead : isHeadOf s.id d = true
  · rw [findActiveRefreshSessionId_eq_some hs hactive (isHeadOf_iff.1 hhead).1, hsome]
    simp [hhead]
  · have hother : ∀ t, d.refreshSessionId = some t → s.id ≠ t := by
      rintro t ht rfl
      exact hhead (isHeadOf_iff.2 ⟨ht, hstate⟩)
    rcases findActiveRefreshSessionId_cases db d with hfree | ⟨t, -, -, ht, hfound⟩
    · simp [hfree, hnone, hhead]
    · simp [hfound, hsome, hhead, hother _ ht]

/-- **A delivery changes its state.** -/
theorem SessionsOk.stateChange {d e : MessageDelivery} (h : SessionsOk p db)
    (hd : d ∈ db.deliveries) (change : StateChange input db d p e p') :
    SessionsOk p' (db.putDelivery e) := by
  obtain ⟨hid, hmessage, hdevice, -, -⟩ := change.keeps
  cases change with
  | exhausted now hevent hstate =>
      have hlive : ∀ s ∈ db.sessions, d.refreshSessionId = some s.id →
          findActiveRefreshSessionId db d = some s.id := fun s hs hsession =>
        findActiveRefreshSessionId_eq_some hs ((h.owned d hd s hs hsession).live (Or.inl hstate))
          hsession
      refine h.putDelivery hd hid hmessage hdevice (by simp) (by simp) (fun m => ?_) ?_ (by simp)
        (headCount_after .afterFailure (fun _ => rfl) (fun _ _ => rfl) hstate (by simp)) ?_
      · refine ⟨by simp, ?_⟩
        cases findActiveRefreshSessionId db d <;> simp [Phase.afterFailure]
      · intro s hs hsession
        obtain ⟨howner, hfound, -, -⟩ := h.owned d hd s hs hsession
        refine ⟨howner, hfound, by simp, fun _ => Or.inr (Or.inr (Or.inr ⟨?_, rfl⟩))⟩
        rw [hlive s hs hsession]
        rfl
      · rintro s hs hactive - hstopping - - (hdelivered | ⟨hsession, -⟩)
        · simp [hstate] at hdelivered
        · rw [hlive s hs hsession] at hstopping
          exact absurd rfl hstopping
  | stopped refreshSessionId now hevent hqueue =>
      refine h.putDelivery hd hid hmessage hdevice (fun _ h => h) (fun _ h => h) (by simp) ?_
        (by simp) ?_ ?_
      · intro s hs hsession
        obtain ⟨howner, hfound, -, -⟩ := h.owned d hd s hs hsession
        refine ⟨howner, hfound, by simp, fun _ => Or.inr (Or.inr (Or.inr ⟨?_, rfl⟩))⟩
        rw [failedDelivery_refreshSessionId, hqueue.1, Option.some.injEq] at hsession
        rw [hsession]
      · intro s hs hactive
        rw [not_isHeadOf (by simp [hqueue.2]), not_isHeadOf (by simp)]
      · rintro s hs hactive - hstopping - - (hdelivered | ⟨hsession, -⟩)
        · simp [hqueue.2] at hdelivered
        · rw [hqueue.1, Option.some.injEq] at hsession
          exact absurd (congrArg _ hsession) hstopping
  | takenOver message refreshSessionId htake =>
      have hnot : ∀ s, isHeadOf s d = false ∧ ∀ t : RefreshSession, t.id = s → ¬ IsServed t d := by
        intro s
        have htaken := htake.taken
        constructor
        · cases hhead : isHeadOf s d with
          | false => rfl
          | true =>
              obtain ⟨hsession, hstate⟩ := isHeadOf_iff.1 hhead
              simp [isTakenOverByARefresh, hsession, hstate] at htaken
        · rintro t - (hstate | ⟨hsession, hstate | hstate⟩) <;>
            simp [isTakenOverByARefresh, hstate] at htaken
          simp [hsession] at htaken
      refine h.putDelivery hd hid hmessage hdevice (fun _ h => h) (fun _ h => h) (by simp) ?_
        (by simp) ?_ ?_
      · intro s hs hsession
        obtain ⟨t, ht, htdevice, htpeer, htactive⟩ := htake.session
        rw [takenOverDelivery_refreshSessionId, Option.some.injEq] at hsession
        have hst : t = s := by
          refine Table.eq_of_key_eq (Table.mem_of_get? ht) hs ?_
          rw [Table.key_of_get? ht, hsession]
          rfl
        subst hst
        refine ⟨htdevice.symm, ⟨message, htake.found, htpeer.symm, fun _ => ?_⟩, fun _ => htactive,
          fun _ => Or.inr (Or.inl rfl)⟩
        rw [htdevice]
        exact htake.linked
      · intro s hs hactive
        rw [(hnot s.id).1, not_isHeadOf (by simp)]
      · rintro s hs hactive - - - - hserved
        exact absurd hserved ((hnot s.id).2 s rfl)
  | armed refreshSessionId now hqueue =>
      refine h.putDelivery hd hid hmessage hdevice (by simp) (by simp) (by simp) ?_ (by simp) ?_ ?_
      · intro s hs hsession
        obtain ⟨howner, hfound, hlive, -⟩ := h.owned d hd s hs hsession
        exact ⟨howner, hfound, fun _ => hlive (Or.inr hqueue.2), fun _ => Or.inl rfl⟩
      · intro s hs hactive
        rw [not_isHeadOf (by simp [hqueue.2])]
        by_cases hself : s.id = refreshSessionId
        · simp [isHeadOf, Phase.headCount, hself, hqueue.1]
        · simp [isHeadOf, Phase.headCount, hself, hqueue.1, Ne.symm hself]
      · rintro s hs hactive - - - - (hdelivered | ⟨hsession, -⟩)
        · simp [hqueue.2] at hdelivered
        · exact Or.inr ⟨hsession, Or.inl rfl⟩

/-- **A delivery is confirmed.** -/
theorem SessionsOk.delivered {d : MessageDelivery} (h : SessionsOk .settled db)
    (hd : d ∈ db.deliveries) (now : Time) (mask : Option ℕ) (isRead : Bool) :
    SessionsOk (.afterConfirmation (headSessionId db d))
      (db.putDelivery (deliveredDelivery d now mask isRead)) := by
  refine h.putDelivery hd rfl rfl rfl (by simp) (by simp) (fun m => ?_) ?_ (by simp) ?_ ?_
  · refine ⟨by simp, ?_⟩
    cases headSessionId db d <;> simp [Phase.afterConfirmation]
  · intro s hs hsession
    obtain ⟨howner, hfound, -, -⟩ := h.owned d hd s hs hsession
    exact ⟨howner, hfound, by simp, fun _ => Or.inr (Or.inr (Or.inl rfl))⟩
  · unfold headSessionId
    by_cases hstate : d.state = .pending
    · rw [if_pos hstate]
      exact headCount_after .afterConfirmation (fun _ => rfl) (fun _ _ => rfl) hstate (by simp)
    · intro s hs hactive
      rw [if_neg hstate, not_isHeadOf hstate, not_isHeadOf (by simp)]
      rfl
  · rintro s hs hactive - - - - -
    exact Or.inl rfl

/-! ### New deliveries -/

/-- **A delivery is created**: while a session is opened, in this session, or while its message is
fanned out. -/
theorem SessionsOk.insertDelivery {mk : ℕ → MessageDelivery} {hkey : ∀ k, key (mk k) = k}
    {m : Message} {deviceId : ℕ} (h : SessionsOk p db) (hm : m ∈ db.messages)
    (hrow : ∀ k, (mk k).messageId = m.id ∧ (mk k).deviceId = deviceId)
    (howned : ∀ s ∈ db.sessions, (mk db.deliveries.nextKey).refreshSessionId = some s.id →
      IsOwnedBy p db s (mk db.deliveries.nextKey))
    (hqueued : (mk db.deliveries.nextKey).state = .queuedForRefresh →
      (mk db.deliveries.nextKey).refreshSessionId.isSome)
    (hhead : ∀ s, isHeadOf s (mk db.deliveries.nextKey) = false)
    (hscope : ∀ s ∈ db.sessions, s.state = .active → s.deviceId = deviceId →
      s.peerId = m.senderId → p = .opening s.id ∨ p = .fanningOut m.id)
    (hfanning : p = .fanningOut m.id → ∀ s ∈ db.sessions, s.state = .active →
      s.deviceId = deviceId → s.peerId = m.senderId →
        (mk db.deliveries.nextKey).refreshSessionId = some s.id ∧
          (mk db.deliveries.nextKey).state = .queuedForRefresh) :
    SessionsOk p { db with deliveries := db.deliveries.insert mk hkey } where
  unique := h.unique
  owned := by
    intro x hx s hs hsession
    rcases (Table.mem_insert (h := hkey)).1 hx with hx | rfl
    · obtain ⟨howner, hfound, hlive, hstates⟩ := h.owned x hx s hs hsession
      exact ⟨howner, hfound, hlive, hstates⟩
    · obtain ⟨howner, hfound, hlive, hstates⟩ := howned s hs hsession
      exact ⟨howner, hfound, hlive, hstates⟩
  queued := by
    intro x hx hstate
    rcases (Table.mem_insert (h := hkey)).1 hx with hx | rfl
    · exact h.queued x hx hstate
    · exact hqueued hstate
  heads := by
    intro s hs hactive
    have hcount := Table.count_insert (t := db.deliveries) (h := hkey) (isHeadOf s.id)
    rw [hhead] at hcount
    have hbefore := h.heads s hs hactive
    dsimp only
    rw [hcount, hbefore]
    simp
  covered := by
    intro s hs hactive hopening hstopping n hn hfan
    rcases h.covered s hs hactive hopening hstopping n
      ⟨hn.found, hn.accepted, hn.sender, hn.recipient⟩ hfan with
      ⟨d, hd, hof⟩ | ⟨hdelivered, hnone⟩
    · exact Or.inl ⟨d, (Table.mem_insert (h := hkey)).2 (Or.inl hd), hof⟩
    · refine Or.inr ⟨hdelivered, fun x hx hof => ?_⟩
      rcases (Table.mem_insert (h := hkey)).1 hx with hx | rfl
      · exact hnone x hx hof
      · obtain ⟨hmessage, hdevice⟩ := hrow db.deliveries.nextKey
        have hmn : m = n := Table.eq_of_key_eq hm hn.found (hmessage.symm.trans hof.1)
        subst hmn
        rcases hscope s hs hactive (hof.2.symm.trans hdevice) hn.sender.symm with hphase | hphase
        · exact hopening hphase
        · exact hfan hphase
  fanning := by
    rintro x hx hphase s hs hactive hdevice hmessage
    rcases (Table.mem_insert (h := hkey)).1 hx with hx | rfl
    · exact h.fanning x hx hphase s hs hactive hdevice hmessage
    · obtain ⟨hid, hdev⟩ := hrow db.deliveries.nextKey
      obtain ⟨n, hn, hsender⟩ := hmessage
      have hfound : db.messages.get? m.id = some m := Table.get?_key hm
      rw [hid, hfound] at hn
      obtain rfl := Option.some.inj hn
      exact hfanning (hid ▸ hphase) s hs hactive (hdevice.trans hdev) hsender.symm

theorem findActiveSession_eq_none {deviceId peerId : ℕ}
    (h : findActiveSession db deviceId peerId = none) {s : RefreshSession} (hs : s ∈ db.sessions)
    (hactive : s.state = .active) : ¬ (s.deviceId = deviceId ∧ s.peerId = peerId) := by
  have hnot := Table.first?_eq_none.1 h s hs
  simpa [hactive] using hnot

/-! ### Other writes -/

/-- **A message is accepted**: it has no deliveries yet. -/
theorem SessionsOk.accepted {m : Message} (hdb : Consistent db) (h : SessionsOk .settled db)
    (hm : m ∈ db.messages) (hopen : m.acceptedAt = none) (now : Time) :
    SessionsOk (.fanningOut m.id) (db.putMessage (acceptedMessage m now)) := by
  have hfound : ∀ k n, db.messages.get? k = some n →
      ∃ n', (db.putMessage (acceptedMessage m now)).messages.get? k = some n' ∧
        n'.senderId = n.senderId ∧ n'.recipientId = n.recipientId := by
    intro k n hn
    rw [Db.messages_putMessage, Table.get?_put]
    split
    · next hk =>
        have hmn : m = n := Table.eq_of_key_eq hm (Table.mem_of_get? hn)
          ((hk.symm.trans (Table.key_of_get? hn).symm))
        subst hmn
        exact ⟨acceptedMessage m now, by rw [hn]; rfl, rfl, rfl⟩
    · exact ⟨n, hn, rfl, rfl⟩
  refine ⟨h.unique, fun d hd s hs hsession => ?_, h.queued, h.heads,
    fun s hs hactive _ _ n hn hfan => ?_, fun d hd hphase => ?_⟩
  · obtain ⟨howner, ⟨n, hn, hsender, hlink⟩, hlive, hstates⟩ := h.owned d hd s hs hsession
    obtain ⟨n', hn', hsender', hrecipient'⟩ := hfound _ n hn
    refine ⟨howner, ⟨n', hn', hsender'.trans hsender, fun hactive => ?_⟩, hlive, fun hactive => ?_⟩
    · rw [hrecipient']
      exact hlink hactive
    · simpa using hstates hactive
  · obtain ⟨hmem, haccepted, hsender, hrecipient⟩ := hn
    rcases (Table.mem_put_iff (r := acceptedMessage m now) hm rfl).1 hmem with rfl | ⟨hmem, -⟩
    · exact absurd rfl hfan
    · exact h.covered s hs hactive (by simp) (by simp) n ⟨hmem, haccepted, hsender, hrecipient⟩
        (by simp)
  · obtain ⟨n, hn, haccepted⟩ := (hdb.deliveries d hd).message
    have hid : m.id = d.messageId := by simpa using hphase
    have hmem : db.messages.get? m.id = some m := Table.get?_key hm
    rw [← hid, hmem, Option.some.injEq] at hn
    rw [← hn, hopen] at haccepted
    cases haccepted

/-- **A message has all of its deliveries.** -/
theorem SessionsOk.fannedOut {m : Message} (h : SessionsOk (.fanningOut m.id) db)
    (hm : m ∈ db.messages)
    (hall : ∀ deviceId, db.deviceUserId deviceId = some m.recipientId →
      ∃ d ∈ db.deliveries, d.messageId = m.id ∧ d.deviceId = deviceId) :
    SessionsOk .fannedOut db := by
  refine ⟨h.unique, fun d hd s hs hsession => ?_, h.queued, h.heads,
    fun s hs hactive _ _ n hn _ => ?_, fun d hd hphase => by simp at hphase⟩
  · obtain ⟨howner, hfound, hlive, hstates⟩ := h.owned d hd s hs hsession
    exact ⟨howner, hfound, hlive, fun hactive => by simpa using hstates hactive⟩
  · by_cases hself : n.id = m.id
    · obtain rfl := Table.eq_of_key_eq hn.found hm hself
      obtain ⟨d, hd, hmessage, hdevice⟩ := hall s.deviceId hn.recipient
      have hfound : db.messages.get? d.messageId = some n := hmessage ▸ Table.get?_key hm
      obtain ⟨hsession, hstate⟩ := h.fanning d hd (by rw [hmessage]) s hs hactive hdevice.symm
        ⟨n, hfound, hn.sender⟩
      exact Or.inl ⟨d, hd, hmessage, hdevice, Or.inr ⟨hsession, Or.inr hstate⟩⟩
    · exact h.covered s hs hactive (by simp) (by simp) n hn (by simpa using Ne.symm hself)

/-- **A session is started**: nothing refers to it yet. -/
theorem SessionsOk.newSession {mk : ℕ → RefreshSession} {hkey : ∀ k, key (mk k) = k}
    {deviceId peerId : ℕ} (hdb : Consistent db) (h : SessionsOk .settled db)
    (hrow : ∀ k, (mk k).deviceId = deviceId ∧ (mk k).peerId = peerId ∧ (mk k).state = .active)
    (hfree : findActiveSession db deviceId peerId = none) :
    SessionsOk (.opening db.sessions.nextKey)
      { db with sessions := db.sessions.insert mk hkey } := by
  obtain ⟨hdevice, hpeer, -⟩ := hrow db.sessions.nextKey
  have hid : (mk db.sessions.nextKey).id = db.sessions.nextKey := hkey _
  have hfresh : ∀ d ∈ db.deliveries, d.refreshSessionId ≠ some db.sessions.nextKey := by
    intro d hd hsession
    have hfound := (hdb.deliveries d hd).session _ hsession
    rw [Table.get?_nextKey] at hfound
    cases hfound
  have hold : ∀ s ∈ db.sessions, s.id ≠ db.sessions.nextKey := fun s hs =>
    (db.sessions.below s hs).ne
  refine ⟨fun s hs t ht hactive hactive' hsd hsp => ?_, fun d hd s hs hsession => ?_, h.queued,
    fun s hs hactive => ?_, fun s hs hactive hopening _ m hm _ => ?_, by simp⟩
  · rcases (Table.mem_insert (h := hkey)).1 hs with hs | rfl <;>
      rcases (Table.mem_insert (h := hkey)).1 ht with ht | rfl
    · exact h.unique s hs t ht hactive hactive' hsd hsp
    · exact absurd ⟨hsd.trans hdevice, hsp.trans hpeer⟩
        (findActiveSession_eq_none hfree hs hactive)
    · exact absurd ⟨hsd.symm.trans hdevice, hsp.symm.trans hpeer⟩
        (findActiveSession_eq_none hfree ht hactive')
    · rfl
  · rcases (Table.mem_insert (h := hkey)).1 hs with hs | rfl
    · obtain ⟨howner, hfound, hlive, hstates⟩ := h.owned d hd s hs hsession
      exact ⟨howner, hfound, hlive, fun hactive => by simpa using hstates hactive⟩
    · exact absurd (hid ▸ hsession) (hfresh d hd)
  · rcases (Table.mem_insert (h := hkey)).1 hs with hs | rfl
    · rw [h.heads s hs hactive]
      simp [Phase.headCount, hold s hs]
    · rw [Phase.headCount, if_pos hid]
      refine Table.count_eq_zero.2 fun d hd => ?_
      rw [hid]
      simp [isHeadOf, hfresh d hd]
  · rcases (Table.mem_insert (h := hkey)).1 hs with hs | rfl
    · exact h.covered s hs hactive (by simp) (by simp) m ⟨hm.found, hm.accepted, hm.sender,
        hm.recipient⟩ (by simp)
    · rw [hid] at hopening
      exact absurd rfl hopening

/-- **A session has collected its scope.** -/
theorem SessionsOk.opened {s : RefreshSession} (hdb : Consistent db)
    (h : SessionsOk (.opening s.id) db) (hs : s ∈ db.sessions)
    (hgathered : ∀ m, IsRefreshed db s m → IsGathered db s m) :
    SessionsOk (.headless s.id) db := by
  refine ⟨h.unique, fun d hd t ht hsession => ?_, h.queued, h.heads,
    fun t ht hactive _ _ m hm _ => ?_, fun d hd hphase => by simp at hphase⟩
  · obtain ⟨howner, hfound, hlive, hstates⟩ := h.owned d hd t ht hsession
    exact ⟨howner, hfound, hlive, fun hactive => by simpa using hstates hactive⟩
  by_cases hself : t.id = s.id
  swap
  · exact h.covered t ht hactive (by simpa using Ne.symm hself) (by simp) m hm (by simp)
  obtain rfl := Table.eq_of_key_eq ht hs hself
  rcases hgathered m hm with ⟨d, hd, hmessage, hdevice, hstate⟩ | hnone
  swap
  · exact Or.inr hnone
  refine Or.inl ⟨d, hd, hmessage, hdevice, ?_⟩
  -- whoever owns the waiting row is this session, as it is active
  have howner : d.state = .pending ∨ d.state = .queuedForRefresh → d.refreshSessionId.isSome →
      d.refreshSessionId = some t.id := by
    intro hwaits howned
    obtain ⟨sid, hsid⟩ := Option.isSome_iff_exists.1 howned
    obtain ⟨u, hu⟩ := Option.isSome_iff_exists.1 ((hdb.deliveries d hd).session sid hsid)
    have hu' : d.refreshSessionId = some u.id := by rw [hsid, ← Table.key_of_get? hu]; rfl
    have hrow := h.owned d hd u (Table.mem_of_get? hu) hu'
    have hfound : db.messages.get? d.messageId = some m := hmessage ▸ Table.get?_key hm.found
    rw [hu', h.session_eq (Table.mem_of_get? hu) (hrow.live hwaits) hrow.device.symm
      hrow.exists_message ht hactive hdevice.symm ⟨m, hfound, hm.sender⟩]
  rcases hstate with hdelivered | hqueued | ⟨hpending, howned⟩
  · exact Or.inl hdelivered
  · exact Or.inr ⟨howner (Or.inr hqueued) (h.queued d hd hqueued), Or.inr hqueued⟩
  · exact Or.inr ⟨howner (Or.inl hpending) howned, Or.inl hpending⟩

/-- **A session ends** that has nothing left to send. -/
theorem SessionsOk.finish {sessionId : ℕ} (h : SessionsOk p db)
    (hphase : p = .headless sessionId ∨ p = .stopping sessionId)
    (hempty : ∀ d ∈ db.deliveries, ¬ IsQueuedIn sessionId d)
    (state : RefreshSessionState) (hended : state ≠ .active) (now : Time) :
    SessionsOk .settled (finishRefreshSessions db
      (fun row => row.id = sessionId && row.state = .active) state now) := by
  have hcount : ∀ s, p.headCount s = if s = sessionId then 0 else 1 := by
    rcases hphase with rfl | rfl <;> exact fun _ => rfl
  -- an active session is an old one, and another one than the one that ends
  have hactive : ∀ t ∈ (finishRefreshSessions db
      (fun row => row.id = sessionId && row.state = .active) state now).sessions,
      t.state = .active → t ∈ db.sessions ∧ t.id ≠ sessionId := by
    intro t ht hactive
    obtain ⟨s, hs, rfl⟩ := (Table.mem_updateWhere (h := by intros; rfl)).1 ht
    split at hactive
    · exact absurd hactive hended
    · next hnot =>
        rw [if_neg hnot]
        refine ⟨hs, fun hid => hnot ?_⟩
        simp [hid, hactive]
  refine ⟨fun s hs t ht hs' ht' hdevice hpeer => ?_, fun d hd t ht hsession => ?_, h.queued,
    fun t ht ht' => ?_, fun t ht ht' _ _ m hm _ => ?_, fun d hd hphase => by simp at hphase⟩
  · exact h.unique s (hactive s hs hs').1 t (hactive t ht ht').1 hs' ht' hdevice hpeer
  · by_cases hlive : t.state = .active
    · obtain ⟨htold, hother⟩ := hactive t ht hlive
      obtain ⟨howner, hfound, -, hstates⟩ := h.owned d hd t htold hsession
      refine ⟨howner, hfound, fun _ => hlive, fun _ => ?_⟩
      rcases hstates hlive with hstate | hstate | hstate | ⟨heq, hstate⟩
      · exact Or.inl hstate
      · exact Or.inr (Or.inl hstate)
      · exact Or.inr (Or.inr (Or.inl hstate))
      · rcases hphase with rfl | rfl
        · cases heq
        · exact absurd (by simpa using heq.symm) hother
    · obtain ⟨s, hs, rfl⟩ := (Table.mem_updateWhere (h := by intros; rfl)).1 ht
      split at hsession
      · next hp =>
          rw [if_pos hp] at hlive ⊢
          obtain ⟨hid, hwas⟩ : s.id = sessionId ∧ s.state = .active := by simpa using hp
          obtain ⟨howner, ⟨m, hm, hsender, -⟩, -, -⟩ := h.owned d hd s hs hsession
          refine ⟨howner, ⟨m, hm, hsender, fun hactive => absurd hactive hended⟩, fun hwaits => ?_,
            fun hactive => absurd hactive hended⟩
          -- neither a head nor a queued row of the session is left
          have hzero := h.heads s hs hwas
          rw [hcount, if_pos hid] at hzero
          rcases hwaits with hpending | hqueued
          · have hhead := Table.count_eq_zero.1 hzero d hd
            simp [isHeadOf, hsession, hpending] at hhead
          · exact absurd ⟨hid ▸ hsession, hqueued⟩ (hempty d hd)
      · next hp =>
          rw [if_neg hp] at hlive ⊢
          obtain ⟨howner, hfound, hwaits, hstates⟩ := h.owned d hd s hs hsession
          exact ⟨howner, hfound, hwaits, fun hactive => absurd hactive hlive⟩
  · obtain ⟨htold, hother⟩ := hactive t ht ht'
    exact (h.heads t htold ht').trans (by rw [hcount, if_neg hother]; rfl)
  · obtain ⟨htold, hother⟩ := hactive t ht ht'
    refine h.covered t htold ht' ?_ ?_ m ⟨hm.found, hm.accepted, hm.sender, hm.recipient⟩ ?_ <;>
      rcases hphase with rfl | rfl <;> simp [Ne.symm hother]

/-- **A device is linked** that has no active session. -/
theorem SessionsOk.setDeviceUser {device : Contact} (h : SessionsOk .settled db)
    (hfree : ∀ s ∈ db.sessions, s.state = .active → s.deviceId ≠ device.id) (userId : ℕ)
    (now : Time) : SessionsOk .settled (setDeviceUser db device userId now) := by
  have hlink : ∀ s ∈ db.sessions, s.state = .active →
      (HoptalkRelay.setDeviceUser db device userId now).deviceUserId s.deviceId =
        db.deviceUserId s.deviceId := fun s hs hactive =>
    deviceUserId_setDeviceUser (hfree s hs hactive) userId now
  refine ⟨h.unique, fun d hd s hs hsession => ?_, h.queued, h.heads,
    fun s hs hactive _ _ m hm _ => ?_, fun d hd hphase => by simp at hphase⟩
  · obtain ⟨howner, ⟨m, hm, hsender, hrecipient⟩, hlive, hstates⟩ := h.owned d hd s hs hsession
    refine ⟨howner, ⟨m, hm, hsender, fun hactive => ?_⟩, hlive, hstates⟩
    rw [hlink s hs hactive]
    exact hrecipient hactive
  · exact h.covered s hs hactive (by simp) (by simp) m
      ⟨hm.found, hm.accepted, hm.sender, (hlink s hs hactive) ▸ hm.recipient⟩ (by simp)

/-- The device of an active session is linked. -/
theorem SessionsOk.linked {s : RefreshSession} (h : SessionsOk .settled db) (hs : s ∈ db.sessions)
    (hactive : s.state = .active) : (db.deviceUserId s.deviceId).isSome := by
  obtain ⟨d, hd, hhead⟩ := Table.exists_of_count_eq_one (h.heads s hs hactive)
  obtain ⟨m, -, -, hlink⟩ := (h.owned d hd s hs (isHeadOf_iff.1 hhead).1).message
  rw [hlink hactive]
  rfl

/-- What a relink does before it links the device. -/
def cancelDeviceRows (db : Db) (deviceId : ℕ) (now : Time) : Db :=
  cancelDeviceRefreshSessionsForRelink
    (cancelDeviceReceiptsForRelink (cancelDeviceDeliveriesForRelink db deviceId now) deviceId now)
    deviceId now

/-- **A device's sessions and deliveries are cancelled.** -/
theorem SessionsOk.cancelDeviceRows (h : SessionsOk .settled db) (deviceId : ℕ) (now : Time) :
    SessionsOk .settled (cancelDeviceRows db deviceId now) ∧
      ∀ s ∈ (HoptalkRelay.cancelDeviceRows db deviceId now).sessions, s.state = .active →
        s.deviceId ≠ deviceId := by
  -- an active session is an old one of another device
  have hactive : ∀ t ∈ (HoptalkRelay.cancelDeviceRows db deviceId now).sessions,
      t.state = .active → t ∈ db.sessions ∧ t.deviceId ≠ deviceId := by
    intro t ht hactive
    obtain ⟨s, hs, rfl⟩ := (Table.mem_updateWhere (h := by intros; rfl)).1 ht
    split at hactive
    · cases hactive
    · next hnot =>
        rw [if_neg hnot]
        exact ⟨hs, fun hdevice => hnot (by simp [hdevice, hactive])⟩
  have hsession : ∀ t ∈ (HoptalkRelay.cancelDeviceRows db deviceId now).sessions,
      ∃ s ∈ db.sessions, s.id = t.id ∧ s.deviceId = t.deviceId ∧ s.peerId = t.peerId ∧
        (s.state = .active → t.state ≠ .active → s.deviceId = deviceId) := by
    intro t ht
    obtain ⟨s, hs, rfl⟩ := (Table.mem_updateWhere (h := by intros; rfl)).1 ht
    refine ⟨s, hs, ?_⟩
    split
    · next hp =>
        have hdevice : s.deviceId = deviceId ∧ s.state = .active := by simpa using hp
        exact ⟨rfl, rfl, rfl, fun _ _ => hdevice.1⟩
    · exact ⟨rfl, rfl, rfl, fun hwas hnot => absurd hwas hnot⟩
  -- a delivery is an old one, or a cancelled one of the device
  have hdelivery : ∀ e ∈ (HoptalkRelay.cancelDeviceRows db deviceId now).deliveries,
      ∃ d ∈ db.deliveries, e.messageId = d.messageId ∧ e.deviceId = d.deviceId ∧
        e.refreshSessionId = d.refreshSessionId ∧
        (e = d ∧ (d.deviceId = deviceId → d.state ∉ nonTerminalDeliveryStates) ∨
          d.deviceId = deviceId ∧ e.state = .cancelled) := by
    intro e he
    obtain ⟨d, hd, rfl⟩ := (Table.mem_updateWhere (h := by intros; rfl)).1 he
    refine ⟨d, hd, ?_⟩
    split
    · next hp =>
        have hdevice : d.deviceId = deviceId ∧ d.state ∈ nonTerminalDeliveryStates := by
          simpa using hp
        exact ⟨rfl, rfl, rfl, Or.inr ⟨hdevice.1, rfl⟩⟩
    · next hp =>
        refine ⟨rfl, rfl, rfl, Or.inl ⟨rfl, fun hdevice hlive => hp ?_⟩⟩
        simp [hdevice, hlive]
  have hkept : ∀ d ∈ db.deliveries, d.deviceId ≠ deviceId →
      d ∈ (HoptalkRelay.cancelDeviceRows db deviceId now).deliveries := by
    intro d hd hother
    refine (Table.mem_updateWhere (h := by intros; rfl)).2 ⟨d, hd, ?_⟩
    rw [if_neg (by simp [hother])]
  refine ⟨⟨fun s hs t ht hs' ht' hdevice hpeer => ?_, fun e he t ht howned => ?_,
    fun e he hstate => ?_, fun t ht ht' => ?_, fun t ht ht' _ _ m hm _ => ?_,
    fun e he hphase => by simp at hphase⟩, fun t ht ht' => (hactive t ht ht').2⟩
  · exact h.unique s (hactive s hs hs').1 t (hactive t ht ht').1 hs' ht' hdevice hpeer
  · obtain ⟨d, hd, hmessage, hdevice, hsame, hstate⟩ := hdelivery e he
    obtain ⟨s, hs, hid, hsdevice, hspeer, hended⟩ := hsession t ht
    obtain ⟨howner, ⟨m, hm, hsender, hlink⟩, hlive, hstates⟩ :=
      h.owned d hd s hs (by rw [← hsame, howned, hid])
    refine ⟨by rw [hdevice, howner, hsdevice],
      ⟨m, hmessage ▸ hm, hsender.trans hspeer, fun ht' => ?_⟩, fun hwaits => ?_, fun ht' => ?_⟩
    · have hst : s = t := Table.eq_of_key_eq hs (hactive t ht ht').1 hid
      rw [← hsdevice]
      exact hlink (hst ▸ ht')
    · rcases hstate with ⟨rfl, hnot⟩ | ⟨-, hcancelled⟩
      · by_contra hnotactive
        refine hnot ?_ ?_
        · rw [howner]
          exact hended (hlive hwaits) hnotactive
        · simpa [nonTerminalDeliveryStates, or_assoc] using
            hwaits.elim Or.inl fun hqueued => Or.inr (Or.inl hqueued)
      · simp [hcancelled] at hwaits
    · have hst : s = t := Table.eq_of_key_eq hs (hactive t ht ht').1 hid
      rcases hstate with ⟨rfl, -⟩ | ⟨hdev, -⟩
      · simpa using hstates (hst ▸ ht')
      · exact absurd (hsdevice ▸ howner ▸ hdev) (hactive t ht ht').2
  · obtain ⟨d, hd, -, -, hsame, ⟨rfl, -⟩ | ⟨-, hcancelled⟩⟩ := hdelivery e he
    · exact h.queued e hd hstate
    · simp [hcancelled] at hstate
  · obtain ⟨htold, hother⟩ := hactive t ht ht'
    rw [← h.heads t htold ht']
    refine Table.count_eq_of_mem_iff fun d hhead => ?_
    obtain ⟨howned, hpending⟩ := isHeadOf_iff.1 hhead
    constructor
    · intro hd
      obtain ⟨d', hd', -, -, -, ⟨rfl, -⟩ | ⟨-, hcancelled⟩⟩ := hdelivery d hd
      · exact hd'
      · simp [hcancelled] at hpending
    · intro hd
      exact hkept d hd ((h.owned d hd t htold howned).device ▸ hother)
  · obtain ⟨htold, hother⟩ := hactive t ht ht'
    rcases h.covered t htold ht' (by simp) (by simp) m
      ⟨hm.found, hm.accepted, hm.sender, hm.recipient⟩ (by simp) with
      ⟨d, hd, hmessage, hdevice, hserved⟩ | ⟨hdelivered, hnone⟩
    · exact Or.inl ⟨d, hkept d hd (hdevice ▸ hother), hmessage, hdevice, hserved⟩
    · refine Or.inr ⟨hdelivered, fun e he hof => ?_⟩
      obtain ⟨d, hd, hmessage, hdevice, -⟩ := hdelivery e he
      exact hnone d hd ⟨hmessage ▸ hof.1, hdevice ▸ hof.2⟩

theorem SessionsOk.relinkDevice (h : SessionsOk .settled db) (device : Contact) (user : User)
    (now : Time) : SessionsOk .settled (relinkDevice db device user now) := by
  obtain ⟨hcancelled, hfree⟩ := h.cancelDeviceRows device.id now
  exact hcancelled.setDeviceUser hfree user.id now

/-! ### Deletions -/

/-- A clean-up deletes incomplete messages only. -/
theorem roots_message_eq_false {roots : DeletionRoots}
    (hevent : input.event.deletionRoots? = some roots) {m : Message}
    (haccepted : m.acceptedAt.isSome) : roots.message m = false := by
  cases hcase : input.event <;> rw [hcase] at hevent <;>
    simp only [Event.deletionRoots?, Option.some.injEq, reduceCtorEq] at hevent
  case deleteExpiredIncompleteMessages =>
    subst hevent
    have hne : m.acceptedAt ≠ none := Option.isSome_iff_ne_none.1 haccepted
    simp [isExpiredIncompleteMessage, hne]
  case deleteContact | deleteUser =>
    subst hevent
    rfl

/-- A kept device keeps its user, and the user is kept. -/
theorem deviceUserId_deleteRows {roots : DeletionRoots} {deviceId : ℕ}
    (hkept : isContactDeleted db roots deviceId = false) :
    (deleteRows db roots).deviceUserId deviceId = db.deviceUserId deviceId ∧
      ∀ userId, db.deviceUserId deviceId = some userId → isUserDeleted db roots userId = false := by
  unfold isContactDeleted at hkept
  have hfind : (deleteRows db roots).contacts.get? deviceId =
      (db.contacts.get? deviceId).filter fun c => !isContactRowDeleted db roots c :=
    Table.get?_deleteWhere deviceId
  unfold Db.deviceUserId
  rw [hfind]
  cases hc : db.contacts.get? deviceId with
  | none => simp
  | some c =>
      rw [hc, Option.any_some] at hkept
      refine ⟨by simp [Option.filter, hkept], fun userId huser => ?_⟩
      rw [Option.bind_some] at huser
      simp only [isContactRowDeleted, huser, Bool.or_eq_false_iff, Option.any_some] at hkept
      exact hkept.2

/-- What is kept of a message. -/
theorem get?_messages_of_kept {roots : DeletionRoots} {m : Message} {k : ℕ}
    (hm : db.messages.get? k = some m) (hkept : isMessageRowDeleted db roots m = false) :
    (deleteRows db roots).messages.get? k = some (forgetSenderDevice db roots m) := by
  rw [get?_messages_deleteRows, hm]
  simp [Option.filter, hkept]

/-- **Rows are deleted**: a kept session keeps its deliveries. -/
theorem SessionsOk.deleteRows {roots : DeletionRoots} (hdb : Consistent db)
    (h : SessionsOk .settled db) (hevent : input.event.deletionRoots? = some roots) :
    SessionsOk .settled (deleteRows db roots) := by
  have hsession : ∀ s ∈ (HoptalkRelay.deleteRows db roots).sessions, s ∈ db.sessions ∧
      isContactDeleted db roots s.deviceId = false ∧ isUserDeleted db roots s.peerId = false := by
    intro s hs
    obtain ⟨hs, hkept⟩ := mem_sessions_deleteRows.1 hs
    simp only [isSessionRowDeleted, Bool.or_eq_false_iff] at hkept
    exact ⟨hs, hkept⟩
  -- an accepted message of a kept session's peer to its user is kept
  have hmessage : ∀ s ∈ (HoptalkRelay.deleteRows db roots).sessions, ∀ m ∈ db.messages,
      m.acceptedAt.isSome → m.senderId = s.peerId →
      db.deviceUserId s.deviceId = some m.recipientId →
      isMessageRowDeleted db roots m = false := by
    intro s hs m hm haccepted hsender hlink
    obtain ⟨-, hdevice, hpeer⟩ := hsession s hs
    have huser := (deviceUserId_deleteRows hdevice).2 _ hlink
    simp [isMessageRowDeleted, roots_message_eq_false hevent haccepted, hsender, hpeer, huser]
  -- a delivery of a kept message to a kept device is kept: its session is
  have hdelivery : ∀ d ∈ db.deliveries, ∀ m, db.messages.get? d.messageId = some m →
      isMessageRowDeleted db roots m = false → isContactDeleted db roots d.deviceId = false →
      d ∈ (HoptalkRelay.deleteRows db roots).deliveries := by
    intro d hd m hm hkept hdevice
    refine mem_deliveries_deleteRows.2 ⟨hd, ?_⟩
    have hsender : isUserDeleted db roots m.senderId = false := by
      simp only [isMessageRowDeleted, Bool.or_eq_false_iff] at hkept
      exact hkept.1.2
    have howner : d.refreshSessionId.any (isSessionDeleted db roots) = false := by
      cases hsid : d.refreshSessionId with
      | none => rfl
      | some sid =>
          obtain ⟨s, hs⟩ := Option.isSome_iff_exists.1 ((hdb.deliveries d hd).session sid hsid)
          have hsid' : d.refreshSessionId = some s.id := by rw [hsid, ← Table.key_of_get? hs]; rfl
          have hrow := h.owned d hd s (Table.mem_of_get? hs) hsid'
          obtain ⟨n, hn, hpeer⟩ := hrow.exists_message
          obtain rfl := Option.some.inj (hm.symm.trans hn)
          rw [Option.any_some, isSessionDeleted, hs, Option.any_some, isSessionRowDeleted,
            ← hrow.device, hdevice, ← hpeer, hsender]
          rfl
    rw [isDeliveryRowDeleted, isMessageDeleted, hm, Option.any_some, hkept, hdevice, howner]
    rfl
  refine ⟨fun s hs t ht => h.unique s (hsession s hs).1 t (hsession t ht).1,
    fun d hd s hs hsame => ?_, fun d hd => h.queued d (mem_deliveries_deleteRows.1 hd).1,
    fun s hs hactive => ?_, fun s hs hactive _ _ n hn _ => ?_, fun d hd hphase => by simp at hphase⟩
  · obtain ⟨hd, hkept⟩ := mem_deliveries_deleteRows.1 hd
    obtain ⟨hs', hdevice, -⟩ := hsession s hs
    obtain ⟨howner, ⟨m, hm, hsender, hlink⟩, hlive, hstates⟩ := h.owned d hd s hs' hsame
    have hmkept : isMessageRowDeleted db roots m = false := by
      simp only [isDeliveryRowDeleted, isMessageDeleted, hm, Option.any_some,
        Bool.or_eq_false_iff] at hkept
      exact hkept.1.1
    refine ⟨howner, ⟨_, get?_messages_of_kept hm hmkept, hsender, fun hactive => ?_⟩, hlive,
      hstates⟩
    rw [(deviceUserId_deleteRows hdevice).1]
    exact hlink hactive
  · obtain ⟨hs', hdevice, -⟩ := hsession s hs
    rw [← h.heads s hs' hactive]
    refine Table.count_eq_of_mem_iff fun d hhead => ⟨fun hd => (mem_deliveries_deleteRows.1 hd).1,
      fun hd => ?_⟩
    obtain ⟨howner, ⟨m, hm, hsender, hlink⟩, -, -⟩ :=
      h.owned d hd s hs' (isHeadOf_iff.1 hhead).1
    obtain ⟨n, hn, haccepted⟩ := (hdb.deliveries d hd).message
    obtain rfl := Option.some.inj (hn.symm.trans hm)
    exact hdelivery d hd n hn (hmessage s hs n (Table.mem_of_get? hn) haccepted hsender
      (hlink hactive)) (howner ▸ hdevice)
  · obtain ⟨hs', hdevice, -⟩ := hsession s hs
    obtain ⟨hmem, haccepted, hsender, hrecipient⟩ := hn
    obtain ⟨m, hm, hkept, rfl⟩ := mem_messages_deleteRows.1 hmem
    rw [(deviceUserId_deleteRows hdevice).1] at hrecipient
    rcases h.covered s hs' hactive (by simp) (by simp) m ⟨hm, haccepted, hsender, hrecipient⟩
      (by simp) with ⟨d, hd, hdm, hdd, hserved⟩ | ⟨hdelivered, hnone⟩
    · have hfound : db.messages.get? d.messageId = some m := hdm ▸ Table.get?_key hm
      exact Or.inl ⟨d, hdelivery d hd m hfound hkept (hdd ▸ hdevice), hdm, hdd, hserved⟩
    · exact Or.inr ⟨hdelivered, fun d hd => hnone d (mem_deliveries_deleteRows.1 hd).1⟩

/-- **Every write keeps the invariant.** -/
theorem SessionsOk.write {a b : Phase × Db} (hdb : Consistent a.2) (h : SessionsOk a.1 a.2)
    (hwrite : Write input a b) : SessionsOk b.1 b.2 := by
  cases hwrite with
  | quiet p hquiet => exact h.sameView hdb hquiet.sameView
  | delivery hd change => exact h.stateChange hd change
  | delivered hd => exact h.delivered hd _ _ _
  | readAgain hd => exact h.sameView hdb (.putDelivery hd rfl ⟨rfl, rfl, rfl, rfl⟩)
  | accepted hm hopen => exact h.accepted hdb hm hopen _
  | @newDelivery db m deviceId now hm haccepted hlinked hnew hfree =>
      refine h.insertDelivery hm (fun _ => ⟨rfl, rfl⟩) (by simp) (by simp) (fun s => rfl)
        (fun s hs hactive hdevice hpeer => ?_) fun _ s hs hactive hdevice hpeer => ?_
      · exact absurd ⟨hdevice, hpeer⟩ (findActiveSession_eq_none hfree hs hactive)
      · exact absurd ⟨hdevice, hpeer⟩ (findActiveSession_eq_none hfree hs hactive)
  | @newOwnedDelivery db m deviceId s now p hm haccepted hlinked hnew hs hdevice hpeer hactive
      hphase =>
      have hself : ∀ t ∈ db.sessions, t.state = .active → t.deviceId = deviceId →
          t.peerId = m.senderId → s = t := fun t ht htactive htdevice htpeer =>
        h.unique s hs t ht hactive htactive (hdevice.trans htdevice.symm)
          (hpeer.trans htpeer.symm)
      refine h.insertDelivery hm (fun _ => ⟨rfl, rfl⟩) (fun t ht hsession => ?_) (fun _ => rfl)
        (fun t => not_isHeadOf (by simp)) (fun t ht htactive htdevice htpeer => ?_)
        fun _ t ht htactive htdevice htpeer => ?_
      · have hst : s = t := Table.eq_of_key_eq hs ht (by simpa using hsession)
        subst hst
        have hfound : db.messages.get? m.id = some m := Table.get?_key hm
        exact ⟨hdevice.symm, ⟨m, hfound, hpeer.symm, fun _ => hdevice ▸ hlinked⟩,
          fun _ => hactive, fun _ => Or.inr (Or.inl rfl)⟩
      · rwa [← hself t ht htactive htdevice htpeer]
      · rw [← hself t ht htactive htdevice htpeer]
        exact ⟨rfl, rfl⟩
  | fannedOut hm hall => exact h.fannedOut hm hall
  | newSession hrow hlinked hself hpeer hfree => exact h.newSession hdb hrow hfree
  | opened hs hgathered => exact h.opened hdb hs hgathered
  | completed hempty => exact h.finish (Or.inl rfl) hempty .completed (by simp) _
  | stopped hempty => exact h.finish (Or.inr rfl) hempty .stopped (by simp) _
  | @linked db device user now hdevice hfree =>
      refine h.setDeviceUser (fun s hs hactive heq => ?_) user.id now
      have hlinked := h.linked hs hactive
      have hc : db.contacts.get? device.id = some device := Table.get?_key hdevice
      simp [heq, Db.deviceUserId, hc, hfree] at hlinked
  | relinked => exact h.relinkDevice _ _ _
  | deleted hevent => exact h.deleteRows hdb hevent

/-- A transaction commits with every session settled. -/
theorem SessionsOk.settle (h : SessionsOk .fannedOut db) : SessionsOk .settled db := by
  refine ⟨h.unique, fun d hd s hs hsession => ?_, h.queued, h.heads,
    fun s hs hactive _ _ m hm _ => h.covered s hs hactive (by simp) (by simp) m hm (by simp),
    fun d hd hphase => by simp at hphase⟩
  obtain ⟨howner, hfound, hlive, hstates⟩ := h.owned d hd s hs hsession
  exact ⟨howner, hfound, hlive, fun hactive => by simpa using hstates hactive⟩

end Write

/-! ### Reachable databases -/

/-- The invariant holds after every step. -/
theorem SessionsOk.step {db : Db} (hashing : PasswordHashing) (input : Input) (hdb : Consistent db)
    (h : SessionsOk .settled db) : SessionsOk .settled (step hashing db input).1 := by
  obtain ⟨phase, hfinal, -, hok⟩ := step_phase_invariant hashing input hdb
    (P := fun a => SessionsOk a.1 a.2) h fun _ _ hdb hok hwrite => hok.write hdb hwrite
  rcases hfinal with rfl | rfl
  · exact hok
  · exact hok.settle

/-- **Every session of a reachable database is in order.** -/
theorem sessionsOk_of_reachable {hashing : PasswordHashing} {db : Db}
    (h : (engine hashing).Reachable db) : SessionsOk .settled db := by
  obtain ⟨history, run⟩ := h
  refine (run.invariant (P := fun _ db => Consistent db ∧ SessionsOk .settled db)
    ⟨.empty, .empty⟩ fun before db input _ _ hok => ⟨?_, hok.2.step hashing input hok.1⟩).2
  exact (step_invariant hashing input hok.1 (P := fun _ => True) trivial
    fun _ _ _ _ _ => trivial).1

end HoptalkRelay
