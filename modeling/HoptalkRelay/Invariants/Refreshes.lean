/-
**A refresh is complete.**

The answer to an `F` counts the messages the device misses, and afterwards each of them waits in
the device's session with the message's sender.  When a session has to be started, it collects the
scope; when one runs already, the invariant of the sessions says that nothing else is missed.

Main definitions:

* `HoptalkRelay.isMissed` — the device misses the message;
* `HoptalkRelay.isInRefreshScope` — so it does, and the request asks for the sender;
* `HoptalkRelay.RefreshesPeers` — what refreshing some peers does.

Main results:

* `HoptalkRelay.refreshesPeers_refreshPeer` — one peer, with or without a running session;
* `HoptalkRelay.RefreshesPeers.cons` — peer after peer;
* `HoptalkRelay.refresh_complete` — **what an answered `F` has done**.
-/

import HoptalkRelay.Invariants.Sessions
import Mathlib.Data.List.Dedup

set_option relaxedAutoImplicit false
set_option autoImplicit false

namespace HoptalkRelay

open Relational Transition

/-! ### What is missed -/

/-- The device of the user misses the message: its delivery is not delivered, or there is none and
no other device received the message. -/
def isMissed (db : Db) (deviceId userId : ℕ) (m : Message) : Bool :=
  m.recipientId = userId && m.acceptedAt.isSome &&
    ((db.deliveries.any fun d =>
        d.messageId = m.id && d.deviceId = deviceId && d.state ≠ .delivered) ||
      m.deliveredAt = none &&
        !db.deliveries.any fun d => d.messageId = m.id && d.deviceId = deviceId)

/-- The missed messages the request asks for: those of one peer, or of everyone. -/
def isInRefreshScope (db : Db) (deviceId userId : ℕ) (request : RefreshRequest) (m : Message) :
    Bool :=
  isMissed db deviceId userId m &&
    (request.isForAllPeers ||
      (db.userByLookup (normalizeUsernameForLookup request.refreshTarget)).any fun peer =>
        m.senderId = peer.id)

section Missed

variable {db db' : Db} {deviceId userId : ℕ} {m : Message}

theorem isMissed_iff : isMissed db deviceId userId m = true ↔
    (m.recipientId = userId ∧ m.acceptedAt.isSome) ∧
      ((∃ d ∈ db.deliveries, d.messageId = m.id ∧ d.deviceId = deviceId ∧ d.state ≠ .delivered) ∨
        m.deliveredAt = none ∧
          ∀ d ∈ db.deliveries, ¬ (d.messageId = m.id ∧ d.deviceId = deviceId)) := by
  have hnone : (db.deliveries.any fun d => d.messageId = m.id && d.deviceId = deviceId) = false ↔
      ∀ d ∈ db.deliveries, ¬ (d.messageId = m.id ∧ d.deviceId = deviceId) := by
    rw [Table.any_eq_false]
    refine forall₂_congr fun d _ => ?_
    simp
  simp only [isMissed, Bool.and_eq_true, Bool.or_eq_true, decide_eq_true_eq, Bool.not_eq_true',
    hnone, Table.any_eq_true, ne_eq, and_assoc]

/-- Whether a message is missed depends on its deliveries to the device only. -/
theorem isMissed_congr (hrow : ∀ d, d.messageId = m.id → d.deviceId = deviceId →
    (d ∈ db'.deliveries ↔ d ∈ db.deliveries)) :
    isMissed db' deviceId userId m = isMissed db deviceId userId m := by
  rw [Bool.eq_iff_iff, isMissed_iff, isMissed_iff]
  refine and_congr_right fun _ => or_congr ?_ (and_congr_right fun _ => ?_)
  · constructor
    · rintro ⟨d, hd, hmessage, hdevice, hstate⟩
      exact ⟨d, (hrow d hmessage hdevice).1 hd, hmessage, hdevice, hstate⟩
    · rintro ⟨d, hd, hmessage, hdevice, hstate⟩
      exact ⟨d, (hrow d hmessage hdevice).2 hd, hmessage, hdevice, hstate⟩
  · constructor
    · exact fun h d hd hof => h d ((hrow d hof.1 hof.2).2 hd) hof
    · exact fun h d hd hof => h d ((hrow d hof.1 hof.2).1 hd) hof

end Missed

/-! ### Peer after peer -/

/-- The message waits for the device, in the device's active session with its sender. -/
def IsWaitingInSession (db : Db) (deviceId : ℕ) (m : Message) : Prop :=
  ∃ d ∈ db.deliveries, d.messageId = m.id ∧ d.deviceId = deviceId ∧
    (d.state = .pending ∨ d.state = .queuedForRefresh) ∧
    ∃ s ∈ db.sessions, s.state = .active ∧ s.deviceId = deviceId ∧ s.peerId = m.senderId ∧
      d.refreshSessionId = some s.id

/-- What the device misses of these peers. -/
def isMissedOf (db : Db) (deviceId userId : ℕ) (peerIds : List ℕ) (m : Message) : Bool :=
  isMissed db deviceId userId m && peerIds.contains m.senderId

/-- The delivery is one to the device of a message it misses of these peers. -/
def IsDeliveryOfMissed (db : Db) (deviceId userId : ℕ) (peerIds : List ℕ) (d : MessageDelivery) :
    Prop :=
  d.deviceId = deviceId ∧
    ∃ m, db.messages.get? d.messageId = some m ∧ isMissedOf db deviceId userId peerIds m = true

/-- What refreshing some peers does: everything the device misses of them waits and was counted,
and no other delivery changed. -/
structure RefreshesPeers (db db' : Db) (deviceId userId : ℕ) (peerIds : List ℕ) (count : ℕ) :
    Prop where
  counted : count = db.messages.count (isMissedOf db deviceId userId peerIds)
  messages : db'.messages = db.messages
  sessions : ∀ s ∈ db.sessions, s ∈ db'.sessions
  waiting : ∀ m ∈ db.messages, isMissedOf db deviceId userId peerIds m = true →
    IsWaitingInSession db' deviceId m
  kept : ∀ d ∈ db.deliveries, ¬ IsDeliveryOfMissed db deviceId userId peerIds d →
    d ∈ db'.deliveries
  only : ∀ d ∈ db'.deliveries, d ∈ db.deliveries ∨
    IsDeliveryOfMissed db deviceId userId peerIds d

section Peers

variable {db db₁ db' : Db} {deviceId userId : ℕ}

theorem isMissedOf_iff {peerIds : List ℕ} {m : Message} :
    isMissedOf db deviceId userId peerIds m = true ↔
      isMissed db deviceId userId m = true ∧ m.senderId ∈ peerIds := by
  simp [isMissedOf]

/-- No peers, nothing to do. -/
theorem RefreshesPeers.nil (db : Db) (deviceId userId : ℕ) :
    RefreshesPeers db db deviceId userId [] 0 where
  counted := (Table.count_eq_zero.2 fun m _ => by simp [isMissedOf]).symm
  messages := rfl
  sessions _ h := h
  waiting m _ h := by simp [isMissedOf] at h
  kept _ h _ := h
  only _ h := Or.inl h

/-- **One peer, and then the others**: a refresh of one peer changes nothing another one misses. -/
theorem RefreshesPeers.cons {peerId : ℕ} {peerIds : List ℕ} {count count' : ℕ}
    (hpeer : RefreshesPeers db db₁ deviceId userId [peerId] count)
    (hpeers : RefreshesPeers db₁ db' deviceId userId peerIds count') (hnot : peerId ∉ peerIds) :
    RefreshesPeers db db' deviceId userId (peerId :: peerIds) (count + count') := by
  -- what is missed of the other peers is the same after the first one
  have hother : ∀ m ∈ db.messages, m.senderId ≠ peerId →
      isMissed db₁ deviceId userId m = isMissed db deviceId userId m := by
    intro m hm hne
    refine isMissed_congr fun d hmessage hdevice => ?_
    have hfound : db.messages.get? d.messageId = some m := hmessage ▸ Table.get?_key hm
    have hfree : ¬ IsDeliveryOfMissed db deviceId userId [peerId] d := by
      rintro ⟨-, n, hn, hmissed⟩
      obtain rfl := Option.some.inj (hfound.symm.trans hn)
      exact hne (by simpa using (isMissedOf_iff.1 hmissed).2)
    exact ⟨fun hd => (hpeer.only d hd).resolve_right hfree, fun hd => hpeer.kept d hd hfree⟩
  have hrest : ∀ m ∈ db.messages, isMissedOf db₁ deviceId userId peerIds m =
      isMissedOf db deviceId userId peerIds m := by
    intro m hm
    by_cases hmem : m.senderId ∈ peerIds
    · have hne : m.senderId ≠ peerId := by
        rintro rfl
        exact hnot hmem
      rw [isMissedOf, isMissedOf, hother m hm hne]
    · simp [isMissedOf, hmem]
  refine ⟨?_, hpeers.messages.trans hpeer.messages,
    fun s hs => hpeers.sessions s (hpeer.sessions s hs), fun m hm hmissed => ?_,
    fun d hd hnotmissed => ?_, fun d hd => ?_⟩
  · have hsplit : ∀ l : List Message, (∀ m ∈ l, m ∈ db.messages) →
        l.countP (isMissedOf db deviceId userId [peerId]) +
          l.countP (isMissedOf db₁ deviceId userId peerIds) =
        l.countP (isMissedOf db deviceId userId (peerId :: peerIds)) := by
      intro l hl
      induction l with
      | nil => rfl
      | cons m l ih =>
          have hm := hl m List.mem_cons_self
          have hl' := ih fun n hn => hl n (List.mem_cons_of_mem _ hn)
          have hcases : (if isMissedOf db deviceId userId [peerId] m = true then 1 else 0) +
              (if isMissedOf db deviceId userId peerIds m = true then 1 else 0) =
              if isMissedOf db deviceId userId (peerId :: peerIds) m = true then 1 else 0 := by
            simp only [isMissedOf_iff, List.mem_cons, List.not_mem_nil, or_false]
            by_cases hself : m.senderId = peerId
            · simp [hself, hnot]
            · simp [hself]
          simp only [List.countP_cons, hrest m hm]
          omega
    rw [hpeer.counted, hpeers.counted, hpeer.messages]
    exact hsplit db.messages.rows fun m hm => hm
  · obtain ⟨hmissed, hmem⟩ := isMissedOf_iff.1 hmissed
    rcases List.mem_cons.1 hmem with hself | hmem
    · obtain ⟨d, hd, hmessage, hdevice, hstate, s, hs, hsession⟩ :=
        hpeer.waiting m hm (isMissedOf_iff.2 ⟨hmissed, by simp [hself]⟩)
      refine ⟨d, hpeers.kept d hd ?_, hmessage, hdevice, hstate, s, hpeers.sessions s hs, hsession⟩
      rintro ⟨-, n, hn, hmissed'⟩
      rw [hpeer.messages, hmessage] at hn
      obtain rfl := Option.some.inj ((Table.get?_key hm).symm.trans hn)
      exact hnot (hself ▸ (isMissedOf_iff.1 hmissed').2)
    · refine hpeers.waiting m (hpeer.messages ▸ hm) ?_
      rw [hrest m hm]
      exact isMissedOf_iff.2 ⟨hmissed, hmem⟩
  · refine hpeers.kept d (hpeer.kept d hd ?_) ?_
    · rintro ⟨hdevice, m, hm, hmissed⟩
      obtain ⟨hmissed, hmem⟩ := isMissedOf_iff.1 hmissed
      refine hnotmissed ⟨hdevice, m, hm, isMissedOf_iff.2 ⟨hmissed, ?_⟩⟩
      exact List.mem_cons.2 (Or.inl (by simpa using hmem))
    · rintro ⟨hdevice, m, hm, hmissed⟩
      rw [hpeer.messages] at hm
      rw [hrest m (Table.mem_of_get? hm)] at hmissed
      obtain ⟨hmissed, hmem⟩ := isMissedOf_iff.1 hmissed
      exact hnotmissed ⟨hdevice, m, hm, isMissedOf_iff.2 ⟨hmissed, List.mem_cons_of_mem _ hmem⟩⟩
  · rcases hpeers.only d hd with hd | ⟨hdevice, m, hm, hmissed⟩
    · rcases hpeer.only d hd with hd | ⟨hdevice, m, hm, hmissed⟩
      · exact Or.inl hd
      · obtain ⟨hmissed, hmem⟩ := isMissedOf_iff.1 hmissed
        refine Or.inr ⟨hdevice, m, hm, isMissedOf_iff.2 ⟨hmissed, ?_⟩⟩
        exact List.mem_cons.2 (Or.inl (by simpa using hmem))
    · rw [hpeer.messages] at hm
      rw [hrest m (Table.mem_of_get? hm)] at hmissed
      obtain ⟨hmissed, hmem⟩ := isMissedOf_iff.1 hmissed
      exact Or.inr ⟨hdevice, m, hm, isMissedOf_iff.2 ⟨hmissed, List.mem_cons_of_mem _ hmem⟩⟩

/-! ### A running session -/

/-- What a running session has waiting is what its device misses of its peer. -/
theorem isMissedOf_iff_waiting {s : RefreshSession} {m : Message} (hdb : Consistent db)
    (hok : SessionsOk .settled db) (hs : s ∈ db.sessions) (hactive : s.state = .active)
    (hlinked : db.deviceUserId s.deviceId = some userId) (hm : m ∈ db.messages) :
    isMissedOf db s.deviceId userId [s.peerId] m = true ↔
      ∃ d ∈ db.deliveries, d.messageId = m.id ∧ d.refreshSessionId = some s.id ∧
        (d.state = .pending ∨ d.state = .queuedForRefresh) := by
  rw [isMissedOf_iff, isMissed_iff, List.mem_singleton]
  constructor
  · rintro ⟨⟨⟨hrecipient, haccepted⟩, hrow⟩, hsender⟩
    rcases hok.covered s hs hactive (by simp) (by simp) m
      ⟨hm, haccepted, hsender, hrecipient ▸ hlinked⟩ (by simp) with
      ⟨d, hd, hmessage, hdevice, hserved⟩ | ⟨hdelivered, hnone⟩
    · rcases hserved with hstate | ⟨howned, hstate⟩
      · -- the only row is delivered, so it does not count as missed
        rcases hrow with ⟨e, he, hemessage, hedevice, hestate⟩ | ⟨-, hnone⟩
        · rw [hdb.deliveries_unique e he d hd (hemessage.trans hmessage.symm)
            (hedevice.trans hdevice.symm)] at hestate
          exact absurd hstate hestate
        · exact absurd ⟨hmessage, hdevice⟩ (hnone d hd)
      · exact ⟨d, hd, hmessage, howned, hstate⟩
    · rcases hrow with ⟨e, he, hemessage, hedevice, -⟩ | ⟨hundelivered, -⟩
      · exact absurd ⟨hemessage, hedevice⟩ (hnone e he)
      · rw [hundelivered] at hdelivered
        cases hdelivered
  · rintro ⟨d, hd, hmessage, howned, hstate⟩
    obtain ⟨hdevice, ⟨n, hn, hsender, hlink⟩, -, -⟩ := hok.owned d hd s hs howned
    obtain ⟨n', hn', haccepted⟩ := (hdb.deliveries d hd).message
    obtain rfl := Option.some.inj (hn.symm.trans hn')
    have hfound : db.messages.get? d.messageId = some m := hmessage ▸ Table.get?_key hm
    obtain rfl := Option.some.inj (hn.symm.trans hfound)
    have hrecipient : n.recipientId = userId := by
      have hlink := hlink hactive
      rw [hlinked, Option.some.injEq] at hlink
      exact hlink.symm
    have hnot : d.state ≠ .delivered := by rcases hstate with h | h <;> simp [h]
    exact ⟨⟨⟨hrecipient, haccepted⟩, Or.inl ⟨d, hd, hmessage, hdevice, hnot⟩⟩, hsender⟩

/-- A session has as much waiting as its device misses of its peer. -/
theorem countOutstandingDeliveries_eq {s : RefreshSession} (hdb : Consistent db)
    (hok : SessionsOk .settled db) (hs : s ∈ db.sessions) (hactive : s.state = .active)
    (hlinked : db.deviceUserId s.deviceId = some userId) :
    countOutstandingDeliveries db s.id =
      db.messages.count (isMissedOf db s.deviceId userId [s.peerId]) := by
  have hrow : ∀ d : MessageDelivery, (decide (d.refreshSessionId = some s.id) &&
      outstandingDeliveryStates.contains d.state) = true ↔ d.refreshSessionId = some s.id ∧
        (d.state = .pending ∨ d.state = .queuedForRefresh) := by
    simp [outstandingDeliveryStates]
  have hmem : ∀ {d}, d ∈ db.deliveries.filter (fun d => d.refreshSessionId = some s.id &&
      outstandingDeliveryStates.contains d.state) ↔ d ∈ db.deliveries ∧
        d.refreshSessionId = some s.id ∧ (d.state = .pending ∨ d.state = .queuedForRefresh) := by
    intro d
    rw [Table.mem_filter, hrow]
  rw [countOutstandingDeliveries, Table.count_eq_length_filter,
    ← List.length_map (f := MessageDelivery.messageId)]
  refine Table.length_eq_count ?_ fun k => ?_
  · refine (Table.nodup_filter _ _).map_on fun d hd e he heq => ?_
    obtain ⟨hd, howned, -⟩ := hmem.1 hd
    obtain ⟨he, howned', -⟩ := hmem.1 he
    exact hdb.deliveries_unique d hd e he heq
      ((hok.owned d hd s hs howned).device.trans (hok.owned e he s hs howned').device.symm)
  · rw [List.mem_map]
    constructor
    · rintro ⟨d, hd, rfl⟩
      obtain ⟨hd, howned, hstate⟩ := hmem.1 hd
      obtain ⟨m, hm, -⟩ := (hdb.deliveries d hd).message
      have hid : m.id = d.messageId := Table.key_of_get? hm
      exact ⟨m, Table.mem_of_get? hm, (isMissedOf_iff_waiting hdb hok hs hactive hlinked
        (Table.mem_of_get? hm)).2 ⟨d, hd, hid.symm, howned, hstate⟩, hid⟩
    · rintro ⟨m, hm, hmissed, rfl⟩
      obtain ⟨d, hd, hmessage, howned, hstate⟩ :=
        (isMissedOf_iff_waiting hdb hok hs hactive hlinked hm).1 hmissed
      exact ⟨d, hmem.2 ⟨hd, howned, hstate⟩, hmessage⟩

/-- **A running session is restarted.** -/
theorem refreshesPeers_restart {s : RefreshSession} (input : Input) (hdb : Consistent db)
    (hok : SessionsOk .settled db) (hs : s ∈ db.sessions) (hactive : s.state = .active)
    (hlinked : db.deviceUserId s.deviceId = some userId) (now : Time) :
    let db' := restartActiveSessionHead input.settings db s.id now
    RefreshesPeers db db' s.deviceId userId [s.peerId] (countOutstandingDeliveries db' s.id) := by
  have hscope := fun m hm => isMissedOf_iff_waiting (m := m) hdb hok hs hactive hlinked hm
  have howned : ∀ d ∈ db.deliveries, d.refreshSessionId = some s.id → d.state = .pending →
      IsDeliveryOfMissed db s.deviceId userId [s.peerId] d := by
    intro d hd hsession hstate
    obtain ⟨m, hm, -⟩ := (hdb.deliveries d hd).message
    have hid : m.id = d.messageId := Table.key_of_get? hm
    refine ⟨(hok.owned d hd s hs hsession).device, m, hm, ?_⟩
    exact (hscope m (Table.mem_of_get? hm)).2 ⟨d, hd, hid.symm, hsession, Or.inl hstate⟩
  have hwaiting : ∀ m ∈ db.messages, isMissedOf db s.deviceId userId [s.peerId] m = true →
      IsWaitingInSession db s.deviceId m := by
    intro m hm hmissed
    obtain ⟨d, hd, hmessage, hsession, hstate⟩ := (hscope m hm).1 hmissed
    have hsender : m.senderId = s.peerId := by simpa using (isMissedOf_iff.1 hmissed).2
    exact ⟨d, hd, hmessage, (hok.owned d hd s hs hsession).device, hstate, s, hs, hactive, rfl,
      hsender.symm, hsession⟩
  have hcount := countOutstandingDeliveries_eq hdb hok hs hactive hlinked
  dsimp only
  rcases restartActiveSessionHead_cases input db s.id now with
    hsame | ⟨d, hd, hsession, hstate, e, change, heq⟩
  · rw [hsame]
    exact ⟨hcount, rfl, fun _ h => h, hwaiting, fun _ h _ => h, fun _ h => Or.inl h⟩
  rw [heq]
  obtain ⟨hid, hmessage, hdevice, hestate, hesession⟩ := change.keeps
  have hmissed := howned d hd hsession hstate
  refine ⟨?_, rfl, fun _ h => h, fun m hm hm' => ?_, fun x hx hnot => ?_, fun x hx => ?_⟩
  · rw [← hcount]
    have hput := Table.count_put (fun x => decide (x.refreshSessionId = some s.id) &&
      outstandingDeliveryStates.contains x.state) hd (show key d = key e from hid.symm)
    rw [hesession, hestate] at hput
    unfold countOutstandingDeliveries
    rw [Db.deliveries_putDelivery]
    omega
  · obtain ⟨x, hx, hxmessage, hxdevice, hxstate, t, ht, hactive', htdevice, htpeer, hxsession⟩ :=
      hwaiting m hm hm'
    by_cases hkey : key x = key d
    · obtain rfl := Table.eq_of_key_eq hx hd hkey
      exact ⟨e, Table.mem_put_self hd hid, hmessage.trans hxmessage, hdevice.trans hxdevice,
        hestate ▸ hxstate, t, ht, hactive', htdevice, htpeer, hesession.trans hxsession⟩
    · exact ⟨x, (Table.mem_put_iff hd hid).2 (Or.inr ⟨hx, hkey⟩), hxmessage, hxdevice, hxstate, t,
        ht, hactive', htdevice, htpeer, hxsession⟩
  · refine (Table.mem_put_iff hd hid).2 (Or.inr ⟨hx, fun hkey => hnot ?_⟩)
    rwa [Table.eq_of_key_eq hx hd hkey]
  · rcases (Table.mem_put_iff hd hid).1 hx with rfl | ⟨hx, -⟩
    · obtain ⟨hdev, m, hm, hm'⟩ := hmissed
      exact Or.inr ⟨hdevice.trans hdev, m, hmessage ▸ hm, hm'⟩
    · exact Or.inl hx

/-! ### A new session -/

/-- Without a session, the refresh scope is what the device misses of the peer. -/
theorem isMissedOf_iff_scope {peerId : ℕ} {m : Message} (hdb : Consistent db)
    (hok : SessionsOk .settled db) (hfree : findActiveSession db deviceId peerId = none)
    (hm : m ∈ db.messages) :
    isMissedOf db deviceId userId [peerId] m = true ↔
      (∃ d, IsTakenFrom db deviceId userId peerId d ∧ d.messageId = m.id) ∨
        IsMissedFrom db deviceId userId peerId m := by
  rw [isMissedOf_iff, isMissed_iff, List.mem_singleton]
  constructor
  · rintro ⟨⟨⟨hrecipient, haccepted⟩, ⟨d, hd, hmessage, hdevice, hstate⟩ | ⟨hnone, hnew⟩⟩, hsender⟩
    · have hfound : db.messages.get? d.messageId = some m := hmessage ▸ Table.get?_key hm
      refine Or.inl ⟨d, ⟨hd, ?_, hdevice, m, hfound, hrecipient, haccepted, hsender⟩, hmessage⟩
      -- what waits in a session would be in a session with this peer
      have hnosession : d.state = .pending ∨ d.state = .queuedForRefresh →
          d.refreshSessionId = none := by
        intro hwaits
        by_contra howned
        obtain ⟨sid, hsid⟩ := Option.ne_none_iff_exists'.1 howned
        obtain ⟨s, hs⟩ := Option.isSome_iff_exists.1 ((hdb.deliveries d hd).session sid hsid)
        have hsid' : d.refreshSessionId = some s.id := by rw [hsid, ← Table.key_of_get? hs]; rfl
        have hrow := hok.owned d hd s (Table.mem_of_get? hs) hsid'
        obtain ⟨n, hn, hpeer⟩ := hrow.exists_message
        obtain rfl := Option.some.inj (hfound.symm.trans hn)
        exact findActiveSession_eq_none hfree (Table.mem_of_get? hs) (hrow.live hwaits)
          ⟨hrow.device.symm.trans hdevice, hpeer.symm.trans hsender⟩
      cases hcase : d.state with
      | pending => simp [isTakenOverByARefresh, hcase, hnosession (Or.inl hcase)]
      | queuedForRefresh =>
          have howned := hok.queued d hd hcase
          rw [hnosession (Or.inr hcase)] at howned
          cases howned
      | delivered => exact absurd hcase hstate
      | failed | cancelled => simp [isTakenOverByARefresh, hcase]
    · exact Or.inr ⟨hm, hrecipient, hsender, haccepted, hnone, hnew⟩
  · rintro (⟨d, htaken, hmessage⟩ | hmissed)
    · obtain ⟨n, hn, hrecipient, haccepted, hsender⟩ := htaken.message
      have hfound : db.messages.get? d.messageId = some m := hmessage ▸ Table.get?_key hm
      obtain rfl := Option.some.inj (hn.symm.trans hfound)
      have hstate : d.state ≠ .delivered := by
        intro hdelivered
        have htake := htaken.taken
        simp [isTakenOverByARefresh, hdelivered] at htake
      exact ⟨⟨⟨hrecipient, haccepted⟩,
        Or.inl ⟨d, htaken.found, hmessage, htaken.device, hstate⟩⟩, hsender⟩
    · exact ⟨⟨⟨hmissed.recipient, hmissed.accepted⟩, Or.inr ⟨hmissed.undelivered, hmissed.unknown⟩⟩,
        hmissed.sender⟩

/-- The size of the refresh scope. -/
theorem length_scope_eq_count {peerId : ℕ} (hdb : Consistent db) (hok : SessionsOk .settled db)
    (hfree : findActiveSession db deviceId peerId = none) :
    (selectDeliveriesOfPeer db deviceId userId peerId).length +
        (selectMissedMessageIdsOfPeer db deviceId userId peerId).length =
      db.messages.count (isMissedOf db deviceId userId [peerId]) := by
  have hlength : ((selectDeliveriesOfPeer db deviceId userId peerId).map
      MessageDelivery.messageId).length =
      (selectDeliveriesOfPeer db deviceId userId peerId).length := List.length_map _
  rw [← hlength, ← List.length_append]
  refine Table.length_eq_count ?_ fun k => ?_
  · refine List.nodup_append.2 ⟨?_, nodup_selectMissedMessageIdsOfPeer _ _ _, ?_⟩
    · refine (List.Nodup.of_map _ (nodup_selectDeliveriesOfPeer deviceId userId peerId)).map_on fun d hd e he heq => ?_
      have hd := mem_selectDeliveriesOfPeer.1 hd
      have he := mem_selectDeliveriesOfPeer.1 he
      exact hdb.deliveries_unique d hd.found e he.found heq (hd.device.trans he.device.symm)
    · rintro k hk _ hk' rfl
      obtain ⟨d, hd, rfl⟩ := List.mem_map.1 hk
      obtain ⟨m, hm, hid⟩ := mem_selectMissedMessageIdsOfPeer.1 hk'
      have hd := mem_selectDeliveriesOfPeer.1 hd
      exact hm.unknown d hd.found ⟨hid.symm, hd.device⟩
  · rw [List.mem_append, List.mem_map, mem_selectMissedMessageIdsOfPeer]
    constructor
    · rintro (⟨d, hd, rfl⟩ | ⟨m, hm, rfl⟩)
      · have hd := mem_selectDeliveriesOfPeer.1 hd
        obtain ⟨m, hm, -⟩ := hd.message
        have hid : m.id = d.messageId := Table.key_of_get? hm
        exact ⟨m, Table.mem_of_get? hm, (isMissedOf_iff_scope hdb hok hfree
          (Table.mem_of_get? hm)).2 (Or.inl ⟨d, hd, hid.symm⟩), hid⟩
      · exact ⟨m, hm.found, (isMissedOf_iff_scope hdb hok hfree hm.found).2 (Or.inr hm), rfl⟩
    · rintro ⟨m, hm, hmissed, rfl⟩
      rcases (isMissedOf_iff_scope hdb hok hfree hm).1 hmissed with ⟨d, hd, hid⟩ | hmissed
      · exact Or.inl ⟨d, mem_selectDeliveriesOfPeer.2 hd, hid⟩
      · exact Or.inr ⟨m, hmissed, rfl⟩

/-- **A session is started.** -/
theorem refreshesPeers_start {settings : RelaySettings} {peerId : ℕ} {s : RefreshSession}
    (hdb : Consistent db) (hok : SessionsOk .settled db)
    (hfree : findActiveSession db deviceId peerId = none)
    (hstarts : StartsSession settings db db' deviceId userId peerId s) :
    RefreshesPeers db db' deviceId userId [peerId]
      ((selectDeliveriesOfPeer db deviceId userId peerId).length +
        (selectMissedMessageIdsOfPeer db deviceId userId peerId).length) := by
  have hmessages := hstarts.frame.2.2.1
  obtain ⟨mk, hkey, hmk, hsessions⟩ := hstarts.sessions
  obtain ⟨db₁, db₂, e, now, hdb₁, hcollects, he, hqueued, hdb'⟩ := hstarts.collects
  have hs : s ∈ db'.sessions := by
    rw [hsessions]
    exact (Table.mem_insert (h := hkey)).2 (Or.inr hmk.symm)
  have hold : ∀ {d : MessageDelivery}, d ∈ db₁.deliveries ↔ d ∈ db.deliveries := by simp [hdb₁]
  have hnew : s.id = db.sessions.nextKey := by
    rw [← hmk]
    exact hkey _
  -- the old rows do not belong to the new session
  have hforeign : ∀ d ∈ db.deliveries, ¬ IsQueuedIn s.id d := by
    intro d hd hqueue
    have hfound := (hdb.deliveries d hd).session _ hqueue.1
    rw [hnew, Table.get?_nextKey] at hfound
    cases hfound
  have hput : ∀ {d : MessageDelivery}, d ∈ db'.deliveries ↔
      d = armedDelivery settings e now ∨ d ∈ db₂.deliveries ∧ key d ≠ key e := by
    intro d
    rw [hdb']
    exact Table.mem_put_iff he rfl
  -- what the session collected is missed, and waits
  have hcollected : ∀ d ∈ db₂.deliveries, d ∈ db.deliveries ∨
      IsDeliveryOfMissed db deviceId userId [peerId] d := by
    intro d hd
    rcases hcollects.only d hd with ⟨q, hq, rfl⟩ | ⟨hd, -⟩ | ⟨k, hk, hrow, -⟩
    · have hq := mem_selectDeliveriesOfPeer.1 hq
      obtain ⟨m, hm, -⟩ := hq.message
      have hid : m.id = q.messageId := Table.key_of_get? hm
      exact Or.inr ⟨hq.device, m, hm, (isMissedOf_iff_scope hdb hok hfree
        (Table.mem_of_get? hm)).2 (Or.inl ⟨q, hq, hid.symm⟩)⟩
    · exact Or.inl (hold.1 hd)
    · obtain ⟨m, hm, rfl⟩ := mem_selectMissedMessageIdsOfPeer.1 hk
      have hfound : db.messages.get? d.messageId = some m := hrow.1 ▸ Table.get?_key hm.found
      exact Or.inr ⟨hrow.2, m, hfound,
        (isMissedOf_iff_scope hdb hok hfree hm.found).2 (Or.inr hm)⟩
  have hwaits : ∀ m : Message, m.senderId = peerId → ∀ d ∈ db₂.deliveries, d.messageId = m.id →
      d.deviceId = deviceId → IsQueuedIn s.id d → IsWaitingInSession db' deviceId m := by
    intro m hsender d hd hmessage hdevice hqueue
    by_cases hkey' : key d = key e
    · obtain rfl := Table.eq_of_key_eq hd he hkey'
      exact ⟨_, hput.2 (Or.inl rfl), hmessage, hdevice, Or.inl rfl, s, hs, hstarts.active,
        hstarts.device, hstarts.peer.trans hsender.symm, hqueue.1⟩
    · exact ⟨d, hput.2 (Or.inr ⟨hd, hkey'⟩), hmessage, hdevice, Or.inr hqueue.2, s, hs,
        hstarts.active, hstarts.device, hstarts.peer.trans hsender.symm, hqueue.1⟩
  refine ⟨length_scope_eq_count hdb hok hfree, hmessages, fun t ht => ?_, fun m hm hmissed => ?_,
    fun d hd hnot => ?_, fun d hd => ?_⟩
  · rw [hsessions]
    exact (Table.mem_insert (h := hkey)).2 (Or.inl ht)
  · have hsender : m.senderId = peerId := by simpa using (isMissedOf_iff.1 hmissed).2
    rcases (isMissedOf_iff_scope hdb hok hfree hm).1 hmissed with ⟨d, hd, hid⟩ | hmissed
    · exact hwaits m hsender _ (hcollects.takenOver d (mem_selectDeliveriesOfPeer.2 hd)) hid
        hd.device ⟨rfl, rfl⟩
    · obtain ⟨d, hd, hrow, hqueue⟩ := hcollects.collected m.id
        (mem_selectMissedMessageIdsOfPeer.2 ⟨m, hmissed, rfl⟩)
      exact hwaits m hsender d hd hrow.1 hrow.2 hqueue
  · have hfree' : d ∉ selectDeliveriesOfPeer db deviceId userId peerId := by
      intro htaken
      have htaken := mem_selectDeliveriesOfPeer.1 htaken
      obtain ⟨m, hm, -⟩ := htaken.message
      have hid : m.id = d.messageId := Table.key_of_get? hm
      exact hnot ⟨htaken.device, m, hm, (isMissedOf_iff_scope hdb hok hfree
        (Table.mem_of_get? hm)).2 (Or.inl ⟨d, htaken, hid.symm⟩)⟩
    have hkept := hcollects.kept d (hold.2 hd) hfree'
    refine hput.2 (Or.inr ⟨hkept, fun hkey' => hforeign d hd ?_⟩)
    rwa [Table.eq_of_key_eq hkept he hkey']
  · rcases hput.1 hd with rfl | ⟨hd, -⟩
    · obtain ⟨hdevice, m, hm, hmissed⟩ :=
        (hcollected e he).resolve_left fun hmem => hforeign e hmem hqueued
      exact Or.inr ⟨hdevice, m, hm, hmissed⟩
    · exact hcollected d hd

/-- **One peer is refreshed.** -/
theorem refreshesPeers_refreshPeer {peerId : ℕ} {request : RefreshRequest} {inboundId : Option ℕ}
    {now : Time} {input : Input} (hdb : Consistent db) (hok : SessionsOk .settled db)
    (hevent : input.event = .refresh deviceId request inboundId now)
    (hlinked : db.deviceUserId deviceId = some userId) (hself : userId ≠ peerId)
    (hpeer : (db.users.get? peerId).isSome) (isForAllPeers : Bool) :
    let refreshed :=
      refreshPeer input.settings db deviceId userId peerId isForAllPeers inboundId now
    RefreshesPeers db refreshed.1 deviceId userId [peerId] refreshed.2.messageCount := by
  unfold refreshPeer
  split
  · next s hs =>
      obtain ⟨hmem, hcond⟩ := Table.first?_eq_some hs
      simp only [Bool.and_eq_true, decide_eq_true_eq] at hcond
      obtain ⟨⟨rfl, rfl⟩, hactive⟩ := hcond
      exact refreshesPeers_restart input hdb hok hmem hactive hlinked now
  · next hfree =>
      dsimp only
      split
      · next hscope =>
          have hcount := hscope ▸ length_scope_eq_count hdb hok hfree
          have hnone := Table.count_eq_zero.1 hcount.symm
          exact ⟨hcount, rfl, fun _ h => h, fun m hm hmissed => by simp [hnone m hm] at hmissed,
            fun _ h _ => h, fun _ h => Or.inl h⟩
      · next hscope =>
          obtain ⟨-, s, hstarts⟩ := writes_startPeerSession hevent hlinked hself hpeer hfree hscope
            isForAllPeers
          exact refreshesPeers_start hdb hok hfree hstarts

/-- **Peer after peer is refreshed.** -/
theorem refreshesPeers_refreshPeers {request : RefreshRequest} {inboundId : Option ℕ}
    {now : Time} {input : Input} (hevent : input.event = .refresh deviceId request inboundId now)
    (isForAllPeers : Bool) :
    ∀ (peerIds : List ℕ) (db : Db), Consistent db → SessionsOk .settled db →
      db.deviceUserId deviceId = some userId → peerIds.Nodup →
      (∀ peerId ∈ peerIds, userId ≠ peerId ∧ (db.users.get? peerId).isSome) →
      let refreshed :=
        refreshPeers input.settings deviceId userId isForAllPeers inboundId now db peerIds
      RefreshesPeers db refreshed.1 deviceId userId peerIds
        (refreshed.2.map PeerRefresh.messageCount).sum := by
  intro peerIds
  induction peerIds with
  | nil => exact fun db _ _ _ _ _ => .nil db deviceId userId
  | cons peerId peerIds ih =>
      intro db hdb hok hlinked hnodup hpeers
      obtain ⟨hnot, hnodup⟩ := List.nodup_cons.1 hnodup
      obtain ⟨hself, hpeer⟩ := hpeers peerId List.mem_cons_self
      have hfirst := refreshesPeers_refreshPeer hdb hok hevent hlinked hself hpeer isForAllPeers
      obtain ⟨hwrites, husers, hcontacts⟩ :=
        writes_refreshPeer hevent hlinked hself hpeer isForAllPeers
      obtain ⟨hdb₁, hok₁⟩ := hwrites.invariant hdb (P := fun a => SessionsOk a.1 a.2) hok
        fun _ _ hdb hok hwrite => hok.write hdb hwrite
      have hrest := ih _ hdb₁ hok₁ ((Db.deviceUserId_congr hcontacts deviceId).trans hlinked)
        hnodup fun k hk => by
          rw [husers]
          exact hpeers k (List.mem_cons_of_mem _ hk)
      simpa [refreshPeers] using hfirst.cons hrest hnot

end Peers

/-! ### The request -/

section Request

variable {db : Db} {deviceId userId : ℕ}

theorem nodup_findPeerIdsWithMissedMessages (db : Db) (deviceId userId : ℕ) :
    (findPeerIdsWithMissedMessages db deviceId userId).Nodup := by
  refine ((orderBy_perm id _).nodup_iff).2 ?_
  exact (List.nodup_dedup _).filter _

/-- Whoever sent a missed message is among the peers of a refresh of everyone. -/
theorem mem_findPeerIdsWithMissedMessages {m : Message} (hdb : Consistent db)
    (hok : SessionsOk .settled db) (hm : m ∈ db.messages)
    (hmissed : isMissed db deviceId userId m = true) :
    m.senderId ∈ findPeerIdsWithMissedMessages db deviceId userId := by
  have hrecipient := (isMissed_iff.1 hmissed).1.1
  have hparties := (hdb.messages m hm).parties
  have hne : m.senderId ≠ userId := hrecipient ▸ hparties
  refine mem_orderBy.2 (List.mem_filter.2 ⟨List.mem_dedup.2 ?_, by simpa using hne⟩)
  rw [List.mem_append, List.mem_append]
  cases hfree : findActiveSession db deviceId m.senderId with
  | some s =>
      -- the sender is the peer of a running session
      obtain ⟨hs, hcond⟩ := Table.first?_eq_some hfree
      simp only [Bool.and_eq_true, decide_eq_true_eq] at hcond
      obtain ⟨⟨hdevice, hpeer⟩, hactive⟩ := hcond
      refine Or.inr (List.mem_map.2 ⟨s, Table.mem_filter.2 ⟨hs, ?_⟩, hpeer⟩)
      simp [hdevice, hactive]
  | none =>
      have hscope := (isMissedOf_iff_scope hdb hok hfree hm).1
        (isMissedOf_iff.2 ⟨hmissed, List.mem_singleton_self _⟩)
      rcases hscope with ⟨d, htaken, -⟩ | hnone
      · have hselected := mem_selectDeliveriesOfPeer.2 htaken
        obtain ⟨hselected, hsender⟩ := List.mem_filter.1 hselected
        exact Or.inl (Or.inl (List.mem_filterMap.2 ⟨d, hselected, by simpa using hsender⟩))
      · have hselected := mem_selectMissedMessageIdsOfPeer.2 ⟨m, hnone, rfl⟩
        obtain ⟨n, hn, -⟩ := List.mem_map.1 hselected
        obtain ⟨hn, hsender⟩ := List.mem_filter.1 hn
        exact Or.inl (Or.inr (List.mem_map.2 ⟨n, hn, by simpa using hsender⟩))

/-- The messages a device misses are those it misses after its receipts were rearmed. -/
theorem isMissed_receiptsOnly {db' : Db} (h : ReceiptsOnly db db') :
    isMissed db' deviceId userId = isMissed db deviceId userId := by
  funext m
  rw [isMissed, isMissed, h.deliveries]

/-- What a refresh of some peers does, when these are the peers the request asks for. -/
theorem RefreshesPeers.receiptsOnly {db₁ db' : Db} {peerIds : List ℕ} {count : ℕ}
    (honly : ReceiptsOnly db db₁) (h : RefreshesPeers db₁ db' deviceId userId peerIds count) :
    RefreshesPeers db db' deviceId userId peerIds count := by
  have hmissed : isMissedOf db₁ deviceId userId peerIds = isMissedOf db deviceId userId peerIds := by
    funext m
    rw [isMissedOf, isMissedOf, isMissed_receiptsOnly honly]
  obtain ⟨hcounted, hmessages, hsessions, hwaiting, hkept, hrows⟩ := h
  simp only [IsDeliveryOfMissed, hmissed, honly.messages, honly.deliveries, honly.sessions]
    at hcounted hmessages hsessions hwaiting hkept hrows
  exact ⟨hcounted, hmessages, hsessions, hwaiting, hkept, hrows⟩

/-- **What an answered request has done**: it refreshed the peers whose missed messages it asks
for. -/
theorem refreshesPeers_startRefresh {input : Input} {request : RefreshRequest}
    {inboundId : Option ℕ} {now : Time} {db' : Db} {target : Text} {count : ℕ}
    (hdb : Consistent db) (hok : SessionsOk .settled db)
    (hevent : input.event = .refresh deviceId request inboundId now)
    (hlinked : db.deviceUserId deviceId = some userId)
    (h : startRefresh input.settings db deviceId request inboundId now =
      .ok (db', .refreshReply target count)) :
    ∃ peerIds, RefreshesPeers db db' deviceId userId peerIds count ∧
      ∀ m ∈ db.messages, isMissedOf db deviceId userId peerIds m =
        isInRefreshScope db deviceId userId request m := by
  unfold startRefresh at h
  dsimp only at h
  rw [hlinked] at h
  dsimp only at h
  split at h
  · next hall =>
      cases hlock : lockUsersThenDevice db userId
        (findPeerIdsWithMissedMessages db deviceId userId) deviceId with
      | error serviceError =>
          rw [hlock] at h
          simp [bind, Except.bind] at h
      | ok users =>
          rw [hlock] at h
          obtain ⟨rfl, hreply⟩ := Prod.mk.injEq .. ▸ Except.ok.inj h
          obtain ⟨-, rfl⟩ := ServerMessage.refreshReply.injEq .. ▸ hreply
          have husers := (lockUsersThenDevice_ok hlock).1
          refine ⟨_, refreshesPeers_refreshPeers hevent true _ db hdb hok hlinked
            ((nodup_findPeerIdsWithMissedMessages db deviceId userId).filter _)
            fun peerId hpeer => ?_, fun m hm => ?_⟩
          · obtain ⟨hpeer, hlocked⟩ := List.mem_filter.1 hpeer
            obtain ⟨user, huser, hid⟩ := List.any_eq_true.1 hlocked
            rw [husers, Table.mem_filter] at huser
            obtain rfl : user.id = peerId := by simpa using hid
            exact ⟨Ne.symm (ne_of_mem_findPeerIdsWithMissedMessages hpeer),
              Option.isSome_of_eq_some (Table.get?_key huser.1)⟩
          · rw [Bool.eq_iff_iff, isMissedOf_iff, isInRefreshScope, hall, Bool.true_or,
              Bool.and_true, and_iff_left_iff_imp]
            intro hmissed
            -- the sender is a user, so it was locked
            have hpeer := mem_findPeerIdsWithMissedMessages hdb hok hm hmissed
            obtain ⟨user, huser⟩ := Option.isSome_iff_exists.1 (hdb.messages m hm).sender
            have hid : user.id = m.senderId := Table.key_of_get? huser
            refine List.mem_filter.2 ⟨hpeer, List.any_eq_true.2 ⟨user, ?_, by simpa using hid⟩⟩
            rw [husers, Table.mem_filter]
            refine ⟨Table.mem_of_get? huser, ?_⟩
            simp [hid, hpeer]
  next hall =>
  split at h
  · cases h
  next peer hpeer =>
  split at h
  · cases h
  next hself =>
  cases hlock : lockUsersThenDevice db userId [peer.id] deviceId with
  | error serviceError =>
      rw [hlock] at h
      simp [bind, Except.bind] at h
  | ok users =>
  rw [hlock] at h
  simp only [bind, Except.bind, pure, Except.pure] at h
  split at h
  · cases h
  next lockedPeer hlocked =>
  obtain ⟨rfl, hreply⟩ := Prod.mk.injEq .. ▸ Except.ok.inj h
  obtain ⟨-, rfl⟩ := ServerMessage.refreshReply.injEq .. ▸ hreply
  have hid : lockedPeer.id = peer.id := by simpa using List.find?_some hlocked
  obtain ⟨hquiets, honly⟩ := quiets_rearmReceiptsForRefresh input lockedPeer.id hlinked now
  obtain ⟨hdb₁, hok₁⟩ := (hquiets.writes .settled).invariant hdb
    (P := fun a => SessionsOk a.1 a.2) hok fun _ _ hdb hok hwrite => hok.write hdb hwrite
  have hrefreshes := refreshesPeers_refreshPeers hevent false [lockedPeer.id] _ hdb₁ hok₁
    ((Db.deviceUserId_congr honly.contacts deviceId).trans hlinked) (List.nodup_singleton _)
    fun peerId hmem => by
      obtain rfl := List.mem_singleton.1 hmem
      rw [honly.users, hid]
      exact ⟨Ne.symm hself, Option.isSome_of_eq_some
        (Table.get?_key (userByLookup_eq_some hpeer).1)⟩
  refine ⟨_, hrefreshes.receiptsOnly honly, fun m hm => ?_⟩
  simp [isMissedOf, isInRefreshScope, hall, hpeer, hid]

end Request

/-- **A refresh is complete**: for an answered `F` of a linked device, the reply counts the missed
messages the request asks for, each of them waits in the device's only session with its sender, and
no other delivery changed. -/
theorem refresh_complete {hashing : PasswordHashing} {db : Db} {input : Input}
    {deviceId userId count : ℕ} {request : RefreshRequest} {inboundId : Option ℕ} {now : Time}
    {target : Text} (hreachable : (engine hashing).Reachable db)
    (hevent : input.event = .refresh deviceId request inboundId now)
    (hlinked : db.deviceUserId deviceId = some userId)
    (hreply : (step hashing db input).2 = .answered (.refreshReply target count)) :
    let db' := (step hashing db input).1
    let scope := isInRefreshScope db deviceId userId request
    let ofScope := fun d : MessageDelivery =>
      d.deviceId = deviceId ∧ ∃ m, db.messages.get? d.messageId = some m ∧ scope m = true
    count = db.messages.count scope ∧
    (∀ m ∈ db.messages, scope m = true → ∃ d ∈ db'.deliveries,
      d.messageId = m.id ∧ d.deviceId = deviceId ∧
      (d.state = .pending ∨ d.state = .queuedForRefresh) ∧
      ∃ s ∈ db'.sessions, d.refreshSessionId = some s.id ∧ s.state = .active ∧
        s.deviceId = deviceId ∧ s.peerId = m.senderId ∧
        ∀ t ∈ db'.sessions, t.state = .active → t.deviceId = deviceId → t.peerId = m.senderId →
          t = s) ∧
    (∀ d ∈ db.deliveries, ¬ ofScope d → d ∈ db'.deliveries) ∧
    ∀ d ∈ db'.deliveries, d ∈ db.deliveries ∨ ofScope d := by
  intro db' scope ofScope
  have hdb := consistent_of_reachable hreachable
  have hok := sessionsOk_of_reachable hreachable
  have hunique := (hok.step hashing input hdb).unique
  obtain ⟨peerIds, hrefreshes, hscope⟩ : ∃ peerIds,
      RefreshesPeers db db' deviceId userId peerIds count ∧
        ∀ m ∈ db.messages, isMissedOf db deviceId userId peerIds m = scope m := by
    simp only [step, hevent] at hreply
    cases hstart : startRefresh input.settings db deviceId request inboundId now with
    | error serviceError =>
        rw [hstart] at hreply
        cases hreply
    | ok committed =>
        obtain ⟨db₁, reply⟩ := committed
        rw [hstart] at hreply
        obtain rfl := Outcome.answered.inj hreply
        have heq : db' = db₁ := by simp only [db', step, hevent, hstart, commit]
        rw [heq]
        exact refreshesPeers_startRefresh hdb hok hevent hlinked hstart
  have hof : ∀ d, IsDeliveryOfMissed db deviceId userId peerIds d ↔ ofScope d := by
    intro d
    refine and_congr_right fun _ => exists_congr fun m => and_congr_right fun hm => ?_
    rw [hscope m (Table.mem_of_get? hm)]
  refine ⟨hrefreshes.counted.trans (List.countP_congr fun m hm => by rw [hscope m hm]), fun m hm hmissed => ?_,
    fun d hd hnot => hrefreshes.kept d hd fun hd' => hnot ((hof d).1 hd'),
    fun d hd => (hrefreshes.only d hd).imp_right (hof d).1⟩
  obtain ⟨d, hd, hmessage, hdevice, hstate, s, hs, hactive, hsdevice, hspeer, howned⟩ :=
    hrefreshes.waiting m hm ((hscope m hm).trans hmissed)
  exact ⟨d, hd, hmessage, hdevice, hstate, s, hs, howned, hactive, hsdevice, hspeer,
    fun t ht htactive htdevice htpeer => hunique t ht s hs htactive hactive
      (htdevice.trans hsdevice.symm) (htpeer.trans hspeer.symm)⟩

/-- Bob's device asks for what alice wrote: one message. -/
theorem refresh_complete_sampleMessage :
    (sampleDb sampleMessage).messages.count
      (isInRefreshScope (sampleDb sampleMessage) 2 2 ⟨alice⟩) = 1 := by
  have hevent : (⟨sampleSettings, .refresh 2 ⟨alice⟩ none (sampleTime 9)⟩ : Input).event =
    .refresh 2 ⟨alice⟩ none (sampleTime 9) := rfl
  have hreply : (step sampleHashing (sampleDb sampleMessage)
      ⟨sampleSettings, .refresh 2 ⟨alice⟩ none (sampleTime 9)⟩).2 =
    .answered (.refreshReply alice 1) := by decide +kernel
  exact (refresh_complete (reachable_sampleDb sampleMessage) hevent (by decide +kernel)
    hreply).1.symm

end HoptalkRelay
