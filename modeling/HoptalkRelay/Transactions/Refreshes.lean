/-
**The transaction of `F`.**

A refresh of one peer restarts the head of the session with the peer when there is one.  Otherwise
it starts a session that takes over what the device misses, and arms its first message.

Main definitions:

* `HoptalkRelay.IsTakenFrom`, `HoptalkRelay.IsMissedFrom` — the two parts of the refresh scope;
* `HoptalkRelay.CollectsScope` — what a new session does to the deliveries before its head is
  armed.

Main results:

* `HoptalkRelay.collectScope_spec` — a new session collects the scope;
* `HoptalkRelay.writes_startRefresh` — the request as a sequence of writes.
-/

import HoptalkRelay.Transactions.Confirmations

set_option relaxedAutoImplicit false
set_option autoImplicit false

namespace HoptalkRelay

open Relational

variable {input : Input} {db : Db} {m : Message}

/-! ### The refresh scope -/

/-- The device's delivery of a message of the peer to the user, in a state a refresh takes over. -/
structure IsTakenFrom (db : Db) (deviceId userId peerId : ℕ) (d : MessageDelivery) : Prop where
  found : d ∈ db.deliveries
  taken : isTakenOverByARefresh d = true
  device : d.deviceId = deviceId
  message : ∃ m, db.messages.get? d.messageId = some m ∧ m.recipientId = userId ∧
    m.acceptedAt.isSome ∧ m.senderId = peerId

theorem deliverySenderId_eq_some {d : MessageDelivery} {senderId : ℕ} :
    deliverySenderId db d = some senderId ↔
      ∃ m, db.messages.get? d.messageId = some m ∧ m.senderId = senderId := Option.map_eq_some_iff

theorem mem_selectDeliveriesOfPeer {deviceId userId peerId : ℕ} {d : MessageDelivery} :
    d ∈ selectDeliveriesOfPeer db deviceId userId peerId ↔
      IsTakenFrom db deviceId userId peerId d := by
  simp only [selectDeliveriesOfPeer, selectDeliveriesARefreshTakesOver, List.mem_filter,
    Table.mem_filter, Bool.and_eq_true, decide_eq_true_eq, Option.any_eq_true,
    deliverySenderId_eq_some]
  constructor
  · rintro ⟨⟨hd, ⟨htaken, hdevice⟩, m, hm, hrecipient, haccepted⟩, n, hn, hsender⟩
    obtain rfl : m = n := Option.some.inj (hm.symm.trans hn)
    exact ⟨hd, htaken, hdevice, m, hm, hrecipient, haccepted, hsender⟩
  · rintro ⟨hd, htaken, hdevice, m, hm, hrecipient, haccepted, hsender⟩
    exact ⟨⟨hd, ⟨htaken, hdevice⟩, m, hm, hrecipient, haccepted⟩, m, hm, hsender⟩

/-- An accepted message of the peer to the user that no device received and that has no delivery
to the device. -/
structure IsMissedFrom (db : Db) (deviceId userId peerId : ℕ) (m : Message) : Prop where
  found : m ∈ db.messages
  recipient : m.recipientId = userId
  sender : m.senderId = peerId
  accepted : m.acceptedAt.isSome
  undelivered : m.deliveredAt = none
  unknown : ∀ d ∈ db.deliveries, ¬ (d.messageId = m.id ∧ d.deviceId = deviceId)

theorem mem_selectMissedMessageIdsOfPeer {deviceId userId peerId messageId : ℕ} :
    messageId ∈ selectMissedMessageIdsOfPeer db deviceId userId peerId ↔
      ∃ m, IsMissedFrom db deviceId userId peerId m ∧ m.id = messageId := by
  simp only [selectMissedMessageIdsOfPeer, selectMessagesNoDeviceReceived, List.mem_map,
    List.mem_filter, Table.mem_filter, Bool.and_eq_true, decide_eq_true_eq, Bool.not_eq_true',
    Table.any_eq_false, Bool.and_eq_false_iff, decide_eq_false_iff_not]
  refine exists_congr fun m => and_congr_left fun _ => ?_
  constructor
  · rintro ⟨⟨hm, ⟨⟨hrecipient, haccepted⟩, hundelivered⟩, hunknown⟩, hsender⟩
    refine ⟨hm, hrecipient, hsender, haccepted, hundelivered, fun d hd h => ?_⟩
    rcases hunknown d hd with hne | hne
    · exact hne h.1
    · exact hne h.2
  · rintro ⟨hm, hrecipient, hsender, haccepted, hundelivered, hunknown⟩
    refine ⟨⟨hm, ⟨⟨hrecipient, haccepted⟩, hundelivered⟩, fun d hd => ?_⟩, hsender⟩
    exact not_and_or.1 (hunknown d hd)

theorem nodup_selectDeliveriesOfPeer (deviceId userId peerId : ℕ) :
    ((selectDeliveriesOfPeer db deviceId userId peerId).map key).Nodup := by
  have hnodup : (selectDeliveriesOfPeer db deviceId userId peerId).Nodup :=
    (Table.nodup_filter _ _).filter _
  refine hnodup.map_on fun a ha b hb hab => ?_
  exact Table.eq_of_key_eq (mem_selectDeliveriesOfPeer.1 ha).found
    (mem_selectDeliveriesOfPeer.1 hb).found hab

theorem nodup_selectMissedMessageIdsOfPeer (deviceId userId peerId : ℕ) :
    (selectMissedMessageIdsOfPeer db deviceId userId peerId).Nodup := by
  have hnodup := (Table.nodup_filter db.messages (fun message =>
    message.recipientId = userId && message.acceptedAt.isSome && message.deliveredAt = none &&
      !db.deliveries.any fun delivery =>
        delivery.messageId = message.id && delivery.deviceId = deviceId)).filter
    (fun message => message.senderId = peerId)
  refine hnodup.map_on fun a ha b hb hab => ?_
  exact Table.eq_of_key_eq (Table.mem_filter.1 (List.mem_filter.1 ha).1).1
    (Table.mem_filter.1 (List.mem_filter.1 hb).1).1 hab

/-! ### A new session collects its scope -/

section Collect

variable {deviceId userId peerId : ℕ} {s : RefreshSession}

/-- The session that collects the scope of a refresh of the peer by the user's device. -/
structure IsSessionOf (input : Input) (db : Db) (deviceId userId peerId : ℕ)
    (s : RefreshSession) : Prop where
  event : ∃ request inboundId now, input.event = .refresh deviceId request inboundId now
  linked : db.deviceUserId deviceId = some userId
  found : s ∈ db.sessions
  device : s.deviceId = deviceId
  peer : s.peerId = peerId
  active : s.state = .active

theorem IsSessionOf.congr {db' : Db} (h : IsSessionOf input db deviceId userId peerId s)
    (hcontacts : db'.contacts = db.contacts) (hsessions : db'.sessions = db.sessions) :
    IsSessionOf input db' deviceId userId peerId s :=
  { h with
    linked := (Db.deviceUserId_congr hcontacts deviceId).trans h.linked
    found := hsessions ▸ h.found }

theorem IsSessionOf.refreshes (h : IsSessionOf input db deviceId userId peerId s) :
    input.event.refreshes deviceId = true := by
  obtain ⟨request, inboundId, now, hevent⟩ := h.event
  simp [hevent, Event.refreshes]

/-- The session takes its deliveries over, one after the other. -/
theorem writes_takeDeliveries (hs : IsSessionOf input db deviceId userId peerId s)
    {taken : List MessageDelivery} (hnodup : (taken.map key).Nodup)
    (htaken : ∀ d ∈ taken, IsTakenFrom db deviceId userId peerId d) :
    let db' := taken.foldl (fun db d => (takeDeliveryIntoRefreshSession db d s.id).1) db
    Writes input (.opening s.id, db) (.opening s.id, db') ∧ DeliveriesOnly db db' ∧
      ∀ r, r ∈ db'.deliveries ↔
        (∃ q ∈ taken, takenOverDelivery q s.id = r) ∨ r ∈ db.deliveries ∧ key r ∉ taken.map key := by
  have hwork : ∀ db', ∀ d ∈ taken, DeliveriesOnly db db' → d ∈ db'.deliveries →
      Relation.ReflTransGen (fun a b => Write input (.opening s.id, a) (.opening s.id, b)) db'
          (takeDeliveryIntoRefreshSession db' d s.id).1 ∧
        DeliveriesOnly db (takeDeliveryIntoRefreshSession db' d s.id).1 ∧
        (takeDeliveryIntoRefreshSession db' d s.id).1.deliveries =
          db'.deliveries.put (takenOverDelivery d s.id) := by
    intro db' d hd honly hmem
    obtain ⟨-, hstate, rfl, m, hm, rfl, -, rfl⟩ := htaken d hd
    rw [takeDeliveryIntoRefreshSession_of_mem hmem hstate]
    have htake : TakeOver input db' d m s.id :=
      { event := hs.event
        found := honly.messages ▸ hm
        linked := (Db.deviceUserId_congr honly.contacts _).trans hs.linked
        taken := hstate
        session := ⟨s, honly.sessions ▸ Table.get?_key hs.found, hs.device, hs.peer, hs.active⟩ }
    exact ⟨.single (.delivery hmem (.takenOver m s.id htake)), honly.trans (.putDelivery _ _), rfl⟩
  obtain ⟨hsteps, honly, hall⟩ := foldl_put Db.deliveries (takenOverDelivery · s.id)
    (fun db d => (takeDeliveryIntoRefreshSession db d s.id).1) taken (fun _ => rfl) hwork db (.refl db)
    hnodup fun d hd => (htaken d hd).found
  exact ⟨hsteps.lift (fun db => (Phase.opening s.id, db)) fun _ _ h => h, honly, hall⟩

/-- A delivery queued in a session for a message. -/
def IsQueuedDelivery (deviceId refreshSessionId messageId : ℕ) (d : MessageDelivery) : Prop :=
  IsDeliveryOf messageId deviceId d ∧ IsQueuedIn refreshSessionId d

/-- The session gets deliveries of the missed messages, one after the other. -/
theorem writes_createMissedDeliveries (input : Input) (now : Time) :
    ∀ (missed : List ℕ) (db : Db), IsSessionOf input db deviceId userId peerId s → missed.Nodup →
      (∀ messageId ∈ missed, ∃ m ∈ db.messages, m.id = messageId ∧ m.acceptedAt.isSome ∧
        m.recipientId = userId ∧ m.senderId = peerId ∧
        ∀ d ∈ db.deliveries, ¬ IsDeliveryOf messageId deviceId d) →
      let db' := missed.foldl (fun db messageId =>
        createRefreshOwnedDelivery input.settings db messageId deviceId s.id now) db
      Writes input (.opening s.id, db) (.opening s.id, db') ∧
        CreatesDeliveries db db' missed (IsQueuedDelivery deviceId s.id) := by
  intro missed
  induction missed with
  | nil => exact fun _ _ _ _ => ⟨.refl, .nil⟩
  | cons messageId missed ih =>
      intro db hs hnodup hmissed
      obtain ⟨hnot, hrest⟩ := List.nodup_cons.1 hnodup
      obtain ⟨m, hm, rfl, haccepted, hrecipient, hsender, hnew⟩ :=
        hmissed messageId List.mem_cons_self
      have hwrite : Write input (.opening s.id, db) (.opening s.id,
          createRefreshOwnedDelivery input.settings db m.id deviceId s.id now) :=
        .newOwnedDelivery hm haccepted (hrecipient ▸ hs.linked) hnew hs.found hs.device
          (hs.peer.trans hsender.symm) hs.active (Or.inl rfl) fun _ => hs.refreshes
      have hcreates : CreatesDeliveries db
          (createRefreshOwnedDelivery input.settings db m.id deviceId s.id now) [m.id]
          (IsQueuedDelivery deviceId s.id) := .insert fun _ => ⟨⟨rfl, rfl⟩, rfl, rfl⟩
      obtain ⟨hwrites, hcreates'⟩ := ih
        (createRefreshOwnedDelivery input.settings db m.id deviceId s.id now) (hs.congr rfl rfl) hrest
        fun messageId hmessageId => by
        obtain ⟨n, hn, hid, haccepted, hrecipient, hsender, hnew⟩ :=
          hmissed messageId (List.mem_cons_of_mem _ hmessageId)
        refine ⟨n, hn, hid, haccepted, hrecipient, hsender, fun d hd hof => ?_⟩
        rcases hcreates.only d hd with hd | ⟨a, ha, hrow, -⟩
        · exact hnew d hd hof
        · obtain rfl := List.mem_singleton.1 ha
          exact hnot (hrow.1 ▸ hof.1 ▸ hmessageId)
      exact ⟨hwrite.writes.trans hwrites, hcreates.cons hcreates'⟩

/-- What a new session does to the deliveries before its head is armed. -/
structure CollectsScope (db db' : Db) (deviceId refreshSessionId : ℕ)
    (taken : List MessageDelivery) (missed : List ℕ) : Prop
    extends DeliveriesOnly db db' where
  takenOver : ∀ d ∈ taken, takenOverDelivery d refreshSessionId ∈ db'.deliveries
  collected : ∀ messageId ∈ missed, ∃ d ∈ db'.deliveries,
    IsQueuedDelivery deviceId refreshSessionId messageId d
  kept : ∀ d ∈ db.deliveries, d ∉ taken → d ∈ db'.deliveries
  only : ∀ d ∈ db'.deliveries, (∃ q ∈ taken, takenOverDelivery q refreshSessionId = d) ∨
    (d ∈ db.deliveries ∧ d ∉ taken) ∨
      ∃ messageId ∈ missed, IsQueuedDelivery deviceId refreshSessionId messageId d

/-- **A new session collects the scope** of its refresh. -/
theorem collectScope_spec (hs : IsSessionOf input db deviceId userId peerId s) (now : Time) :
    let taken := selectDeliveriesOfPeer db deviceId userId peerId
    let missed := selectMissedMessageIdsOfPeer db deviceId userId peerId
    let db' := missed.foldl (fun db messageId =>
        createRefreshOwnedDelivery input.settings db messageId deviceId s.id now)
      (taken.foldl (fun db d => (takeDeliveryIntoRefreshSession db d s.id).1) db)
    Writes input (.opening s.id, db) (.opening s.id, db') ∧
      CollectsScope db db' deviceId s.id taken missed := by
  obtain ⟨hwrites, honly, hall⟩ := writes_takeDeliveries hs
    (nodup_selectDeliveriesOfPeer deviceId userId peerId) fun d hd =>
      mem_selectDeliveriesOfPeer.1 hd
  have hkept : ∀ d ∈ db.deliveries, d ∉ selectDeliveriesOfPeer db deviceId userId peerId ↔
      key d ∉ (selectDeliveriesOfPeer db deviceId userId peerId).map key := by
    intro d hd
    refine not_congr ⟨List.mem_map_of_mem, fun h => ?_⟩
    obtain ⟨q, hq, hkey⟩ := List.mem_map.1 h
    rwa [Table.eq_of_key_eq hd (mem_selectDeliveriesOfPeer.1 hq).found hkey.symm]
  obtain ⟨hwrites', hcreates⟩ := writes_createMissedDeliveries input now
    (selectMissedMessageIdsOfPeer db deviceId userId peerId) _
    (hs.congr honly.contacts honly.sessions) (nodup_selectMissedMessageIdsOfPeer _ _ _)
    fun messageId hmessageId => by
      obtain ⟨m, hm, rfl⟩ := mem_selectMissedMessageIdsOfPeer.1 hmessageId
      refine ⟨m, honly.messages ▸ hm.found, rfl, hm.accepted, hm.recipient, hm.sender,
        fun d hd hof => ?_⟩
      rcases (hall d).1 hd with ⟨q, hq, rfl⟩ | ⟨hd, -⟩
      · exact hm.unknown q (mem_selectDeliveriesOfPeer.1 hq).found hof
      · exact hm.unknown d hd hof
  refine ⟨hwrites.trans hwrites', honly.trans hcreates.toDeliveriesOnly,
    fun d hd => hcreates.kept _ ((hall _).2 (Or.inl ⟨d, hd, rfl⟩)), hcreates.created,
    fun d hd hnot => hcreates.kept _ ((hall d).2 (Or.inr ⟨hd, (hkept d hd).1 hnot⟩)),
    fun d hd => ?_⟩
  rcases hcreates.only d hd with hd | hcreated
  · rcases (hall d).1 hd with htaken | ⟨hd, hnot⟩
    · exact Or.inl htaken
    · exact Or.inr (Or.inl ⟨hd, (hkept d hd).2 hnot⟩)
  · exact Or.inr (Or.inr hcreated)

/-- A session that collected anything has something queued. -/
theorem CollectsScope.queued {db' : Db} {sessionId : ℕ} {taken : List MessageDelivery}
    {missed : List ℕ} (h : CollectsScope db db' deviceId sessionId taken missed)
    (hscope : taken.length + missed.length ≠ 0) : ∃ d ∈ db'.deliveries, IsQueuedIn sessionId d := by
  cases taken with
  | cons d taken => exact ⟨_, h.takenOver d List.mem_cons_self, rfl, rfl⟩
  | nil =>
      cases missed with
      | cons messageId missed =>
          obtain ⟨d, hd, -, hqueued⟩ := h.collected messageId List.mem_cons_self
          exact ⟨d, hd, hqueued⟩
      | nil => exact absurd rfl hscope

/-- What the session has collected is everything the device misses of the peer. -/
theorem CollectsScope.gathered {db' : Db}
    (hs : IsSessionOf input db deviceId userId peerId s)
    (h : CollectsScope db db' deviceId s.id (selectDeliveriesOfPeer db deviceId userId peerId)
      (selectMissedMessageIdsOfPeer db deviceId userId peerId))
    (hm : IsRefreshed db' s m) : IsGathered db' s m := by
  obtain ⟨hfound, haccepted, hsender, hrecipient⟩ := hm
  rw [h.messages] at hfound
  rw [Db.deviceUserId_congr h.contacts, hs.device, hs.linked, Option.some.injEq] at hrecipient
  rw [hs.peer] at hsender
  by_cases hrow : ∃ d ∈ db.deliveries, d.messageId = m.id ∧ d.deviceId = deviceId
  · obtain ⟨d, hd, hmessage, hdevice⟩ := hrow
    have hmessage' : db.messages.get? d.messageId = some m := hmessage ▸ Table.get?_key hfound
    refine Or.inl ?_
    by_cases htaken : isTakenOverByARefresh d = true
    · have hmem := h.takenOver d (mem_selectDeliveriesOfPeer.2
        ⟨hd, htaken, hdevice, m, hmessage', hrecipient.symm, haccepted, hsender⟩)
      exact ⟨_, hmem, hmessage, hdevice.trans hs.device.symm, Or.inr (Or.inl rfl)⟩
    · refine ⟨d, h.kept d hd fun hd' => htaken (mem_selectDeliveriesOfPeer.1 hd').taken, hmessage,
        hdevice.trans hs.device.symm, ?_⟩
      cases hstate : d.state <;>
        simp_all [isTakenOverByARefresh, Option.isSome_iff_ne_none]
  · have hnone : ∀ d ∈ db.deliveries, ¬ (d.messageId = m.id ∧ d.deviceId = deviceId) :=
      fun d hd h => hrow ⟨d, hd, h⟩
    cases hdelivered : m.deliveredAt with
    | none =>
        obtain ⟨d, hd, ⟨hmessage, hdevice⟩, hqueued⟩ := h.collected m.id
          (mem_selectMissedMessageIdsOfPeer.2
            ⟨m, ⟨hfound, hrecipient.symm, hsender, haccepted, hdelivered, hnone⟩, rfl⟩)
        exact Or.inl ⟨d, hd, hmessage, hdevice.trans hs.device.symm, Or.inr (Or.inl hqueued.2)⟩
    | some t =>
        refine Or.inr ⟨Option.isSome_of_eq_some hdelivered, fun d hd hof => ?_⟩
        rw [hs.device] at hof
        rcases h.only d hd with ⟨q, hq, rfl⟩ | ⟨hd, -⟩ | ⟨messageId, hmissed, hrow', -⟩
        · exact hnone q (mem_selectDeliveriesOfPeer.1 hq).found hof
        · exact hnone d hd hof
        · obtain ⟨n, hn, rfl⟩ := mem_selectMissedMessageIdsOfPeer.1 hmissed
          have : n = m := Table.eq_of_key_eq hn.found hfound (hrow'.1.symm.trans hof.1)
          simp [← this, hn.undelivered] at hdelivered

end Collect

/-! ### One peer -/

section Peer

variable {deviceId userId peerId : ℕ}

/-- A new session: what it collects, and its head. -/
structure StartsSession (settings : RelaySettings) (db db' : Db) (deviceId userId peerId : ℕ)
    (s : RefreshSession) : Prop where
  device : s.deviceId = deviceId
  peer : s.peerId = peerId
  active : s.state = .active
  sessions : ∃ mk hkey, mk db.sessions.nextKey = s ∧ db'.sessions = db.sessions.insert mk hkey
  collects : ∃ db₁ db₂ e now, db₁ = { db with sessions := db'.sessions } ∧
    CollectsScope db₁ db₂ deviceId s.id (selectDeliveriesOfPeer db deviceId userId peerId)
      (selectMissedMessageIdsOfPeer db deviceId userId peerId) ∧
    e ∈ db₂.deliveries ∧ IsQueuedIn s.id e ∧ db' = db₂.putDelivery (armedDelivery settings e now)

theorem write_createRefreshSession (input : Input) {db : Db} {deviceId userId peerId : ℕ}
    (hlinked : db.deviceUserId deviceId = some userId)
    (hself : userId ≠ peerId) (hpeer : (db.users.get? peerId).isSome)
    (hfree : findActiveSession db deviceId peerId = none) (isForAllPeers : Bool)
    (inboundId : Option ℕ) (messagesTotal : ℕ) (now : Time) :
    Write input (.settled, db) (.opening db.sessions.nextKey,
      createRefreshSession db deviceId peerId isForAllPeers inboundId messagesTotal now) := by
  refine .newSession (fun _ => ?_) hlinked hself hpeer hfree
  exact ⟨rfl, rfl, rfl⟩

theorem isSessionOf_createRefreshSession
    (hevent : ∃ request inboundId now, input.event = .refresh deviceId request inboundId now)
    (hlinked : db.deviceUserId deviceId = some userId) (peerId : ℕ) (isForAllPeers : Bool)
    (inboundId : Option ℕ) (messagesTotal : ℕ) (now : Time) :
    IsSessionOf input
      (createRefreshSession db deviceId peerId isForAllPeers inboundId messagesTotal now) deviceId
      userId peerId
      (newSession deviceId peerId isForAllPeers inboundId messagesTotal now db.sessions.nextKey) :=
  ⟨hevent, hlinked, (Table.mem_insert (h := fun _ => rfl)).2 (Or.inr rfl), rfl, rfl, rfl⟩

/-- **A session with a peer starts.** -/
theorem writes_startPeerSession {request : RefreshRequest} {inboundId : Option ℕ} {now : Time}
    (hevent : input.event = .refresh deviceId request inboundId now)
    (hlinked : db.deviceUserId deviceId = some userId) (hself : userId ≠ peerId)
    (hpeer : (db.users.get? peerId).isSome)
    (hfree : findActiveSession db deviceId peerId = none)
    (hscope : (selectDeliveriesOfPeer db deviceId userId peerId).length +
      (selectMissedMessageIdsOfPeer db deviceId userId peerId).length ≠ 0)
    (isForAllPeers : Bool) :
    let db' := startPeerSession input.settings db deviceId peerId isForAllPeers inboundId
      (selectDeliveriesOfPeer db deviceId userId peerId)
      (selectMissedMessageIdsOfPeer db deviceId userId peerId) now
    Writes input (.settled, db) (.settled, db') ∧
      ∃ s, StartsSession input.settings db db' deviceId userId peerId s := by
  unfold startPeerSession
  dsimp only
  generalize (selectDeliveriesOfPeer db deviceId userId peerId).length +
    (selectMissedMessageIdsOfPeer db deviceId userId peerId).length = messagesTotal
  have hs := isSessionOf_createRefreshSession ⟨request, inboundId, now, hevent⟩ hlinked peerId
    isForAllPeers inboundId messagesTotal now
  have hopen := write_createRefreshSession input hlinked hself hpeer hfree isForAllPeers inboundId
    messagesTotal now
  obtain ⟨hwrites, hcollects⟩ := collectScope_spec hs now
  have hqueue := hcollects.queued hscope
  have hopened := hwrites.tail (.opened (hcollects.sessions ▸ hs.found)
    (fun m hm => hcollects.gathered hs hm) hqueue)
  obtain ⟨e, he, hqueued, hfirst, harm⟩ | ⟨hempty, -⟩ :=
    armNextRefreshSessionHead_cases _ input.settings db.sessions.nextKey now
  · have harmed := congrArg Prod.fst harm
    have hwrites := (hopen.writes.trans hopened).tail (.delivery he (.armed _ now hqueued hfirst))
    refine ⟨harmed ▸ hwrites,
      newSession deviceId peerId isForAllPeers inboundId messagesTotal now db.sessions.nextKey,
      rfl, rfl, rfl, ⟨_, fun _ => rfl, rfl, ?_⟩, _, _, e, now, ?_, hcollects, he, hqueued, harmed⟩
    · exact (congrArg Db.sessions harmed).trans hcollects.sessions
    · exact congrArg (fun t => ({ db with sessions := t } : Db))
        ((congrArg Db.sessions harmed).trans hcollects.sessions).symm
  · obtain ⟨d, hd, hqueued⟩ := hqueue
    exact absurd hqueued (hempty d hd)

theorem deliveriesOnly_restartActiveSessionHead (input : Input) (db : Db)
    (refreshSessionId : ℕ) (now : Time) :
    DeliveriesOnly db (restartActiveSessionHead input.settings db refreshSessionId now) := by
  rcases restartActiveSessionHead_cases input db refreshSessionId now with
    hsame | ⟨d, -, -, -, e, -, heq⟩
  · rw [hsame]
    exact .refl db
  · rw [heq]
    exact .putDelivery db e

/-- A new session leaves the other tables alone. -/
theorem StartsSession.frame {settings : RelaySettings} {db' : Db} {s : RefreshSession}
    (h : StartsSession settings db db' deviceId userId peerId s) :
    db'.users = db.users ∧ db'.contacts = db.contacts ∧ db'.messages = db.messages ∧
      db'.receipts = db.receipts := by
  obtain ⟨db₁, db₂, e, now, hdb₁, hcollects, -, -, hdb'⟩ := h.collects
  have honly := hcollects.toDeliveriesOnly.trans (.putDelivery db₂ (armedDelivery settings e now))
  rw [← hdb', hdb₁] at honly
  exact ⟨honly.users, honly.contacts, honly.messages, honly.receipts⟩

/-- **A refresh of one peer.** -/
theorem writes_refreshPeer {request : RefreshRequest} {inboundId : Option ℕ} {now : Time}
    (hevent : input.event = .refresh deviceId request inboundId now)
    (hlinked : db.deviceUserId deviceId = some userId) (hself : userId ≠ peerId)
    (hpeer : (db.users.get? peerId).isSome) (isForAllPeers : Bool) :
    let db' := (refreshPeer input.settings db deviceId userId peerId isForAllPeers inboundId now).1
    Writes input (.settled, db) (.settled, db') ∧ db'.users = db.users ∧
      db'.contacts = db.contacts := by
  unfold refreshPeer
  split
  · next s hs =>
      have honly := deliveriesOnly_restartActiveSessionHead input db s.id now
      exact ⟨(quiets_restartActiveSessionHead s.id now).writes .settled, honly.users,
        honly.contacts⟩
  · next hfree =>
      dsimp only
      split
      · exact ⟨.refl, rfl, rfl⟩
      · next hscope =>
          obtain ⟨hwrites, s, hstarts⟩ := writes_startPeerSession hevent hlinked hself hpeer hfree
            hscope isForAllPeers
          exact ⟨hwrites, hstarts.frame.1, hstarts.frame.2.1⟩

/-- **A refresh of peer after peer.** -/
theorem writes_refreshPeers {request : RefreshRequest} {inboundId : Option ℕ} {now : Time}
    (hevent : input.event = .refresh deviceId request inboundId now) (isForAllPeers : Bool)
    (peerIds : List ℕ) (db : Db) (hlinked : db.deviceUserId deviceId = some userId)
    (hpeers : ∀ peerId ∈ peerIds, userId ≠ peerId ∧ (db.users.get? peerId).isSome) :
    Writes input (.settled, db) (.settled,
      (refreshPeers input.settings deviceId userId isForAllPeers inboundId now db peerIds).1) := by
  induction peerIds generalizing db with
  | nil => exact .refl
  | cons peerId peerIds ih =>
      obtain ⟨hself, hpeer⟩ := hpeers peerId List.mem_cons_self
      obtain ⟨hwrites, husers, hcontacts⟩ :=
        writes_refreshPeer hevent hlinked hself hpeer isForAllPeers
      refine hwrites.trans (ih _ ((Db.deviceUserId_congr hcontacts deviceId).trans hlinked) ?_)
      intro peerId' hmem
      rw [husers]
      exact hpeers peerId' (List.mem_cons_of_mem _ hmem)

end Peer

/-! ### F -/

theorem lockUsersThenDevice_ok {deviceUserId deviceId : ℕ} {peerIds : List ℕ} {users : List User}
    (h : lockUsersThenDevice db deviceUserId peerIds deviceId = .ok users) :
    users = db.users.filter (fun user => (deviceUserId :: peerIds).contains user.id) ∧
      db.deviceUserId deviceId = some deviceUserId := by
  unfold lockUsersThenDevice at h
  dsimp only at h
  split at h
  · next hlocked =>
      simp only [Bool.and_eq_true, decide_eq_true_eq] at hlocked
      exact ⟨(Except.ok.inj h).symm, hlocked.2⟩
  · simp at h

theorem ne_of_mem_findPeerIdsWithMissedMessages {deviceId userId peerId : ℕ}
    (h : peerId ∈ findPeerIdsWithMissedMessages db deviceId userId) : peerId ≠ userId := by
  have hmem := List.mem_filter.1 (mem_orderBy.1 h)
  simpa using hmem.2

/-- **`F`.** -/
theorem writes_startRefresh {deviceId : ℕ} {request : RefreshRequest} {inboundId : Option ℕ}
    {now : Time} (hevent : input.event = .refresh deviceId request inboundId now) {db' : Db}
    {reply : ServerMessage}
    (h : startRefresh input.settings db deviceId request inboundId now = .ok (db', reply)) :
    Writes input (.settled, db) (.settled, db') := by
  unfold startRefresh at h
  dsimp only at h
  split at h
  · obtain ⟨rfl, -⟩ := Prod.mk.injEq .. ▸ Except.ok.inj h
    exact .refl
  next userId hlinked =>
  split at h
  · cases hlock : lockUsersThenDevice db userId
      (findPeerIdsWithMissedMessages db deviceId userId) deviceId with
    | error serviceError =>
        rw [hlock] at h
        simp [bind, Except.bind] at h
    | ok users =>
        rw [hlock] at h
        obtain ⟨rfl, -⟩ := Prod.mk.injEq .. ▸ Except.ok.inj h
        refine writes_refreshPeers hevent true _ db hlinked fun peerId hpeer => ?_
        obtain ⟨hpeer, hlocked⟩ := List.mem_filter.1 hpeer
        obtain ⟨user, huser, hid⟩ := List.any_eq_true.1 hlocked
        rw [(lockUsersThenDevice_ok hlock).1, Table.mem_filter] at huser
        obtain rfl : user.id = peerId := by simpa using hid
        exact ⟨Ne.symm (ne_of_mem_findPeerIdsWithMissedMessages hpeer),
          Option.isSome_of_eq_some (Table.get?_key huser.1)⟩
  split at h
  · obtain ⟨rfl, -⟩ := Prod.mk.injEq .. ▸ Except.ok.inj h
    exact .refl
  next peer hpeer =>
  split at h
  · obtain ⟨rfl, -⟩ := Prod.mk.injEq .. ▸ Except.ok.inj h
    exact .refl
  next hself =>
  cases hlock : lockUsersThenDevice db userId [peer.id] deviceId with
  | error serviceError =>
      rw [hlock] at h
      simp [bind, Except.bind] at h
  | ok users =>
  rw [hlock] at h
  simp only [bind, Except.bind, pure, Except.pure] at h
  split at h
  · obtain ⟨rfl, -⟩ := Prod.mk.injEq .. ▸ Except.ok.inj h
    exact .refl
  next lockedPeer hlocked =>
  obtain ⟨rfl, -⟩ := Prod.mk.injEq .. ▸ Except.ok.inj h
  have hid : lockedPeer.id = peer.id := by simpa using List.find?_some hlocked
  obtain ⟨hquiets, honly⟩ := quiets_rearmReceiptsForRefresh input lockedPeer.id hlinked now
  refine (hquiets.writes .settled).trans (writes_refreshPeers hevent false [lockedPeer.id] _
    ((Db.deviceUserId_congr honly.contacts deviceId).trans hlinked) fun peerId hmem => ?_)
  obtain rfl := List.mem_singleton.1 hmem
  rw [honly.users, hid]
  exact ⟨Ne.symm hself, Option.isSome_of_eq_some
    (Table.get?_key (userByLookup_eq_some hpeer).1)⟩

end HoptalkRelay
