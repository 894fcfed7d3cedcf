/-
**A refresh keeps the order.**

Under a clock that never shows a reading twice and never steps back, the messages are accepted in
the order of their acceptance times.  So a message that is accepted while a session of its
recipient's device runs comes after everything the session owns, and the head of an active session
comes first among what still waits in it.

Main definitions:

* `HoptalkRelay.ClocksIncrease` — every reading of the clock is later than the ones before it;
* `HoptalkRelay.HeadsFirst` — the head of a session comes before what is queued in it;
* `HoptalkRelay.AcceptedInOrder` — the message of this transaction was accepted last.

Main results:

* `HoptalkRelay.HeadsFirst.write` — every write keeps the order;
* `HoptalkRelay.one_head_in_acceptance_order` — **what every active session looks like**.
-/

import HoptalkRelay.Invariants.Sessions

set_option relaxedAutoImplicit false
set_option autoImplicit false

namespace HoptalkRelay

open Relational Transition

/-! ### Clocks -/

/-- The clock readings of a history, in order. -/
def clockReadings (history : List (Input × Outcome)) : List Time :=
  history.filterMap fun entry => entry.1.event.clock?

/-- Every reading of the clock is later than the ones before it. -/
def ClocksIncrease (history : List (Input × Outcome)) : Prop :=
  (clockReadings history).Pairwise (· < ·)

instance (history : List (Input × Outcome)) : Decidable (ClocksIncrease history) :=
  inferInstanceAs (Decidable (List.Pairwise _ _))

theorem ClocksIncrease.of_prefix {before history : List (Input × Outcome)}
    (h : ClocksIncrease history) (hbefore : before <+: history) : ClocksIncrease before := by
  obtain ⟨rest, rfl⟩ := hbefore
  unfold ClocksIncrease clockReadings at h
  rw [List.filterMap_append] at h
  exact (List.pairwise_append.1 h).1

/-- The last reading is later than all before. -/
theorem ClocksIncrease.lt_of_mem {before : List (Input × Outcome)} {input : Input}
    {outcome : Outcome} (h : ClocksIncrease (before ++ [(input, outcome)])) {t now : Time}
    (ht : t ∈ clockReadings before) (hnow : input.event.clock? = some now) : t < now := by
  unfold ClocksIncrease clockReadings at h
  rw [List.filterMap_append] at h
  refine (List.pairwise_append.1 h).2.2 t ht now ?_
  simp [hnow]

/-- Every message was accepted at a reading of the clock. -/
def AcceptedAtReadings (history : List (Input × Outcome)) (db : Db) : Prop :=
  ∀ m ∈ db.messages, ∀ t, m.acceptedAt = some t → t ∈ clockReadings history

/-- The message that is being fanned out was accepted now, every other one before. -/
def AcceptedInOrder (input : Input) (p : Phase) (db : Db) : Prop :=
  ∀ m ∈ db.messages, ∀ t, m.acceptedAt = some t →
    if p = .fanningOut m.id then input.event.clock? = some t
    else p = .fannedOut ∨ ∀ now, input.event.clock? = some now → t < now

/-! ### Order -/

/-- The head of a session comes before everything that is queued in it. -/
def HeadsFirst (db : Db) : Prop :=
  ∀ d ∈ db.deliveries, ∀ e ∈ db.deliveries, ∀ s, isHeadOf s d = true → IsQueuedIn s e →
    acceptanceOrder db d < acceptanceOrder db e

section Write

variable {input : Input} {db db' : Db} {p : Phase}

/-- The order is kept when every head and everything that is queued was that before. -/
theorem HeadsFirst.of_rows (h : HeadsFirst db)
    (hhead : ∀ e ∈ db'.deliveries, ∀ s, isHeadOf s e = true →
      ∃ d ∈ db.deliveries, isHeadOf s d = true ∧ acceptanceOrder db' e = acceptanceOrder db d)
    (hqueue : ∀ e ∈ db'.deliveries, ∀ s, IsQueuedIn s e →
      ∃ d ∈ db.deliveries, IsQueuedIn s d ∧ acceptanceOrder db' e = acceptanceOrder db d) :
    HeadsFirst db' := by
  intro x hx y hy s hxs hys
  obtain ⟨d, hd, hds, hxd⟩ := hhead x hx s hxs
  obtain ⟨e, he, hes, hye⟩ := hqueue y hy s hys
  rw [hxd, hye]
  exact h d hd e he s hds hes

/-- The order is kept when the rows that wait were waiting before, with the same messages. -/
theorem HeadsFirst.of_subset (h : HeadsFirst db)
    (hrow : ∀ e ∈ db'.deliveries, e.state = .pending ∨ e.state = .queuedForRefresh →
      e ∈ db.deliveries ∧ acceptanceOrder db' e = acceptanceOrder db e) : HeadsFirst db' := by
  refine h.of_rows (fun e he s hhead => ?_) fun e he s hqueue => ?_
  · obtain ⟨hd, horder⟩ := hrow e he (Or.inl (isHeadOf_iff.1 hhead).2)
    exact ⟨e, hd, hhead, horder⟩
  · obtain ⟨hd, horder⟩ := hrow e he (Or.inr hqueue.2)
    exact ⟨e, hd, hqueue, horder⟩

/-- Databases the sessions cannot tell apart have the same order. -/
theorem HeadsFirst.sameView (hdb : Consistent db) (h : HeadsFirst db) (hview : SameView db db') :
    HeadsFirst db' := by
  have horder : ∀ {d e : MessageDelivery}, d ∈ db.deliveries → SameDelivery d e →
      acceptanceOrder db' e = acceptanceOrder db d := by
    intro d e hd hsame
    obtain ⟨m, hm, -⟩ := (hdb.deliveries d hd).message
    obtain ⟨n, hn, hsame'⟩ := hview.messages_kept _ m hm
    simp only [acceptanceOrder, hsame.message, hm, hn, Option.bind_some, hsame'.accepted]
  refine h.of_rows (fun e he s hhead => ?_) fun e he s hqueue => ?_
  · obtain ⟨d, hd, hsame⟩ := hview.deliveries e he
    rw [isHeadOf_iff, hsame.session, hsame.state] at hhead
    exact ⟨d, hd, isHeadOf_iff.2 hhead, horder hd hsame⟩
  · obtain ⟨d, hd, hsame⟩ := hview.deliveries e he
    rw [IsQueuedIn, hsame.session, hsame.state] at hqueue
    exact ⟨d, hd, hqueue, horder hd hsame⟩

/-- A delivery that no longer waits disturbs nothing. -/
theorem HeadsFirst.putDelivery {d e : MessageDelivery} (h : HeadsFirst db)
    (hd : d ∈ db.deliveries) (hid : e.id = d.id)
    (hstate : e.state ≠ .pending ∧ e.state ≠ .queuedForRefresh) :
    HeadsFirst (db.putDelivery e) := by
  refine h.of_subset fun x hx hwaits => ?_
  rcases (Table.mem_put_iff hd hid).1 hx with rfl | ⟨hx, -⟩
  · exact absurd hwaits (not_or.2 hstate)
  · exact ⟨hx, rfl⟩

/-- **A delivery changes its state.** -/
theorem HeadsFirst.stateChange {d e : MessageDelivery} {p' : Phase} (hdb : Consistent db)
    (h : HeadsFirst db) (hok : SessionsOk p db) (hd : d ∈ db.deliveries)
    (change : StateChange input db d p e p') : HeadsFirst (db.putDelivery e) := by
  have hid := change.keeps.1
  cases change with
  | exhausted | stopped => exact h.putDelivery hd hid (by simp)
  | takenOver message refreshSessionId htake =>
      obtain ⟨t, ht, -, -, hactive⟩ := htake.session
      -- a session that is being opened has no head
      have hnohead : ∀ x ∈ db.deliveries, isHeadOf refreshSessionId x = false := by
        have hzero := hok.heads t (Table.mem_of_get? ht) hactive
        rw [show t.id = refreshSessionId from Table.key_of_get? ht, Phase.headCount,
          if_pos rfl] at hzero
        exact Table.count_eq_zero.1 hzero
      intro x hx y hy s hhead hqueue
      rcases (Table.mem_put_iff hd hid).1 hx with rfl | ⟨hx, -⟩
      · simp [isHeadOf] at hhead
      rcases (Table.mem_put_iff hd hid).1 hy with rfl | ⟨hy, -⟩
      · obtain rfl : refreshSessionId = s := by simpa [IsQueuedIn] using hqueue
        rw [hnohead x hx] at hhead
        cases hhead
      · exact h x hx y hy s hhead hqueue
  | armed refreshSessionId now hself hfirst =>
      intro x hx y hy s hhead hqueue
      rcases (Table.mem_put_iff hd hid).1 hy with rfl | ⟨hy, hne⟩
      · simp [IsQueuedIn] at hqueue
      rcases (Table.mem_put_iff hd hid).1 hx with rfl | ⟨hx, -⟩
      swap
      · exact h x hx y hy s hhead hqueue
      obtain rfl : refreshSessionId = s := by simpa [isHeadOf, hself.1] using hhead
      have hle : acceptanceOrder db d ≤ acceptanceOrder db y := hfirst y hy hqueue
      refine lt_of_le_of_ne hle fun heq => hne ?_
      -- two rows of one session for one message are one row
      have hmessage : d.messageId = y.messageId := congrArg (fun o => (ofLex o).2) heq
      obtain ⟨t, ht⟩ := Option.isSome_iff_exists.1 ((hdb.deliveries d hd).session _ hself.1)
      have hid' : t.id = refreshSessionId := Table.key_of_get? ht
      have hdevice := (hok.owned d hd t (Table.mem_of_get? ht) (hid' ▸ hself.1)).device
      have hdevice' := (hok.owned y hy t (Table.mem_of_get? ht) (hid' ▸ hqueue.1)).device
      rw [hdb.deliveries_unique d hd y hy hmessage (hdevice.trans hdevice'.symm)]

/-- **A delivery is created** behind the head of its session. -/
theorem HeadsFirst.newOwnedDelivery {m : Message} {deviceId : ℕ} {s : RefreshSession} {now : Time}
    (hdb : Consistent db) (h : HeadsFirst db) (hok : SessionsOk p db)
    (horder : AcceptedInOrder input p db) (hm : m ∈ db.messages) (haccepted : m.acceptedAt.isSome)
    (hnew : ∀ d ∈ db.deliveries, ¬ (d.messageId = m.id ∧ d.deviceId = deviceId))
    (hs : s ∈ db.sessions) (hdevice : s.deviceId = deviceId) (hactive : s.state = .active)
    (hphase : p = .opening s.id ∨ p = .fanningOut m.id) :
    HeadsFirst (createRefreshOwnedDelivery input.settings db m.id deviceId s.id now) := by
  intro x hx y hy t hhead hqueue
  rcases (Table.mem_insert (h := fun _ => rfl)).1 hx with hx | rfl
  swap
  · simp [isHeadOf] at hhead
  rcases (Table.mem_insert (h := fun _ => rfl)).1 hy with hy | rfl
  · exact h x hx y hy t hhead hqueue
  obtain rfl : s.id = t := by simpa [IsQueuedIn] using hqueue
  rcases hphase with rfl | rfl
  · have hzero := hok.heads s hs hactive
    rw [Phase.headCount, if_pos rfl] at hzero
    rw [Table.count_eq_zero.1 hzero x hx] at hhead
    cases hhead
  · -- the head's message was accepted before this one
    obtain ⟨n, hn, hnaccepted⟩ := (hdb.deliveries x hx).message
    have hrow := hok.owned x hx s hs (isHeadOf_iff.1 hhead).1
    have hne : n.id ≠ m.id := by
      intro heq
      refine hnew x hx ⟨?_, hrow.device.trans hdevice⟩
      rw [← heq]
      exact (Table.key_of_get? hn).symm
    obtain ⟨t, ht⟩ := Option.isSome_iff_exists.1 haccepted
    obtain ⟨t', ht'⟩ := Option.isSome_iff_exists.1 hnaccepted
    have hnow := horder m hm t ht
    rw [if_pos rfl] at hnow
    have hbefore := horder n (Table.mem_of_get? hn) t' ht'
    rw [if_neg (by simpa using Ne.symm hne)] at hbefore
    have hlt : t' < t := hbefore.elim (fun h => by cases h) fun h => h t hnow
    have hfound : db.messages.get? m.id = some m := Table.get?_key hm
    have hxorder : acceptanceOrder db x = toLex ((t' : WithTop Time), x.messageId) := by
      simp only [acceptanceOrder, hn, Option.bind_some, ht']
      rfl
    have hyorder : toLex ((db.messages.get? m.id).bind Message.acceptedAt, m.id) =
        toLex ((t : WithTop Time), m.id) := by
      simp only [hfound, Option.bind_some, ht]
      rfl
    show acceptanceOrder db x < toLex ((db.messages.get? m.id).bind Message.acceptedAt, m.id)
    rw [hxorder, hyorder, Prod.Lex.toLex_lt_toLex]
    exact Or.inl (WithTop.coe_lt_coe.2 hlt)

/-- **Every write keeps the order.** -/
theorem HeadsFirst.write {a b : Phase × Db} (hdb : Consistent a.2) (h : HeadsFirst a.2)
    (hok : SessionsOk a.1 a.2) (horder : AcceptedInOrder input a.1 a.2)
    (hwrite : Write input a b) : HeadsFirst b.2 := by
  cases hwrite with
  | quiet p hquiet => exact h.sameView hdb hquiet.sameView
  | delivery hd change => exact h.stateChange hdb hok hd change
  | delivered hd => exact h.putDelivery hd rfl (by simp)
  | readAgain hd => exact h.sameView hdb (.putDelivery hd rfl ⟨rfl, rfl, rfl, rfl⟩)
  | fannedOut | newSession | opened | completed | stopped | linked => exact h
  | @accepted db m deviceId part now hm hopen =>
      refine h.of_subset fun e he _ => ⟨he, ?_⟩
      obtain ⟨n, hn, haccepted⟩ := (hdb.deliveries e he).message
      have hne : e.messageId ≠ key (acceptedMessage m now) := by
        intro heq
        have hfound : db.messages.get? m.id = some m := Table.get?_key hm
        rw [heq] at hn
        obtain rfl := Option.some.inj (hn.symm.trans hfound)
        rw [hopen] at haccepted
        cases haccepted
      simp only [acceptanceOrder, Db.messages_putMessage]
      rw [Table.get?_put, if_neg hne]
  | newDelivery =>
      refine h.of_rows (fun e he s hhead => ?_) fun e he s hqueue => ?_
      · rcases (Table.mem_insert (h := fun _ => rfl)).1 he with he | rfl
        · exact ⟨e, he, hhead, rfl⟩
        · simp [isHeadOf] at hhead
      · rcases (Table.mem_insert (h := fun _ => rfl)).1 he with he | rfl
        · exact ⟨e, he, hqueue, rfl⟩
        · simp [IsQueuedIn] at hqueue
  | newOwnedDelivery hm haccepted hlinked hnew hs hdevice hpeer hactive hphase =>
      exact h.newOwnedDelivery hdb hok horder hm haccepted hnew hs hdevice hactive hphase
  | @relinked db device user now =>
      refine h.of_subset fun e he hwaits => ?_
      rw [deliveries_relinkDevice] at he
      obtain ⟨d, hd, rfl⟩ := (Table.mem_updateWhere (h := by intros; rfl)).1 he
      split at hwaits
      · simp at hwaits
      · next hnot =>
          rw [if_neg hnot]
          exact ⟨hd, rfl⟩
  | @deleted db roots hevent =>
      refine h.of_subset fun e he _ => ?_
      obtain ⟨he, hkept⟩ := mem_deliveries_deleteRows.1 he
      obtain ⟨m, hm, -⟩ := (hdb.deliveries e he).message
      have hmkept : isMessageRowDeleted db roots m = false := by
        simp only [isDeliveryRowDeleted, isMessageDeleted, hm, Option.any_some,
          Bool.or_eq_false_iff] at hkept
        exact hkept.1.1
      refine ⟨he, ?_⟩
      simp only [acceptanceOrder, get?_messages_of_kept hm hmkept, hm, Option.bind_some]
      rfl

/-- The acceptance stays in order when every accepted message was accepted before. -/
theorem AcceptedInOrder.of_messages {p' : Phase} (h : AcceptedInOrder input p db)
    (hfanning : ∀ k, p' = .fanningOut k ↔ p = .fanningOut k)
    (hfanned : p = .fannedOut → p' = .fannedOut)
    (hold : ∀ n ∈ db'.messages, n.acceptedAt.isSome →
      ∃ m ∈ db.messages, n.id = m.id ∧ n.acceptedAt = m.acceptedAt) :
    AcceptedInOrder input p' db' := by
  intro n hn t ht
  obtain ⟨m, hm, hid, haccepted⟩ := hold n hn (by rw [ht]; rfl)
  have hbefore := h m hm t (haccepted ▸ ht)
  rw [hid]
  by_cases hphase : p = .fanningOut m.id
  · rw [if_pos hphase] at hbefore
    rwa [if_pos ((hfanning _).2 hphase)]
  · rw [if_neg hphase] at hbefore
    rw [if_neg fun h => hphase ((hfanning _).1 h)]
    exact hbefore.imp_left hfanned

/-- **Every write keeps the acceptance in order.** -/
theorem AcceptedInOrder.write {a b : Phase × Db} (h : AcceptedInOrder input a.1 a.2)
    (hwrite : Write input a b) : AcceptedInOrder input b.1 b.2 := by
  have hsame : ∀ {db : Db}, ∀ n ∈ db.messages, n.acceptedAt.isSome →
      ∃ m ∈ db.messages, n.id = m.id ∧ n.acceptedAt = m.acceptedAt := fun n hn _ =>
    ⟨n, hn, rfl, rfl⟩
  cases hwrite with
  | quiet p hquiet =>
      refine h.of_messages (fun _ => Iff.rfl) (fun h => h) fun n hn haccepted => ?_
      obtain ⟨m, hm, hmessage⟩ := hquiet.sameView.messages n hn haccepted
      exact ⟨m, hm, hmessage.id, hmessage.accepted⟩
  | delivery hd change =>
      cases change with
      | @exhausted now =>
          refine h.of_messages (fun k => ?_) (by simp) hsame
          cases findActiveRefreshSessionId _ _ <;> simp [Phase.afterFailure]
      | stopped | takenOver => exact h.of_messages (fun _ => Iff.rfl) (fun h => h) hsame
      | armed => exact h.of_messages (by simp) (by simp) hsame
  | delivered =>
      refine h.of_messages (fun k => ?_) (by simp) hsame
      cases headSessionId _ _ <;> simp [Phase.afterConfirmation]
  | readAgain | newDelivery | newOwnedDelivery | linked | relinked =>
      exact h.of_messages (fun _ => Iff.rfl) (fun h => h) hsame
  | newSession | opened | completed | stopped => exact h.of_messages (by simp) (by simp) hsame
  | fannedOut =>
      intro n hn t ht
      rw [if_neg (by simp)]
      exact Or.inl rfl
  | @accepted db m deviceId part now hm hopen hall upload =>
      intro n hn t ht
      rcases (Table.mem_put_iff (r := acceptedMessage m now) hm rfl).1 hn with rfl | ⟨hn, hne⟩
      · have hself : Phase.fanningOut m.id = .fanningOut (acceptedMessage m now).id := rfl
        rw [if_pos hself, upload.event]
        exact ht
      · have hbefore := h n hn t ht
        rw [if_neg (by simp)] at hbefore
        rw [if_neg (by simpa using Ne.symm hne)]
        exact Or.inr (hbefore.resolve_left (by simp))
  | @deleted db roots =>
      refine h.of_messages (fun _ => Iff.rfl) (fun h => h) fun n hn _ => ?_
      obtain ⟨m, hm, -, rfl⟩ := mem_messages_deleteRows.1 hn
      exact ⟨m, hm, rfl, rfl⟩

/-- A message is accepted at the reading of the clock of its transaction. -/
theorem Write.acceptedAt {a b : Phase × Db} (hwrite : Write input a b) {n : Message}
    (hn : n ∈ b.2.messages) {t : Time} (ht : n.acceptedAt = some t) :
    input.event.clock? = some t ∨ ∃ m ∈ a.2.messages, m.acceptedAt = some t := by
  rcases hwrite.messages.origin hn with hn' | ⟨m, hm, -, hchange⟩ | ⟨-, hcreated⟩
  · exact Or.inr ⟨n, hn', ht⟩
  · cases hchange with
    | confirmed | partStored | forgotten => exact Or.inr ⟨m, hm, ht⟩
    | accepted hopen hall upload =>
        refine Or.inl ?_
        rw [upload.event]
        exact ht
  · cases hcreated with
    | first => simp at ht

end Write

/-! ### Runs -/

section Run

variable {hashing : PasswordHashing} {db : Db} {history : List (Input × Outcome)} {input : Input}

/-- Every message of a run was accepted at a reading of its clock. -/
theorem AcceptedAtReadings.step (hdb : Consistent db) (h : AcceptedAtReadings history db) :
    AcceptedAtReadings (history ++ [(input, (step hashing db input).2)])
      (step hashing db input).1 := by
  have hreadings : ∀ t, input.event.clock? = some t ∨ t ∈ clockReadings history →
      t ∈ clockReadings (history ++ [(input, (HoptalkRelay.step hashing db input).2)]) := by
    intro t ht
    unfold clockReadings
    rw [List.filterMap_append, List.mem_append]
    rcases ht with ht | ht
    · exact Or.inr (by simp [ht])
    · exact Or.inl ht
  refine (step_invariant hashing input hdb (P := fun db' => ∀ m ∈ db'.messages, ∀ t,
    m.acceptedAt = some t → t ∈ clockReadings (history ++ [(input, _)]))
    (fun m hm t ht => hreadings t (Or.inr (h m hm t ht))) fun a b _ hold hwrite n hn t ht => ?_).2
  rcases hwrite.acceptedAt hn ht with hnow | ⟨m, hm, ht'⟩
  · exact hreadings t (Or.inl hnow)
  · exact hold m hm t ht'

/-- What holds in every database of a run with an increasing clock. -/
structure InOrder (history : List (Input × Outcome)) (db : Db) : Prop where
  consistent : Consistent db
  sessions : SessionsOk .settled db
  heads : HeadsFirst db
  readings : AcceptedAtReadings history db

theorem InOrder.empty (history : List (Input × Outcome)) : InOrder history Db.empty where
  consistent := .empty
  sessions := .empty
  heads _ h := absurd h (Table.not_mem_empty _)
  readings _ h := absurd h (Table.not_mem_empty _)

/-- A step of a later reading of the clock keeps the order. -/
theorem InOrder.step (h : InOrder history db)
    (hclocks : ClocksIncrease (history ++ [(input, (step hashing db input).2)])) :
    InOrder (history ++ [(input, (step hashing db input).2)]) (step hashing db input).1 := by
  have hstart : AcceptedInOrder input .settled db := by
    intro m hm t ht
    rw [if_neg (by simp)]
    exact Or.inr fun now hnow => hclocks.lt_of_mem (h.readings m hm t ht) hnow
  obtain ⟨phase, -, hdb, -, hheads, -⟩ := step_phase_invariant hashing input h.consistent
    (P := fun a => SessionsOk a.1 a.2 ∧ HeadsFirst a.2 ∧ AcceptedInOrder input a.1 a.2)
    ⟨h.sessions, h.heads, hstart⟩ fun a b hdb hP hwrite =>
      ⟨hP.1.write hdb hwrite, hP.2.1.write hdb hP.1 hP.2.2 hwrite, hP.2.2.write hwrite⟩
  exact ⟨hdb, h.sessions.step hashing input h.consistent, hheads,
    h.readings.step h.consistent⟩

/-- Every run with an increasing clock is in order. -/
theorem inOrder_of_run (run : (engine hashing).Run Db.empty history db)
    (hclocks : ClocksIncrease history) : InOrder history db := by
  suffices h : ClocksIncrease history → InOrder history db from h hclocks
  refine run.invariant (P := fun history db => ClocksIncrease history → InOrder history db)
    (fun _ => .empty _) fun before db input _ _ hbefore hincrease => ?_
  exact (hbefore (hincrease.of_prefix (List.prefix_append _ _))).step hincrease

/-! ### Heads -/

/-- The head of a session: its pending delivery.  What else waits is queued and comes after it, and
what comes before it is delivered. -/
structure IsHead (db : Db) (s : RefreshSession) (d : MessageDelivery) : Prop where
  found : d ∈ db.deliveries
  owned : d.refreshSessionId = some s.id
  pending : d.state = .pending
  behind : ∀ e ∈ db.deliveries, e.refreshSessionId = some s.id →
    e.state = .pending ∨ e.state = .queuedForRefresh → e ≠ d →
      e.state = .queuedForRefresh ∧ acceptanceOrder db d < acceptanceOrder db e
  before : ∀ e ∈ db.deliveries, e.refreshSessionId = some s.id →
    acceptanceOrder db e < acceptanceOrder db d → e.state = .delivered

/-- A pending delivery of a session is its head. -/
theorem InOrder.isHead (h : InOrder history db) {s : RefreshSession} (hs : s ∈ db.sessions)
    {d : MessageDelivery} (hd : d ∈ db.deliveries) (howned : d.refreshSessionId = some s.id)
    (hpending : d.state = .pending) : IsHead db s d := by
  have hactive := (h.sessions.owned d hd s hs howned).live (Or.inl hpending)
  have hhead : isHeadOf s.id d = true := isHeadOf_iff.2 ⟨howned, hpending⟩
  have hone : ∀ e ∈ db.deliveries, e.refreshSessionId = some s.id → e.state = .pending → e = d :=
    fun e he heowned hestate => Table.eq_of_count_le_one (h.sessions.heads s hs hactive).le he
      (isHeadOf_iff.2 ⟨heowned, hestate⟩) hd hhead
  have hqueue : ∀ e ∈ db.deliveries, e.refreshSessionId = some s.id →
      e.state = .queuedForRefresh → acceptanceOrder db d < acceptanceOrder db e :=
    fun e he heowned hestate => h.heads d hd e he s.id hhead ⟨heowned, hestate⟩
  refine ⟨hd, howned, hpending, fun e he heowned hwaits hne => ?_, fun e he heowned hlt => ?_⟩
  · rcases hwaits with hestate | hestate
    · exact absurd (hone e he heowned hestate) hne
    · exact ⟨hestate, hqueue e he heowned hestate⟩
  · rcases (h.sessions.owned e he s hs heowned).states hactive with
      hestate | hestate | hestate | ⟨hphase, -⟩
    · rw [hone e he heowned hestate] at hlt
      exact absurd hlt (lt_irrefl _)
    · exact absurd (hqueue e he heowned hestate) hlt.asymm
    · exact hestate
    · cases hphase

/-- **One head at a time, in acceptance order**: what every active session looks like, that a
session that ended leaves nothing waiting, and that only heads of active sessions are sent. -/
theorem one_head_in_acceptance_order (run : (engine hashing).Run Db.empty history db)
    (hclocks : ClocksIncrease history) :
    (∀ s ∈ db.sessions, s.state = .active → ∃! d, IsHead db s d) ∧
    (∀ s ∈ db.sessions, s.state = .active → ∀ d ∈ db.deliveries,
      d.refreshSessionId = some s.id → d.deviceId = s.deviceId ∧
        ∃ m, db.messages.get? d.messageId = some m ∧ m.senderId = s.peerId ∧
          db.deviceUserId s.deviceId = some m.recipientId) ∧
    (∀ s ∈ db.sessions, s.state ≠ .active → ∀ d ∈ db.deliveries,
      d.refreshSessionId = some s.id → d.state ≠ .pending ∧ d.state ≠ .queuedForRefresh) ∧
    (∀ d ∈ db.deliveries, d.state = .queuedForRefresh →
      ∃ s ∈ db.sessions, s.state = .active ∧ d.refreshSessionId = some s.id) ∧
    (∀ s ∈ db.sessions, ∀ t ∈ db.sessions, s.state = .active → t.state = .active →
      s.deviceId = t.deviceId → s.peerId = t.peerId → s = t) ∧
    ∀ input, ClocksIncrease (history ++ [(input, (step hashing db input).2)]) →
      ∀ packet ∈ (step hashing db input).1.packets, db.packets.get? packet.id = none →
      ∀ d ∈ (step hashing db input).1.deliveries, packet.messageDeliveryId = some d.id →
      ∀ s ∈ (step hashing db input).1.sessions, d.refreshSessionId = some s.id →
        s.state = .active ∧ IsHead (step hashing db input).1 s d := by
  have hinOrder := inOrder_of_run run hclocks
  have hok := hinOrder.sessions
  refine ⟨fun s hs hactive => ?_, fun s hs hactive d hd howned => ?_,
    fun s hs hended d hd howned => ?_, fun d hd hqueued => ?_, hok.unique,
    fun input hincrease packet hpacket hnew d hd hdelivery s hs howned => ?_⟩
  · obtain ⟨d, hd, hhead⟩ := Table.exists_of_count_eq_one (hok.heads s hs hactive)
    obtain ⟨howned, hpending⟩ := isHeadOf_iff.1 hhead
    refine ⟨d, hinOrder.isHead hs hd howned hpending, fun e he => ?_⟩
    exact Table.eq_of_count_le_one (hok.heads s hs hactive).le he.found
      (isHeadOf_iff.2 ⟨he.owned, he.pending⟩) hd hhead
  · obtain ⟨hdevice, ⟨m, hm, hsender, hlink⟩, -, -⟩ := hok.owned d hd s hs howned
    exact ⟨hdevice, m, hm, hsender, hlink hactive⟩
  · have hlive := (hok.owned d hd s hs howned).live
    exact ⟨fun hstate => hended (hlive (Or.inl hstate)),
      fun hstate => hended (hlive (Or.inr hstate))⟩
  · obtain ⟨sid, hsid⟩ := Option.isSome_iff_exists.1 (hok.queued d hd hqueued)
    obtain ⟨s, hs⟩ := Option.isSome_iff_exists.1
      ((hinOrder.consistent.deliveries d hd).session sid hsid)
    have howned : d.refreshSessionId = some s.id := by rw [hsid, ← Table.key_of_get? hs]; rfl
    have hmem := Table.mem_of_get? hs
    exact ⟨s, hmem, (hok.owned d hd s hmem howned).live (Or.inr hqueued), howned⟩
  · have hafter := hinOrder.step hincrease
    obtain ⟨db₁, now, device, -, -, hinserts, hwork, -⟩ :=
      step_newPacket hinOrder.consistent hpacket hnew
    have hdeliveries : (step hashing db input).1.deliveries = db₁.deliveries := by
      rw [hinserts.frame]
    have hpending : d.state = .pending := by
      rcases hwork with hwork | ⟨hreply, -⟩
      · cases hwork with
        | delivery d' m sender partNumber partText hd' hstate hm hsender hpart hpartText htext
            hpurpose hcontact hid =>
            have hsame : d' = d := by
              refine Table.eq_of_key_eq (hdeliveries ▸ hd') hd ?_
              exact Option.some.inj (hid.symm.trans hdelivery)
            exact hsame ▸ hstate
        | receipt _ _ _ _ _ _ _ _ _ _ _ _ _ _ _ _ hnone =>
            rw [hnone] at hdelivery
            cases hdelivery
      · rw [hreply.delivery] at hdelivery
        cases hdelivery
    exact ⟨(hafter.sessions.owned d hd s hs howned).live (Or.inl hpending),
      hafter.isHead hs hd howned hpending⟩

end Run

/-- Two messages of alice wait in a session of bob's device. -/
theorem one_head_in_acceptance_order_sampleRefresh :
    (sampleDb sampleRefresh).deliveries.rows.map MessageDelivery.state =
      [.pending, .queuedForRefresh] ∧
    ∀ s ∈ (sampleDb sampleRefresh).sessions, s.state = .active →
      ∃! d, IsHead (sampleDb sampleRefresh) s d :=
  ⟨by decide +kernel,
    (one_head_in_acceptance_order (run_sampleDb sampleRefresh) (by decide +kernel)).1⟩

end HoptalkRelay
