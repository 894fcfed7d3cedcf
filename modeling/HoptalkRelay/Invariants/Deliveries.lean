/-
**The delivery confirmation law.**

Only the device itself confirms a delivery: with a `K` whose own set is all ones, or with an `R`.
Until then the row holds the set of the latest `K`; afterwards it never changes its state, and
nothing is sent for it any more.

Main definitions:

* `HoptalkRelay.reportedMask?` — what a `K` reports of a delivery;
* `HoptalkRelay.latestReport` — the set of the latest `K`, as a history variable;
* `HoptalkRelay.ConfirmsDelivery` — the request that confirms a delivery;
* `HoptalkRelay.IsLaterConfirmation` — what may change about the confirmation of a message.

Main results:

* `HoptalkRelay.delivered_only_by_the_device` — **the confirmation law**.
-/

import HoptalkRelay.Transactions.Statuses
import HoptalkRelay.Transactions.Steps

set_option relaxedAutoImplicit false
set_option autoImplicit false

namespace HoptalkRelay

open Relational Transition

/-! ### Sets of all ones -/

/-- The mask of a received set has the bits of its ones. -/
theorem testBit_receivedSetMaskFrom (receivedSet : Text) (start i : ℕ) :
    (receivedSetMaskFrom start receivedSet).testBit i =
      (decide (start ≤ i) && (receivedSet.getD (i - start) '0' == '1')) := by
  induction receivedSet generalizing start with
  | nil => simp [receivedSetMaskFrom]
  | cons c receivedSet ih =>
      rw [receivedSetMaskFrom, Nat.testBit_or, ih]
      rcases lt_trichotomy start i with hlt | rfl | hgt
      · -- the bit belongs to one of the other characters
        have hindex : i - start = i - (start + 1) + 1 := by omega
        have hle : start + 1 ≤ i := hlt
        by_cases hc : c = '1' <;> simp [hindex, hlt.le, hle, hlt.ne, hc]
      · by_cases hc : c = '1' <;> simp [hc]
      · have hle : ¬ start + 1 ≤ i := by omega
        by_cases hc : c = '1' <;> simp [hgt.not_ge, hle, hgt.ne', hc]

/-- A set of the right length that is all ones. -/
theorem eq_replicate_of_allPartsMask {receivedSet : Text} {partCount : PartCount}
    (hlength : receivedSetMatchesPartCount receivedSet partCount = true)
    (hmask : convertReceivedSetToPartsMask receivedSet = some (calculateAllPartsMask partCount)) :
    receivedSet = List.replicate partCount.val '1' := by
  have hlength : receivedSet.length = partCount.val := by
    simpa [receivedSetMatchesPartCount] using hlength
  unfold convertReceivedSetToPartsMask at hmask
  split at hmask
  swap
  · cases hmask
  have hmask := Option.some.inj hmask
  refine List.eq_replicate_iff.2 ⟨hlength, fun c hc => ?_⟩
  obtain ⟨i, hi, rfl⟩ := List.mem_iff_getElem.1 hc
  have hbit := testBit_receivedSetMaskFrom receivedSet 0 i
  rw [hmask, calculateAllPartsMask, Nat.testBit_two_pow_sub_one] at hbit
  have hlt : i < partCount.val := hlength ▸ hi
  simpa [hlt, hi] using hbit

/-! ### The rows after a confirmation -/

/-- The row was not confirmed, nor was its set changed; a queued one may have been armed. -/
structure RowKept (d e : MessageDelivery) : Prop where
  id : e.id = d.id
  mask : e.partsReceivedMask = d.partsReceivedMask
  state : e.state = d.state ∨ d.state = .queuedForRefresh ∧ e.state = .pending
  round : SameRound d e ∨ ArmedAgain d e

theorem RowKept.refl (d : MessageDelivery) : RowKept d d :=
  ⟨rfl, rfl, Or.inl rfl, Or.inl (.refl d)⟩

theorem HandsOver.rows {settings : RelaySettings} {db db' : Db} {d e : MessageDelivery} {now : Time}
    (h : HandsOver settings db db' d e now) (hd : d ∈ db.deliveries) (hid : e.id = d.id)
    (hstate : e.state = .delivered) {d' : MessageDelivery} (hd' : d' ∈ db'.deliveries) :
    d' = e ∨ ∃ q ∈ db.deliveries, q.id ≠ d.id ∧ RowKept q d' := by
  have hput : ∀ {x : MessageDelivery}, x ∈ (db.putDelivery e).deliveries ↔
      x = e ∨ x ∈ db.deliveries ∧ key x ≠ key d := Table.mem_put_iff hd hid
  have hfirst : ∀ {x : MessageDelivery}, x ∈ (db.putDelivery e).deliveries →
      x = e ∨ ∃ q ∈ db.deliveries, q.id ≠ d.id ∧ RowKept q x := by
    intro x hx
    rcases hput.1 hx with rfl | ⟨hx, hne⟩
    · exact Or.inl rfl
    · exact Or.inr ⟨x, hx, hne, .refl x⟩
  rcases h with rfl | ⟨q, hq, sid, hqueued, -, rfl⟩
  · exact hfirst hd'
  · rcases (Table.mem_put_iff (r := armedDelivery settings q now) hq rfl).1 hd' with
      rfl | ⟨hd', -⟩
    · rcases hput.1 hq with rfl | ⟨hq, hne⟩
      · rw [hqueued.2] at hstate
        cases hstate
      · exact Or.inr ⟨q, hq, hne, rfl, rfl, Or.inr ⟨hqueued.2, rfl⟩, Or.inr (.armed settings q now)⟩
    · exact hfirst hd'

/-! ### What a `K` reports -/

/-- The message an acknowledgement or a read of the device names. -/
def namedMessage? (db : Db) (deviceId : ℕ) (senderUsername : Text) (messageId : ℕ) :
    Option Message :=
  (lockDeviceForKeyShare db deviceId).bind fun userId =>
    (lockIncomingMessage db userId senderUsername messageId).map Prod.fst

/-- What the input reports of a delivery: the set of a `K` from its device for its message, when
the set has one character per part and the delivery is waiting or failed. -/
def reportedMask? (db : Db) (input : Input) (d : MessageDelivery) : Option ℕ :=
  match input.event with
  | .deliveryAcknowledgement deviceId acknowledgement _ =>
      (namedMessage? db deviceId acknowledgement.senderUsername acknowledgement.messageId).bind
        fun message =>
          if d.deviceId = deviceId ∧ d.messageId = message.id ∧
              d.state ∈ deliveryStatesAConfirmationDelivers ∧
              receivedSetMatchesPartCount acknowledgement.receivedSet message.partCount = true then
            convertReceivedSetToPartsMask acknowledgement.receivedSet
          else none
  | _ => none

/-- The request that confirms a delivery: a `K` from its device for its message whose set is all
ones, one for each part, or an `R` from its device for its message. -/
inductive ConfirmsDelivery (db : Db) (input : Input) (d : MessageDelivery) : Prop
  | acknowledged (acknowledgement : DeliveryAcknowledgement) (now : Time) (m : Message)
      (hevent : input.event = .deliveryAcknowledgement d.deviceId acknowledgement now)
      (hnamed : namedMessage? db d.deviceId acknowledgement.senderUsername
        acknowledgement.messageId = some m) (hmessage : d.messageId = m.id)
      (hset : acknowledgement.receivedSet = List.replicate m.partCount.val '1')
  | read (request : ReadRequest) (now : Time) (m : Message)
      (hevent : input.event = .read d.deviceId request now)
      (hnamed : namedMessage? db d.deviceId request.senderUsername request.messageId = some m)
      (hmessage : d.messageId = m.id)

/-- How a request treats a row: it is kept, its set is replaced by the reported one, or it is
confirmed. -/
inductive RowReported (db : Db) (input : Input) (d e : MessageDelivery) : Prop
  | kept (hkept : RowKept d e) (hreport : reportedMask? db input d = none)
  | reported (hid : e.id = d.id) (hstate : e.state = d.state)
      (hreport : reportedMask? db input d = some e.partsReceivedMask)
      (hround : ReportedRound d e)
  | confirmed (hid : e.id = d.id) (hstate : e.state = .delivered)
      (hconfirms : ConfirmsDelivery db input d) (hround : SameRound d e)

section Reports

variable {input : Input} {db db' : Db} {deviceId : ℕ} {now : Time}

theorem reportedMask?_of_other {d : MessageDelivery}
    (hevent : ∀ deviceId acknowledgement now,
      input.event ≠ .deliveryAcknowledgement deviceId acknowledgement now) :
    reportedMask? db input d = none := by
  unfold reportedMask?
  split
  · next h => exact absurd h (hevent _ _ _)
  · rfl

/-- A `K` that names no message, or one the delivery is not for, reports nothing of it. -/
theorem reportedMask?_eq_none {d : MessageDelivery} {acknowledgement : DeliveryAcknowledgement}
    (hevent : input.event = .deliveryAcknowledgement deviceId acknowledgement now)
    (hnot : ∀ m, namedMessage? db deviceId acknowledgement.senderUsername
      acknowledgement.messageId = some m → d.deviceId = deviceId → d.messageId = m.id →
      d.state ∈ deliveryStatesAConfirmationDelivers →
      receivedSetMatchesPartCount acknowledgement.receivedSet m.partCount = true →
      convertReceivedSetToPartsMask acknowledgement.receivedSet = none) :
    reportedMask? db input d = none := by
  unfold reportedMask?
  rw [hevent]
  dsimp only
  cases hnamed : namedMessage? db deviceId acknowledgement.senderUsername
    acknowledgement.messageId with
  | none => rfl
  | some m =>
      rw [Option.bind_some]
      split
      · next h => exact hnot m hnamed h.1 h.2.1 h.2.2.1 h.2.2.2
      · rfl

/-- **The rows after a `K`.** -/
theorem rowReported_recordDeliveryAcknowledgement (hdb : Consistent db)
    {acknowledgement : DeliveryAcknowledgement}
    (hevent : input.event = .deliveryAcknowledgement deviceId acknowledgement now)
    {summary : String}
    (h : recordDeliveryAcknowledgement input.settings db deviceId acknowledgement now =
      .ok (db', summary)) {e : MessageDelivery} (he : e ∈ db'.deliveries) :
    ∃ d ∈ db.deliveries, RowReported db input d e := by
  unfold recordDeliveryAcknowledgement at h
  split at h
  · next hnone =>
      obtain ⟨rfl, -⟩ := Prod.mk.injEq .. ▸ Except.ok.inj h
      refine ⟨e, he, .kept (.refl e) (reportedMask?_eq_none hevent fun m hm => ?_)⟩
      simp [namedMessage?, hnone] at hm
  next userId huser =>
  split at h
  · next hnone =>
      obtain ⟨rfl, -⟩ := Prod.mk.injEq .. ▸ Except.ok.inj h
      refine ⟨e, he, .kept (.refl e) (reportedMask?_eq_none hevent fun m hm => ?_)⟩
      simp [namedMessage?, huser, hnone] at hm
  next message sender hlock =>
  have hnamed : namedMessage? db deviceId acknowledgement.senderUsername
      acknowledgement.messageId = some message := by
    simp [namedMessage?, huser, hlock]
  obtain ⟨hm, haccepted, -⟩ := lockIncomingMessage_eq_some hlock
  split at h
  · next hlength =>
      obtain ⟨rfl, -⟩ := Prod.mk.injEq .. ▸ Except.ok.inj h
      refine ⟨e, he, .kept (.refl e) (reportedMask?_eq_none hevent fun m hm _ _ _ hmatch => ?_)⟩
      obtain rfl := Option.some.inj (hnamed.symm.trans hm)
      exact absurd hmatch hlength
  next hlength =>
  have hlength := not_not.1 hlength
  split at h
  · next hnone =>
      obtain ⟨rfl, -⟩ := Prod.mk.injEq .. ▸ Except.ok.inj h
      refine ⟨e, he, .kept (.refl e) (reportedMask?_eq_none hevent fun m hm hdevice hmessage => ?_)⟩
      obtain rfl := Option.some.inj (hnamed.symm.trans hm)
      have hfalse := Table.first?_eq_none.1 hnone e he
      simp [hdevice, hmessage] at hfalse
  next d hlock' =>
  obtain ⟨hd, hmessage, hdevice⟩ := lockDelivery_eq_some hlock'
  -- the other rows are none of the report's business
  have hother : ∀ q ∈ db.deliveries, q.id ≠ d.id → reportedMask? db input q = none := by
    intro q hq hne
    refine reportedMask?_eq_none hevent fun m hm hqdevice hqmessage => ?_
    obtain rfl := Option.some.inj (hnamed.symm.trans hm)
    exact absurd (congrArg MessageDelivery.id (hdb.deliveries_unique q hq d hd
      (hqmessage.trans hmessage.symm) (hqdevice.trans hdevice.symm))) hne
  have hreport : ∀ mask, d.state ∈ deliveryStatesAConfirmationDelivers →
      convertReceivedSetToPartsMask acknowledgement.receivedSet = some mask →
      reportedMask? db input d = some mask := by
    intro mask hstate hmask
    unfold reportedMask?
    rw [hevent]
    dsimp only
    rw [hnamed, Option.bind_some, if_pos ⟨hdevice, hmessage, hstate, hlength⟩, hmask]
  unfold recordDeliveryStatus at h
  rw [recordDeliveryAcknowledgementTime_of_mem hd] at h
  dsimp only at h
  have hmem : acknowledgedDelivery d now ∈
      (db.putDelivery (acknowledgedDelivery d now)).deliveries := Table.mem_put_self hd rfl
  have hput : ∀ {f x : MessageDelivery}, f.id = d.id → x ∈ (db.putDelivery f).deliveries →
      x = f ∨ x ∈ db.deliveries ∧ x.id ≠ d.id := fun hid hx => (Table.mem_put_iff hd hid).1 hx
  split at h
  · next hterminal =>
      obtain ⟨rfl, -⟩ := Prod.mk.injEq .. ▸ Except.ok.inj h
      rcases hput (f := acknowledgedDelivery d now) rfl he with rfl | ⟨he, hne⟩
      · have hround : SameRound d (acknowledgedDelivery d now) := { SameRound.refl d with }
        refine ⟨d, hd, .kept ⟨rfl, rfl, Or.inl rfl, Or.inl hround⟩
          (reportedMask?_eq_none hevent ?_)⟩
        exact fun _ _ _ _ hstate => absurd hstate hterminal
      · exact ⟨e, he, .kept (.refl e) (hother e he hne)⟩
  next hstate =>
  have hstate : d.state ∈ deliveryStatesAConfirmationDelivers := not_not.1 hstate
  split at h
  · cases h
  next mask hmask =>
  split at h
  · -- a set with zeros
    obtain ⟨rfl, -⟩ := Prod.mk.injEq .. ▸ Except.ok.inj h
    rw [recordIncompleteDeliveryStatus_of_mem input.settings now hmem hstate] at he
    obtain ⟨hid, -, -, hstate', -, hmask'⟩ := incompleteStatusDelivery_keeps input.settings now
      (db.putDelivery (acknowledgedDelivery d now)) (acknowledgedDelivery d now) mask
    rw [putDelivery_putDelivery _ hid.symm] at he
    rcases hput hid he with rfl | ⟨he, hne⟩
    · have hround := reportedRound_incompleteStatusDelivery input.settings now
        (db.putDelivery (acknowledgedDelivery d now)) (acknowledgedDelivery d now) mask
      exact ⟨d, hd, .reported hid hstate' (by rw [hreport mask hstate hmask, hmask'])
        { hround with }⟩
    · exact ⟨e, he, .kept (.refl e) (hother e he hne)⟩
  · -- a set of all ones
    next hcomplete =>
    obtain rfl : mask = calculateAllPartsMask message.partCount := not_not.1 hcomplete
    obtain ⟨rfl, -⟩ := Prod.mk.injEq .. ▸ Except.ok.inj h
    have hhands := handsOver_deliver input.settings now hmem hstate
      (some (calculateAllPartsMask message.partCount)) false
    rw [(concludeConfirmation_frame input.settings now (hhands.deliveriesOnly.messages ▸ hm)
      haccepted _ _).2] at he
    rcases hhands.rows hmem rfl rfl he with rfl | ⟨q, hq, hne, hkept⟩
    · exact ⟨d, hd, .confirmed rfl rfl (.acknowledged acknowledgement now message
        (hdevice ▸ hevent) (hdevice ▸ hnamed) hmessage
        (eq_replicate_of_allPartsMask hlength hmask))
        { SameRound.delivered (acknowledgedDelivery d now) now _ false with }⟩
    · rcases hput (f := acknowledgedDelivery d now) rfl hq with rfl | ⟨hq, -⟩
      · exact absurd rfl hne
      · exact ⟨q, hq, .kept hkept (hother q hq hne)⟩

/-- The delivery of a message to a device is found. -/
theorem lockDelivery_of_mem (hdb : Consistent db) {d : MessageDelivery} (hd : d ∈ db.deliveries)
    {messageId : ℕ} (hmessage : d.messageId = messageId) (hdevice : d.deviceId = deviceId) :
    lockDelivery db messageId deviceId = some d := by
  refine Table.first?_eq_of_unique hd (by simp [hmessage, hdevice]) fun e he hcond => ?_
  simp only [Bool.and_eq_true, decide_eq_true_eq] at hcond
  exact hdb.deliveries_unique e he d hd (hcond.1.trans hmessage.symm) (hcond.2.trans hdevice.symm)

/-- A `K` that fails reports nothing. -/
theorem reportedMask?_of_error (hdb : Consistent db) {acknowledgement : DeliveryAcknowledgement}
    (hevent : input.event = .deliveryAcknowledgement deviceId acknowledgement now)
    {serviceError : ServiceError}
    (h : recordDeliveryAcknowledgement input.settings db deviceId acknowledgement now =
      .error serviceError) {d : MessageDelivery} (hd : d ∈ db.deliveries) :
    reportedMask? db input d = none := by
  refine reportedMask?_eq_none hevent fun m hnamed hdevice hmessage hstate hmatch => ?_
  cases hmask : convertReceivedSetToPartsMask acknowledgement.receivedSet with
  | none => rfl
  | some mask =>
      obtain ⟨userId, huser, hlock⟩ := Option.bind_eq_some_iff.1 hnamed
      obtain ⟨⟨message, sender⟩, hlocked, rfl⟩ := Option.map_eq_some_iff.1 hlock
      unfold recordDeliveryAcknowledgement at h
      rw [huser] at h
      dsimp only at h
      rw [hlocked] at h
      dsimp only at h
      rw [if_neg (not_not.2 hmatch), lockDelivery_of_mem hdb hd hmessage hdevice] at h
      dsimp only at h
      unfold recordDeliveryStatus at h
      rw [recordDeliveryAcknowledgementTime_of_mem hd] at h
      dsimp only at h
      split at h
      · cases h
      split at h
      · next hnone =>
          rw [hmask] at hnone
          cases hnone
      · split at h <;> cases h

/-- A read of a delivered message keeps its row, apart from the time of the first read. -/
theorem recordDeliveryRead_of_mem {d : MessageDelivery} (hd : d ∈ db.deliveries)
    (hstate : d.state = .delivered) (now : Time) :
    ∃ e, (recordDeliveryRead db d now).1 = db.putDelivery e ∧ RowKept d e := by
  unfold recordDeliveryRead
  split
  · exact ⟨d, by rw [Db.putDelivery, Table.put_self hd], .refl d⟩
  · rw [updateLockedDelivery_of_state hd (by simp [hstate])]
    exact ⟨_, rfl, rfl, rfl, Or.inl rfl, Or.inl { SameRound.refl d with }⟩

/-- **The rows after an `R`.** -/
theorem rowReported_recordRead {request : ReadRequest}
    (hevent : input.event = .read deviceId request now) {e : MessageDelivery}
    (he : e ∈ (recordRead input.settings db deviceId request now).1.deliveries) :
    ∃ d ∈ db.deliveries, RowReported db input d e := by
  have hreport : ∀ d, reportedMask? db input d = none := by
    intro d
    refine reportedMask?_of_other fun _ _ _ hother => ?_
    rw [hevent] at hother
    cases hother
  have hsame : e ∈ db.deliveries → ∃ d ∈ db.deliveries, RowReported db input d e :=
    fun he => ⟨e, he, .kept (.refl e) (hreport e)⟩
  unfold recordRead at he
  split at he
  · exact hsame he
  next userId huser =>
  split at he
  · exact hsame he
  next message sender hlock =>
  obtain ⟨hm, haccepted, -⟩ := lockIncomingMessage_eq_some hlock
  have hnamed : namedMessage? db deviceId request.senderUsername request.messageId =
      some message := by
    simp [namedMessage?, huser, hlock]
  dsimp only at he
  unfold recordReadOfMessage at he
  dsimp only at he
  -- the rows before the message and its receipts are looked at
  have hrows : DeliveriesOnly db (confirmDeliveryByRead input.settings db
        (lockDelivery db message.id deviceId) now).1 ∧
      ∀ e ∈ (confirmDeliveryByRead input.settings db
        (lockDelivery db message.id deviceId) now).1.deliveries,
        ∃ d ∈ db.deliveries, RowReported db input d e := by
    have hunchanged : ∀ e ∈ db.deliveries, ∃ d ∈ db.deliveries, RowReported db input d e :=
      fun e he => ⟨e, he, .kept (.refl e) (hreport e)⟩
    unfold confirmDeliveryByRead
    split
    · exact ⟨.refl db, hunchanged⟩
    next d hd' =>
    obtain ⟨hd, hmessage, hdevice⟩ := lockDelivery_eq_some hd'
    split
    · next hstate =>
        have hhands := handsOver_deliver input.settings now hd hstate none true
        refine ⟨hhands.deliveriesOnly, fun e he => ?_⟩
        rcases hhands.rows hd rfl rfl he with rfl | ⟨q, hq, -, hkept⟩
        · exact ⟨d, hd, .confirmed rfl rfl (.read request now message (hdevice ▸ hevent)
            (hdevice ▸ hnamed) hmessage) (.delivered d now none true)⟩
        · exact ⟨q, hq, .kept hkept (hreport q)⟩
    split
    · next hstate =>
        obtain ⟨e', hrecorded, hkept⟩ := recordDeliveryRead_of_mem hd hstate now
        split
        next db₁ _ _ heq =>
        obtain rfl : db₁ = db.putDelivery e' := by rw [← hrecorded, heq]
        refine ⟨.putDelivery db e', fun e he => ?_⟩
        rcases (Table.mem_put_iff hd hkept.id).1 he with rfl | ⟨he, -⟩
        · exact ⟨d, hd, .kept hkept (hreport d)⟩
        · exact hunchanged e he
    · exact ⟨.refl db, hunchanged⟩
  rw [(concludeConfirmation_frame input.settings now (hrows.1.messages ▸ hm) haccepted _ _).2] at he
  exact hrows.2 e he

/-! ### The rows after any other request -/

/-- The row after a transaction that is neither a `K` nor an `R`: it is delivered when it was, and
holds the same set, unless a refresh revived it from its cancellation. -/
structure RowOfOther (input : Input) (d e : MessageDelivery) : Prop where
  id : e.id = d.id
  delivered : e.state = .delivered ↔ d.state = .delivered
  kept : ¬ (d.state = .cancelled ∧ e.state ≠ .cancelled) → e.partsReceivedMask = d.partsReceivedMask
  revived : d.state = .cancelled → e.state ≠ .cancelled → e.partsReceivedMask = 0 ∧
    ∃ deviceId request inboundId now, input.event = .refresh deviceId request inboundId now
  cancelled : d.state ≠ .cancelled → e.state = .cancelled →
    ∃ deviceId request salt now, input.event = .account deviceId request salt now

theorem RowOfOther.refl (d : MessageDelivery) : RowOfOther input d d :=
  ⟨rfl, Iff.rfl, fun _ => rfl, fun h hne => absurd h hne, fun hne h => absurd h hne⟩

/-- A change that moves between live states and keeps the set. -/
theorem RowOfOther.live {d e f : MessageDelivery} (h : RowOfOther input d e) (hid : f.id = e.id)
    (hdelivered : f.state = .delivered ↔ e.state = .delivered)
    (hcancelled : f.state = .cancelled ↔ e.state = .cancelled)
    (hmask : f.partsReceivedMask = e.partsReceivedMask) : RowOfOther input d f where
  id := hid.trans h.id
  delivered := hdelivered.trans h.delivered
  kept hnot := hmask.trans (h.kept fun hand => hnot ⟨hand.1, fun hf => hand.2 (hcancelled.1 hf)⟩)
  revived hd hf := by
    rw [hmask]
    exact h.revived hd fun he => hf (hcancelled.2 he)
  cancelled hd hf := h.cancelled hd (hcancelled.1 hf)

/-- **One write.** -/
theorem RowOfOther.change {a : Phase × Db} {d e f : MessageDelivery} (h : RowOfOther input d e)
    (hevent : input.event.confirms = false) (hchange : DeliveryChange input a e f) :
    RowOfOther input d f := by
  have hreport : ∀ {db : Db} {m : Message} {mask : ℕ}, ¬ DeliveryReport input db e m mask := by
    rintro db m mask ⟨-, acknowledgement, now, heq, -⟩
    rw [heq] at hevent
    cases hevent
  obtain ⟨phase, db⟩ := a
  cases hchange with
  | round change =>
      obtain ⟨hid, -, -, hstate, -⟩ := change.keeps
      refine h.live hid (by rw [hstate]) (by rw [hstate]) ?_
      cases change with
      | reportedPending message mask hstate hreported => exact absurd hreported hreport
      | reported message mask hstate hreported => exact absurd hreported hreport
      | _ => rfl
  | moved change =>
      cases change with
      | exhausted now hscheduling hstate => exact h.live rfl (by simp [hstate]) (by simp [hstate]) rfl
      | stopped sid now hscheduling hqueued =>
          exact h.live rfl (by simp [hqueued.2]) (by simp [hqueued.2]) rfl
      | armed sid now hqueued => exact h.live rfl (by simp [hqueued.2]) (by simp [hqueued.2]) rfl
      | takenOver message sid htake =>
          obtain ⟨request, inboundId, now, hrefresh⟩ := htake.event
          have hnot : e.state ≠ .delivered := by
            intro hstate
            have htaken := htake.taken
            simp [isTakenOverByARefresh, hstate] at htaken
          by_cases hstate : e.state = .cancelled
          · -- a cancelled row was cancelled before this transaction
            have hd : d.state = .cancelled := by
              by_contra hne
              obtain ⟨_, _, _, _, haccount⟩ := h.cancelled hne hstate
              rw [hrefresh] at haccount
              cases haccount
            refine ⟨h.id, by simp [hd], fun hnot => absurd ⟨hd, by simp⟩ hnot, fun _ _ => ?_,
              fun hne => absurd hd hne⟩
            exact ⟨by simp [hstate], _, request, inboundId, now, hrefresh⟩
          · refine h.live rfl ?_ ?_ ?_
            · simp [hnot]
            · simp [hstate]
            · simp [hstate]
  | delivered hstate hm hdelivered hread confirmed =>
      cases confirmed with
      | acknowledged hreported =>
          obtain ⟨-, acknowledgement, now, heq, -⟩ := hreported
          rw [heq] at hevent
          cases hevent
      | read request now heq =>
          rw [heq] at hevent
          cases hevent
  | readAgain hstate => exact h.live rfl Iff.rfl Iff.rfl rfl
  | cancelled hstate haccount =>
      obtain ⟨request, salt, haccount⟩ := haccount
      have hlive : e.state ≠ .delivered ∧ e.state ≠ .cancelled := by
        simp only [nonTerminalDeliveryStates, List.mem_cons, List.not_mem_nil, or_false] at hstate
        rcases hstate with hstate | hstate | hstate <;> simp [hstate]
      have hdelivered := h.delivered.not.1 hlive.1
      have hd : d.state ≠ .cancelled := by
        intro hd
        obtain ⟨-, _, _, _, _, hrefresh⟩ := h.revived hd hlive.2
        rw [haccount] at hrefresh
        cases hrefresh
      refine ⟨h.id, by simp [hdelivered], fun _ => ?_, fun hd' => absurd hd' hd, fun _ _ => ?_⟩
      · exact h.kept fun hand => hd hand.1
      · exact ⟨_, request, salt, _, haccount⟩

end Reports

/-! ### Every step -/

/-- The row after a step, from the row before it. -/
structure RowStepped (db : Db) (input : Input) (d e : MessageDelivery) : Prop where
  id : e.id = d.id
  confirmed : e.state = .delivered → d.state = .delivered ∨ ConfirmsDelivery db input d
  terminal : d.state = .delivered → e.state = .delivered
  mask : e.state ≠ .delivered → e.partsReceivedMask =
    if d.state = .cancelled ∧ e.state ≠ .cancelled then 0
    else (reportedMask? db input d).getD d.partsReceivedMask

section Step

variable {hashing : PasswordHashing} {input : Input} {db : Db}

theorem reportedMask?_eq_some {d : MessageDelivery} {mask : ℕ}
    (h : reportedMask? db input d = some mask) :
    d.state ∈ deliveryStatesAConfirmationDelivers := by
  unfold reportedMask? at h
  split at h
  · obtain ⟨m, -, hm⟩ := Option.bind_eq_some_iff.1 h
    split at hm
    · next hcond => exact hcond.2.2.1
    · cases hm
  · cases h

theorem ConfirmsDelivery.not_other {d : MessageDelivery} (h : ConfirmsDelivery db input d) :
    input.event.confirms = true := by
  cases h with
  | acknowledged acknowledgement now m hevent => rw [hevent]; rfl
  | read request now m hevent => rw [hevent]; rfl

theorem RowReported.stepped {d e : MessageDelivery} (h : RowReported db input d e) :
    RowStepped db input d e := by
  cases h with
  | kept hkept hreport =>
      obtain ⟨hid, hmask, hstate⟩ := hkept
      have hcancelled : ¬ (d.state = .cancelled ∧ e.state ≠ .cancelled) := by
        rintro ⟨hd, he⟩
        rcases hstate with hstate | ⟨hstate, -⟩
        · exact he (hstate.trans hd)
        · rw [hd] at hstate
          cases hstate
      refine ⟨hid, fun he => ?_, fun hd => ?_, fun _ => ?_⟩
      · rcases hstate with hstate | ⟨-, hstate⟩
        · exact Or.inl (hstate.symm.trans he)
        · rw [he] at hstate
          cases hstate
      · rcases hstate with hstate | ⟨hstate, -⟩
        · exact hstate.trans hd
        · rw [hd] at hstate
          cases hstate
      · rw [if_neg hcancelled, hreport, hmask]
        rfl
  | reported hid hstate hreport =>
      have hlive := reportedMask?_eq_some hreport
      refine ⟨hid, fun he => Or.inl (hstate.symm.trans he), fun hd => hstate.trans hd, fun _ => ?_⟩
      rw [if_neg fun hand => hand.2 (hstate.trans hand.1), hreport]
      rfl
  | confirmed hid hstate hconfirms =>
      exact ⟨hid, fun _ => Or.inr hconfirms, fun _ => hstate, fun he => absurd hstate he⟩

theorem RowOfOther.stepped {d e : MessageDelivery} (h : RowOfOther input d e)
    (hother : input.event.confirms = false) : RowStepped db input d e where
  id := h.id
  confirmed he := Or.inl (h.delivered.1 he)
  terminal hd := h.delivered.2 hd
  mask _ := by
    have hreport : reportedMask? db input d = none := by
      refine reportedMask?_of_other fun _ _ _ heq => ?_
      rw [heq] at hother
      cases hother
    split
    · next hrevived => exact (h.revived hrevived.1 hrevived.2).1
    · next hkept =>
        rw [hreport]
        exact h.kept hkept

/-- **Every row after a step** was there before it, or is new and holds an empty set. -/
theorem step_deliveries (hashing : PasswordHashing) (hdb : Consistent db) {e : MessageDelivery}
    (he : e ∈ (step hashing db input).1.deliveries) :
    (∃ d ∈ db.deliveries, RowStepped db input d e) ∨
      db.deliveries.get? e.id = none ∧ e.partsReceivedMask = 0 ∧ e.state ≠ .delivered := by
  by_cases hconfirms : input.event.confirms = true
  · left
    cases hevent : input.event with
    | deliveryAcknowledgement deviceId acknowledgement now =>
        simp only [step, hevent] at he
        cases hrecord : recordDeliveryAcknowledgement input.settings db deviceId acknowledgement
          now with
        | error serviceError =>
            rw [hrecord] at he
            exact ⟨e, he, (RowReported.kept (.refl e)
              (reportedMask?_of_error hdb hevent hrecord he)).stepped⟩
        | ok committed =>
            rw [hrecord] at he
            obtain ⟨d, hd, hreported⟩ :=
              rowReported_recordDeliveryAcknowledgement hdb hevent hrecord he
            exact ⟨d, hd, hreported.stepped⟩
    | read deviceId request now =>
        simp only [step, hevent] at he
        obtain ⟨d, hd, hreported⟩ := rowReported_recordRead hevent he
        exact ⟨d, hd, hreported.stepped⟩
    | _ =>
        rw [hevent] at hconfirms
        cases hconfirms
  · have hother : input.event.confirms = false := by simpa using hconfirms
    have hrows := (step_invariant hashing input hdb (P := fun db' =>
      db.deliveries.nextKey ≤ db'.deliveries.nextKey ∧ ∀ e ∈ db'.deliveries,
        (∃ d ∈ db.deliveries, RowOfOther input d e) ∨
          db.deliveries.nextKey ≤ e.id ∧ e.partsReceivedMask = 0 ∧ e.state ≠ .delivered)
      ⟨le_rfl, fun e he => Or.inl ⟨e, he, .refl e⟩⟩ fun a b _ hold hwrite =>
        ⟨hold.1.trans hwrite.deliveries.nextKey, fun f hf => ?_⟩).2.2 e he
    · rcases hrows with ⟨d, hd, hrow⟩ | ⟨hnew, hrest⟩
      · exact Or.inl ⟨d, hd, hrow.stepped hother⟩
      · refine Or.inr ⟨?_, hrest⟩
        by_contra hne
        obtain ⟨d, hd⟩ := Option.ne_none_iff_exists'.1 hne
        have hid : d.id = e.id := Table.key_of_get? hd
        have hlt := db.deliveries.below d (Table.mem_of_get? hd)
        rw [key_delivery, hid] at hlt
        omega
    · rcases hwrite.deliveries.origin hf with hf | ⟨e', he', hkey, hchange⟩ | ⟨hnew, hcreated⟩
      · exact hold.2 f hf
      · rcases hold.2 e' he' with ⟨d, hd, hrow⟩ | ⟨hnew, hmask, hstate⟩
        · exact Or.inl ⟨d, hd, hrow.change hother hchange⟩
        · have hrow := (RowOfOther.refl e').change hother hchange
          refine Or.inr ⟨hrow.id ▸ hnew, ?_, hrow.delivered.not.2 hstate⟩
          by_cases hrevived : e'.state = .cancelled ∧ f.state ≠ .cancelled
          · exact (hrow.revived hrevived.1 hrevived.2).1
          · rw [hrow.kept hrevived, hmask]
      · refine Or.inr ⟨hold.1.trans hnew, ?_⟩
        obtain ⟨phase, db₁⟩ := a
        cases hcreated with
        | pending => exact ⟨rfl, by simp⟩
        | owned => exact ⟨rfl, by simp⟩

end Step

/-! ### The latest report -/

/-- The set of the latest `K` of each delivery, after one more step: nothing for a delivery that is
created or revived, and else what this step reports, if anything. -/
def latestReport (reported : ℕ → ℕ) (db : Db) (input : Input) (db' : Db) (deliveryId : ℕ) : ℕ :=
  match db.deliveries.get? deliveryId with
  | none => 0
  | some d =>
      if d.state = .cancelled ∧
          (db'.deliveries.get? deliveryId).any (fun e => e.state ≠ .cancelled) = true then 0
      else (reportedMask? db input d).getD (reported deliveryId)

/-- The machine with the latest reports beside its database. -/
def reportingEngine (hashing : PasswordHashing) : Machine (Db × (ℕ → ℕ)) Input Outcome :=
  (engine hashing).instrument (fun _ => 0) latestReport

/-- **A row that is not delivered holds the set of the latest `K`.** -/
theorem latestReport_of_run {hashing : PasswordHashing} {history : List (Input × Outcome)} {db : Db}
    (run : (engine hashing).Run Db.empty history db) :
    ∃ reported, (reportingEngine hashing).Run (Db.empty, fun _ => 0) history (db, reported) ∧
      ∀ d ∈ db.deliveries, d.state ≠ .delivered → d.partsReceivedMask = reported d.id := by
  obtain ⟨reported, run'⟩ : ∃ reported,
      (reportingEngine hashing).Run (Db.empty, fun _ => 0) history (db, reported) :=
    run.instrument fun _ => 0
  refine ⟨reported, run', ?_⟩
  refine (run'.invariant (P := fun _ s => Consistent s.1 ∧ ∀ d ∈ s.1.deliveries,
    d.state ≠ .delivered → d.partsReceivedMask = s.2 d.id) ⟨.empty, fun d hd =>
      absurd hd (Table.not_mem_empty d)⟩ ?_).2
  rintro before ⟨db, reported⟩ input - - ⟨hdb, hold⟩
  refine ⟨(step_invariant hashing input hdb (P := fun _ => True) trivial
    fun _ _ _ _ _ => trivial).1, fun e he hstate => ?_⟩
  show e.partsReceivedMask = latestReport reported db input (step hashing db input).1 e.id
  have he : e ∈ (step hashing db input).1.deliveries := he
  have hfound : (step hashing db input).1.deliveries.get? e.id = some e := Table.get?_key he
  unfold latestReport
  rcases step_deliveries hashing hdb he with ⟨d, hd, hstepped⟩ | ⟨hnew, hmask, -⟩
  · have hbefore : db.deliveries.get? e.id = some d := hstepped.id ▸ Table.get?_key hd
    have hundelivered : d.state ≠ .delivered := fun h => hstate (hstepped.terminal h)
    rw [hbefore, hstepped.mask hstate, hfound, hold d hd hundelivered, hstepped.id]
    simp
  · rw [hnew]
    exact hmask

/-! ### The confirmation of a message -/

/-- The first delivery and the first read of a message never change. -/
structure IsLaterConfirmation (m m' : Message) : Prop where
  delivered : m.deliveredAt.isSome → m'.deliveredAt = m.deliveredAt
  read : m.readAt.isSome → m'.readAt = m.readAt

theorem IsLaterConfirmation.refl (m : Message) : IsLaterConfirmation m m :=
  ⟨fun _ => rfl, fun _ => rfl⟩

theorem IsLaterConfirmation.trans {m m' m'' : Message} (h : IsLaterConfirmation m m')
    (h' : IsLaterConfirmation m' m'') : IsLaterConfirmation m m'' where
  delivered hm := by
    have hsame := h.delivered hm
    exact (h'.delivered (hsame ▸ hm)).trans hsame
  read hm := by
    have hsame := h.read hm
    exact (h'.read (hsame ▸ hm)).trans hsame

theorem MessageChange.isLaterConfirmation {input : Input} {db : Db} {m m' : Message}
    (h : MessageChange input db m m') : IsLaterConfirmation m m' := by
  cases h with
  | @confirmed now isRead haccepted hevent =>
      constructor
      · intro hm
        obtain ⟨t, ht⟩ := Option.isSome_iff_exists.1 hm
        simp [ht]
      · intro hm
        obtain ⟨t, ht⟩ := Option.isSome_iff_exists.1 hm
        simp [ht]
  | partStored | accepted | forgotten => exact ⟨fun _ => rfl, fun _ => rfl⟩

/-- A delivered row belongs to a delivered message, and a read one to a read message. -/
def ConfirmationsOk (db : Db) : Prop :=
  ∀ d ∈ db.deliveries, ∀ m, db.messages.get? d.messageId = some m →
    (d.state = .delivered → m.deliveredAt.isSome) ∧
      (d.readAt.isSome → d.state = .delivered ∧ m.readAt.isSome)

theorem ConfirmationsOk.empty : ConfirmationsOk Db.empty :=
  fun d hd => absurd hd (Table.not_mem_empty d)

/-- What a change of a row keeps of its confirmation, and of its message's. -/
theorem DeliveryChange.confirmationOk {input : Input} {a : Phase × Db} {d e : MessageDelivery}
    {m : Message} (h : DeliveryChange input a d e) (hm : a.2.messages.get? d.messageId = some m)
    (hok : (d.state = .delivered → m.deliveredAt.isSome) ∧
      (d.readAt.isSome → d.state = .delivered ∧ m.readAt.isSome)) :
    (e.state = .delivered → m.deliveredAt.isSome) ∧
      (e.readAt.isSome → e.state = .delivered ∧ m.readAt.isSome) := by
  cases h with
  | round change =>
      rw [change.keeps.2.2.2.1, change.keeps_confirmation.2]
      exact hok
  | moved change =>
      obtain ⟨hd, he⟩ := change.not_delivered
      rw [change.keeps.2.2.2.2]
      exact ⟨fun h => absurd h he, fun h => absurd (hok.2 h).1 hd⟩
  | @delivered n now mask isRead hstate hn hdelivered hread confirmed =>
      obtain rfl := Option.some.inj (hm.symm.trans hn)
      refine ⟨fun _ => hdelivered, fun h => ⟨rfl, ?_⟩⟩
      cases isRead with
      | true => exact hread rfl
      | false => exact (hok.2 h).2
  | readAgain hstate hfirst hn hread =>
      obtain rfl := Option.some.inj (hm.symm.trans hn)
      exact ⟨hok.1, fun _ => ⟨hstate, hread⟩⟩
  | cancelled hstate =>
      refine ⟨by simp, fun h => ?_⟩
      rw [(hok.2 h).1] at hstate
      exact absurd hstate (by decide)

theorem ConfirmationsOk.write {input : Input} {a b : Phase × Db} (hdb : Consistent a.2)
    (hok : ConfirmationsOk a.2) (h : Write input a b) : ConfirmationsOk b.2 := by
  intro e he m' hm'
  -- the row and the message before the write
  have hmessage : ∀ {d : MessageDelivery}, d ∈ a.2.deliveries → d.messageId = e.messageId →
      ∃ m, a.2.messages.get? d.messageId = some m ∧ IsLaterConfirmation m m' := by
    intro d hd hsame
    obtain ⟨m, hm, -⟩ := (hdb.deliveries d hd).message
    refine ⟨m, hm, ?_⟩
    rw [← hsame] at hm'
    rcases h.messages.outcome hm with hkept | ⟨n, hn, hchange⟩ | ⟨hnone, -⟩
    · rw [hkept] at hm'
      obtain rfl := Option.some.inj hm'
      exact .refl m
    · rw [hn] at hm'
      obtain rfl := Option.some.inj hm'
      exact hchange.isLaterConfirmation
    · rw [hnone] at hm'
      cases hm'
  have hlater : ∀ {m : Message}, IsLaterConfirmation m m' →
      (e.state = .delivered → m.deliveredAt.isSome) ∧
        (e.readAt.isSome → e.state = .delivered ∧ m.readAt.isSome) →
      (e.state = .delivered → m'.deliveredAt.isSome) ∧
        (e.readAt.isSome → e.state = .delivered ∧ m'.readAt.isSome) := by
    intro m hlater hrow
    refine ⟨fun hstate => ?_, fun hread => ⟨(hrow.2 hread).1, ?_⟩⟩
    · have hm := hrow.1 hstate
      rwa [hlater.delivered hm]
    · have hm := (hrow.2 hread).2
      rwa [hlater.read hm]
  rcases h.deliveries.origin he with he | ⟨d, hd, -, hchange⟩ | ⟨-, hcreated⟩
  · obtain ⟨m, hm, hlater'⟩ := hmessage he rfl
    exact hlater hlater' (hok e he m hm)
  · obtain ⟨m, hm, hlater'⟩ := hmessage hd hchange.keeps.2.1.symm
    exact hlater hlater' (hchange.confirmationOk hm (hok d hd m hm))
  · obtain ⟨phase, db⟩ := a
    cases hcreated with
    | pending => exact ⟨by simp, by simp⟩
    | owned => exact ⟨by simp, by simp⟩

/-! ### The law -/

section Law

variable {hashing : PasswordHashing} {history : List (Input × Outcome)} {db : Db}

/-- A delivered row stays delivered. -/
def StaysDelivered (d e : MessageDelivery) : Prop := d.state = .delivered → e.state = .delivered

theorem StaysDelivered.change {input : Input} {a : Phase × Db} {d e f : MessageDelivery}
    (h : StaysDelivered d e) (hchange : DeliveryChange input a e f) : StaysDelivered d f := by
  intro hd
  have he := h hd
  cases hchange with
  | round change => exact change.keeps.2.2.2.1.trans he
  | moved change => exact absurd he change.not_delivered.1
  | delivered => rfl
  | readAgain => exact he
  | cancelled hstate =>
      rw [he] at hstate
      exact absurd hstate (by decide)

/-- **`DELIVERED` is terminal**, along the rest of every run. -/
theorem followed_deliveries {db' : Db} (hdb : Consistent db) {d : MessageDelivery}
    (hd : d ∈ db.deliveries) (run : (engine hashing).Run db history db') :
    Table.Followed StaysDelivered d db'.deliveries :=
  (run_invariant run hdb (P := fun db => Table.Followed StaysDelivered d db.deliveries)
    (Table.followed_of_mem id hd) fun _ _ _ _ _ hfollowed hwrite =>
      hfollowed.steps (fun _ _ _ hstays hchange => hstays.change hchange)
        hwrite.deliveries).2

/-- Nothing is sent for a delivered row. -/
theorem not_prepared_of_delivered (hdb : Consistent db) {d : MessageDelivery}
    (hfollowed : Table.Followed StaysDelivered d db.deliveries) (hstate : d.state = .delivered)
    (input : Input) {packet : OutboundPacket}
    (hpacket : packet ∈ (step hashing db input).1.packets)
    (hnew : db.packets.get? packet.id = none) : packet.messageDeliveryId ≠ some d.id := by
  intro hdelivery
  obtain ⟨db₁, now, device, -, hwrites, -, hwork, -⟩ := step_newPacket hdb hpacket hnew
  have hfollowed₁ := (hwrites.invariant hdb
    (P := fun b => Table.Followed StaysDelivered d b.2.deliveries) hfollowed
    fun _ _ _ hfollowed hwrite => hfollowed.steps
      (fun _ _ _ hstays hchange => hstays.change hchange) hwrite.deliveries).2
  rcases hwork with hwork | ⟨hreply, -⟩
  · cases hwork with
    | delivery e m sender partNumber partText he hpending _ _ _ _ _ _ _ hid =>
        have hsame : e.id = d.id := Option.some.inj (hid.symm.trans hdelivery)
        have hfound : db₁.deliveries.get? d.id = some e := hsame ▸ Table.get?_key he
        have hdelivered := hfollowed₁.later e hfound hstate
        rw [hpending] at hdelivered
        cases hdelivered
    | receipt _ _ _ _ _ _ _ _ _ _ _ _ _ _ _ _ hnone =>
        rw [hnone] at hdelivery
        cases hdelivery
  · rw [hreply.delivery] at hdelivery
    cases hdelivery

/-- **The confirmation law.**  In every run a delivery becomes delivered only in the step of a `K`
from its device whose own set is all ones, or of an `R` from its device; then it stays delivered,
and no packet is prepared for it.  Any other row holds the set of the latest `K`.  The first
delivery and the first read of a message never change, and go with those of its deliveries. -/
theorem delivered_only_by_the_device (run : (engine hashing).Run Db.empty history db) :
    (∀ input, ∀ e ∈ (step hashing db input).1.deliveries, e.state = .delivered →
      ∃ d, db.deliveries.get? e.id = some d ∧
        (d.state = .delivered ∨ ConfirmsDelivery db input d)) ∧
    (∀ d ∈ db.deliveries, d.state = .delivered → ∀ rest db', (engine hashing).Run db rest db' →
      (∀ e, db'.deliveries.get? d.id = some e → e.state = .delivered) ∧
      ∀ input, ∀ packet ∈ (step hashing db' input).1.packets,
        db'.packets.get? packet.id = none → packet.messageDeliveryId ≠ some d.id) ∧
    (∃ reported, (reportingEngine hashing).Run (Db.empty, fun _ => 0) history (db, reported) ∧
      ∀ d ∈ db.deliveries, d.state ≠ .delivered → d.partsReceivedMask = reported d.id) ∧
    (∀ m ∈ db.messages, (m.readAt.isSome → m.deliveredAt.isSome) ∧
      ∀ rest db', (engine hashing).Run db rest db' →
        ∀ m', db'.messages.get? m.id = some m' → IsLaterConfirmation m m') ∧
    ∀ d ∈ db.deliveries, ∃ m, db.messages.get? d.messageId = some m ∧
      (d.state = .delivered → m.deliveredAt.isSome) ∧
      (d.readAt.isSome → d.state = .delivered ∧ m.readAt.isSome) := by
  have hreachable : (engine hashing).Reachable db := ⟨history, run⟩
  obtain ⟨hdb, hok⟩ := reachable_invariant hreachable .empty
    fun _ _ _ hdb hok hwrite => ConfirmationsOk.write hdb hok hwrite
  refine ⟨fun input e he hstate => ?_, fun d hd hstate rest db' run' => ?_,
    latestReport_of_run run, fun m hm => ⟨(hdb.messages m hm).read_delivered,
      fun rest db' run' m' hm' => ?_⟩, fun d hd => ?_⟩
  · rcases step_deliveries hashing hdb he with ⟨d, hd, hstepped⟩ | ⟨-, -, hnot⟩
    · exact ⟨d, hstepped.id ▸ Table.get?_key hd, hstepped.confirmed hstate⟩
    · exact absurd hstate hnot
  · have hfollowed := followed_deliveries hdb hd run'
    refine ⟨fun e he => hfollowed.later e he hstate, fun input packet hpacket hnew => ?_⟩
    have hdb' := (run_invariant run' hdb (P := fun _ => True) trivial
      fun _ _ _ _ _ _ _ => trivial).1
    exact not_prepared_of_delivered hdb' hfollowed hstate input hpacket hnew
  · have hfollowed := (run_invariant run' hdb
      (P := fun db => Table.Followed IsLaterConfirmation m db.messages)
      (Table.followed_of_mem (.refl m) hm) fun _ _ _ _ _ hfollowed hwrite =>
        hfollowed.steps (fun _ _ _ hlater hchange => hlater.trans hchange.isLaterConfirmation)
          hwrite.messages).2
    exact hfollowed.later m' hm'
  · obtain ⟨m, hm, -⟩ := (hdb.deliveries d hd).message
    exact ⟨m, hm, hok d hd m hm⟩

end Law

/-- After bob's device confirmed the message and he read it, nothing is sent for it any more. -/
theorem delivered_only_by_the_device_sampleRead :
    ((sampleDb sampleRead).deliveries.rows.map MessageDelivery.state = [.delivered]) ∧
      ∀ d ∈ (sampleDb sampleRead).deliveries, ∃ m,
        (sampleDb sampleRead).messages.get? d.messageId = some m ∧
        (d.state = .delivered → m.deliveredAt.isSome) ∧
        (d.readAt.isSome → d.state = .delivered ∧ m.readAt.isSome) :=
  ⟨by decide +kernel, (delivered_only_by_the_device (run_sampleDb sampleRead)).2.2.2.2⟩

end HoptalkRelay
