/-
**The deliveries in progress of a device.**

A device has a limited number of deliveries in progress: pending ones whose round has started.
Only the start of a round takes a place, and the scheduler checks that one is free.  A delivery
queued for a refresh carries nothing of a round, so the session's next head takes no place when it
is armed.

Main definitions:

* `HoptalkRelay.IsInProgress` — a delivery that has a place;
* `HoptalkRelay.PlacesOk` — no device has more than the maximum.

Main results:

* `HoptalkRelay.in_flight_cap` — **the cap holds in every run**, and a delivery keeps its place.
-/

import HoptalkRelay.Rows
import HoptalkRelay.Transactions.Steps

set_option relaxedAutoImplicit false
set_option autoImplicit false

namespace HoptalkRelay

open Relational Transition

/-! ### Places -/

/-- The delivery has a place among the device's deliveries in progress. -/
def IsInProgress (d : MessageDelivery) : Prop := d.state = .pending ∧ d.roundStartedAt.isSome

/-- Nothing of a round, and no due time. -/
structure HasNoRound (d : MessageDelivery) : Prop where
  started : d.roundStartedAt = none
  mask : d.roundPendingPartsMask = 0
  due : d.nextAttemptAt = none

/-- No device has more than the maximum in progress, and queued deliveries have no round. -/
structure PlacesOk (maximum : ℕ) (db : Db) : Prop where
  queued : ∀ d ∈ db.deliveries, d.state = .queuedForRefresh → HasNoRound d
  places : ∀ deviceId, countDeliveriesInProgress db deviceId ≤ maximum

theorem PlacesOk.empty (maximum : ℕ) : PlacesOk maximum Db.empty where
  queued _ h := absurd h (Table.not_mem_empty _)
  places _ := Nat.zero_le maximum

section Write

variable {input : Input} {a b : Phase × Db} {db : Db} {d e : MessageDelivery}

/-- What `HoptalkRelay.countDeliveriesInProgress` counts. -/
theorem countsAsInProgress_iff (deviceId : ℕ) :
    (decide (d.deviceId = deviceId) && decide (d.state = .pending) && d.roundStartedAt.isSome) =
      true ↔ d.deviceId = deviceId ∧ IsInProgress d := by
  simp [IsInProgress, and_assoc]

/-- Replacing a delivery takes no place when the delivery had one or gets none. -/
theorem countDeliveriesInProgress_putDelivery_le (hd : d ∈ db.deliveries) (hid : e.id = d.id)
    (hdevice : e.deviceId = d.deviceId) (hplace : IsInProgress e → IsInProgress d)
    (deviceId : ℕ) :
    countDeliveriesInProgress (db.putDelivery e) deviceId ≤
      countDeliveriesInProgress db deviceId := by
  have hcount := Table.count_put (fun delivery => decide (delivery.deviceId = deviceId) &&
    decide (delivery.state = .pending) && delivery.roundStartedAt.isSome) hd
    (show key d = key e from hid.symm)
  have himp : (decide (e.deviceId = deviceId) && decide (e.state = .pending) &&
      e.roundStartedAt.isSome) = true → (decide (d.deviceId = deviceId) &&
      decide (d.state = .pending) && d.roundStartedAt.isSome) = true := by
    rw [countsAsInProgress_iff, countsAsInProgress_iff]
    rintro ⟨he, hprogress⟩
    exact ⟨hdevice ▸ he, hplace hprogress⟩
  unfold countDeliveriesInProgress
  rw [Db.deliveries_putDelivery]
  split_ifs at hcount with h₁ h₂ h₂
  · omega
  · omega
  · exact absurd (himp h₂) h₁
  · omega

/-- Replacing a delivery takes at most one place, on its own device. -/
theorem countDeliveriesInProgress_putDelivery_succ (hd : d ∈ db.deliveries) (hid : e.id = d.id)
    (hdevice : e.deviceId = d.deviceId) (deviceId : ℕ) :
    countDeliveriesInProgress (db.putDelivery e) deviceId ≤
      countDeliveriesInProgress db deviceId + if deviceId = d.deviceId then 1 else 0 := by
  have hcount := Table.count_put (fun delivery => decide (delivery.deviceId = deviceId) &&
    decide (delivery.state = .pending) && delivery.roundStartedAt.isSome) hd
    (show key d = key e from hid.symm)
  unfold countDeliveriesInProgress
  rw [Db.deliveries_putDelivery]
  by_cases hother : deviceId = d.deviceId
  · rw [if_pos hother]
    split_ifs at hcount <;> omega
  · have he : ¬ e.deviceId = deviceId := by
      rw [hdevice]
      exact fun h => hother h.symm
    simp only [he, decide_false, Bool.false_and, Bool.false_eq_true, if_false] at hcount
    rw [if_neg hother]
    omega

/-- A round change takes a place only when a round starts, and then one is free. -/
theorem RoundChange.place (h : RoundChange input db d e) :
    (IsInProgress e → IsInProgress d) ∨
      countDeliveriesInProgress db d.deviceId < input.settings.maximumActiveDeliveriesPerDevice := by
  cases h with
  | roundStarted message now hevent hmessage hstate hround hattempts hroom =>
      cases hstarted : d.roundStartedAt with
      | none => exact Or.inr (hroom hstarted)
      | some startedAt => exact Or.inl fun _ => ⟨hstate, by rw [hstarted]; rfl⟩
  | roundCompleted | partSent | reportedPending | reported | rescheduled | restarted
  | acknowledged => exact Or.inl id

/-- A round change of a queued delivery only records what the device reported. -/
theorem RoundChange.noRound (h : RoundChange input db d e) (hstate : d.state = .queuedForRefresh)
    (hround : HasNoRound d) : HasNoRound e := by
  cases h with
  | reported | acknowledged => exact ⟨hround.started, hround.mask, hround.due⟩
  | roundStarted _ _ _ _ hpending | roundCompleted _ hpending | partSent _ _ _ hpending
  | reportedPending _ _ hpending | rescheduled _ hpending | restarted _ hpending =>
      rw [hpending] at hstate
      cases hstate

/-- A state change takes no place: an armed head had no round while it was queued. -/
theorem StateChange.place {p p' : Phase} (h : StateChange input db d p e p')
    (hqueued : d.state = .queuedForRefresh → HasNoRound d) : ¬ IsInProgress e := by
  cases h with
  | exhausted | stopped | takenOver => simp [IsInProgress]
  | armed sid now hqueue =>
      have hround := hqueued hqueue.2
      simp [IsInProgress, hround.started]

/-- A delivery that a change queues has no round. -/
theorem DeliveryChange.noRound (h : DeliveryChange input a d e)
    (hqueued : d.state = .queuedForRefresh → HasNoRound d) (hstate : e.state = .queuedForRefresh) :
    HasNoRound e := by
  obtain ⟨phase, db⟩ := a
  cases h with
  | round change =>
      have hkept : d.state = .queuedForRefresh := change.keeps.2.2.2.1 ▸ hstate
      exact change.noRound hkept (hqueued hkept)
  | moved change =>
      cases change with
      | exhausted | stopped | armed => simp at hstate
      | takenOver => exact ⟨rfl, rfl, rfl⟩
  | delivered | cancelled => simp at hstate
  | readAgain hdelivered =>
      have hkept : d.state = .queuedForRefresh := hstate
      rw [hdelivered] at hkept
      cases hkept

/-- A new delivery has no round. -/
theorem DeliveryCreated.noRound (h : DeliveryCreated input a d) :
    d.roundStartedAt = none ∧ (d.state = .queuedForRefresh → HasNoRound d) := by
  cases h with
  | pending => exact ⟨rfl, fun hstate => by simp at hstate⟩
  | owned => exact ⟨rfl, fun _ => ⟨rfl, rfl, rfl⟩⟩

/-- A change of a delivery takes no place, or a free one. -/
theorem DeliveryChange.place (h : DeliveryChange input a d e)
    (hqueued : d.state = .queuedForRefresh → HasNoRound d) :
    (IsInProgress e → IsInProgress d) ∨
      countDeliveriesInProgress a.2 d.deviceId <
        input.settings.maximumActiveDeliveriesPerDevice := by
  cases h with
  | round change => exact change.place
  | moved change => exact Or.inl fun hplace => absurd hplace (change.place hqueued)
  | delivered | cancelled => exact Or.inl fun hplace => by simp [IsInProgress] at hplace
  | readAgain => exact Or.inl id

/-- Replacing a delivery by a changed one keeps the cap. -/
theorem countDeliveriesInProgress_change_le (hplaces : PlacesOk
    input.settings.maximumActiveDeliveriesPerDevice a.2) (hd : d ∈ a.2.deliveries)
    (change : DeliveryChange input a d e) (deviceId : ℕ) :
    countDeliveriesInProgress (a.2.putDelivery e) deviceId ≤
      input.settings.maximumActiveDeliveriesPerDevice := by
  obtain ⟨hid, -, hdevice⟩ := change.keeps
  rcases change.place (hplaces.queued d hd) with hplace | hroom
  · exact (countDeliveriesInProgress_putDelivery_le hd hid hdevice hplace deviceId).trans
      (hplaces.places deviceId)
  · have hsucc := countDeliveriesInProgress_putDelivery_succ hd hid hdevice deviceId
    have hbound := hplaces.places deviceId
    split_ifs at hsucc with hsame
    · rw [hsame] at hsucc ⊢
      omega
    · omega

/-- A new delivery takes no place. -/
theorem countDeliveriesInProgress_insert {mk : ℕ → MessageDelivery}
    {hkey : ∀ k, key (mk k) = k} (hround : (mk db.deliveries.nextKey).roundStartedAt = none)
    (deviceId : ℕ) :
    countDeliveriesInProgress { db with deliveries := db.deliveries.insert mk hkey } deviceId =
      countDeliveriesInProgress db deviceId := by
  unfold countDeliveriesInProgress
  rw [Table.count_insert]
  simp [hround]

/-- No write breaks the cap. -/
theorem PlacesOk.write (hplaces : PlacesOk input.settings.maximumActiveDeliveriesPerDevice a.2)
    (h : Write input a b) : PlacesOk input.settings.maximumActiveDeliveriesPerDevice b.2 := by
  constructor
  · intro e he hstate
    rcases h.deliveries.origin he with he' | ⟨d, hd, -, hchange⟩ | ⟨-, hcreated⟩
    · exact hplaces.queued e he' hstate
    · exact hchange.noRound (hplaces.queued d hd) hstate
    · exact hcreated.noRound.2 hstate
  · intro deviceId
    cases h with
    | quiet p h =>
        cases h with
        | delivery hd change =>
            exact countDeliveriesInProgress_change_le hplaces hd (.round change) deviceId
        | receipt | newReceipt | messageConfirmed | newMessage | partStored | contacts | newContact
        | newUser | sessions | packets => exact hplaces.places deviceId
        | packetPrepared hevent hinserts =>
            rw [hinserts.frame]
            exact hplaces.places deviceId
    | delivery hd change =>
        exact countDeliveriesInProgress_change_le hplaces hd (.moved change) deviceId
    | delivered hd hstate hm hdelivered hread confirmed =>
        exact countDeliveriesInProgress_change_le hplaces hd
          (.delivered hstate hm hdelivered hread confirmed) deviceId
    | readAgain hd hstate hfirst hm hread =>
        exact countDeliveriesInProgress_change_le hplaces hd
          (.readAgain hstate hfirst hm hread) deviceId
    | newDelivery | newOwnedDelivery =>
        refine (countDeliveriesInProgress_insert ?_ deviceId).trans_le (hplaces.places deviceId)
        rfl
    | accepted | fannedOut | newSession | opened | completed | stopped | linked =>
        exact hplaces.places deviceId
    | @relinked db device user now =>
        refine le_trans ?_ (hplaces.places deviceId)
        refine Table.count_updateWhere_le (h := by intros; rfl) _ fun d hd hp hcount => ?_
        simp at hcount
    | deleted hevent => exact (Table.count_deleteWhere_le _).trans (hplaces.places deviceId)

/-! ### Keeping a place -/

/-- What became of a delivery that had a place: it still has it, or it is confirmed, given up,
cancelled or taken into a refresh. -/
inductive PlaceOutcome (input : Input) (d e : MessageDelivery) : Prop
  | kept (hplace : IsInProgress e) (howner : e.refreshSessionId = d.refreshSessionId)
  | delivered (hstate : e.state = .delivered)
  | failed (hstate : e.state = .failed) (hevent : ∃ now, IsScheduling input now)
  | cancelled (hstate : e.state = .cancelled)
      (hevent : ∃ request salt now, input.event = .account d.deviceId request salt now)
  | taken (hfree : d.refreshSessionId = none) (howner : e.refreshSessionId.isSome)
      (hstate : e.state = .queuedForRefresh ∨ e.state = .pending)
      (hevent : ∃ request inboundId now, input.event = .refresh d.deviceId request inboundId now)

/-- The outcome after a round change is the one before it. -/
theorem PlaceOutcome.round {d₀ : MessageDelivery} (h : PlaceOutcome input d₀ d)
    (change : RoundChange input db d e) : PlaceOutcome input d₀ e := by
  obtain ⟨-, -, -, hstate, howner⟩ := change.keeps
  have hstarted : d.roundStartedAt.isSome → e.roundStartedAt.isSome := by
    intro hstarted
    cases change with
    | roundStarted => rfl
    | roundCompleted | partSent | reportedPending | reported | rescheduled | restarted
    | acknowledged => exact hstarted
  cases h with
  | kept hplace howner₀ =>
      exact .kept ⟨hstate.trans hplace.1, hstarted hplace.2⟩ (howner.trans howner₀)
  | delivered h => exact .delivered (hstate.trans h)
  | failed h hevent => exact .failed (hstate.trans h) hevent
  | cancelled h hevent => exact .cancelled (hstate.trans h) hevent
  | taken hfree howner₀ h hevent =>
      exact .taken hfree (by rwa [howner]) (by rwa [hstate]) hevent

/-- A refresh takes over what is not its own yet, and neither a call of the scheduler nor a
sign-in is a refresh. -/
theorem PlaceOutcome.moved {d₀ : MessageDelivery} (h : PlaceOutcome input d₀ d)
    (hdevice : d.deviceId = d₀.deviceId) {p p' : Phase}
    (change : StateChange input db d p e p') : PlaceOutcome input d₀ e := by
  cases change with
  | exhausted now hevent => exact .failed rfl ⟨now, hevent⟩
  | stopped sid now hevent => exact .failed rfl ⟨now, hevent⟩
  | takenOver message sid htake =>
      obtain ⟨request, inboundId, now, hevent⟩ := htake.event
      have htaken := htake.taken
      rw [hdevice] at hevent
      cases h with
      | kept hplace howner =>
          have hfree : d.refreshSessionId = none := by
            simpa [isTakenOverByARefresh, hplace.1] using htaken
          exact .taken (howner ▸ hfree) rfl (Or.inl rfl) ⟨request, inboundId, now, hevent⟩
      | delivered hstate => simp [isTakenOverByARefresh, hstate] at htaken
      | failed hstate hscheduling =>
          obtain ⟨now', generation, hscheduling⟩ := hscheduling
          cases hevent.symm.trans hscheduling
      | cancelled hstate haccount =>
          obtain ⟨request', salt, now', haccount⟩ := haccount
          cases hevent.symm.trans haccount
      | taken hfree => exact .taken hfree rfl (Or.inl rfl) ⟨request, inboundId, now, hevent⟩
  | armed sid now hqueued =>
      cases h with
      | kept hplace => cases hplace.1.symm.trans hqueued.2
      | delivered hstate | failed hstate | cancelled hstate => cases hstate.symm.trans hqueued.2
      | taken hfree howner hstate hevent => exact .taken hfree howner (Or.inr rfl) hevent

/-- The outcome after any change. -/
theorem PlaceOutcome.change {d₀ : MessageDelivery} (h : PlaceOutcome input d₀ d)
    (hdevice : d.deviceId = d₀.deviceId) (change : DeliveryChange input a d e) :
    PlaceOutcome input d₀ e := by
  cases change with
  | round change => exact h.round change
  | moved change => exact h.moved hdevice change
  | delivered => exact .delivered rfl
  | readAgain hstate => exact .delivered hstate
  | cancelled hstate hevent =>
      obtain ⟨request, salt, hevent⟩ := hevent
      exact .cancelled rfl ⟨request, salt, _, hdevice ▸ hevent⟩

/-- What became of a delivery, if it still exists. -/
structure PlaceFollowed (input : Input) (d : MessageDelivery) (db : Db) : Prop where
  given : d.id < db.deliveries.nextKey
  device : ∀ e ∈ db.deliveries, e.id = d.id → e.deviceId = d.deviceId
  outcome : ∀ e ∈ db.deliveries, e.id = d.id → PlaceOutcome input d e

theorem PlaceFollowed.write (hfollowed : PlaceFollowed input d a.2) (h : Write input a b) :
    PlaceFollowed input d b.2 := by
  have hsteps := h.deliveries
  refine ⟨hfollowed.given.trans_le hsteps.nextKey, fun e he hid => ?_, fun e he hid => ?_⟩
  all_goals
    rcases hsteps.origin he with he' | ⟨d', hd', hkey, hchange⟩ | ⟨hfresh, -⟩
  · exact hfollowed.device e he' hid
  · rw [hchange.keeps.2.2]
    exact hfollowed.device d' hd' (hkey.trans hid)
  · have := hfollowed.given
    rw [key_delivery] at hfresh
    omega
  · exact hfollowed.outcome e he' hid
  · exact (hfollowed.outcome d' hd' (hkey.trans hid)).change
      (hfollowed.device d' hd' (hkey.trans hid)) hchange
  · have := hfollowed.given
    rw [key_delivery] at hfresh
    omega

/-- A delivery that has a place is followed from the start of a step. -/
theorem PlaceFollowed.start (hd : d ∈ db.deliveries) (hplace : IsInProgress d) :
    PlaceFollowed input d db where
  given := db.deliveries.below d hd
  device e he hid := by rw [Table.eq_of_key_eq he hd hid]
  outcome e he hid := by
    rw [Table.eq_of_key_eq he hd hid]
    exact .kept hplace rfl

end Write

/-! ### Runs -/

variable {hashing : PasswordHashing} {db : Db}

/-- **The in-flight cap** in every run whose settings agree on it: no device has more deliveries in
progress, queued deliveries have nothing of a round, and a step takes a place away only by
confirming, giving up or cancelling the delivery or by taking it into a refresh that did not own
it. -/
theorem in_flight_cap {maximum : ℕ} {history : List (Input × Outcome)}
    (run : (engine hashing).Run Db.empty history db)
    (hfixed : ∀ entry ∈ history, entry.1.settings.maximumActiveDeliveriesPerDevice = maximum) :
    (∀ deviceId, countDeliveriesInProgress db deviceId ≤ maximum) ∧
    (∀ d ∈ db.deliveries, d.state = .queuedForRefresh →
      d.roundStartedAt = none ∧ d.roundPendingPartsMask = 0 ∧ d.nextAttemptAt = none) ∧
    ∀ (input : Input), ∀ d ∈ db.deliveries, d.state = .pending → d.roundStartedAt.isSome →
      ∀ e ∈ (step hashing db input).1.deliveries, e.id = d.id →
        (e.state = .pending ∧ e.roundStartedAt.isSome) ∨
        e.state = .delivered ∨ e.state = .failed ∨ e.state = .cancelled ∨
        (d.refreshSessionId = none ∧ e.refreshSessionId.isSome ∧
          ∃ request inboundId now, input.event = .refresh d.deviceId request inboundId now) := by
  have hplaces : Consistent db ∧ PlacesOk maximum db := by
    refine run_invariant run .empty (.empty maximum) fun entry hentry a b hdb hplaces hwrite => ?_
    rw [← hfixed entry hentry] at hplaces ⊢
    exact hplaces.write hwrite
  refine ⟨hplaces.2.places, fun d hd hstate => ?_, fun input d hd hstate hstarted e he hid => ?_⟩
  · have hround := hplaces.2.queued d hd hstate
    exact ⟨hround.started, hround.mask, hround.due⟩
  have hfollowed := (step_invariant hashing input hplaces.1 (.start hd ⟨hstate, hstarted⟩)
    fun a b _ hfollowed hwrite => PlaceFollowed.write hfollowed hwrite).2
  cases hfollowed.outcome e he hid with
  | kept hplace => exact Or.inl hplace
  | delivered h => exact Or.inr (Or.inl h)
  | failed h => exact Or.inr (Or.inr (Or.inl h))
  | cancelled h => exact Or.inr (Or.inr (Or.inr (Or.inl h)))
  | taken hfree howner _ hevent => exact Or.inr (Or.inr (Or.inr (Or.inr ⟨hfree, howner, hevent⟩)))

/-- Bob's device has one of three places taken once a part was prepared for it. -/
theorem in_flight_cap_sampleSend :
    countDeliveriesInProgress (sampleDb sampleSend) 2 = 1 ∧
      countDeliveriesInProgress (sampleDb sampleSend) 2 ≤ 3 := by
  have hfixed : ∀ entry ∈ sampleHistory sampleSend,
      entry.1.settings.maximumActiveDeliveriesPerDevice = 3 := by
    intro entry hentry
    obtain ⟨event, -, heq⟩ := input_of_mem_sampleHistory hentry
    rw [heq]
    rfl
  exact ⟨by decide +kernel, (in_flight_cap (run_sampleDb sampleSend) hfixed).1 2⟩

end HoptalkRelay
