/-
**The counters and the masks of a delivery.**

A delivery counts its rounds up to a maximum, remembers which parts its device reported, and has
the parts of the round in progress.  The operations that write these columns keep them together:
a round in progress never holds a reported part, and a delivery that is not delivered always lacks
one.  So a round that starts has something to send, and the scheduler never starts one in vain.

Main definitions:

* `HoptalkRelay.RoundsOk` — what holds of a delivery and its message;
* `HoptalkRelay.DeliveryRoundsOk` — what holds of a database.

Main results:

* `HoptalkRelay.DeliveryChange.roundsOk`, `HoptalkRelay.DeliveryRoundsOk.write` — every change keeps
  it;
* `HoptalkRelay.deliveryRoundsOk_of_reachable` — **it holds in every reachable database**.
-/

import HoptalkRelay.Protocol.PartMasks
import HoptalkRelay.Transactions.Steps

set_option relaxedAutoImplicit false
set_option autoImplicit false

namespace HoptalkRelay

open Relational Transition

/-! ### The columns of a row -/

/-- What the counters, the masks and the times of a delivery of this message have in common. -/
structure RoundsOk (d : MessageDelivery) (m : Message) : Prop where
  attempts : d.attemptCount ≤ d.maximumAttempts
  round_lt : d.roundPendingPartsMask < 2 ^ m.partCount.val
  received_lt : d.partsReceivedMask < 2 ^ m.partCount.val
  disjoint : d.state = .pending → d.roundPendingPartsMask &&& d.partsReceivedMask = 0
  incomplete : d.state ≠ .delivered → d.partsReceivedMask ≠ calculateAllPartsMask m.partCount
  due : d.state = .pending → d.nextAttemptAt.isSome
  started : d.roundPendingPartsMask ≠ 0 → d.roundStartedAt.isSome
  /-- Nothing of a round is left of a queued delivery, nor of one that was given up. -/
  idle : d.state = .queuedForRefresh ∨ d.state = .failed → d.roundPendingPartsMask = 0

/-- Every delivery of the database has such columns. -/
def DeliveryRoundsOk (db : Db) : Prop :=
  ∀ d ∈ db.deliveries, ∀ m, db.messages.get? d.messageId = some m → RoundsOk d m

theorem DeliveryRoundsOk.empty : DeliveryRoundsOk Db.empty :=
  fun _ h => absurd h (Table.not_mem_empty _)

section Write

variable {input : Input} {a b : Phase × Db} {db : Db} {d e : MessageDelivery} {m n : Message}

/-- A report's mask has no bit beyond the last part. -/
theorem DeliveryReport.mask_lt {mask : ℕ} (h : DeliveryReport input db d m mask) :
    mask < 2 ^ m.partCount.val := by
  obtain ⟨acknowledgement, now, -, hmatch, hmask⟩ := h.event
  exact lt_of_convertReceivedSetToPartsMask hmatch hmask

/-- No round change breaks the columns. -/
theorem RoundChange.roundsOk (h : RoundChange input db d e)
    (hm : db.messages.get? d.messageId = some m) (hok : RoundsOk d m) : RoundsOk e m := by
  have hmessage : ∀ n, db.messages.get? d.messageId = some n → n = m :=
    fun n hn => Option.some.inj (hn.symm.trans hm)
  cases h with
  | roundStarted message now hevent hfound hstate hround hattempts =>
      obtain rfl := hmessage message hfound
      exact
        { hok with
          attempts := hattempts
          round_lt := maskWithout_lt (calculateAllPartsMask_lt _) _
          disjoint := fun _ => maskWithout_and_self _ _
          started := fun _ => rfl
          idle := fun hidle => by rcases hidle with h | h <;> simp [hstate] at h }
  | roundCompleted due hstate hleft =>
      exact
        { hok with
          round_lt := Nat.two_pow_pos _
          disjoint := fun _ => Nat.zero_and _
          due := fun _ => rfl
          started := fun h => absurd rfl h
          idle := fun _ => rfl }
  | partSent packet partNumber now hstate =>
      exact
        { hok with
          round_lt := and_lt hok.round_lt _
          disjoint := fun h => and_and_eq_zero (hok.disjoint h) _
          started := fun h => hok.started fun hzero => h (by simp [hzero])
          idle := fun h => by simp [hok.idle h] }
  | reportedPending message mask hstate hreport hmask =>
      obtain rfl := hmessage message hreport.found
      exact
        { hok with
          round_lt := and_lt hok.round_lt _
          received_lt := hreport.mask_lt
          disjoint := fun _ =>
            and_xor_and_self _ (hreport.mask_lt.trans_le (two_pow_partCount_le _))
          incomplete := fun _ => hmask
          started := fun h => hok.started fun hzero => h (by simp [hzero])
          idle := fun h => by simp [hok.idle h] }
  | reported message mask hstate hreport hmask =>
      obtain rfl := hmessage message hreport.found
      exact
        { hok with
          received_lt := hreport.mask_lt
          disjoint := fun hpending => by
            rcases hstate with h | h <;> exact absurd (h.symm.trans hpending) (by simp)
          incomplete := fun _ => hmask }
  | rescheduled due hstate => exact { hok with due := fun _ => rfl }
  | restarted now hstate =>
      exact
        { hok with
          attempts := Nat.zero_le _
          round_lt := Nat.two_pow_pos _
          disjoint := fun _ => Nat.zero_and _
          due := fun _ => rfl
          started := fun h => absurd rfl h
          idle := fun _ => rfl }
  | acknowledged now => exact { hok with }

/-- No state change breaks the columns. -/
theorem StateChange.roundsOk {p p' : Phase} (h : StateChange input db d p e p')
    (hok : RoundsOk d m) : RoundsOk e m := by
  cases h with
  | exhausted now hevent hstate hround =>
      exact
        { hok with
          disjoint := fun h => by simp at h
          incomplete := fun _ => hok.incomplete (by simp [hstate])
          due := fun h => by simp at h
          idle := fun _ => hround }
  | stopped refreshSessionId now hevent hqueued =>
      exact
        { hok with
          disjoint := fun h => by simp at h
          incomplete := fun _ => hok.incomplete (by simp [hqueued.2])
          due := fun h => by simp at h
          idle := fun _ => hok.idle (Or.inl hqueued.2) }
  | takenOver message refreshSessionId htake =>
      have hlive : d.state ≠ .delivered := by
        intro hdelivered
        have htaken := htake.taken
        simp [isTakenOverByARefresh, hdelivered] at htaken
      refine
        { attempts := Nat.zero_le _
          round_lt := Nat.two_pow_pos _
          received_lt := ?_
          disjoint := fun _ => Nat.zero_and _
          incomplete := fun _ => ?_
          due := fun h => by simp at h
          started := fun h => absurd rfl h
          idle := fun _ => rfl }
      -- a revived delivery starts again with no part reported
      · rw [takenOverDelivery_partsReceivedMask]
        split
        · exact Nat.two_pow_pos _
        · exact hok.received_lt
      · rw [takenOverDelivery_partsReceivedMask]
        split
        · exact (calculateAllPartsMask_ne_zero _).symm
        · exact hok.incomplete hlive
  | armed refreshSessionId now hqueued =>
      exact
        { hok with
          attempts := Nat.zero_le _
          round_lt := Nat.two_pow_pos _
          disjoint := fun _ => Nat.zero_and _
          incomplete := fun _ => hok.incomplete (by simp [hqueued.2])
          due := fun _ => rfl
          started := fun h => absurd rfl h
          idle := fun _ => rfl }

/-- **No change of a delivery breaks its columns.** -/
theorem DeliveryChange.roundsOk (h : DeliveryChange input a d e)
    (hm : a.2.messages.get? d.messageId = some m) (hok : RoundsOk d m) : RoundsOk e m := by
  cases h with
  | round change => exact change.roundsOk hm hok
  | moved change => exact change.roundsOk hok
  | @delivered m' now mask isRead hstate hm' hdelivered hread confirmed =>
      obtain rfl := Option.some.inj (hm'.symm.trans hm)
      refine
        { hok with
          received_lt := ?_
          disjoint := fun h => by simp at h
          incomplete := fun h => absurd rfl h
          due := fun h => by simp at h
          idle := fun h => by simp at h }
      cases confirmed with
      | acknowledged hreport => exact hreport.mask_lt
      | read => exact hok.received_lt
  | readAgain hstate => exact { hok with }
  | cancelled hstate =>
      have hlive : d.state ≠ .delivered := by
        rintro hdelivered
        rw [hdelivered] at hstate
        exact absurd hstate (by decide)
      exact
        { hok with
          disjoint := fun h => by simp at h
          incomplete := fun _ => hok.incomplete hlive
          due := fun h => by simp at h
          idle := fun h => by simp at h }

/-- A new delivery has no round. -/
theorem DeliveryCreated.roundsOk (h : DeliveryCreated input a d) : RoundsOk d m := by
  have hempty : (0 : ℕ) ≠ calculateAllPartsMask m.partCount :=
    (calculateAllPartsMask_ne_zero _).symm
  cases h with
  | pending =>
      exact
        { attempts := Nat.zero_le _
          round_lt := Nat.two_pow_pos _
          received_lt := Nat.two_pow_pos _
          disjoint := fun _ => Nat.zero_and _
          incomplete := fun _ => hempty
          due := fun _ => rfl
          started := fun h => absurd rfl h
          idle := fun _ => rfl }
  | owned =>
      exact
        { attempts := Nat.zero_le _
          round_lt := Nat.two_pow_pos _
          received_lt := Nat.two_pow_pos _
          disjoint := fun _ => Nat.zero_and _
          incomplete := fun _ => hempty
          due := fun h => by simp at h
          started := fun h => absurd rfl h
          idle := fun _ => rfl }

theorem RoundsOk.of_partCount (hok : RoundsOk d m) (hcount : n.partCount = m.partCount) :
    RoundsOk d n :=
  { hok with
    round_lt := hcount ▸ hok.round_lt
    received_lt := hcount ▸ hok.received_lt
    incomplete := hcount ▸ hok.incomplete }

/-- A message keeps its part count. -/
theorem Write.partCount_eq (h : Write input a b) {messageId : ℕ}
    (hm : a.2.messages.get? messageId = some m) (hn : b.2.messages.get? messageId = some n) :
    n.partCount = m.partCount := by
  rcases h.messages.outcome hm with hsame | ⟨n', hn', hchange⟩ | ⟨hnone, -⟩
  · obtain rfl := Option.some.inj (hn.symm.trans hsame)
    rfl
  · obtain rfl := Option.some.inj (hn.symm.trans hn')
    exact hchange.keeps.2.2.2.2
  · cases hn.symm.trans hnone

/-- **No write breaks the columns.** -/
theorem DeliveryRoundsOk.write (hdb : Consistent a.2) (hok : DeliveryRoundsOk a.2)
    (h : Write input a b) : DeliveryRoundsOk b.2 := by
  intro e he n hn
  rcases h.deliveries.origin he with he' | ⟨d, hd, -, hchange⟩ | ⟨-, hcreated⟩
  · obtain ⟨m, hm, -⟩ := (hdb.deliveries e he').message
    exact (hok e he' m hm).of_partCount (h.partCount_eq hm hn)
  · obtain ⟨m, hm, -⟩ := (hdb.deliveries d hd).message
    have hsame : a.2.messages.get? e.messageId = some m := hchange.keeps.2.1 ▸ hm
    exact (hchange.roundsOk hm (hok d hd m hm)).of_partCount (h.partCount_eq hsame hn)
  · exact hcreated.roundsOk

end Write

/-- **In every reachable database.** -/
theorem deliveryRoundsOk_of_reachable {hashing : PasswordHashing} {db : Db}
    (h : (engine hashing).Reachable db) : Consistent db ∧ DeliveryRoundsOk db :=
  reachable_invariant h .empty fun _ _ _ hdb hok hwrite => hok.write hdb hwrite

end HoptalkRelay
