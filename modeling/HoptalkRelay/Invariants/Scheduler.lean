/-
**The scheduler makes progress.**

What the sender may send is written down three times: in the query for candidates, in the query
for the next eligible time and in the checks made before a round starts.  They agree.  A call
that returns nothing gave up every candidate it had, and what is given up is not pending any more,
so repeated calls come to a packet or to a state with nothing due.

Main definitions:

* `HoptalkRelay.OnlyFails` — rows were given up, and nothing else happened to what is pending;
* `HoptalkRelay.Candidate.HasPlace`, `HoptalkRelay.Candidate.IsGivenUp` — a candidate before and
  after it is given up;
* `HoptalkRelay.prepareRepeatedly` — calls at one clock reading.

Main results:

* `HoptalkRelay.exists_candidate_iff` — there are candidates exactly when the next eligible time has
  come;
* `HoptalkRelay.prepareFirstPacket_isOk` — what a walk over candidates comes to;
* `HoptalkRelay.scheduler_progress` — **the sender never spins, and due work is never hidden**;
* `HoptalkRelay.delivery_rows_represented` — **what the columns of a delivery say, and that every
  round that starts sends a part**.
-/

import HoptalkRelay.Invariants.Places
import HoptalkRelay.Invariants.Preparations

set_option relaxedAutoImplicit false
set_option autoImplicit false

namespace HoptalkRelay

open Relational Transition

/-! ### What is due -/

section Due

variable {settings : RelaySettings} {db : Db} {now : Time}

/-- The smallest of some times is at or before the clock exactly when one of them is. -/
theorem selectEarliestTime_le {times : List (Option Time)} :
    (∃ time, selectEarliestTime times = some time ∧ time ≤ now) ↔
      ∃ time ∈ times, isDue time now = true := by
  unfold selectEarliestTime
  constructor
  · rintro ⟨time, hmin, hle⟩
    obtain ⟨hmem, -⟩ := List.min?_eq_some_iff.mp hmin
    rw [List.mem_filterMap] at hmem
    obtain ⟨_, hmem, rfl⟩ := hmem
    exact ⟨some time, hmem, by simpa [isDue] using hle⟩
  · rintro ⟨time, hmem, hdue⟩
    cases time with
    | none => simp [isDue] at hdue
    | some time =>
        have hmem' : time ∈ times.filterMap id := List.mem_filterMap.mpr ⟨some time, hmem, rfl⟩
        obtain ⟨earliest, hmin⟩ := Option.isSome_iff_exists.mp (List.isSome_min?_of_mem hmem')
        refine ⟨earliest, hmin, ?_⟩
        have hle := (List.min?_eq_some_iff.mp hmin).2 time hmem'
        simp only [isDue, Option.any_some, decide_eq_true_eq] at hdue
        exact hle.trans hdue

/-- The next eligible time has come exactly when an eligible row is due. -/
theorem calculateNextEligibleTime_le :
    (∃ time, calculateNextEligibleTime settings db now = some time ∧ time ≤ now) ↔
      (∃ d ∈ db.deliveries,
        isDueDeliveryCandidate db now settings.maximumActiveDeliveriesPerDevice d = true) ∨
      ∃ r ∈ db.receipts, isDueReceiptCandidate db now r = true := by
  have hboth : calculateNextEligibleTime settings db now = selectEarliestTime
      [earliestEligibleDelivery db settings.maximumActiveDeliveriesPerDevice,
        earliestEligibleReceipt db] := rfl
  rw [hboth, selectEarliestTime_le]
  simp only [List.mem_cons, List.not_mem_nil, or_false, exists_eq_or_imp, exists_eq_left]
  have hisDue : ∀ earliest : Option Time,
      isDue earliest now = true ↔ ∃ time, earliest = some time ∧ time ≤ now := by
    intro earliest
    cases earliest <;> simp [isDue]
  rw [hisDue, hisDue, earliestEligibleDelivery, selectEarliestTime_le, earliestEligibleReceipt,
    selectEarliestTime_le]
  simp only [List.mem_map, Table.mem_filter, exists_exists_and_eq_and, isEligibleDelivery,
    isEligibleReceipt, isDueDeliveryCandidate, isDueReceiptCandidate, Bool.and_eq_true]
  exact or_congr
    (exists_congr fun d => ⟨fun h => ⟨h.1.1, ⟨⟨h.1.2.1.1, h.2⟩, h.1.2.1.2⟩, h.1.2.2⟩,
      fun h => ⟨⟨h.1, ⟨h.2.1.1.1, h.2.1.2⟩, h.2.2⟩, h.2.1.1.2⟩⟩)
    (exists_congr fun r => ⟨fun h => ⟨h.1.1, ⟨h.1.2.1, h.2⟩, h.1.2.2⟩,
      fun h => ⟨⟨h.1, h.2.1.1, h.2.2⟩, h.2.1.2⟩⟩)

theorem exists_mem_take_orderBy {ρ κ : Type} [LinearOrder κ] {f : ρ → κ} {l : List ρ} {n : ℕ}
    (hn : n ≠ 0) : (∃ r, r ∈ (orderBy f l).take n) ↔ ∃ r, r ∈ l := by
  constructor
  · rintro ⟨r, hr⟩
    exact ⟨r, mem_orderBy.1 (List.mem_of_mem_take hr)⟩
  · rintro ⟨r, hr⟩
    have hpos : (orderBy f l).take n ≠ [] := by
      rw [ne_eq, List.take_eq_nil_iff, not_or]
      exact ⟨hn, List.ne_nil_of_mem (mem_orderBy.2 hr)⟩
    exact List.exists_mem_of_ne_nil _ hpos

/-- **The two queries agree**: there are candidates exactly when the next eligible time has
come. -/
theorem exists_candidate_iff :
    (∃ candidate, candidate ∈ lockDueCandidates db now settings.maximumActiveDeliveriesPerDevice) ↔
      ∃ time, calculateNextEligibleTime settings db now = some time ∧ time ≤ now := by
  rw [calculateNextEligibleTime_le]
  simp only [lockDueCandidates, mem_orderBy, List.mem_append, exists_or, List.mem_map]
  have hlimit : candidateLimitPerKind ≠ 0 := by decide
  have hdeliveries := exists_mem_take_orderBy
    (f := fun delivery : MessageDelivery => dueOrder delivery.nextAttemptAt delivery.id)
    (l := db.deliveries.filter
      (isDueDeliveryCandidate db now settings.maximumActiveDeliveriesPerDevice)) hlimit
  have hreceipts := exists_mem_take_orderBy
    (f := fun receipt : ReceiptNotification => dueOrder receipt.nextAttemptAt receipt.id)
    (l := db.receipts.filter (isDueReceiptCandidate db now)) hlimit
  simp only [Table.mem_filter] at hdeliveries hreceipts
  rw [← hdeliveries, ← hreceipts]
  refine or_congr ⟨?_, ?_⟩ ⟨?_, ?_⟩
  · rintro ⟨_, d, hd, _⟩
    exact ⟨d, hd⟩
  · rintro ⟨d, hd⟩
    exact ⟨_, d, hd, rfl⟩
  · rintro ⟨_, r, hr, _⟩
    exact ⟨r, hr⟩
  · rintro ⟨r, hr⟩
    exact ⟨_, r, hr, rfl⟩

end Due

/-! ### Giving up -/

/-- Rows were given up: what is pending was there before as it is, and what had failed still is. -/
structure OnlyFails (db db' : Db) : Prop where
  pending : ∀ d ∈ db'.deliveries, d.state = .pending → d ∈ db.deliveries
  failed : ∀ d ∈ db.deliveries, d.state = .failed → d ∈ db'.deliveries
  receiptPending : ∀ r ∈ db'.receipts, r.state = .pending → r ∈ db.receipts
  receiptFailed : ∀ r ∈ db.receipts, r.state = .failed → r ∈ db'.receipts

namespace OnlyFails

variable {db db' db'' : Db} {d : MessageDelivery} {r : ReceiptNotification}

theorem refl (db : Db) : OnlyFails db db :=
  ⟨fun _ h _ => h, fun _ h _ => h, fun _ h _ => h, fun _ h _ => h⟩

theorem trans (h : OnlyFails db db') (h' : OnlyFails db' db'') : OnlyFails db db'' where
  pending d hd hstate := h.pending d (h'.pending d hd hstate) hstate
  failed d hd hstate := h'.failed d (h.failed d hd hstate) hstate
  receiptPending r hr hstate := h.receiptPending r (h'.receiptPending r hr hstate) hstate
  receiptFailed r hr hstate := h'.receiptFailed r (h.receiptFailed r hr hstate) hstate

theorem of_steps (h : Relation.ReflTransGen OnlyFails db db') : OnlyFails db db' := by
  induction h with
  | refl => exact .refl db
  | tail _ hstep ih => exact ih.trans hstep

/-- A delivery that had not failed fails. -/
theorem putDelivery {d' : MessageDelivery} (hd : d ∈ db.deliveries) (hkey : key d' = key d)
    (hbefore : d.state ≠ .failed) (hafter : d'.state = .failed) :
    OnlyFails db (db.putDelivery d') where
  pending e he hstate := by
    rcases (Table.mem_put_iff hd hkey).mp he with rfl | ⟨he, -⟩
    · simp [hafter] at hstate
    · exact he
  failed e he hstate := by
    refine (Table.mem_put_iff hd hkey).mpr (Or.inr ⟨he, fun heq => hbefore ?_⟩)
    rw [← Table.eq_of_key_eq he hd heq, hstate]
  receiptPending _ hr _ := hr
  receiptFailed _ hr _ := hr

/-- A pending receipt fails. -/
theorem putReceipt {r' : ReceiptNotification} (hr : r ∈ db.receipts) (hkey : key r' = key r)
    (hbefore : r.state ≠ .failed) (hafter : r'.state = .failed) :
    OnlyFails db (db.putReceipt r') where
  pending _ hd _ := hd
  failed _ hd _ := hd
  receiptPending q hq hstate := by
    rcases (Table.mem_put_iff hr hkey).mp hq with rfl | ⟨hq, -⟩
    · simp [hafter] at hstate
    · exact hq
  receiptFailed q hq hstate := by
    refine (Table.mem_put_iff hr hkey).mpr (Or.inr ⟨hq, fun heq => hbefore ?_⟩)
    rw [← Table.eq_of_key_eq hq hr heq, hstate]

/-- The messages queued behind a given-up head fail with it. -/
theorem stopRefreshSession (db : Db) (refreshSessionId : ℕ) (now : Time) :
    OnlyFails db (stopRefreshSession db refreshSessionId now) := by
  have hqueued : ∀ d ∈ db.deliveries.filter (fun delivery =>
      delivery.refreshSessionId = some refreshSessionId && delivery.state = .queuedForRefresh),
      d ∈ db.deliveries ∧ d.state = .queuedForRefresh := by
    intro d hd
    rw [Table.mem_filter, Bool.and_eq_true, decide_eq_true_eq, decide_eq_true_eq] at hd
    exact ⟨hd.1, hd.2.2⟩
  have hwork : ∀ db', ∀ d ∈ db.deliveries.filter (fun delivery =>
      delivery.refreshSessionId = some refreshSessionId && delivery.state = .queuedForRefresh),
      db'.receipts = db.receipts → d ∈ db'.deliveries →
      Relation.ReflTransGen OnlyFails db' (failDeliveryOfStoppedRefresh db' d now).1 ∧
        (failDeliveryOfStoppedRefresh db' d now).1.receipts = db.receipts ∧
        (failDeliveryOfStoppedRefresh db' d now).1.deliveries =
          db'.deliveries.put (failedDelivery d .refreshStopped now) := by
    intro db' d hd hreceipts hmem
    have hstate := (hqueued d hd).2
    rw [failDeliveryOfStoppedRefresh_of_mem hmem hstate]
    exact ⟨.single (putDelivery hmem rfl (by simp [hstate]) rfl), hreceipts, rfl⟩
  obtain ⟨hsteps, -, -⟩ := foldl_put Db.deliveries (failedDelivery · .refreshStopped now)
    (fun db d => (failDeliveryOfStoppedRefresh db d now).1) _ (fun _ => rfl) hwork db rfl
    ((Table.nodup_filter _ _).map_on fun a ha b hb hab =>
      Table.eq_of_key_eq (Table.mem_filter.1 ha).1 (Table.mem_filter.1 hb).1 hab)
    fun d hd => (hqueued d hd).1
  have hloop := of_steps hsteps
  exact ⟨hloop.pending, hloop.failed, hloop.receiptPending, hloop.receiptFailed⟩

/-- **A delivery whose attempts ran out** is given up, and what is queued behind it. -/
theorem failExhaustedDelivery (hd : d ∈ db.deliveries) (hstate : d.state = .pending) (now : Time) :
    OnlyFails db (failExhaustedDelivery db d now) ∧
      failedDelivery d .attemptsExhausted now ∈
        (HoptalkRelay.failExhaustedDelivery db d now).deliveries := by
  have hfails : OnlyFails db (db.putDelivery (failedDelivery d .attemptsExhausted now)) :=
    putDelivery hd rfl (by simp [hstate]) rfl
  have hmem : failedDelivery d .attemptsExhausted now ∈
      (db.putDelivery (failedDelivery d .attemptsExhausted now)).deliveries :=
    Table.mem_put_self hd rfl
  unfold HoptalkRelay.failExhaustedDelivery
  dsimp only
  rw [failDeliveryAfterExhaustedAttempts_of_mem hd hstate]
  cases findActiveRefreshSessionId db d with
  | none => exact ⟨hfails, hmem⟩
  | some refreshSessionId =>
      have hstops := stopRefreshSession
        (db.putDelivery (failedDelivery d .attemptsExhausted now)) refreshSessionId now
      exact ⟨hfails.trans hstops, hstops.failed _ hmem rfl⟩

/-- Giving up takes no place. -/
theorem countDeliveriesInProgress_le (h : OnlyFails db db') (deviceId : ℕ) :
    countDeliveriesInProgress db' deviceId ≤ countDeliveriesInProgress db deviceId := by
  refine Table.count_le_of_mem fun d hd hcounts => h.pending d hd ?_
  exact ((countsAsInProgress_iff deviceId).mp hcounts).2.1

end OnlyFails

/-! ### The walk over the candidates -/

/-- A candidate that has not started a round has a free place on its device. -/
def Candidate.HasPlace (settings : RelaySettings) (db : Db) : Candidate → Prop
  | .delivery d => d.roundStartedAt = none →
      countDeliveriesInProgress db d.deviceId < settings.maximumActiveDeliveriesPerDevice
  | .receipt _ => True

/-- The candidate failed because its attempts ran out. -/
def Candidate.IsGivenUp (db' : Db) (now : Time) : Candidate → Prop
  | .delivery d => failedDelivery d .attemptsExhausted now ∈ db'.deliveries
  | .receipt r =>
      { r with state := .failed, failedAt := some now, updatedAt := now } ∈ db'.receipts

section Walk

variable {settings : RelaySettings} {db db' : Db} {now : Time} {connectionGeneration : ℕ}
  {candidate : Candidate}

/-- A candidate had a place when the candidates were read. -/
theorem hasPlace_of_mem_lockDueCandidates
    (h : candidate ∈ lockDueCandidates db now settings.maximumActiveDeliveriesPerDevice) :
    candidate.HasPlace settings db := by
  cases candidate with
  | receipt r => trivial
  | delivery d =>
      simp only [lockDueCandidates, mem_orderBy, List.mem_append, List.mem_map] at h
      rcases h with ⟨e, he, heq⟩ | ⟨r, -, heq⟩
      swap
      · cases heq
      obtain rfl := Candidate.delivery.inj heq
      have hdue := (Table.mem_filter.1 (mem_orderBy.1 (List.mem_of_mem_take he))).2
      simp only [isDueDeliveryCandidate, Bool.and_eq_true, Bool.or_eq_true,
        decide_eq_true_eq] at hdue
      intro hfree
      rcases hdue.2 with hstarted | hplace
      · simp [hfree] at hstarted
      · exact hplace

theorem Candidate.HasPlace.onlyFails (h : candidate.HasPlace settings db)
    (hfails : OnlyFails db db') : candidate.HasPlace settings db' := by
  cases candidate with
  | receipt r => trivial
  | delivery d => exact fun hfree => (hfails.countDeliveriesInProgress_le _).trans_lt (h hfree)

theorem Candidate.IsGivenUp.onlyFails (h : candidate.IsGivenUp db now)
    (hfails : OnlyFails db db') : candidate.IsGivenUp db' now := by
  cases candidate with
  | receipt r => exact hfails.receiptFailed _ h rfl
  | delivery d => exact hfails.failed _ h rfl

/-- **A candidate with a place** is prepared or given up. -/
theorem prepareCandidatePacket_isOk (hok : PreparationOk db) (hlive : candidate.IsLive db)
    (hplace : candidate.HasPlace settings db) (now : Time) (connectionGeneration : ℕ) :
    ∃ db' result, prepareCandidatePacket settings db candidate now connectionGeneration =
        .ok (db', result) ∧
      (result = none → OnlyFails db db' ∧ candidate.IsGivenUp db' now) := by
  cases candidate with
  | delivery d =>
      obtain ⟨⟨db', result⟩, hprepared, houtcome⟩ := prepareDeliveryPacket_isOk hok hlive.1 hlive.2
        settings now connectionGeneration
      refine ⟨db', result, hprepared, fun hnone => ?_⟩
      cases houtcome with
      | packet => simp at hnone
      | exhausted hround hattempts =>
          exact OnlyFails.failExhaustedDelivery hlive.1 hlive.2 now
      | noPlace hround hattempts hstarted hfull =>
          exact absurd (hplace hstarted) (not_lt.mpr hfull)
  | receipt r =>
      obtain ⟨⟨db', result⟩, hprepared, houtcome⟩ := prepareReceiptPacket_isOk hok hlive.1 hlive.2
        settings now connectionGeneration
      refine ⟨db', result, hprepared, fun hnone => ?_⟩
      cases houtcome with
      | packet => simp at hnone
      | exhausted hround hattempts =>
          rw [failReceiptAfterExhaustedAttempts_of_mem hlive.1 hlive.2]
          exact ⟨.putReceipt hlive.1 rfl (by simp [hlive.2]) rfl, Table.mem_put_self hlive.1 rfl⟩

/-- **The walk** never fails, and when it comes to no packet it gave up every candidate. -/
theorem prepareFirstPacket_isOk (candidates : List Candidate) (hok : PreparationOk db)
    (hnodup : candidates.Nodup) (hlive : ∀ candidate ∈ candidates, candidate.IsLive db)
    (hplace : ∀ candidate ∈ candidates, candidate.HasPlace settings db) :
    ∃ db' result, prepareFirstPacket settings now connectionGeneration db candidates =
        .ok (db', result) ∧
      (result = none → PreparationOk db' ∧ OnlyFails db db' ∧
        ∀ candidate ∈ candidates, candidate.IsGivenUp db' now) := by
  induction candidates generalizing db with
  | nil => exact ⟨db, none, rfl, fun _ => ⟨hok, .refl db, by simp⟩⟩
  | cons candidate candidates ih =>
      obtain ⟨hnot, hnodup⟩ := List.nodup_cons.mp hnodup
      have hlive' := hlive candidate List.mem_cons_self
      obtain ⟨db₁, result, hprepared, hnone⟩ := prepareCandidatePacket_isOk hok hlive'
        (hplace candidate List.mem_cons_self) now connectionGeneration
      unfold prepareFirstPacket
      rw [hprepared]
      cases result with
      | some packetDescriptor => exact ⟨db₁, some packetDescriptor, rfl, by simp⟩
      | none =>
          obtain ⟨hfails, hgivenUp⟩ := hnone rfl
          let input : Input := ⟨settings, .prepareNextPacket connectionGeneration now⟩
          have hevent : IsScheduling input now := ⟨connectionGeneration, rfl⟩
          have hworked := prepareCandidatePacket_ok hevent hlive' hprepared
          generalize hresult : none = result at hworked
          cases hworked with
          | packet => simp at hresult
          | nothing hwrites hkeeps =>
              obtain ⟨db', result, hwalked, hrest⟩ := ih (hok.writes hwrites) hnodup
                (fun other hother => hkeeps.live other (fun heq => hnot (heq ▸ hother))
                  (hlive other (List.mem_cons_of_mem _ hother)))
                fun other hother =>
                  (hplace other (List.mem_cons_of_mem _ hother)).onlyFails hfails
              refine ⟨db', result, hwalked, fun hresult => ?_⟩
              obtain ⟨hok', hfails', hall⟩ := hrest hresult
              refine ⟨hok', hfails.trans hfails', fun other hother => ?_⟩
              rcases List.mem_cons.mp hother with rfl | hother
              · exact hgivenUp.onlyFails hfails'
              · exact hall other hother

/-- **A call of the scheduler** never fails, and when it returns nothing it gave up every
candidate. -/
theorem prepareNextPacket_isOk (hok : PreparationOk db) (settings : RelaySettings) (now : Time)
    (connectionGeneration : ℕ) :
    ∃ db' result, prepareNextPacket settings db now connectionGeneration = .ok (db', result) ∧
      (result = none → PreparationOk db' ∧ OnlyFails db db' ∧
        ∀ candidate ∈ lockDueCandidates db now settings.maximumActiveDeliveriesPerDevice,
          candidate.IsGivenUp db' now) :=
  prepareFirstPacket_isOk _ hok (nodup_lockDueCandidates _ _ _) (fun _ => mem_lockDueCandidates)
    fun _ => hasPlace_of_mem_lockDueCandidates

end Walk

/-! ### Repeated calls -/

/-- Calls at one clock reading, until one of them returns a packet or there were as many. -/
def prepareRepeatedly (settings : RelaySettings) (now : Time) (connectionGeneration : ℕ) :
    ℕ → Db → Except ServiceError (Db × Option PacketDescriptor)
  | 0, db => .ok (db, none)
  | calls + 1, db =>
      match prepareNextPacket settings db now connectionGeneration with
      | .ok (db, none) => prepareRepeatedly settings now connectionGeneration calls db
      | result => result

/-- The pending deliveries and receipts. -/
def countPending (db : Db) : ℕ :=
  db.deliveries.count (fun delivery => decide (delivery.state = .pending)) +
    db.receipts.count fun receipt => decide (receipt.state = .pending)

section Progress

variable {settings : RelaySettings} {db db' : Db} {now : Time} {candidate : Candidate}

/-- What is given up is not pending any more. -/
theorem Candidate.IsGivenUp.not_mem (h : candidate.IsGivenUp db' now)
    (hlive : candidate.IsLive db) : ¬ candidate.IsLive db' := by
  cases candidate with
  | delivery d =>
      rintro ⟨hd, hstate⟩
      have heq := Table.eq_of_key_eq h hd rfl
      have hfailed : (failedDelivery d .attemptsExhausted now).state = .failed := rfl
      rw [heq, hstate] at hfailed
      cases hfailed
  | receipt r =>
      rintro ⟨hr, hstate⟩
      have heq := Table.eq_of_key_eq h hr rfl
      have hfailed := congrArg ReceiptNotification.state heq
      rw [hstate] at hfailed
      cases hfailed

/-- Giving up a candidate leaves fewer pending rows. -/
theorem countPending_lt (hfails : OnlyFails db db') (hlive : candidate.IsLive db)
    (hgivenUp : candidate.IsGivenUp db' now) : countPending db' < countPending db := by
  have hnot := hgivenUp.not_mem hlive
  have hdeliveries : ∀ d ∈ db'.deliveries, decide (d.state = .pending) = true →
      d ∈ db.deliveries := fun d hd hstate => hfails.pending d hd (of_decide_eq_true hstate)
  have hreceipts : ∀ r ∈ db'.receipts, decide (r.state = .pending) = true → r ∈ db.receipts :=
    fun r hr hstate => hfails.receiptPending r hr (of_decide_eq_true hstate)
  unfold countPending
  cases candidate with
  | delivery d =>
      have hlt := Table.count_lt_of_mem hdeliveries hlive.1 (decide_eq_true hlive.2)
        fun hd => hnot ⟨hd, hlive.2⟩
      have hle := Table.count_le_of_mem hreceipts
      omega
  | receipt r =>
      have hlt := Table.count_lt_of_mem hreceipts hlive.1 (decide_eq_true hlive.2)
        fun hr => hnot ⟨hr, hlive.2⟩
      have hle := Table.count_le_of_mem hdeliveries
      omega

/-- No candidate: nothing eligible is due. -/
theorem lt_nextEligibleTime
    (h : lockDueCandidates db now settings.maximumActiveDeliveriesPerDevice = []) :
    ∀ time, calculateNextEligibleTime settings db now = some time → now < time := by
  intro time htime
  by_contra hle
  obtain ⟨candidate, hcandidate⟩ :=
    exists_candidate_iff.2 ⟨time, htime, not_lt.mp hle⟩
  rw [h] at hcandidate
  cases hcandidate

/-- Repeated calls come to a packet, or to a state with nothing due. -/
theorem prepareRepeatedly_isOk (hok : PreparationOk db) (settings : RelaySettings) (now : Time)
    (connectionGeneration : ℕ) :
    ∃ calls ≤ countPending db + 1, ∃ db' result,
      prepareRepeatedly settings now connectionGeneration calls db = .ok (db', result) ∧
        (result = none →
          ∀ time, calculateNextEligibleTime settings db' now = some time → now < time) := by
  -- the pending rows become fewer with every call that returns nothing and had a candidate
  induction hcount : countPending db using Nat.strong_induction_on generalizing db with
  | h count ih =>
      obtain ⟨db₁, result, hprepared, hnone⟩ := prepareNextPacket_isOk hok settings now
        connectionGeneration
      cases result with
      | some packetDescriptor =>
          refine ⟨1, by omega, db₁, some packetDescriptor, ?_, by simp⟩
          simp only [prepareRepeatedly, hprepared]
      | none =>
          obtain ⟨hok', hfails, hall⟩ := hnone rfl
          cases hcandidates :
            lockDueCandidates db now settings.maximumActiveDeliveriesPerDevice with
          | nil => exact ⟨0, by omega, db, none, rfl, fun _ => lt_nextEligibleTime hcandidates⟩
          | cons candidate candidates =>
              have hmem : candidate ∈
                  lockDueCandidates db now settings.maximumActiveDeliveriesPerDevice := by
                rw [hcandidates]
                exact List.mem_cons_self
              have hlt := countPending_lt hfails (mem_lockDueCandidates hmem) (hall candidate hmem)
              obtain ⟨calls, hle, db', result, hrepeated, hdue⟩ :=
                ih (countPending db₁) (hcount ▸ hlt) hok' rfl
              refine ⟨calls + 1, by omega, db', result, ?_, hdue⟩
              simp only [prepareRepeatedly, hprepared]
              exact hrepeated

end Progress

/-! ### Results -/

variable {hashing : PasswordHashing} {db : Db}

/-- A delivery or a receipt that was pending is not any more. -/
def SomeWorkEnded (db db' : Db) : Prop :=
  (∃ d ∈ db.deliveries, d.state = .pending ∧
      ∃ d' ∈ db'.deliveries, d'.id = d.id ∧ d'.state ≠ .pending) ∨
    ∃ r ∈ db.receipts, r.state = .pending ∧
      ∃ r' ∈ db'.receipts, r'.id = r.id ∧ r'.state ≠ .pending

/-- **The sender never spins, and due work is never hidden** behind the limit or the cap.  In every
reachable database: a call that returns nothing and changes nothing has nothing due; when something
is due, a call returns a packet or ends some work; a call that returns nothing gave up every
candidate; and repeated calls come to a packet, or to a state with nothing due. -/
theorem scheduler_progress (hdb : (engine hashing).Reachable db) (settings : RelaySettings)
    (now : Time) (connectionGeneration : ℕ) :
    (prepareNextPacket settings db now connectionGeneration = .ok (db, none) →
      ∀ time, calculateNextEligibleTime settings db now = some time → now < time) ∧
    ((∃ time, calculateNextEligibleTime settings db now = some time ∧ time ≤ now) →
      ∃ db' result, prepareNextPacket settings db now connectionGeneration = .ok (db', result) ∧
        (result.isSome ∨ SomeWorkEnded db db')) ∧
    (∀ db', prepareNextPacket settings db now connectionGeneration = .ok (db', none) →
      ∀ candidate ∈ lockDueCandidates db now settings.maximumActiveDeliveriesPerDevice,
        candidate.IsGivenUp db' now) ∧
    ∃ calls db' result,
      prepareRepeatedly settings now connectionGeneration calls db = .ok (db', result) ∧
        (result.isSome ∨
          ∀ time, calculateNextEligibleTime settings db' now = some time → now < time) := by
  have hok := preparationOk_of_reachable hdb
  obtain ⟨db₁, result, hprepared, hnone⟩ := prepareNextPacket_isOk hok settings now
    connectionGeneration
  have hgivenUp : ∀ db', prepareNextPacket settings db now connectionGeneration = .ok (db', none) →
      ∀ candidate ∈ lockDueCandidates db now settings.maximumActiveDeliveriesPerDevice,
        candidate.IsGivenUp db' now := by
    intro db' hcall candidate hcandidate
    obtain ⟨rfl, rfl⟩ := Prod.mk.inj (Except.ok.inj (hprepared.symm.trans hcall))
    exact (hnone rfl).2.2 candidate hcandidate
  refine ⟨fun hcall => ?_, fun hdue => ⟨db₁, result, hprepared, ?_⟩, hgivenUp, ?_⟩
  · refine lt_nextEligibleTime (List.eq_nil_iff_forall_not_mem.mpr fun candidate hmem => ?_)
    have hlive := mem_lockDueCandidates hmem
    exact (hgivenUp db hcall candidate hmem).not_mem hlive hlive
  · cases result with
    | some packetDescriptor => exact Or.inl rfl
    | none =>
        obtain ⟨candidate, hcandidate⟩ := exists_candidate_iff.2 hdue
        have hlive := mem_lockDueCandidates hcandidate
        have hfailed := (hnone rfl).2.2 candidate hcandidate
        right
        cases candidate with
        | delivery d => exact Or.inl ⟨d, hlive.1, hlive.2, _, hfailed, rfl, by simp⟩
        | receipt r => exact Or.inr ⟨r, hlive.1, hlive.2, _, hfailed, rfl, by simp⟩
  · obtain ⟨calls, -, db', result, hrepeated, hdue⟩ :=
      prepareRepeatedly_isOk hok settings now connectionGeneration
    refine ⟨calls, db', result, hrepeated, ?_⟩
    cases result with
    | some packetDescriptor => exact Or.inl rfl
    | none => exact Or.inr (hdue rfl)

/-- Bob's part is due, and a call prepares it. -/
theorem scheduler_progress_sampleMessage :
    (∃ candidate, candidate ∈ lockDueCandidates (sampleDb sampleMessage) (sampleTime 8)
        sampleSettings.maximumActiveDeliveriesPerDevice) ∧
      ∃ db' result, prepareNextPacket sampleSettings (sampleDb sampleMessage) (sampleTime 8) 1 =
          .ok (db', result) ∧
        (result.isSome ∨ SomeWorkEnded (sampleDb sampleMessage) db') := by
  have hdue : ∃ time, calculateNextEligibleTime sampleSettings (sampleDb sampleMessage)
      (sampleTime 8) = some time ∧ time ≤ sampleTime 8 :=
    ⟨sampleTime 7, by decide +kernel, by decide⟩
  exact ⟨exists_candidate_iff.2 hdue,
    (scheduler_progress (reachable_sampleDb sampleMessage) sampleSettings (sampleTime 8) 1).2.1
      hdue⟩

/-- **What the columns of a delivery say** in every reachable database, and what follows in every
state a transaction comes to from there: a round in progress always has parts left, a round that
starts has parts to send, and preparing a packet starts no round without returning one. -/
theorem delivery_rows_represented (hdb : (engine hashing).Reachable db) :
    (∀ d ∈ db.deliveries, ∃ m, db.messages.get? d.messageId = some m ∧
      d.attemptCount ≤ d.maximumAttempts ∧
      d.roundPendingPartsMask < 2 ^ m.partCount.val ∧
      d.partsReceivedMask < 2 ^ m.partCount.val ∧
      (d.state = .pending → d.roundPendingPartsMask &&& d.partsReceivedMask = 0) ∧
      (d.state ≠ .delivered → d.partsReceivedMask ≠ calculateAllPartsMask m.partCount) ∧
      (d.state = .pending → d.nextAttemptAt.isSome) ∧
      (d.roundPendingPartsMask ≠ 0 → d.roundStartedAt.isSome)) ∧
    ∀ input phase db₁, Writes input (.settled, db) (phase, db₁) →
      ∀ d ∈ db₁.deliveries, d.state = .pending →
        (d.roundPendingPartsMask ≠ 0 → findPartsLeftInRound d ≠ 0) ∧
        (∀ m now, db₁.messages.get? d.messageId = some m →
          findPartsLeftInRound (roundStartedDelivery d m.partCount now) ≠ 0) ∧
        ∀ settings now connectionGeneration, ∃ db' result,
          prepareDeliveryPacket settings db₁ d now connectionGeneration = .ok (db', result) ∧
          (result = none → ∀ e ∈ db'.deliveries, e.id = d.id →
            e.attemptCount = d.attemptCount ∧ e.roundStartedAt = d.roundStartedAt ∧
              e.roundPendingPartsMask = 0) := by
  have hok := preparationOk_of_reachable hdb
  refine ⟨fun d hd => ?_, fun input phase db₁ hwrites d hd hstate => ?_⟩
  · obtain ⟨m, hm, -⟩ := (hok.consistent.deliveries d hd).message
    have hrounds := hok.rounds d hd m hm
    exact ⟨m, hm, hrounds.attempts, hrounds.round_lt, hrounds.received_lt, hrounds.disjoint,
      hrounds.incomplete, hrounds.due, hrounds.started⟩
  have hok₁ := hok.writes hwrites
  obtain ⟨m, hm, -⟩ := (hok₁.consistent.deliveries d hd).message
  have hrounds := hok₁.rounds d hd m hm
  refine ⟨fun hround hleft => hround (hrounds.round_eq_zero hstate hleft), fun n now hn => ?_,
    fun settings now connectionGeneration => ?_⟩
  · obtain rfl := Option.some.inj (hm.symm.trans hn)
    exact hrounds.findPartsLeftInRound_roundStarted hstate now
  · obtain ⟨⟨db', result⟩, hprepared, houtcome⟩ :=
      prepareDeliveryPacket_isOk hok₁ hd hstate settings now connectionGeneration
    refine ⟨db', result, hprepared, fun hnone e he hid => ?_⟩
    cases houtcome with
    | packet => cases hnone
    | exhausted hround hattempts =>
        obtain ⟨-, hfailed⟩ := OnlyFails.failExhaustedDelivery hd hstate now
        obtain rfl := Table.eq_of_key_eq he hfailed hid
        exact ⟨rfl, rfl, hround⟩
    | noPlace hround hattempts hstarted hfull =>
        obtain rfl := Table.eq_of_key_eq he hd hid
        exact ⟨rfl, rfl, hround⟩

/-- The delivery a part was prepared for has a round in progress. -/
theorem delivery_rows_represented_sampleSend :
    (sampleDb sampleSend).deliveries.rows.map MessageDelivery.roundPendingPartsMask = [1] ∧
      ∀ d ∈ (sampleDb sampleSend).deliveries, ∃ m,
        (sampleDb sampleSend).messages.get? d.messageId = some m ∧
        d.attemptCount ≤ d.maximumAttempts := by
  refine ⟨by decide +kernel, fun d hd => ?_⟩
  obtain ⟨m, hm, hattempts, -⟩ :=
    (delivery_rows_represented (reachable_sampleDb sampleSend)).1 d hd
  exact ⟨m, hm, hattempts⟩

end HoptalkRelay
