/-
**What a pause of sending guarantees.**

The docstring of the gate says that a pause takes effect once the lock was taken after it: from then
on no packet can start, and none is half sent.  The invariant says it of every block inside its
pause: the sender is between two send steps, so no deadline can appear that was not there when the
latest one was read; a packet that is still prepared then is one whose send step failed.

Main definitions:

* `HoptalkRelay.PhaseOk` — what is known where a block is;
* `HoptalkRelay.SendingOk` — the gate, the sender and the blocks agree.

Main results:

* `HoptalkRelay.SendingOk.step`, `HoptalkRelay.sendingOk_of_run` — **every step keeps it**;
* `HoptalkRelay.no_contact_removed_under_pending_acknowledgement` — contacts are removed only when
  no packet awaits its acknowledgement;
* `HoptalkRelay.no_packet_starts_in_a_pause` — a pause holds the sender until it ends;
* `HoptalkRelay.removal_wait_ends_quiet` — the wait of a removal lasts long enough.
-/

import HoptalkRelay.Invariants.PreparedPackets
import HoptalkRelay.Transactions.Steps

set_option relaxedAutoImplicit false
set_option autoImplicit false

namespace HoptalkRelay

open Relational Transition

/-! ### The invariant -/

/-- A packet's acknowledgement is missing, and this is its deadline. -/
def IsPendingDeadline (t : Table OutboundPacket) (deadline : Time) : Prop :=
  ∃ packet ∈ t, packet.IsUnacknowledgedUntil deadline

/-- Every deadline has passed, or passes a poll before the end of the wait. -/
def DeadlinesWithin (timing : SenderTiming) (t : Table OutboundPacket) (now : Time)
    (monotonicDeadline : Seconds) : Prop :=
  ∀ deadline, IsPendingDeadline t deadline →
    deadline ≤ now ∨ monotonicAt deadline + timing.quietPollSeconds ≤ monotonicDeadline

/-- What is known where a block is. -/
def PhaseOk (timing : SenderTiming) (t : Table OutboundPacket) (now : Time) : PausePhase → Prop
  | .readingLatestDeadline calledAt => calledAt ≤ now
  | .polling isRemoval monotonicDeadline =>
      isRemoval = true → DeadlinesWithin timing t now monotonicDeadline
  | .checking isRemoval monotonicDeadline calledAt waitHasEnded =>
      calledAt ≤ now ∧ (isRemoval = true → DeadlinesWithin timing t now monotonicDeadline ∧
        (waitHasEnded = true → ∀ deadline, IsPendingDeadline t deadline → deadline ≤ calledAt))
  | .quiet | .removing => ∀ deadline, IsPendingDeadline t deadline → deadline ≤ now
  | .waiting | .paused => True

/-- **Only the packet of the send step is prepared**, and those whose send step failed. -/
def PreparedOk (abandoned : List ℕ) (phase : SenderPhase) (t : Table OutboundPacket) : Prop :=
  ∀ packet ∈ t, packet.state = .prepared →
    phase.packetId? = some packet.id ∨ packet.id ∈ abandoned

/-- The gate, the sender and the blocks that pause agree. -/
structure SendingOk (timing : SenderTiming) (abandoned : List ℕ) (relay : SendingRelay) :
    Prop where
  reasons : relay.gate.pauseReasons.Perm (relay.pauses.map PauseBlock.reason)
  holder : relay.gate.sendStepLock.holder =
    if relay.sender.phase.holdsLock then some .sender else none
  /-- **The sender is between two send steps** while a block is inside its pause. -/
  still : ∀ block ∈ relay.pauses, block.isInside = true → relay.sender.phase.holdsLock = false
  prepared : PreparedOk abandoned relay.sender.phase relay.db.packets
  phases : ∀ block ∈ relay.pauses, PhaseOk timing relay.db.packets relay.now block.phase
  oneBlock : (relay.pauses.map PauseBlock.pauseId).Nodup

section Invariant

variable {workerTiming : WorkerTiming} {timing : SenderTiming} {pacing : PacingSettings}
  {relay relay' : SendingRelay} {t u : Table OutboundPacket} {now now' : Time}
  {abandoned : List ℕ}

/-! ### Deadlines -/

theorem AddsNone.isPendingDeadline (h : AddsNone t u) {deadline : Time}
    (hpending : IsPendingDeadline u deadline) : IsPendingDeadline t deadline := by
  obtain ⟨packet, hpacket, hawaits⟩ := hpending
  exact h.awaiting packet hpacket deadline hawaits

theorem AddsPrepared.isPendingDeadline {packetId : Option ℕ} (h : AddsPrepared t u packetId)
    {deadline : Time} (hpending : IsPendingDeadline u deadline) :
    IsPendingDeadline t deadline := by
  obtain ⟨packet, hpacket, hawaits⟩ := hpending
  exact h.awaiting packet hpacket deadline hawaits

theorem monotonicAt_sub (later earlier : Time) :
    monotonicAt (later - earlier) = monotonicAt later - monotonicAt earlier := by
  unfold monotonicAt
  push_cast
  ring

theorem le_of_monotonicAt_le {earlier later : Time}
    (h : monotonicAt earlier ≤ monotonicAt later) : earlier ≤ later := by
  unfold monotonicAt at h
  have hcast : ((earlier : ℤ) : ℚ) ≤ ((later : ℤ) : ℚ) := by linarith
  exact_mod_cast hcast

theorem monotonicAt_le {earlier later : Time} (h : earlier ≤ later) :
    monotonicAt earlier ≤ monotonicAt later := by
  unfold monotonicAt
  have hcast : ((earlier : ℤ) : ℚ) ≤ ((later : ℤ) : ℚ) := by exact_mod_cast h
  linarith

theorem DeadlinesWithin.mono {monotonicDeadline : Seconds}
    (h : DeadlinesWithin timing t now monotonicDeadline) (hnow : now ≤ now')
    (hpending : ∀ deadline, IsPendingDeadline u deadline → IsPendingDeadline t deadline) :
    DeadlinesWithin timing u now' monotonicDeadline := by
  intro deadline hdeadline
  rcases h deadline (hpending deadline hdeadline) with hpassed | hwithin
  · exact Or.inl (hpassed.trans hnow)
  · exact Or.inr hwithin

/-- What is known lasts while no deadline is added. -/
theorem PhaseOk.mono {phase : PausePhase} (h : PhaseOk timing t now phase) (hnow : now ≤ now')
    (hpending : ∀ deadline, IsPendingDeadline u deadline → IsPendingDeadline t deadline) :
    PhaseOk timing u now' phase := by
  cases phase with
  | waiting => trivial
  | paused => trivial
  | readingLatestDeadline calledAt => exact le_trans (show calledAt ≤ now from h) hnow
  | polling isRemoval monotonicDeadline =>
      exact fun hremoval => DeadlinesWithin.mono (h hremoval) hnow hpending
  | checking isRemoval monotonicDeadline calledAt waitHasEnded =>
      refine ⟨h.1.trans hnow, fun hremoval => ?_⟩
      obtain ⟨hwithin, hended⟩ := h.2 hremoval
      exact ⟨hwithin.mono hnow hpending,
        fun hwaited deadline hdeadline => hended hwaited deadline (hpending deadline hdeadline)⟩
  | quiet => exact fun deadline hdeadline => (h deadline (hpending deadline hdeadline)).trans hnow
  | removing =>
      exact fun deadline hdeadline => (h deadline (hpending deadline hdeadline)).trans hnow

/-- A packet that awaits its acknowledgement is one whose deadline is still to come. -/
theorem awaitsNodeAcknowledgement_iff {packet : OutboundPacket} :
    packet.awaitsNodeAcknowledgement now = true ↔
      ∃ deadline, packet.IsUnacknowledgedUntil deadline ∧ now < deadline := by
  unfold OutboundPacket.awaitsNodeAcknowledgement OutboundPacket.IsUnacknowledgedUntil
  rw [Bool.and_eq_true, decide_eq_true_eq, Option.any_eq_true]
  constructor
  · rintro ⟨⟨deadline, hdeadline, hlater⟩, hnone⟩
    exact ⟨deadline, ⟨hdeadline, hnone⟩, of_decide_eq_true hlater⟩
  · rintro ⟨deadline, ⟨hdeadline, hnone⟩, hlater⟩
    exact ⟨⟨deadline, hdeadline, decide_eq_true hlater⟩, hnone⟩

/-- A check that finds no packet: every deadline has passed. -/
theorem isAnyPacketAwaitingNodeAcknowledgement_eq_false {db : Db} :
    isAnyPacketAwaitingNodeAcknowledgement db now = false ↔
      ∀ deadline, IsPendingDeadline db.packets deadline → deadline ≤ now := by
  unfold isAnyPacketAwaitingNodeAcknowledgement
  rw [← Bool.not_eq_true, Table.any_eq_true]
  constructor
  · rintro hnone deadline ⟨packet, hpacket, hawaits⟩
    by_contra hlater
    exact hnone ⟨packet, hpacket, awaitsNodeAcknowledgement_iff.2
      ⟨deadline, hawaits, not_le.1 hlater⟩⟩
  · rintro hpassed ⟨packet, hpacket, hawaits⟩
    obtain ⟨deadline, hdeadline, hlater⟩ := awaitsNodeAcknowledgement_iff.1 hawaits
    exact absurd (hpassed deadline ⟨packet, hpacket, hdeadline⟩) (not_le.2 hlater)

/-- The latest deadline that is read bounds every one that is still to come. -/
theorem le_readLatestAcknowledgementDeadline {db : Db} {deadline : Time}
    (hpending : IsPendingDeadline db.packets deadline) (hlater : now < deadline) :
    ∃ latestDeadline, readLatestAcknowledgementDeadline db now = some latestDeadline ∧
      deadline ≤ latestDeadline := by
  obtain ⟨packet, hpacket, hawaits⟩ := hpending
  have hmem : deadline ∈ (selectPacketsAwaitingNodeAcknowledgement db now).filterMap
      OutboundPacket.acknowledgementDeadlineAt := by
    refine List.mem_filterMap.2 ⟨packet, ?_, hawaits.1⟩
    exact Table.mem_filter.2 ⟨hpacket, awaitsNodeAcknowledgement_iff.2 ⟨deadline, hawaits, hlater⟩⟩
  unfold readLatestAcknowledgementDeadline
  cases hmax : ((selectPacketsAwaitingNodeAcknowledgement db now).filterMap
      OutboundPacket.acknowledgementDeadlineAt).max? with
  | none =>
      rw [List.max?_eq_none_iff.1 hmax] at hmem
      cases hmem
  | some latestDeadline =>
      exact ⟨latestDeadline, rfl, (List.max?_eq_some_iff.1 hmax).2 deadline hmem⟩

/-- **The wait of a removal** ends after every deadline there is. -/
theorem deadlinesWithin_removalWaitSeconds {db : Db} {calledAt : Time} (hcalled : calledAt ≤ now) :
    DeadlinesWithin timing db.packets now
      (monotonicAt now + removalWaitSeconds timing
        (readLatestAcknowledgementDeadline db calledAt) now) := by
  intro deadline hpending
  rcases le_or_gt deadline calledAt with hpassed | hlater
  · exact Or.inl (hpassed.trans hcalled)
  · obtain ⟨latestDeadline, hread, hle⟩ := le_readLatestAcknowledgementDeadline hpending hlater
    refine Or.inr ?_
    have hwait : monotonicAt (latestDeadline - now) + timing.quietPollSeconds ≤
        removalWaitSeconds timing (some latestDeadline) now := le_max_right _ _
    have hmonotonic := monotonicAt_le hle
    rw [hread]
    rw [monotonicAt_sub] at hwait
    linarith

/-! ### The moves -/

theorem SendingOk.start (timing : SenderTiming) (db : Db) (now : Time) :
    SendingOk timing [] (.start db now) where
  reasons := .refl _
  holder := rfl
  still _ hblock := by cases hblock
  prepared packet hpacket hstate :=
    absurd hstate (not_prepared_recoverOutboundPacketsAtStartup db now hpacket)
  phases _ hblock := by cases hblock
  oneBlock := List.nodup_nil

theorem SendingOk.weaken {abandoned' : List ℕ} (h : SendingOk timing abandoned relay)
    (hsubset : ∀ packetId ∈ abandoned, packetId ∈ abandoned') :
    SendingOk timing abandoned' relay :=
  { h with
    prepared := fun packet hpacket hstate =>
      (h.prepared packet hpacket hstate).imp id (hsubset packet.id) }

/-- A gate without reasons has no blocks. -/
theorem SendingOk.pauses_eq_nil (h : SendingOk timing abandoned relay)
    (hpaused : relay.gate.isPaused = false) : relay.pauses = [] := by
  have hreasons : relay.gate.pauseReasons = [] := by
    simpa [SendingGate.isPaused] using hpaused
  have hlength := h.reasons.length_eq
  rw [hreasons, List.length_nil, List.length_map] at hlength
  exact List.length_eq_zero_iff.1 hlength.symm

/-- While the lock is held, no block is inside its pause. -/
theorem SendingOk.not_isInside (h : SendingOk timing abandoned relay)
    (hholds : relay.sender.phase.holdsLock = true) :
    ∀ block ∈ relay.pauses, block.isInside = false := by
  intro block hblock
  by_contra hinside
  have hstill := h.still block hblock (Bool.not_eq_false _ |>.mp hinside)
  rw [hholds] at hstill
  cases hstill

/-- **A step beside the blocks**: the sender goes on, or packets change and time passes. -/
theorem SendingOk.move (h : SendingOk timing abandoned relay)
    (hpauses : relay'.pauses = relay.pauses)
    (hreasons : relay'.gate.pauseReasons = relay.gate.pauseReasons)
    (hholder : relay'.gate.sendStepLock.holder =
      if relay'.sender.phase.holdsLock then some .sender else none)
    (hstill : relay'.sender.phase.holdsLock = true →
      ∀ block ∈ relay.pauses, block.isInside = false)
    (hprepared : PreparedOk abandoned relay'.sender.phase relay'.db.packets)
    (hnow : relay.now ≤ relay'.now)
    (hpending : ∀ block ∈ relay.pauses, block.isInside = true → ∀ deadline,
      IsPendingDeadline relay'.db.packets deadline → IsPendingDeadline relay.db.packets deadline) :
    SendingOk timing abandoned relay' where
  reasons := by
    rw [hreasons, hpauses]
    exact h.reasons
  holder := hholder
  still block hblock hinside := by
    rw [hpauses] at hblock
    by_contra hholds
    rw [hstill (Bool.not_eq_false _ |>.mp hholds) block hblock] at hinside
    cases hinside
  prepared := hprepared
  phases block hblock := by
    rw [hpauses] at hblock
    by_cases hinside : block.isInside = true
    · exact (h.phases block hblock).mono hnow (hpending block hblock hinside)
    · have hphase : block.phase = .waiting := by
        simpa [PauseBlock.isInside] using hinside
      rw [hphase]
      trivial
  oneBlock := hpauses ▸ h.oneBlock

/-- A step of another task: time passes, and no packet is prepared or begins to be awaited. -/
theorem SendingOk.beside (h : SendingOk timing abandoned relay)
    (hpauses : relay'.pauses = relay.pauses)
    (hgate : relay'.gate = relay.gate) (hphase : relay'.sender.phase = relay.sender.phase)
    (hpackets : AddsNone relay.db.packets relay'.db.packets) (hnow : relay.now ≤ relay'.now) :
    SendingOk timing abandoned relay' := by
  refine h.move hpauses (by rw [hgate]) (by rw [hgate, hphase]; exact h.holder)
    (fun hholds => h.not_isInside (hphase ▸ hholds)) (fun packet hpacket hstate => ?_) hnow
    fun _ _ _ deadline => hpackets.isPendingDeadline
  obtain ⟨before, hbefore, hid, hprepared⟩ := hpackets.prepared packet hpacket hstate
  rw [hphase, ← hid]
  exact h.prepared before hbefore hprepared

/-- **A step of the sender under the lock**, or the end of the send step. -/
theorem SendingOk.underLock (h : SendingOk timing abandoned relay)
    (hholds : relay.sender.phase.holdsLock = true) (hpauses : relay'.pauses = relay.pauses)
    (hreasons : relay'.gate.pauseReasons = relay.gate.pauseReasons)
    (hholder : relay'.gate.sendStepLock.holder =
      if relay'.sender.phase.holdsLock then some .sender else none)
    (hprepared : PreparedOk abandoned relay'.sender.phase relay'.db.packets)
    (hnow : relay'.now = relay.now) : SendingOk timing abandoned relay' := by
  refine h.move hpauses hreasons hholder (fun _ => h.not_isInside hholds) hprepared hnow.ge
    fun block hblock hinside => ?_
  rw [h.not_isInside hholds block hblock] at hinside
  cases hinside

/-! ### The blocks -/

theorem mem_movePause {pauseId : ℕ} {phase : PausePhase} {block : PauseBlock} :
    block ∈ (relay.movePause pauseId phase).pauses ↔
      ∃ before ∈ relay.pauses,
        (if before.pauseId = pauseId then { before with phase } else before) = block :=
  List.mem_map

/-- **A block goes on** to a phase of which everything is known. -/
theorem SendingOk.movePause (h : SendingOk timing abandoned relay) {pauseId : ℕ}
    {phase : PausePhase}
    (hstill : phase ≠ .waiting → relay.sender.phase.holdsLock = false)
    (hphase : PhaseOk timing relay.db.packets relay.now phase) :
    SendingOk timing abandoned (relay.movePause pauseId phase) where
  reasons := by
    have hmap : (relay.movePause pauseId phase).pauses.map PauseBlock.reason =
        relay.pauses.map PauseBlock.reason := by
      unfold SendingRelay.movePause
      rw [List.map_map]
      refine List.map_congr_left fun block _ => ?_
      simp only [Function.comp_apply]
      split <;> rfl
    rw [hmap]
    exact h.reasons
  holder := h.holder
  still block hblock hinside := by
    obtain ⟨before, hbefore, rfl⟩ := mem_movePause.1 hblock
    split at hinside
    · exact hstill (by simpa [PauseBlock.isInside] using hinside)
    · exact h.still before hbefore hinside
  prepared := h.prepared
  phases block hblock := by
    obtain ⟨before, hbefore, rfl⟩ := mem_movePause.1 hblock
    split
    · exact hphase
    · exact h.phases before hbefore
  oneBlock := by
    have hmap : (relay.movePause pauseId phase).pauses.map PauseBlock.pauseId =
        relay.pauses.map PauseBlock.pauseId := by
      unfold SendingRelay.movePause
      rw [List.map_map]
      refine List.map_congr_left fun block _ => ?_
      simp only [Function.comp_apply]
      split <;> rfl
    rw [hmap]
    exact h.oneBlock

/-- **A block ends.** -/
theorem SendingOk.endPause (h : SendingOk timing abandoned relay) {block : PauseBlock}
    (hblock : block ∈ relay.pauses) : SendingOk timing abandoned (relay.endPause block) where
  reasons := by
    have hperm := h.reasons.trans ((List.perm_cons_erase hblock).map PauseBlock.reason)
    have herase := hperm.erase block.reason
    rwa [List.map_cons, List.erase_cons_head] at herase
  holder := h.holder
  still other hother := h.still other (List.mem_of_mem_erase hother)
  prepared := h.prepared
  phases other hother := h.phases other (List.mem_of_mem_erase hother)
  oneBlock := h.oneBlock.sublist ((List.erase_sublist).map _)

theorem mem_of_findPause {pauseId : ℕ} {block : PauseBlock}
    (h : relay.findPause pauseId = some block) :
    block ∈ relay.pauses ∧ block.pauseId = pauseId :=
  ⟨List.mem_of_find?_eq_some h, by simpa using List.find?_some h⟩

/-- A new block has an id of its own. -/
theorem not_mem_of_findPause {pauseId : ℕ} (h : ¬ (relay.findPause pauseId).isSome) :
    pauseId ∉ relay.pauses.map PauseBlock.pauseId := by
  intro hmem
  obtain ⟨block, hblock, hid⟩ := List.mem_map.1 hmem
  refine h (List.find?_isSome.2 ⟨block, hblock, ?_⟩)
  exact decide_eq_true hid

/-- **A block is added**, outside its pause or while nobody holds the lock. -/
theorem SendingOk.addPause (h : SendingOk timing abandoned relay) {block : PauseBlock}
    (hnew : block.pauseId ∉ relay.pauses.map PauseBlock.pauseId)
    (hphase : block.phase = .waiting ∨
      block.phase = .paused ∧ relay.sender.phase.holdsLock = false)
    (hpauses : relay'.pauses = relay.pauses ++ [block])
    (hreasons : relay'.gate.pauseReasons = relay.gate.pauseReasons ++ [block.reason])
    (hholder : relay'.gate.sendStepLock.holder = relay.gate.sendStepLock.holder)
    (hdb : relay'.db = relay.db) (hsender : relay'.sender = relay.sender)
    (hnow : relay'.now = relay.now) : SendingOk timing abandoned relay' where
  reasons := by
    rw [hreasons, hpauses, List.map_append]
    exact h.reasons.append_right _
  holder := by
    rw [hholder, hsender]
    exact h.holder
  still other hother hinside := by
    rw [hsender]
    rw [hpauses] at hother
    rcases List.mem_append.1 hother with hother | hother
    · exact h.still other hother hinside
    · rw [List.mem_singleton.1 hother] at hinside
      rcases hphase with hwaiting | ⟨-, hfree⟩
      · simp [PauseBlock.isInside, hwaiting] at hinside
      · exact hfree
  prepared := by
    rw [hdb, hsender]
    exact h.prepared
  phases other hother := by
    rw [hdb, hnow]
    rw [hpauses] at hother
    rcases List.mem_append.1 hother with hother | hother
    · exact h.phases other hother
    · rw [List.mem_singleton.1 hother]
      rcases hphase with hwaiting | ⟨hpaused, -⟩
      · rw [hwaiting]
        trivial
      · rw [hpaused]
        trivial
  oneBlock := by
    rw [hpauses, List.map_append]
    refine List.nodup_append.2 ⟨h.oneBlock, List.nodup_singleton _, fun other hother new hmem => ?_⟩
    rw [List.mem_singleton.1 hmem]
    rintro rfl
    exact hnew hother

/-- Only the sender holds the lock between two events. -/
theorem SendingOk.holdsLock_eq_false (h : SendingOk timing abandoned relay)
    (hholder : relay.gate.sendStepLock.holder = none) :
    relay.sender.phase.holdsLock = false := by
  by_contra hholds
  have hsender := h.holder
  rw [hholder, if_pos (Bool.not_eq_false _ |>.mp hholds)] at hsender
  cases hsender

/-- **A block is entered**: it is inside its pause only when nobody held the lock. -/
theorem SendingOk.enterPause (h : SendingOk timing abandoned relay) {pauseId : ℕ} {reason : Text}
    (hnew : ¬ (relay.findPause pauseId).isSome) :
    SendingOk timing abandoned (enterPause relay pauseId reason) := by
  have hid := not_mem_of_findPause hnew
  unfold HoptalkRelay.enterPause
  dsimp only
  have htake : (relay.gate.sendStepLock.ask (.pauser pauseId)).holder =
        relay.gate.sendStepLock.holder ∨
      relay.gate.sendStepLock.holder = none ∧
        (relay.gate.sendStepLock.ask (.pauser pauseId)).holder = some (.pauser pauseId) :=
    TaskLock.holder_ask
  rcases htake with hsame | ⟨hnone, htook⟩
  · have hnot : (relay.gate.sendStepLock.ask (.pauser pauseId)).holder ≠
        some (.pauser pauseId) := by
      rw [hsame, h.holder]
      split <;> simp
    simp only [hnot, decide_false, Bool.false_eq_true, if_false]
    exact h.addPause hid (Or.inl rfl) rfl rfl hsame rfl rfl rfl
  · simp only [htook, decide_true, if_true]
    exact h.addPause hid (Or.inr ⟨rfl, h.holdsLock_eq_false hnone⟩) rfl rfl hnone.symm rfl rfl rfl

/-- **What a block inside its pause does.** -/
theorem SendingOk.pauseStep (h : SendingOk timing abandoned relay) {block : PauseBlock}
    (hblock : block ∈ relay.pauses) (event : SendingEvent) :
    SendingOk timing abandoned (pauseStep timing relay block event).1 := by
  have hstill : block.phase ≠ .waiting → relay.sender.phase.holdsLock = false :=
    fun hphase => h.still block hblock (decide_eq_true hphase)
  have hok := h.phases block hblock
  unfold HoptalkRelay.pauseStep
  cases event with
  | latestDeadlineCalled pauseId =>
      dsimp only
      split
      · next hpaused => exact h.movePause (fun _ => hstill (by simp [hpaused])) le_rfl
      · exact h
  | latestDeadlineRead pauseId =>
      dsimp only
      split
      · next calledAt hreading =>
          rw [hreading] at hok hstill
          exact h.movePause (fun _ => hstill (by simp))
            fun _ => deadlinesWithin_removalWaitSeconds hok
      · exact h
  | restartWaitStarts pauseId =>
      dsimp only
      split
      · next hpaused => exact h.movePause (fun _ => hstill (by simp [hpaused])) (by simp [PhaseOk])
      · exact h
  | quietCheckCalled pauseId =>
      dsimp only
      split
      · next isRemoval monotonicDeadline hpolling =>
          rw [hpolling] at hok hstill
          refine h.movePause (fun _ => hstill (by simp)) ⟨le_rfl, fun hremoval => ?_⟩
          refine ⟨hok hremoval, fun hended deadline hpending => ?_⟩
          rcases hok hremoval deadline hpending with hpassed | hwithin
          · exact hpassed
          · have hreached : monotonicDeadline ≤ monotonicAt relay.now := of_decide_eq_true hended
            have hpoll := timing.quietPollSeconds_nonneg
            exact le_of_monotonicAt_le (by linarith)
      · exact h
  | quietCheckRuns pauseId =>
      dsimp only
      split
      · next isRemoval monotonicDeadline calledAt waitHasEnded hchecking =>
          rw [hchecking] at hok hstill
          have hfree := hstill (by simp)
          unfold checkQuiet
          split
          · next hnone =>
              split at hnone
              · next hquiet =>
                  refine h.movePause (fun _ => hfree) fun deadline hpending => ?_
                  exact (isAnyPacketAwaitingNodeAcknowledgement_eq_false.1 hquiet deadline
                    hpending).trans hok.1
              · split at hnone <;> cases hnone
          · next phase _ hphase =>
              split at hphase
              · next hnot _ => exact absurd (Option.some.inj hphase).symm hnot
              · split at hphase
                · cases hphase
                · obtain rfl := Option.some.inj hphase
                  exact h.movePause (fun _ => hfree) fun hremoval => (hok.2 hremoval).1
          · exact h.movePause (fun _ => hfree) trivial
      · exact h
  | removalsStart pauseId listedConnectionGeneration =>
      dsimp only
      split
      · next hquiet =>
          rw [hquiet] at hok hstill
          split
          · exact h.movePause (fun _ => hstill (by simp)) hok
          · exact h.endPause hblock
      · exact h
  | removeContact pauseId publicKey =>
      dsimp only
      split <;> exact h
  | pauseEnds pauseId => exact h.endPause hblock
  | _ => exact h

/-! ### The sender -/

/-- Outside a send step's packet only abandoned packets are prepared. -/
theorem SendingOk.mem_abandoned (h : SendingOk timing abandoned relay)
    (hphase : relay.sender.phase.packetId? = none) {packet : OutboundPacket}
    (hpacket : packet ∈ relay.db.packets) (hstate : packet.state = .prepared) :
    packet.id ∈ abandoned := by
  refine (h.prepared packet hpacket hstate).resolve_left fun hid => ?_
  rw [hphase] at hid
  cases hid

theorem SendingOk.preparedOk (h : SendingOk timing abandoned relay)
    (hphase : relay.sender.phase.packetId? = none) (phase : SenderPhase) :
    PreparedOk abandoned phase relay.db.packets :=
  fun _ hpacket hstate => Or.inr (h.mem_abandoned hphase hpacket hstate)

/-- **The start of a send step**, once the lock is taken. -/
theorem SendingOk.startSendStep (h : SendingOk timing abandoned relay)
    (hphase : relay.sender.phase.packetId? = none)
    {sendStepLock : TaskLock SendingTask} (hholder : sendStepLock.holder = some .sender) :
    SendingOk timing abandoned (startSendStep workerTiming timing pacing
      { relay with gate := { relay.gate with sendStepLock } }).1 := by
  have hnone := h.preparedOk hphase
  unfold HoptalkRelay.startSendStep
  split
  · exact h.move rfl rfl rfl (fun hholds => by cases hholds) (hnone _) le_rfl fun _ _ _ _ => id
  · next hmay =>
      have hpaused : relay.gate.isPaused = false := by
        have hnot := (not_or.1 hmay).1
        simpa [SendingGate.isPaused] using hnot
      have hnoPause : ∀ block ∈ relay.pauses, block.isInside = false := by
        rw [h.pauses_eq_nil hpaused]
        intro block hblock
        cases hblock
      dsimp only
      split
      · exact h.move rfl rfl hholder (fun _ => hnoPause) (hnone _) le_rfl fun _ _ _ _ => id
      · split
        · exact h.move rfl rfl hholder (fun _ => hnoPause) (hnone _) le_rfl fun _ _ _ _ => id
        · exact h.move rfl rfl rfl (fun hholds => by cases hholds) (hnone _) le_rfl
            fun _ _ _ _ => id

theorem SendingOk.preparePacket (h : SendingOk timing abandoned relay) {settings : RelaySettings}
    {pendingReply : Option PendingReply} {calledAt : Time} {connectionGeneration : ℕ}
    (hphase : relay.sender.phase = .preparing pendingReply calledAt connectionGeneration) :
    SendingOk timing abandoned
      (preparePacket settings relay pendingReply calledAt connectionGeneration).1 := by
  have hholds : relay.sender.phase.holdsLock = true := by rw [hphase]; rfl
  have hpacketId : relay.sender.phase.packetId? = none := by rw [hphase]; rfl
  have hlocked : relay.gate.sendStepLock.holder = some .sender := by
    rw [h.holder, hholds]
    rfl
  have hadds : ∀ {db : Db} {packet : Option PacketDescriptor},
      prepareReplyOrNextPacket settings relay.db pendingReply calledAt connectionGeneration =
          .ok (db, packet) → ∀ added ∈ db.packets, added.state = .prepared →
        preparedPacketId packet = some added.id ∨ added.id ∈ abandoned := by
    intro db packet hprepared added hadded hstate
    have hadds : AddsPrepared relay.db.packets db.packets (preparedPacketId packet) := by
      cases pendingReply with
      | some reply => exact addsPrepared_prepareReplyPacket hprepared
      | none => exact addsPrepared_prepareNextPacket hprepared
    rcases hadds.prepared added hadded hstate with ⟨before, hbefore, hid, hstate'⟩ | hid
    · rw [← hid]
      exact Or.inr (h.mem_abandoned hpacketId hbefore hstate')
    · exact Or.inl hid
  unfold HoptalkRelay.preparePacket
  split
  · exact h.underLock hholds rfl rfl rfl (h.preparedOk hpacketId _) rfl
  · next db packet hprepared => exact h.underLock hholds rfl rfl hlocked (hadds hprepared) rfl
  · next db hprepared =>
      have hnone := hadds hprepared
      split
      · exact h.underLock hholds rfl rfl rfl hnone rfl
      · exact h.underLock hholds rfl rfl hlocked hnone rfl

/-- The back-off changes the sender's waits and the replies. -/
theorem handleRecordedOutcome_eq (timing : SenderTiming) (relay : SendingRelay)
    (recordedOutcome : RecordedSendOutcome) (pendingReply : Option PendingReply) :
    ∃ packetPoolBackOffUntil consecutiveFullPacketPools replyQueue,
      handleRecordedOutcome timing relay recordedOutcome pendingReply =
        { relay with
          sender :=
            { relay.sender with packetPoolBackOffUntil, consecutiveFullPacketPools }
          replyQueue } := by
  unfold handleRecordedOutcome
  split
  · exact ⟨_, _, _, rfl⟩
  · exact ⟨_, _, _, rfl⟩

/-- **The end of a send step**: the lock is released, or the early push is matched under it. -/
theorem finishSendStep_eq (workerTiming : WorkerTiming) (timing : SenderTiming)
    (relay : SendingRelay) (pendingReply : Option PendingReply) (outcome : NodeSendOutcome)
    (recordedOutcome : Option RecordedSendOutcome) :
    ∃ packetPoolBackOffUntil consecutiveFullPacketPools replyQueue tracker phase,
      let finished : SendingRelay :=
        { relay with
          sender :=
            { phase
              lastSendCompletedAt := some relay.monotonic
              packetPoolBackOffUntil
              consecutiveFullPacketPools }
          replyQueue
          tracker }
      (finishSendStep workerTiming timing relay pendingReply outcome recordedOutcome).1 =
          (if phase = .resting then { finished with gate := relay.gate.release } else finished) ∧
        (phase = .resting ∨ ∃ acknowledgement, phase = .acknowledging acknowledgement relay.now) ∧
        (tracker = relay.tracker ∨ ∃ recordedOutcome,
          tracker = (relay.tracker.registerSentPacket workerTiming recordedOutcome
            relay.monotonic).1) := by
  unfold finishSendStep
  cases recordedOutcome with
  | none => exact ⟨_, _, _, _, .resting, rfl, Or.inl rfl, Or.inl rfl⟩
  | some recordedOutcome =>
      dsimp only
      obtain ⟨packetPoolBackOffUntil, consecutiveFullPacketPools, replyQueue, hhandled⟩ :=
        handleRecordedOutcome_eq timing
          (recordSendCompleted workerTiming relay pendingReply outcome) recordedOutcome pendingReply
      rw [hhandled]
      split
      · next tracker hregistered =>
          refine ⟨_, _, _, _, .resting, rfl, Or.inl rfl, Or.inr ⟨recordedOutcome, ?_⟩⟩
          exact (congrArg Prod.fst hregistered).symm
      · next tracker acknowledgement hregistered =>
          refine ⟨_, _, _, _, .acknowledging acknowledgement _, rfl, Or.inr ⟨_, rfl⟩,
            Or.inr ⟨recordedOutcome, ?_⟩⟩
          exact (congrArg Prod.fst hregistered).symm

theorem SendingOk.finishSendStep (h : SendingOk timing abandoned relay) {packet : PacketDescriptor}
    {pendingReply : Option PendingReply} {outcome : NodeSendOutcome} {calledAt : Time}
    (hphase : relay.sender.phase = .recording packet pendingReply outcome calledAt)
    (settings : RelaySettings) (recordedOutcome : Option RecordedSendOutcome) :
    SendingOk timing abandoned (finishSendStep workerTiming timing
      { relay with
        db := (recordSendOutcome settings relay.db packet.packetId outcome calledAt).1 }
      pendingReply outcome recordedOutcome).1 := by
  have hholds : relay.sender.phase.holdsLock = true := by rw [hphase]; rfl
  have hlocked : relay.gate.sendStepLock.holder = some .sender := by
    rw [h.holder, hholds]
    rfl
  have hnone : ∀ phase, PreparedOk abandoned phase
      (recordSendOutcome settings relay.db packet.packetId outcome calledAt).1.packets := by
    intro phase recorded hrecorded hstate
    obtain ⟨hother, before, hbefore, hid, hstate'⟩ :=
      prepared_recordSendOutcome settings packet.packetId outcome calledAt hrecorded hstate
    have hpacket := h.prepared before hbefore hstate'
    rw [hphase, hid] at hpacket
    exact Or.inr (hpacket.resolve_left fun hsame => hother (Option.some.inj hsame).symm)
  obtain ⟨_, _, _, _, phase, hfinished, hresting, -⟩ :=
    finishSendStep_eq workerTiming timing
      { relay with
        db := (recordSendOutcome settings relay.db packet.packetId outcome calledAt).1 }
      pendingReply outcome recordedOutcome
  rw [hfinished]
  rcases hresting with rfl | ⟨acknowledgement, rfl⟩
  · exact h.underLock hholds rfl rfl rfl (hnone _) rfl
  · exact h.underLock hholds rfl rfl hlocked (hnone _) rfl

/-- **Every step of the sender** that does not fail. -/
theorem SendingOk.senderStep (h : SendingOk timing abandoned relay) {event : SendingEvent}
    (hevent : event ≠ .sendStepFails) :
    SendingOk timing abandoned (senderStep workerTiming timing pacing relay event).1 := by
  unfold HoptalkRelay.senderStep
  cases event with
  | senderLooks =>
      dsimp only
      split
      · exact h
      · next hresting =>
          have hphase : relay.sender.phase = .resting := not_not.1 hresting
          split
          · exact h
          · split
            · next htaken =>
                exact h.startSendStep (by rw [hphase]; rfl) htaken
            · next hnot =>
                have hsame : (relay.gate.sendStepLock.ask .sender).holder =
                    relay.gate.sendStepLock.holder :=
                  TaskLock.holder_ask.resolve_right fun htook => hnot htook.2
                refine h.move rfl rfl ?_ (fun hholds => by cases hholds)
                  (h.preparedOk (by rw [hphase]; rfl) _) le_rfl fun _ _ _ _ => id
                refine hsame.trans (h.holder.trans ?_)
                rw [hphase]
                rfl
  | packetPrepared settings =>
      dsimp only
      split
      · next hphase => exact h.preparePacket hphase
      · exact h
  | eligibleTimeRead settings =>
      dsimp only
      split
      · next hphase =>
          exact h.underLock (by rw [hphase]; rfl) rfl rfl rfl
            (h.preparedOk (by rw [hphase]; rfl) _) rfl
      · exact h
  | routesSettled =>
      dsimp only
      split
      · next hphase =>
          refine h.underLock (by rw [hphase]; rfl) rfl rfl ?_ (fun packet hpacket hstate => ?_) rfl
          · refine h.holder.trans ?_
            rw [hphase]
            rfl
          · have hid := h.prepared packet hpacket hstate
            rwa [hphase] at hid
      · exact h
  | nodeAnswers outcome =>
      dsimp only
      split
      · next hphase =>
          refine h.underLock (by rw [hphase]; rfl) rfl rfl ?_ (fun packet hpacket hstate => ?_) rfl
          · refine h.holder.trans ?_
            rw [hphase]
            rfl
          · have hid := h.prepared packet hpacket hstate
            rwa [hphase] at hid
      · exact h
  | outcomeRecorded settings =>
      dsimp only
      split
      · next hphase => exact h.finishSendStep hphase settings _
      · exact h
  | earlyPushMatched =>
      dsimp only
      split
      · next acknowledgement calledAt hphase =>
          refine h.underLock (by rw [hphase]; rfl) rfl rfl rfl (fun packet hpacket hstate => ?_) rfl
          obtain ⟨before, hbefore, hid, hstate'⟩ :=
            (addsNone_recordNodeAcknowledgement acknowledgement.code
              acknowledgement.roundTripMilliseconds calledAt).prepared packet hpacket hstate
          rw [← hid]
          exact h.preparedOk (by rw [hphase]; rfl) _ before hbefore hstate'
      · exact h
  | sendStepFails => exact absurd rfl hevent
  | _ => exact h

/-- **A send step that fails** abandons its packet. -/
theorem SendingOk.abandon (h : SendingOk timing abandoned relay)
    (hholds : relay.sender.phase.holdsLock = true) :
    SendingOk timing (abandoned ++ relay.sender.phase.packetId?.toList) relay.releaseLock := by
  have hweakened : SendingOk timing (abandoned ++ relay.sender.phase.packetId?.toList) relay :=
    h.weaken fun _ => List.mem_append_left _
  refine hweakened.underLock hholds rfl rfl rfl (fun packet hpacket hstate => Or.inr ?_) rfl
  rcases h.prepared packet hpacket hstate with hid | habandoned
  · rw [hid]
    exact List.mem_append_right _ List.mem_cons_self
  · exact List.mem_append_left _ habandoned

/-- **The first waiting task takes the lock.** -/
theorem SendingOk.lockStep (h : SendingOk timing abandoned relay)
    (hphase : relay.sender.phase.holdsLock = false → relay.sender.phase.packetId? = none) :
    SendingOk timing abandoned (lockStep workerTiming timing pacing relay).1 := by
  unfold HoptalkRelay.lockStep
  split
  · exact h
  · next sendStepLock htaken =>
      obtain ⟨hnone, hholder⟩ := TaskLock.takeNext?_eq_some htaken
      have hfree := h.holdsLock_eq_false hnone
      exact h.startSendStep (hphase hfree) hholder
  · next pauseId sendStepLock htaken =>
      obtain ⟨hnone, -⟩ := TaskLock.takeNext?_eq_some htaken
      have hfree := h.holdsLock_eq_false hnone
      have hreleased : SendingOk timing abandoned
          { relay with gate := { relay.gate with sendStepLock := sendStepLock.release } } := by
        refine h.move rfl rfl ?_ (fun hholds => ?_) h.prepared le_rfl fun _ _ _ _ => id
        · exact (if_neg (by rw [hfree]; exact Bool.false_ne_true)).symm
        · exact absurd hfree (by rw [show relay.sender.phase.holdsLock = true from hholds]; simp)
      exact hreleased.movePause (fun _ => hfree) trivial

theorem packetId?_eq_none_of_not_holdsLock {phase : SenderPhase} (h : phase.holdsLock = false) :
    phase.packetId? = none := by
  cases phase <;> first | rfl | cases h

/-- A step in which the send step does not fail. -/
theorem SendingOk.step_of_ne (h : SendingOk timing abandoned relay) {event : SendingEvent}
    (hevent : event ≠ .sendStepFails) :
    SendingOk timing abandoned (sendingStep workerTiming timing pacing relay event).1 := by
  unfold sendingStep
  split
  · next microseconds =>
      refine h.beside rfl rfl rfl (.refl _) ?_
      exact Int.le_add_of_nonneg_right (Int.natCast_nonneg microseconds)
  · exact h.beside rfl rfl rfl (.refl _) le_rfl
  · exact h.beside rfl rfl rfl (.refl _) le_rfl
  · exact h.beside rfl rfl rfl (.refl _) le_rfl
  · split
    · next hleaves => exact h.beside rfl rfl rfl hleaves.addsNone le_rfl
    · exact h
  · exact h.beside rfl rfl rfl (addsNone_recordNodeAcknowledgement _ _ _) le_rfl
  · exact h.beside rfl rfl rfl (addsNone_recordAcknowledgementDeadlinePassed _ _) le_rfl
  · exact h.beside rfl rfl rfl (.refl _) le_rfl
  · exact h.beside rfl rfl rfl (addsNone_markPacketsAwaitingAcknowledgementDropped _) le_rfl
  · exact h.lockStep packetId?_eq_none_of_not_holdsLock
  · split
    · exact h
    · next hnew => exact h.enterPause hnew
  · split
    · exact h.senderStep hevent
    · split
      · exact h
      · next block hblock => exact h.pauseStep (mem_of_findPause hblock).1 _

/-- **Every step** keeps the gate, the sender and the blocks in agreement. -/
theorem SendingOk.step (h : SendingOk timing abandoned relay) (event : SendingEvent) :
    SendingOk timing
      (abandoned ++ (sendingStep workerTiming timing pacing relay
        event).2.abandonedPacketId?.toList)
      (sendingStep workerTiming timing pacing relay event).1 := by
  by_cases hevent : event = .sendStepFails
  · subst hevent
    unfold sendingStep SendingEvent.pauseId? HoptalkRelay.senderStep
    dsimp only
    split
    · next hholds => exact h.abandon hholds
    · exact h.weaken fun _ => List.mem_append_left _
  · exact (h.step_of_ne hevent).weaken fun _ => List.mem_append_left _

/-- The packets of a run whose send step failed. -/
def abandonedPackets (history : List (SendingEvent × SendingOutcome)) : List ℕ :=
  history.filterMap fun shown => shown.2.abandonedPacketId?

theorem abandonedPackets_snoc (history : List (SendingEvent × SendingOutcome))
    (shown : SendingEvent × SendingOutcome) :
    abandonedPackets (history ++ [shown]) =
      abandonedPackets history ++ shown.2.abandonedPacketId?.toList := by
  unfold abandonedPackets
  rw [List.filterMap_append]
  cases hshown : shown.2.abandonedPacketId? <;> simp [hshown]

/-- **Along every run.** -/
theorem sendingOk_of_run {db : Db} {history : List (SendingEvent × SendingOutcome)}
    (run : (sendingRelay workerTiming timing pacing db now).Run (.start db now) history relay) :
    SendingOk timing (abandonedPackets history) relay := by
  refine run.invariant
    (P := fun history reached => SendingOk timing (abandonedPackets history) reached)
    (SendingOk.start timing db now) fun history reached event _ _ hok => ?_
  rw [abandonedPackets_snoc]
  exact hok.step event

/-! ### What a step shows -/

/-- The outcomes of the sender's own steps. -/
def SendingOutcome.isOfSender : SendingOutcome → Bool
  | .nothing | .looksAgainAt _ | .packetHanded _ | .packetSent | .sendStepFailed _ => true
  | .waitEnded _ _ | .contactRemoved _ | .removalsAborted _ | .pauseEnded _ => false

theorem startSendStep_quiet (workerTiming : WorkerTiming) (timing : SenderTiming)
    (pacing : PacingSettings) (relay : SendingRelay) :
    (startSendStep workerTiming timing pacing relay).2.isOfSender = true ∧
      (∀ packet, (startSendStep workerTiming timing pacing relay).2 ≠ .packetHanded packet) ∧
      (startSendStep workerTiming timing pacing relay).1.pauses = relay.pauses ∧
      (startSendStep workerTiming timing pacing relay).1.db = relay.db := by
  unfold startSendStep
  split
  · exact ⟨rfl, by simp, rfl, rfl⟩
  · dsimp only
    split
    · exact ⟨rfl, by simp, rfl, rfl⟩
    · split <;> exact ⟨rfl, by simp, rfl, rfl⟩

theorem isOfSender_senderStep (relay : SendingRelay) (event : SendingEvent) :
    (senderStep workerTiming timing pacing relay event).2.isOfSender = true := by
  unfold senderStep
  cases event with
  | senderLooks =>
      dsimp only
      repeat' split
      all_goals first | rfl | exact (startSendStep_quiet _ _ _ _).1
  | packetPrepared settings =>
      simp only [preparePacket]
      repeat' split
      all_goals rfl
  | outcomeRecorded settings =>
      simp only [finishSendStep]
      repeat' split
      all_goals rfl
  | _ =>
      dsimp only
      repeat' split
      all_goals rfl

/-- **Between two send steps** the sender hands over no packet and changes no row. -/
theorem senderStep_of_not_holdsLock (workerTiming : WorkerTiming) (timing : SenderTiming)
    (pacing : PacingSettings) (hfree : relay.sender.phase.holdsLock = false)
    (event : SendingEvent) :
    (∀ packet, (senderStep workerTiming timing pacing relay event).2 ≠ .packetHanded packet) ∧
      (senderStep workerTiming timing pacing relay event).1.pauses = relay.pauses ∧
      (senderStep workerTiming timing pacing relay event).1.db = relay.db := by
  have hphase : relay.sender.phase = .resting ∨ relay.sender.phase = .waitingForLock := by
    cases hphase : relay.sender.phase with
    | resting => exact Or.inl rfl
    | waitingForLock => exact Or.inr rfl
    | _ =>
        rw [hphase] at hfree
        cases hfree
  unfold senderStep
  cases event with
  | senderLooks =>
      dsimp only
      repeat' split
      all_goals first
        | exact ⟨by simp, rfl, rfl⟩
        | exact (startSendStep_quiet _ _ _ _).2
  | sendStepFails => simp [hfree]
  | _ => rcases hphase with hphase | hphase <;> simp [hphase]

/-- **What a block inside its pause can do**: go on, remove a contact, or end. -/
theorem pauseStep_cases (timing : SenderTiming) (relay : SendingRelay) (block : PauseBlock)
    (event : SendingEvent) :
    ((pauseStep timing relay block event).1 = relay ∧
        ((pauseStep timing relay block event).2 = .nothing ∨ block.phase = .removing ∧
          ∃ publicKey, (pauseStep timing relay block event).2 = .contactRemoved publicKey)) ∨
      (∃ pauseId phase, phase ≠ .waiting ∧
        (pauseStep timing relay block event).1 = relay.movePause pauseId phase ∧
        ((pauseStep timing relay block event).2 = .nothing ∨
          ∃ isRemoval isQuiet, (pauseStep timing relay block event).2 =
            .waitEnded isRemoval isQuiet)) ∨
      ((pauseStep timing relay block event).1 = relay.endPause block ∧
        ((pauseStep timing relay block event).2 = .removalsAborted block.pauseId ∨
          (pauseStep timing relay block event).2 = .pauseEnded block.pauseId)) := by
  unfold pauseStep
  cases event with
  | quietCheckRuns pauseId =>
      dsimp only
      split
      · unfold checkQuiet
        split
        · exact Or.inr (Or.inl ⟨_, _, by simp, rfl, Or.inr ⟨_, _, rfl⟩⟩)
        · next phase _ hphase =>
            refine Or.inr (Or.inl ⟨_, phase, ?_, rfl, Or.inl rfl⟩)
            rintro rfl
            repeat' split at hphase
            all_goals cases hphase
        · exact Or.inr (Or.inl ⟨_, _, by simp, rfl, Or.inr ⟨_, _, rfl⟩⟩)
      · exact Or.inl ⟨rfl, Or.inl rfl⟩
  | removeContact pauseId publicKey =>
      dsimp only
      split
      · next hremoving => exact Or.inl ⟨rfl, Or.inr ⟨hremoving, _, rfl⟩⟩
      · exact Or.inl ⟨rfl, Or.inl rfl⟩
  | removalsStart pauseId listedConnectionGeneration =>
      dsimp only
      split
      · split
        · exact Or.inr (Or.inl ⟨_, _, by simp, rfl, Or.inl rfl⟩)
        · exact Or.inr (Or.inr ⟨rfl, Or.inl rfl⟩)
      · exact Or.inl ⟨rfl, Or.inl rfl⟩
  | pauseEnds pauseId => exact Or.inr (Or.inr ⟨rfl, Or.inr rfl⟩)
  | latestDeadlineCalled pauseId | latestDeadlineRead pauseId | restartWaitStarts pauseId
  | quietCheckCalled pauseId =>
      dsimp only
      split
      · exact Or.inr (Or.inl ⟨_, _, by simp, rfl, Or.inl rfl⟩)
      · exact Or.inl ⟨rfl, Or.inl rfl⟩
  | _ => exact Or.inl ⟨rfl, Or.inl rfl⟩

/-- What is not the sender's to show is a block's. -/
theorem pauseStep_of_not_isOfSender {event : SendingEvent}
    (h : (sendingStep workerTiming timing pacing relay event).2.isOfSender = false) :
    ∃ block ∈ relay.pauses, sendingStep workerTiming timing pacing relay event =
      pauseStep timing relay block event := by
  unfold sendingStep at h ⊢
  split at h
  case h_10 =>
      unfold lockStep at h
      split at h
      · cases h
      · rw [(startSendStep_quiet _ _ _ _).1] at h
        cases h
      · cases h
  case h_12 event _ _ _ _ _ _ _ _ _ _ _ =>
      split at h
      · rw [isOfSender_senderStep] at h
        cases h
      · next pauseId hpauseId =>
          split at h
          · cases h
          · next block hfound =>
              refine ⟨block, (mem_of_findPause hfound).1, ?_⟩
              simp only
  all_goals
    repeat' split at h
    all_goals cases h

/-- **Only a block that removes contacts removes one.** -/
theorem removing_of_contactRemoved {event : SendingEvent} {publicKey : Text}
    (h : (sendingStep workerTiming timing pacing relay event).2 = .contactRemoved publicKey) :
    ∃ block ∈ relay.pauses, block.phase = .removing := by
  obtain ⟨block, hblock, hstep⟩ := pauseStep_of_not_isOfSender (by rw [h]; rfl)
  rw [hstep] at h
  refine ⟨block, hblock, ?_⟩
  rcases pauseStep_cases timing relay block event with
    ⟨-, hnothing | ⟨hremoving, -⟩⟩ | ⟨-, -, -, -, hnothing | ⟨_, _, hended⟩⟩ |
    ⟨-, haborted | hended⟩
  · rw [hnothing] at h
    cases h
  · exact hremoving
  · rw [hnothing] at h
    cases h
  · rw [hended] at h
    cases h
  · rw [haborted] at h
    cases h
  · rw [hended] at h
    cases h

/-- **A wait that did not end quiet** found a packet at its last check. -/
theorem checking_of_waitEnded {event : SendingEvent} {isRemoval : Bool}
    (h : (sendingStep workerTiming timing pacing relay event).2 = .waitEnded isRemoval false) :
    ∃ block ∈ relay.pauses, ∃ monotonicDeadline calledAt waitHasEnded,
      block.phase = .checking isRemoval monotonicDeadline calledAt waitHasEnded ∧
      isAnyPacketAwaitingNodeAcknowledgement relay.db calledAt = true ∧
      (waitHasEnded = true ∨ relay.isShuttingDown = true) := by
  obtain ⟨block, hblock, hstep⟩ := pauseStep_of_not_isOfSender (by rw [h]; rfl)
  rw [hstep] at h
  refine ⟨block, hblock, ?_⟩
  unfold pauseStep at h
  cases event with
  | quietCheckRuns pauseId =>
      dsimp only at h
      split at h
      · next isRemoval' monotonicDeadline calledAt waitHasEnded hchecking =>
          unfold checkQuiet at h
          split at h
          · cases h
          · cases h
          · next hnone =>
              cases h
              split at hnone
              · cases hnone
              · next hawaits =>
                  split at hnone
                  · next hended =>
                      exact ⟨_, _, _, hchecking, Bool.not_eq_false _ |>.mp hawaits, hended⟩
                  · cases hnone
      · cases h
  | removeContact pauseId publicKey =>
      dsimp only at h
      split at h <;> cases h
  | removalsStart pauseId listedConnectionGeneration =>
      dsimp only at h
      repeat' split at h
      all_goals cases h
  | latestDeadlineCalled pauseId | latestDeadlineRead pauseId | restartWaitStarts pauseId
  | quietCheckCalled pauseId =>
      dsimp only at h
      split at h <;> cases h
  | _ => cases h

/-! ### Inside a pause -/

/-- The block is inside its pause. -/
def SendingRelay.IsInsidePause (relay : SendingRelay) (pauseId : ℕ) : Prop :=
  ∃ block ∈ relay.pauses, block.pauseId = pauseId ∧ block.isInside = true

theorem SendingRelay.IsInsidePause.movePause {pauseId : ℕ} (h : relay.IsInsidePause pauseId)
    (moved : ℕ) {phase : PausePhase} (hphase : phase ≠ .waiting) :
    (relay.movePause moved phase).IsInsidePause pauseId := by
  obtain ⟨block, hblock, hid, hinside⟩ := h
  refine ⟨_, mem_movePause.2 ⟨block, hblock, rfl⟩, ?_, ?_⟩
  · split <;> exact hid
  · split
    · exact decide_eq_true hphase
    · exact hinside

/-- The block is still inside its pause, no packet was handed over, and no deadline was added. -/
structure StaysInside (relay : SendingRelay) (pauseId : ℕ)
    (shown : SendingRelay × SendingOutcome) : Prop where
  inside : shown.1.IsInsidePause pauseId
  noPacketHanded : ∀ packet, shown.2 ≠ .packetHanded packet
  pending : ∀ deadline, IsPendingDeadline shown.1.db.packets deadline →
    IsPendingDeadline relay.db.packets deadline

/-- The blocks and the packets stay. -/
theorem StaysInside.of_eq {pauseId : ℕ} {shown : SendingRelay × SendingOutcome}
    (hinside : relay.IsInsidePause pauseId)
    (hshown : ∀ packet, shown.2 ≠ .packetHanded packet) (hpauses : shown.1.pauses = relay.pauses)
    (hdb : shown.1.db = relay.db) : StaysInside relay pauseId shown where
  inside := by
    unfold SendingRelay.IsInsidePause
    rw [hpauses]
    exact hinside
  noPacketHanded := hshown
  pending := by
    rw [hdb]
    exact fun _ => id

/-- Another task's transaction. -/
theorem StaysInside.of_addsNone {pauseId : ℕ} {shown : SendingRelay × SendingOutcome}
    (hinside : relay.IsInsidePause pauseId)
    (hshown : ∀ packet, shown.2 ≠ .packetHanded packet) (hpauses : shown.1.pauses = relay.pauses)
    (hadds : AddsNone relay.db.packets shown.1.db.packets) : StaysInside relay pauseId shown where
  inside := by
    unfold SendingRelay.IsInsidePause
    rw [hpauses]
    exact hinside
  noPacketHanded := hshown
  pending _ := hadds.isPendingDeadline

theorem staysInside_lockStep {pauseId : ℕ} (hinside : relay.IsInsidePause pauseId) :
    StaysInside relay pauseId (lockStep workerTiming timing pacing relay) := by
  unfold lockStep
  split
  · exact .of_eq hinside (by simp) rfl rfl
  · next sendStepLock _ =>
      obtain ⟨-, hnone, hpauses, hdb⟩ := startSendStep_quiet workerTiming timing pacing
        { relay with gate := { relay.gate with sendStepLock } }
      exact .of_eq hinside hnone hpauses hdb
  · exact ⟨SendingRelay.IsInsidePause.movePause hinside _ (by simp), by simp, fun _ => id⟩

theorem staysInside_pauseStep {pauseId : ℕ} (hinside : relay.IsInsidePause pauseId)
    (block : PauseBlock) (event : SendingEvent)
    (hended : (pauseStep timing relay block event).2 ≠ .pauseEnded pauseId)
    (haborted : (pauseStep timing relay block event).2 ≠ .removalsAborted pauseId) :
    StaysInside relay pauseId (pauseStep timing relay block event) := by
  rcases pauseStep_cases timing relay block event with
    ⟨hstays, hshown⟩ | ⟨moved, phase, hphase, hmoved, hshown⟩ | ⟨herased, hshown⟩
  · refine .of_eq hinside ?_ (by rw [hstays]) (by rw [hstays])
    rcases hshown with hnothing | ⟨-, publicKey, hremoved⟩
    · simp [hnothing]
    · simp [hremoved]
  · refine ⟨?_, ?_, ?_⟩
    · rw [hmoved]
      exact hinside.movePause _ hphase
    · rcases hshown with hnothing | ⟨isRemoval, isQuiet, hwaitEnded⟩
      · simp [hnothing]
      · simp [hwaitEnded]
    · rw [hmoved]
      exact fun _ => id
  · have hother : block.pauseId ≠ pauseId := by
      rintro rfl
      rcases hshown with hshown | hshown
      · exact haborted hshown
      · exact hended hshown
    refine ⟨?_, ?_, ?_⟩
    · obtain ⟨inside, hmem, hid, hisInside⟩ := hinside
      rw [herased]
      refine ⟨inside, (List.mem_erase_of_ne ?_).2 hmem, hid, hisInside⟩
      rintro rfl
      exact hother hid
    · rcases hshown with hshown | hshown <;> simp [hshown]
    · rw [herased]
      exact fun _ => id

/-- **A step in a pause** hands over no packet and adds no deadline, and the block stays inside its
pause until it ends. -/
theorem SendingOk.staysInside (h : SendingOk timing abandoned relay) {pauseId : ℕ}
    (hinside : relay.IsInsidePause pauseId) (event : SendingEvent) :
    (sendingStep workerTiming timing pacing relay event).2 ≠ .pauseEnded pauseId →
      (sendingStep workerTiming timing pacing relay event).2 ≠ .removalsAborted pauseId →
      StaysInside relay pauseId (sendingStep workerTiming timing pacing relay event) := by
  have hfree : relay.sender.phase.holdsLock = false := by
    obtain ⟨block, hblock, -, hisInside⟩ := hinside
    exact h.still block hblock hisInside
  unfold sendingStep
  split
  · exact fun _ _ => .of_eq hinside (by simp) rfl rfl
  · exact fun _ _ => .of_eq hinside (by simp) rfl rfl
  · exact fun _ _ => .of_eq hinside (by simp) rfl rfl
  · exact fun _ _ => .of_eq hinside (by simp) rfl rfl
  · split
    · next hleaves => exact fun _ _ => .of_addsNone hinside (by simp) rfl hleaves.addsNone
    · exact fun _ _ => .of_eq hinside (by simp) rfl rfl
  · exact fun _ _ =>
      .of_addsNone hinside (by simp) rfl (addsNone_recordNodeAcknowledgement _ _ _)
  · exact fun _ _ =>
      .of_addsNone hinside (by simp) rfl (addsNone_recordAcknowledgementDeadlinePassed _ _)
  · exact fun _ _ => .of_eq hinside (by simp) rfl rfl
  · exact fun _ _ =>
      .of_addsNone hinside (by simp) rfl (addsNone_markPacketsAwaitingAcknowledgementDropped _)
  · exact fun _ _ => staysInside_lockStep hinside
  · split
    · exact fun _ _ => .of_eq hinside (by simp) rfl rfl
    · obtain ⟨block, hblock, hid, hisInside⟩ := hinside
      exact fun _ _ =>
        ⟨⟨block, List.mem_append_left _ hblock, hid, hisInside⟩, by simp, fun _ => id⟩
  · split
    · obtain ⟨hnone, hpauses, hdb⟩ := senderStep_of_not_holdsLock workerTiming timing pacing
        hfree event
      exact fun _ _ => .of_eq hinside hnone hpauses hdb
    · split
      · exact fun _ _ => .of_eq hinside (by simp) rfl rfl
      · next block _ => exact staysInside_pauseStep hinside block _

/-! ### The results -/

/-! A pause that is asked for while the node has a packet. -/

def samplePacing : PacingSettings := ⟨8, 2⟩

def sampleSendingRelay : Machine SendingRelay SendingEvent SendingOutcome :=
  sendingRelay {} {} samplePacing (sampleDb sampleMessage) (sampleTime 8)

/-- Bob's packet is handed to the node, and the pause begins when its outcome is recorded. -/
def samplePause : List SendingEvent :=
  [.connectionChanges true true 1, .senderLooks, .packetPrepared sampleSettings, .routesSettled,
    .pauseSending 1 "a contact is removed".toList, .nodeAnswers (.queuedOnNode .direct ['a'] 9000),
    .outcomeRecorded sampleSettings, .lockTaken]

def sampleRemovalWait : List SendingEvent :=
  [.latestDeadlineCalled 1, .latestDeadlineRead 1, .quietCheckCalled 1, .quietCheckRuns 1,
    .timePasses 60000000, .quietCheckCalled 1, .quietCheckRuns 1, .removalsStart 1 1]

/-- **No contact is removed under a pending acknowledgement**: at every removal no packet awaits
its acknowledgement, the sender is between two send steps, and a packet that is still prepared is
one whose send step failed. -/
theorem no_contact_removed_under_pending_acknowledgement {db : Db}
    {history : List (SendingEvent × SendingOutcome)} {event : SendingEvent} {publicKey : Text}
    (run : (sendingRelay workerTiming timing pacing db now).Run (.start db now) history relay)
    (hremoved : (sendingStep workerTiming timing pacing relay event).2 =
      .contactRemoved publicKey) :
    (∀ packet ∈ relay.db.packets,
        packet.awaitsNodeAcknowledgement relay.now = false ∧
          (packet.state = .prepared → packet.id ∈ abandonedPackets history)) ∧
      relay.sender.phase.holdsLock = false := by
  have hok := sendingOk_of_run run
  obtain ⟨block, hblock, hremoving⟩ := removing_of_contactRemoved hremoved
  have hfree := hok.still block hblock (by simp [PauseBlock.isInside, hremoving])
  have hpassed := hok.phases block hblock
  rw [hremoving] at hpassed
  refine ⟨fun packet hpacket => ⟨?_, ?_⟩, hfree⟩
  · by_contra hawaits
    obtain ⟨deadline, hdeadline, hlater⟩ :=
      awaitsNodeAcknowledgement_iff.1 (Bool.not_eq_false _ |>.mp hawaits)
    exact absurd (hpassed deadline ⟨packet, hpacket, hdeadline⟩) (not_le.2 hlater)
  · exact hok.mem_abandoned (packetId?_eq_none_of_not_holdsLock hfree) hpacket

theorem no_contact_removed_under_pending_acknowledgement_samplePause :
    let reached := sampleSendingRelay.exec sampleSendingRelay.init
      (samplePause ++ sampleRemovalWait)
    (sampleSendingRelay.step reached.2 (.removeContact 1 ['c'])).2 = .contactRemoved ['c'] ∧
      (∀ packet ∈ reached.2.db.packets,
        packet.awaitsNodeAcknowledgement reached.2.now = false ∧
          (packet.state = .prepared → packet.id ∈ abandonedPackets reached.1)) ∧
      reached.2.sender.phase.holdsLock = false := by
  have hremoved : (sampleSendingRelay.step (sampleSendingRelay.exec sampleSendingRelay.init
      (samplePause ++ sampleRemovalWait)).2 (.removeContact 1 ['c'])).2 =
        .contactRemoved ['c'] := by decide +kernel
  exact ⟨hremoved, no_contact_removed_under_pending_acknowledgement
    (sampleSendingRelay.run_exec sampleSendingRelay.init (samplePause ++ sampleRemovalWait))
    hremoved⟩

/-- **No packet starts in a pause.**  From a block's entry to its end no packet is handed to the
node, and every deadline that is pending at its end was pending at its entry. -/
theorem no_packet_starts_in_a_pause {db : Db} {pauseId : ℕ}
    {earlier later : List (SendingEvent × SendingOutcome)}
    (run : (sendingRelay workerTiming timing pacing db now).Run (.start db now) earlier relay)
    (hinside : relay.IsInsidePause pauseId)
    (run' : (sendingRelay workerTiming timing pacing db now).Run relay later relay')
    (hstays : ∀ shown ∈ later,
      shown.2 ≠ .pauseEnded pauseId ∧ shown.2 ≠ .removalsAborted pauseId) :
    (∀ shown ∈ later, ∀ packet, shown.2 ≠ .packetHanded packet) ∧
      ∀ deadline, IsPendingDeadline relay'.db.packets deadline →
        IsPendingDeadline relay.db.packets deadline := by
  have hall : SendingOk timing (abandonedPackets (earlier ++ later)) relay' ∧
      relay'.IsInsidePause pauseId ∧
      (∀ shown ∈ later, ∀ packet, shown.2 ≠ .packetHanded packet) ∧
      ∀ deadline, IsPendingDeadline relay'.db.packets deadline →
        IsPendingDeadline relay.db.packets deadline := by
    refine run'.invariant
      (P := fun history reached =>
        SendingOk timing (abandonedPackets (earlier ++ history)) reached ∧
        reached.IsInsidePause pauseId ∧
        (∀ shown ∈ history, ∀ packet, shown.2 ≠ .packetHanded packet) ∧
        ∀ deadline, IsPendingDeadline reached.db.packets deadline →
          IsPendingDeadline relay.db.packets deadline)
      ⟨by rw [List.append_nil]; exact sendingOk_of_run run, hinside, by simp, fun _ => id⟩
      fun history reached event _ hpre ⟨hok, hinside, hnone, hpending⟩ => ?_
    obtain ⟨hended, haborted⟩ :=
      hstays _ (hpre.subset (List.mem_append_right _ List.mem_cons_self))
    obtain ⟨hinside', hnone', hpending'⟩ := hok.staysInside hinside event hended haborted
    refine ⟨?_, hinside', fun shown hshown => ?_,
      fun deadline hdeadline => hpending deadline (hpending' deadline hdeadline)⟩
    · rw [← List.append_assoc, abandonedPackets_snoc]
      exact hok.step event
    rcases List.mem_append.1 hshown with hshown | hshown
    · exact hnone shown hshown
    · rw [List.mem_singleton.1 hshown]
      exact hnone'
  exact hall.2.2

theorem no_packet_starts_in_a_pause_samplePause :
    let paused := sampleSendingRelay.exec sampleSendingRelay.init samplePause
    let waited := sampleSendingRelay.exec paused.2 (.senderLooks :: sampleRemovalWait)
    (∀ shown ∈ waited.1, ∀ packet, shown.2 ≠ .packetHanded packet) ∧
      ∀ deadline, IsPendingDeadline waited.2.db.packets deadline →
        IsPendingDeadline paused.2.db.packets deadline := by
  refine no_packet_starts_in_a_pause
    (sampleSendingRelay.run_exec sampleSendingRelay.init samplePause)
    ⟨⟨1, "a contact is removed".toList, .paused⟩, by decide +kernel, rfl, rfl⟩
    (sampleSendingRelay.run_exec _ (.senderLooks :: sampleRemovalWait)) ?_
  decide +kernel

/-- **A removal's wait ends quiet**, unless the worker is shutting down: it lasts past every
deadline that was pending when it began, and none is added to these. -/
theorem removal_wait_ends_quiet {db : Db} {history : List (SendingEvent × SendingOutcome)}
    {event : SendingEvent}
    (run : (sendingRelay workerTiming timing pacing db now).Run (.start db now) history relay)
    (hended : (sendingStep workerTiming timing pacing relay event).2 = .waitEnded true false) :
    relay.isShuttingDown = true := by
  have hok := sendingOk_of_run run
  obtain ⟨block, hblock, monotonicDeadline, calledAt, waitHasEnded, hchecking, hawaits, hreason⟩ :=
    checking_of_waitEnded hended
  refine hreason.resolve_left fun hwaited => ?_
  have hphase := hok.phases block hblock
  rw [hchecking] at hphase
  have hpassed := (hphase.2 rfl).2 hwaited
  rw [isAnyPacketAwaitingNodeAcknowledgement_eq_false.2 hpassed] at hawaits
  cases hawaits

theorem removal_wait_ends_quiet_samplePause :
    let reached := sampleSendingRelay.exec sampleSendingRelay.init
      (samplePause ++ [.latestDeadlineCalled 1, .latestDeadlineRead 1, .shutdownRequested,
        .quietCheckCalled 1])
    (sampleSendingRelay.step reached.2 (.quietCheckRuns 1)).2 = .waitEnded true false ∧
      reached.2.isShuttingDown = true := by
  have hended : (sampleSendingRelay.step (sampleSendingRelay.exec sampleSendingRelay.init
      (samplePause ++ [.latestDeadlineCalled 1, .latestDeadlineRead 1, .shutdownRequested,
        .quietCheckCalled 1])).2 (.quietCheckRuns 1)).2 = .waitEnded true false := by
    decide +kernel
  exact ⟨hended, removal_wait_ends_quiet
    (sampleSendingRelay.run_exec sampleSendingRelay.init _) hended⟩

end Invariant

end HoptalkRelay
