/-
**What can become of one outbound packet.**

A packet moves through its states in one direction, and so does the decision about its route: a
reset is considered once, when the packet's deadline passes, and decided once.

Main definitions:

* `HoptalkRelay.ColumnsOk` — what the state columns of a packet have in common;
* `HoptalkRelay.PacketState.stage`, `HoptalkRelay.OutboundPacket.resetStage` — how far it is;
* `HoptalkRelay.PacketLife` — a later row of the same packet.

Main results:

* `HoptalkRelay.PacketLife.trans` — a later row of a later row is a later row;
* `HoptalkRelay.packetLife_outcome`, `HoptalkRelay.packetLife_acknowledged`,
  `HoptalkRelay.packetLife_timedOut`, `HoptalkRelay.packetLife_decided` — the writers of the columns.
-/

import HoptalkRelay.OutboundPackets

set_option relaxedAutoImplicit false
set_option autoImplicit false

namespace HoptalkRelay

/-- How far a packet is; nothing follows the last stage. -/
def PacketState.stage : PacketState → ℕ
  | .prepared => 0
  | .queuedOnNode => 1
  | .acknowledgementTimedOut => 2
  | .nodeAcknowledged | .rejectedByNode | .outcomeUnknown => 3

/-- How far the decision about the packet's route is: not considered yet, pending, or decided. -/
def OutboundPacket.resetStage (p : OutboundPacket) : ℕ :=
  if p.state.stage < 2 then 0 else if p.routeResetState = .pending then 1 else 2

/-- Only a packet that was sent direct and got no acknowledgement in time waits for a decision, and
only a packet the node queued has a time at which it did. -/
structure ColumnsOk (p : OutboundPacket) : Prop where
  undecided : p.state ≠ .acknowledgementTimedOut → p.state ≠ .nodeAcknowledged →
    p.routeResetState = .notApplicable
  pending : p.routeResetState = .pending →
    p.state = .acknowledgementTimedOut ∧ p.route = some .direct
  queued : p.queuedAt ≠ none →
    p.state ∈ packetStatesAwaitingAcknowledgement ∨ p.state = .nodeAcknowledged

/-- The packet did not go back. -/
structure LaterColumns (p q : OutboundPacket) : Prop where
  state : p.state.stage ≤ q.state.stage
  final : p.state.stage = 3 → q.state = p.state
  reset : p.resetStage ≤ q.resetStage

/-- A later row of the same packet. -/
def PacketLife (p q : OutboundPacket) : Prop := ColumnsOk p → ColumnsOk q ∧ LaterColumns p q

section Life

variable {p q r : OutboundPacket}

theorem LaterColumns.refl (p : OutboundPacket) : LaterColumns p p := ⟨le_rfl, fun _ => rfl, le_rfl⟩

theorem LaterColumns.trans (h : LaterColumns p q) (h' : LaterColumns q r) : LaterColumns p r := by
  refine ⟨h.state.trans h'.state, fun hfinal => ?_, h.reset.trans h'.reset⟩
  have hsame := h.final hfinal
  exact (h'.final (hsame ▸ hfinal)).trans hsame

theorem PacketLife.refl (p : OutboundPacket) : PacketLife p p := fun h => ⟨h, .refl p⟩

theorem PacketLife.trans (h : PacketLife p q) (h' : PacketLife q r) : PacketLife p r := by
  intro hp
  obtain ⟨hq, hpq⟩ := h hp
  obtain ⟨hr, hqr⟩ := h' hq
  exact ⟨hr, hpq.trans hqr⟩

/-- A row with the same columns. -/
theorem PacketLife.of_eq (hstate : q.state = p.state)
    (hreset : q.routeResetState = p.routeResetState) (hroute : q.route = p.route)
    (hqueued : q.queuedAt = p.queuedAt) : PacketLife p q := by
  refine fun h => ⟨⟨?_, ?_, ?_⟩, ?_, fun _ => hstate, ?_⟩
  · rw [hstate, hreset]
    exact h.undecided
  · rw [hstate, hreset, hroute]
    exact h.pending
  · rw [hstate, hqueued]
    exact h.queued
  · rw [hstate]
  · rw [OutboundPacket.resetStage, OutboundPacket.resetStage, hstate, hreset]

/-- A prepared packet was not queued yet. -/
theorem ColumnsOk.queuedAt_of_prepared (h : ColumnsOk p) (hstate : p.state = .prepared) :
    p.queuedAt = none := by
  by_contra hqueued
  have hstates := h.queued hqueued
  simp [hstate, packetStatesAwaitingAcknowledgement] at hstates

/-! ### The writers of the columns -/

/-- The node's answer. -/
theorem packetLife_outcome (settings : RelaySettings) (outcome : NodeSendOutcome) (now : Time)
    (hstate : p.state = .prepared) :
    PacketLife p (buildPacketOutcomeChanges settings outcome now p) := by
  intro h
  have hnone : p.routeResetState = .notApplicable :=
    h.undecided (by simp [hstate]) (by simp [hstate])
  have hzero : p.resetStage = 0 := by simp [OutboundPacket.resetStage, hstate, PacketState.stage]
  have hqueuedAt : p.queuedAt = none := h.queuedAt_of_prepared hstate
  cases outcome <;>
    exact ⟨⟨fun _ _ => hnone, fun hpending => by simp_all [buildPacketOutcomeChanges],
        fun hqueued => by
          simp_all [buildPacketOutcomeChanges, packetStatesAwaitingAcknowledgement]⟩,
      by simp [hstate, PacketState.stage], fun hfinal => by simp [hstate, PacketState.stage] at hfinal,
      by simp [hzero]⟩

/-- An acknowledgement, which also settles a pending decision. -/
theorem packetLife_acknowledged (hstate : p.state ∈ packetStatesAwaitingAcknowledgement)
    (hq : q.state = .nodeAcknowledged) (hreset : q.routeResetState =
      if p.routeResetState = .pending then .skippedLateAcknowledgement else p.routeResetState) :
    PacketLife p q := by
  intro h
  have hstage : p.state.stage ≤ 2 := by
    rcases List.mem_cons.1 hstate with hstate | hstate
    · simp [hstate, PacketState.stage]
    · simp [List.mem_singleton.1 hstate, PacketState.stage]
  have hdecided : q.routeResetState ≠ .pending := by
    rw [hreset]
    split
    · simp
    · assumption
  refine ⟨⟨fun _ hnot => absurd hq hnot, fun hpending => absurd hpending hdecided,
      fun _ => Or.inr hq⟩,
    by rw [hq]; exact hstage.trans (by decide), fun hfinal => absurd hfinal (by omega), ?_⟩
  have htwo : q.resetStage = 2 := by
    simp [OutboundPacket.resetStage, hq, PacketState.stage, hdecided]
  rw [htwo, OutboundPacket.resetStage]
  split
  · omega
  · split <;> omega

/-- Only a direct packet waits for a decision. -/
theorem route_of_decideRouteResetAtDeadline {route : Option PacketRoute}
    {queuedAt lastPathUpdateAt : Option Time}
    (h : decideRouteResetAtDeadline route queuedAt lastPathUpdateAt = .pending) :
    route = some .direct := by
  unfold decideRouteResetAtDeadline at h
  by_contra hne
  rw [if_pos hne] at h
  cases h

/-- The deadline, or the end of the link. -/
theorem packetLife_timedOut (hstate : p.state = .queuedOnNode)
    (hq : q.state = .acknowledgementTimedOut)
    (hpending : q.routeResetState = .pending → q.route = some .direct) : PacketLife p q := by
  intro _
  refine ⟨⟨fun hnot => absurd hq hnot, fun h => ⟨hq, hpending h⟩, fun _ => Or.inl ?_⟩, ?_,
    fun hfinal => ?_, ?_⟩
  · simp [hq, packetStatesAwaitingAcknowledgement]
  · rw [hstate, hq]
    decide
  · simp [hstate, PacketState.stage] at hfinal
  · simp [OutboundPacket.resetStage, hstate, PacketState.stage]

/-- A decision about the route. -/
theorem packetLife_decided (hreset : p.routeResetState = .pending) (hstate : q.state = p.state)
    (hdecided : q.routeResetState ≠ .pending) : PacketLife p q := by
  intro h
  obtain ⟨htimedOut, -⟩ := h.pending hreset
  refine ⟨⟨fun hnot => absurd (hstate.trans htimedOut) hnot, fun hp => absurd hp hdecided,
    fun _ => Or.inl ?_⟩, ?_, fun _ => hstate, ?_⟩
  · simp [hstate, htimedOut, packetStatesAwaitingAcknowledgement]
  · rw [hstate]
  · have hone : p.resetStage = 1 := by
      simp [OutboundPacket.resetStage, htimedOut, PacketState.stage, hreset]
    have htwo : q.resetStage = 2 := by
      simp [OutboundPacket.resetStage, hstate, htimedOut, PacketState.stage, hdecided]
    omega

/-- The end of the process before the outcome was recorded. -/
theorem packetLife_unknown (hstate : p.state = .prepared) (hq : q.state = .outcomeUnknown)
    (hreset : q.routeResetState = p.routeResetState) (hqueued : q.queuedAt = p.queuedAt) :
    PacketLife p q := by
  intro h
  have hnone : p.routeResetState = .notApplicable :=
    h.undecided (by simp [hstate]) (by simp [hstate])
  refine ⟨⟨fun _ _ => hreset.trans hnone, fun hp => ?_, fun hnot => ?_⟩, ?_, fun hfinal => ?_, ?_⟩
  · rw [hreset, hnone] at hp
    cases hp
  · exact absurd (hqueued.trans (h.queuedAt_of_prepared hstate)) hnot
  · rw [hstate, hq]
    decide
  · simp [hstate, PacketState.stage] at hfinal
  · simp [OutboundPacket.resetStage, hstate, PacketState.stage]

end Life

end HoptalkRelay
