/-
**Every run sends a delivery in rounds.**

The log of a delivery is kept beside the run.  Its rounds follow each other, the row is where its
log says, and every stored packet of the delivery belongs to exactly one round of it.  When no
packet is prepared while another one waits for its outcome, every round is orderly.

Main definitions:

* `HoptalkRelay.LoggedPacket` — a packet belongs to a round of the log;
* `HoptalkRelay.RunLog` — what every run keeps of the log;
* `HoptalkRelay.PreparesAlone`, `HoptalkRelay.OrderlyLog` — one packet at a time, and what it gives;
* `HoptalkRelay.StaysInRound` — a step that starts no round and does not arm the row.

Main results:

* `HoptalkRelay.RunLog.step` — what one transaction does to the log;
* `HoptalkRelay.runLog_of_run`, `HoptalkRelay.orderlyLog_of_run` — the logs of runs;
* `HoptalkRelay.step_roundName` — the name of the row's round only grows;
* `HoptalkRelay.rounds_of_a_delivery` — **a delivery is sent round by round**.
-/

import HoptalkRelay.Invariants.RoundLog
import HoptalkRelay.Invariants.Preparations

set_option relaxedAutoImplicit false
set_option autoImplicit false

namespace HoptalkRelay

open Relational Transition Batching

/-! ### The lowest part -/

/-- **The lowest part of a mask** is the least of its parts. -/
theorem isLeast_of_findLowestPartNumber {mask partNumber : ℕ} (hmask : mask < 2 ^ maximumPartCount)
    (h : findLowestPartNumber mask = some partNumber) :
    IsLeast (partsOfMask mask : Set ℕ) partNumber := by
  have hne : mask ≠ 0 := by
    rintro rfl
    simp [findLowestPartNumber] at h
  obtain ⟨n, hn, hpos, hbit, hbelow⟩ := findLowestPartNumber_spec hne
  obtain rfl := Option.some.inj (hn.symm.trans h)
  have hlt := testBit_of_lt hmask hbit
  refine ⟨Finset.mem_coe.2 (mem_partsOfMask.2 ⟨hpos, by omega, hbit⟩), fun k hk => ?_⟩
  obtain ⟨hk, -, hkbit⟩ := mem_partsOfMask.1 (Finset.mem_coe.1 hk)
  by_contra hlower
  rw [hbelow (k - 1) (by omega)] at hkbit
  cases hkbit

/-! ### The packets of a step -/

section Packets

variable {hashing : PasswordHashing} {input : Input} {db : Db}

/-- What a stored packet keeps, whatever happens to it. -/
structure LaterPacket (p q : OutboundPacket) : Prop where
  id : q.id = p.id
  delivery : ∀ deliveryId, q.messageDeliveryId = some deliveryId →
    p.messageDeliveryId = some deliveryId
  part : q.partNumber = p.partNumber
  arm : q.armGeneration = p.armGeneration
  attempt : q.attemptNumber = p.attemptNumber
  prepared : q.state = .prepared → p.state = .prepared

theorem LaterPacket.refl (p : OutboundPacket) : LaterPacket p p :=
  ⟨rfl, fun _ h => h, rfl, rfl, rfl, fun h => h⟩

theorem LaterPacket.change {p q r : OutboundPacket} (h : LaterPacket p q) (hid : r.id = q.id)
    (hchange : PacketChange q r) : LaterPacket p r := by
  refine ⟨hid.trans h.id, fun deliveryId hr => h.delivery deliveryId ?_, hchange.part.trans h.part,
    hchange.arm.trans h.arm, hchange.attempt.trans h.attempt,
    fun hr => h.prepared (hchange.prepared hr)⟩
  rcases hchange.delivery with hsame | hnone
  · exact hsame ▸ hr
  · rw [hnone] at hr
    cases hr

/-- **A packet after a step** was there before it, or is a new one. -/
theorem step_packets (hashing : PasswordHashing) (hdb : Consistent db) {q : OutboundPacket}
    (hq : q ∈ (step hashing db input).1.packets) :
    (∃ p ∈ db.packets, LaterPacket p q) ∨ db.packets.get? q.id = none := by
  have hpackets := (step_invariant hashing input hdb (P := fun db' =>
    db.packets.nextKey ≤ db'.packets.nextKey ∧ ∀ q ∈ db'.packets,
      (∃ p ∈ db.packets, LaterPacket p q) ∨ db.packets.nextKey ≤ q.id)
    ⟨le_rfl, fun q hq => Or.inl ⟨q, hq, .refl q⟩⟩ fun a b _ hold hwrite =>
      ⟨hold.1.trans hwrite.packets.nextKey, fun r hr => ?_⟩).2.2 q hq
  · rcases hpackets with hkept | hnew
    · exact Or.inl hkept
    · exact Or.inr (Table.get?_eq_none.2 fun p hp =>
        ((db.packets.below p hp).trans_le hnew).ne)
  · rcases hwrite.packets.origin hr with hr | ⟨q', hq', hkey, hchange⟩ | ⟨hnew, -⟩
    · exact hold.2 r hr
    · have hid : r.id = q'.id := hkey.symm
      rcases hold.2 q' hq' with ⟨p, hp, hlater⟩ | hnew
      · exact Or.inl ⟨p, hp, hlater.change hid hchange⟩
      · exact Or.inr (hid ▸ hnew)
    · exact Or.inr (hold.1.trans hnew)

/-- A packet that a step prepares for a reply carries nothing else. -/
theorem step_newReplyPacket {contactId : ℕ} {replyKey text : Text} {connectionGeneration : ℕ}
    {now : Time} (hevent : input.event =
      .prepareReplyPacket contactId replyKey text connectionGeneration now) {q : OutboundPacket}
    (hq : q ∈ (step hashing db input).1.packets) (hnew : db.packets.get? q.id = none) :
    IsReplyPacket q := by
  have hstored : q ∉ db.packets := by
    intro hmem
    have hfound : db.packets.get? q.id = some q := Table.get?_key hmem
    rw [hnew] at hfound
    cases hfound
  simp only [step, hevent] at hq
  cases hprepare : prepareReplyPacket db contactId replyKey text now connectionGeneration with
  | error serviceError =>
      rw [hprepare] at hq
      exact absurd hq hstored
  | ok committed =>
      rw [hprepare] at hq
      rcases prepareReplyPacket_ok hprepare with ⟨hsame, -⟩ | ⟨packet, _, hinserts, hreply, -⟩
      · exact absurd (hsame ▸ hq) hstored
      · rcases hinserts.mem_iff.1 hq with hold | rfl
        · exact absurd hold hstored
        · exact hreply

/-- **A new packet of a delivery** carries the lowest part of the round the delivery is in. -/
theorem step_newDeliveryPacket (hdb : Consistent db) {q : OutboundPacket} {deliveryId : ℕ}
    (hq : q ∈ (step hashing db input).1.packets) (hnew : db.packets.get? q.id = none)
    (hdelivery : q.messageDeliveryId = some deliveryId) :
    (∃ connectionGeneration now, input.event = .prepareNextPacket connectionGeneration now) ∧
      q.id = db.packets.nextKey ∧
      ∃ d partNumber, (step hashing db input).1.deliveries.get? deliveryId = some d ∧
        d.state = .pending ∧ findLowestPartNumber (findPartsLeftInRound d) = some partNumber ∧
        q.partNumber = some partNumber ∧ q.armGeneration = some d.armGeneration ∧
        q.attemptNumber = some d.attemptCount := by
  obtain ⟨db₁, now, device, hprepares, -, hinserts, hwork, -, hpackets⟩ :=
    step_newPacket hdb hq hnew
  have hid : q.id = db.packets.nextKey := hinserts.id_eq.trans (by rw [hpackets])
  have hdeliveries : (step hashing db input).1.deliveries = db₁.deliveries := by
    rw [hinserts.frame]
  rcases hwork with hwork | ⟨hreply, -⟩
  · cases hwork with
    | delivery d m sender partNumber partText hd hstate _ _ hpart _ _ _ _ hfor hnumber harm
        hattempt =>
        obtain rfl : d.id = deliveryId := Option.some.inj (hfor.symm.trans hdelivery)
        have hscheduled : ∃ connectionGeneration now,
            input.event = .prepareNextPacket connectionGeneration now := by
          cases hevent : input.event with
          | prepareNextPacket connectionGeneration now => exact ⟨_, _, rfl⟩
          | prepareReplyPacket contactId replyKey text connectionGeneration now =>
              have hreply := step_newReplyPacket hevent hq hnew
              rw [hreply.delivery] at hdelivery
              cases hdelivery
          | _ =>
              rw [hevent] at hprepares
              cases hprepares
        refine ⟨hscheduled, hid, d, partNumber, ?_, hstate, hpart, hnumber, harm, hattempt⟩
        rw [hdeliveries]
        exact Table.get?_key hd
    | receipt _ _ _ _ _ _ _ _ _ _ _ _ _ _ _ _ hnone =>
        rw [hnone] at hdelivery
        cases hdelivery
  · rw [hreply.delivery] at hdelivery
    cases hdelivery

end Packets

/-! ### Packets in the log -/

/-- The packet carries a part that was taken in the round its copy of the pair names. -/
def LoggedPacket (rounds : List DeliveryRound) (p : OutboundPacket) : Prop :=
  ∃ r ∈ rounds, ∃ partNumber, p.armGeneration = some r.armGeneration ∧
    p.attemptNumber = some r.attemptNumber ∧ p.partNumber = some partNumber ∧ 0 < partNumber ∧
    partNumber ∈ takenElements r.log

section Log

variable {rounds : List DeliveryRound} {p q : OutboundPacket} {d : MessageDelivery} {m : Message}
  {deliveryId : ℕ} {db : Db}

theorem LoggedPacket.later (h : LoggedPacket rounds p) (hlater : LaterPacket p q) :
    LoggedPacket rounds q := by
  obtain ⟨r, hr, partNumber, harm, hattempt, hpart, hpos, htaken⟩ := h
  exact ⟨r, hr, partNumber, hlater.arm.trans harm, hlater.attempt.trans hattempt,
    hlater.part.trans hpart, hpos, htaken⟩

theorem LoggedPacket.mono {rounds' : List DeliveryRound} (h : LoggedPacket rounds p)
    (hsubset : rounds ⊆ rounds') : LoggedPacket rounds' p := by
  obtain ⟨r, hr, hlogged⟩ := h
  exact ⟨r, hsubset hr, hlogged⟩

theorem subset_takenElements {α : Type} (incident : Incident α) (log : List (Incident α)) :
    takenElements log ⊆ takenElements (incident :: log) := by
  cases incident with
  | taken a => exact List.subset_cons_self _ _
  | settled a => exact List.Subset.refl _
  | withdrawn s => exact List.Subset.refl _

/-- A note keeps the packets of the log. -/
theorem LoggedPacket.note (h : LoggedPacket rounds p) (name : RoundName) (incident : Incident ℕ) :
    LoggedPacket (noteIncident name incident rounds) p := by
  obtain ⟨r, hr, partNumber, harm, hattempt, hpart, hpos, htaken⟩ := h
  obtain ⟨harm', hattempt', -⟩ := note_keeps r name incident
  refine ⟨_, mem_noteIncident.2 ⟨r, hr, rfl⟩, partNumber, by rw [harm', harm],
    by rw [hattempt', hattempt], hpart, hpos, ?_⟩
  split
  · exact subset_takenElements incident r.log htaken
  · exact htaken

/-- A packet that names its round and its part is noted there. -/
theorem notePacket_eq {armGeneration attemptNumber partNumber : ℕ}
    (harm : p.armGeneration = some armGeneration) (hattempt : p.attemptNumber = some attemptNumber)
    (hpart : p.partNumber = some partNumber) (incident : ℕ → Incident ℕ) :
    notePacket p incident rounds =
      noteIncident (toLex (armGeneration, attemptNumber)) (incident partNumber) rounds := by
  simp [notePacket, harm, hattempt, hpart]

theorem names_noteIncident (name : RoundName) (incident : Incident ℕ) :
    (noteIncident name incident rounds).map DeliveryRound.name =
      rounds.map DeliveryRound.name := by
  rw [noteIncident, List.map_map]
  exact List.map_congr_left fun r _ => (note_keeps r name incident).2.2.2.1

/-- What an event notes is one incident, in the round of this name, or nothing. -/
theorem noteEvent_cases (deliveryId : ℕ) (before : Db) (input : Input) (after : Db)
    (rounds : List DeliveryRound) :
    noteEvent deliveryId before input after rounds = rounds ∨
      ∃ name incident, noteEvent deliveryId before input after rounds =
        noteIncident name incident rounds := by
  have hpacket : ∀ (q : OutboundPacket) incident, notePacket q incident rounds = rounds ∨
      ∃ name i, notePacket q incident rounds = noteIncident name i rounds := by
    intro q incident
    unfold notePacket
    split
    · exact Or.inr ⟨_, _, rfl⟩
    · exact Or.inl rfl
  unfold noteEvent
  split
  · split
    · split
      · exact hpacket _ _
      · exact Or.inl rfl
    · exact Or.inl rfl
  · split
    · split
      · exact hpacket _ _
      · exact Or.inl rfl
    · exact Or.inl rfl
  · split
    · unfold noteReport
      split
      · exact Or.inr ⟨_, _, rfl⟩
      · exact Or.inl rfl
    · exact Or.inl rfl
  · exact Or.inl rfl

theorem subset_openRound (deliveryId : ℕ) (db : Db) (rounds : List DeliveryRound) :
    rounds ⊆ openRound deliveryId db rounds := by
  unfold openRound
  split
  · exact List.Subset.refl _
  · split
    · exact List.Subset.refl _
    · split
      · exact List.Subset.refl _
      · exact List.subset_cons_self _ _

/-- Nothing is opened for a row that is in a round of the log already. -/
theorem openRound_of_settled {rounds' : List DeliveryRound}
    (hrow : ∀ e, db.deliveries.get? deliveryId = some e → RowSettled rounds' e)
    (hnames : rounds'.map DeliveryRound.name = rounds.map DeliveryRound.name) :
    openRound deliveryId db rounds = rounds := by
  cases hd : db.deliveries.get? deliveryId with
  | none => exact openRound_of_none hd
  | some d =>
      unfold openRound
      rw [hd]
      refine if_pos ?_
      cases hrow d hd with
      | idle hattempt => exact Or.inl hattempt
      | inRound r earlier hrounds hname =>
          have hmem : d.roundName ∈ rounds.map DeliveryRound.name := by
            rw [← hnames, ← hname, hrounds]
            exact List.mem_map_of_mem List.mem_cons_self
          exact Or.inr (List.mem_map.1 hmem)

/-- **The part the scheduler takes** is the least one left in the row's round. -/
theorem RowSettled.isLeast (h : RowSettled rounds d) (hok : RoundsOk d m)
    (hstate : d.state = .pending) {partNumber : ℕ}
    (hpart : findLowestPartNumber (findPartsLeftInRound d) = some partNumber) :
    ∃ r ∈ rounds, r.name = d.roundName ∧ IsLeast (r.left : Set ℕ) partNumber := by
  rw [findPartsLeftInRound, maskWithout_of_disjoint (hok.disjoint hstate)] at hpart
  cases h with
  | idle hattempt hround =>
      rw [hround] at hpart
      simp [findLowestPartNumber] at hpart
  | inRound r earlier hrounds hname hmax hleft =>
      refine ⟨r, hrounds ▸ List.mem_cons_self, hname, ?_⟩
      rw [← hleft hstate]
      refine isLeast_of_findLowestPartNumber (hok.round_lt.trans_le ?_) hpart
      exact Nat.pow_le_pow_right (by decide) m.partCount.property.2

/-- A part that is taken stays in the round. -/
theorem RowSettled.taken (h : RowSettled rounds d) (name : RoundName) (partNumber : ℕ) :
    RowSettled (noteIncident name (.taken partNumber) rounds) d := by
  refine h.note (.refl d) fun r _ _ _ hrow => hrow.trans ?_
  split <;> rfl

end Log

/-! ### What every run keeps of the log -/

/-- The log of a delivery after a run. -/
structure RunLog (deliveryId : ℕ) (rounds : List DeliveryRound) (db : Db) : Prop where
  linked : LinkedRounds rounds
  ok : DeliveryRoundsOk db
  row : ∀ d, db.deliveries.get? deliveryId = some d → RowSettled rounds d
  unborn : db.deliveries.nextKey ≤ deliveryId → rounds = []
  packets : ∀ p ∈ db.packets, p.messageDeliveryId = some deliveryId → LoggedPacket rounds p

theorem RunLog.empty (deliveryId : ℕ) : RunLog deliveryId [] Db.empty where
  linked := .nil
  ok := .empty
  row := fun _ h => by cases h
  unborn := fun _ => rfl
  packets := fun _ h => absurd h (Table.not_mem_empty _)

section RunLog

variable {hashing : PasswordHashing} {input : Input} {db : Db} {rounds : List DeliveryRound}
  {deliveryId : ℕ}

/-- **An outcome** takes its part out of the row's round, or leaves the row as it is. -/
theorem RunLog.rowOfOutcome (h : RunLog deliveryId rounds db) {packetId : ℕ}
    {outcome : NodeSendOutcome} {now : Time}
    (hevent : input.event = .recordSendOutcome packetId outcome now) {e : MessageDelivery}
    (he : (step hashing db input).1.deliveries.get? deliveryId = some e) :
    RowSettled (noteEvent deliveryId db input (step hashing db input).1 rounds) e := by
  have hafter : (step hashing db input).1 =
      (recordSendOutcome input.settings db packetId outcome now).1 := by
    simp only [step, hevent]
  rw [hafter] at he
  simp only [noteEvent, hevent]
  by_cases hcount : ∃ packet d partNumber, CountsPart db packetId outcome packet d partNumber
  · obtain ⟨packet, d, partNumber, hcounts⟩ := hcount
    obtain ⟨due, hdeliveries⟩ := hcounts.deliveries input.settings now
    rw [hdeliveries] at he
    rw [hcounts.found]
    dsimp only
    by_cases hid : d.id = deliveryId
    · have hpos : 0 < partNumber := by
        obtain ⟨r, hr, n, -, -, hn, hpos, -⟩ := h.packets packet (Table.mem_of_get? hcounts.found)
          (hid ▸ hcounts.delivery)
        obtain rfl := Option.some.inj (hcounts.part.symm.trans hn)
        exact hpos
      have hd : db.deliveries.get? deliveryId = some d := hid ▸ Table.get?_key hcounts.mem
      rw [if_pos ⟨hcounts.prepared, hid ▸ hcounts.delivery, hcounts.counts⟩,
        notePacket_eq hcounts.arm hcounts.attempt hcounts.part]
      have hfound := Table.get?_key (Table.mem_put_self hcounts.mem
        (rfl : key (rescheduledDelivery (partSentDelivery d partNumber now) due) = key d))
      obtain rfl := Option.some.inj (hfound.symm.trans (hid ▸ he))
      exact (h.row d hd).sent hpos now due
    · rw [if_neg fun hcond => hid (Option.some.inj (hcounts.delivery.symm.trans hcond.2.1))]
      refine h.row e ?_
      rw [Table.get?_put, if_neg (fun heq => hid heq.symm)] at he
      exact he
  · have hsame := deliveries_recordSendOutcome input.settings now
      fun packet e partNumber hcounts => hcount ⟨packet, e, partNumber, hcounts⟩
    rw [hsame] at he
    have hrow := h.row e he
    split
    · next packet hfound =>
        split
        · next hcond =>
            obtain ⟨r, hr, n, harm, hattempt, hpart, -⟩ :=
              h.packets packet (Table.mem_of_get? hfound) hcond.2.1
            rw [notePacket_eq harm hattempt hpart]
            refine hrow.note_other fun hname hpending => hcount ⟨packet, e, n, ?_⟩
            obtain ⟨harm', hattempt'⟩ := DeliveryRound.name_eq_iff (r := r) |>.1 hname
            have hid : e.id = deliveryId := Table.key_of_get? he
            exact ⟨hfound, hcond.1, hcond.2.2, Table.mem_of_get? he, hpending, hid ▸ hcond.2.1,
              hpart, harm.trans (congrArg some harm'), hattempt.trans (congrArg some hattempt')⟩
        · exact hrow
    · exact hrow

/-- **A status** takes the parts it reports out of the row's round. -/
theorem RunLog.rowOfStatus (hdb : Consistent db) (h : RunLog deliveryId rounds db) {deviceId : ℕ}
    {acknowledgement : DeliveryAcknowledgement} {now : Time}
    (hevent : input.event = .deliveryAcknowledgement deviceId acknowledgement now)
    {e : MessageDelivery}
    (he : (step hashing db input).1.deliveries.get? deliveryId = some e) :
    RowSettled (noteEvent deliveryId db input (step hashing db input).1 rounds) e := by
  have hnote : ∀ d, db.deliveries.get? deliveryId = some d →
      noteEvent deliveryId db input (step hashing db input).1 rounds =
        noteReport db input d rounds := by
    intro d hd
    simp only [noteEvent, hevent]
    rw [hd]
  have hmem := Table.mem_of_get? he
  have hid : e.id = deliveryId := Table.key_of_get? he
  cases hrecord : recordDeliveryAcknowledgement input.settings db deviceId acknowledgement now with
  | error serviceError =>
      have hsame : (step hashing db input).1 = db := by
        simp only [step, hevent, hrecord]
        rfl
      rw [hsame] at he hmem
      rw [hnote e he, noteReport, reportedMask?_of_error hdb hevent hrecord hmem]
      exact h.row e he
  | ok committed =>
      have hafter : (step hashing db input).1 = committed.1 := by
        simp only [step, hevent, hrecord]
        rfl
      rw [hafter] at hmem
      obtain ⟨d, hd, hreported⟩ := rowReported_recordDeliveryAcknowledgement hdb hevent hrecord hmem
      have hkey : d.id = e.id := by
        cases hreported with
        | kept hkept => exact hkept.id.symm
        | reported hsame | confirmed hsame => exact hsame.symm
      have hold : db.deliveries.get? deliveryId = some d := hid ▸ hkey ▸ Table.get?_key hd
      rw [hnote d hold]
      exact (h.row d hold).reported h.linked hreported

/-- A round that is logged after a step keeps the rounds linked, and the row is where it says. -/
theorem RunLog.opened (hashing : PasswordHashing) (hdb : Consistent db)
    (h : RunLog deliveryId rounds db) (hevent : ¬ input.event.advancesRound) :
    LinkedRounds (openRound deliveryId (step hashing db input).1 rounds) ∧
      ∀ e, (step hashing db input).1.deliveries.get? deliveryId = some e →
        RowSettled (openRound deliveryId (step hashing db input).1 rounds) e := by
  have hfits : LogFits deliveryId rounds db := ⟨h.ok, fun d hd => Or.inl (h.row d hd), h.unborn⟩
  obtain ⟨hdb', hfits'⟩ := step_invariant hashing input hdb hfits
    fun a b ha hold hwrite => hold.write h.linked hevent ha hwrite
  cases hd : (step hashing db input).1.deliveries.get? deliveryId with
  | none =>
      rw [openRound_of_none hd]
      exact ⟨h.linked, fun e he => by cases he⟩
  | some d =>
      obtain ⟨hlinked, hsettled⟩ := (hfits'.row d hd).settle hdb' h.linked hd
      refine ⟨hlinked, fun e he => ?_⟩
      obtain rfl := Option.some.inj he
      exact hsettled

/-- What an outcome or a status notes is what the row shows. -/
theorem RunLog.rowOfAdvance (hdb : Consistent db) (h : RunLog deliveryId rounds db)
    (hevent : input.event.advancesRound) {e : MessageDelivery}
    (he : (step hashing db input).1.deliveries.get? deliveryId = some e) :
    RowSettled (noteEvent deliveryId db input (step hashing db input).1 rounds) e := by
  cases hcase : input.event with
  | recordSendOutcome packetId outcome now => exact h.rowOfOutcome hcase he
  | deliveryAcknowledgement deviceId acknowledgement now => exact h.rowOfStatus hdb hcase he
  | _ =>
      rw [hcase] at hevent
      exact absurd hevent id

/-- An outcome or a status starts no round. -/
theorem RunLog.openRound_of_advances (hdb : Consistent db) (h : RunLog deliveryId rounds db)
    (hevent : input.event.advancesRound) :
    openRound deliveryId (step hashing db input).1 rounds = rounds := by
  refine openRound_of_settled (fun e he => h.rowOfAdvance hdb hevent he) ?_
  rcases noteEvent_cases deliveryId db input (step hashing db input).1 rounds with
    hnote | ⟨name, incident, hnote⟩
  · rw [hnote]
  · rw [hnote, names_noteIncident]

/-- **What the row shows after a step** is what its log says. -/
theorem RunLog.rows (hdb : Consistent db) (h : RunLog deliveryId rounds db) :
    LinkedRounds (updateRounds deliveryId rounds db input (step hashing db input).1) ∧
      ∀ e, (step hashing db input).1.deliveries.get? deliveryId = some e →
        RowSettled (updateRounds deliveryId rounds db input (step hashing db input).1) e := by
  by_cases hevent : input.event.advancesRound
  · rw [updateRounds, h.openRound_of_advances hdb hevent]
    refine ⟨?_, fun e he => h.rowOfAdvance hdb hevent he⟩
    rcases noteEvent_cases deliveryId db input (step hashing db input).1 rounds with
      hnote | ⟨name, incident, hnote⟩
    · rw [hnote]
      exact h.linked
    · rw [hnote]
      exact h.linked.note name incident
  · obtain ⟨hlinked, hrow⟩ := h.opened hashing hdb hevent
    unfold updateRounds
    generalize openRound deliveryId (step hashing db input).1 rounds = opened at hlinked hrow
    have htaken : ∀ q : OutboundPacket, LinkedRounds (notePacket q .taken opened) ∧
        ∀ e, (step hashing db input).1.deliveries.get? deliveryId = some e →
          RowSettled (notePacket q .taken opened) e := by
      intro q
      unfold notePacket
      split
      · exact ⟨hlinked.note _ _, fun e he => (hrow e he).taken _ _⟩
      · exact ⟨hlinked, hrow⟩
    unfold noteEvent
    split
    · split
      · split
        · exact htaken _
        · exact ⟨hlinked, hrow⟩
      · exact ⟨hlinked, hrow⟩
    · next hcase => exact absurd (by rw [hcase]; trivial) hevent
    · next hcase => exact absurd (by rw [hcase]; trivial) hevent
    · exact ⟨hlinked, hrow⟩

/-- A packet that a step prepares for the delivery is noted in the round the row is in. -/
theorem RunLog.newPacket (hdb : Consistent db) (h : RunLog deliveryId rounds db)
    {q : OutboundPacket} (hq : q ∈ (step hashing db input).1.packets)
    (hnew : db.packets.get? q.id = none) (hdelivery : q.messageDeliveryId = some deliveryId) :
    ∃ r partNumber, r ∈ openRound deliveryId (step hashing db input).1 rounds ∧
      q.armGeneration = some r.armGeneration ∧ q.attemptNumber = some r.attemptNumber ∧
      q.partNumber = some partNumber ∧ 0 < partNumber ∧
      IsLeast (r.left : Set ℕ) partNumber ∧
      updateRounds deliveryId rounds db input (step hashing db input).1 =
        noteIncident r.name (.taken partNumber)
          (openRound deliveryId (step hashing db input).1 rounds) := by
  obtain ⟨⟨connectionGeneration, now, hevent⟩, hid, d, partNumber, hd, hstate, hfind, hpart, harm,
    hattempt⟩ := step_newDeliveryPacket hdb hq hnew hdelivery
  have hquiet : ¬ input.event.advancesRound := by
    rw [hevent]
    exact id
  obtain ⟨-, hrow⟩ := h.opened hashing hdb hquiet
  obtain ⟨hdb', hok⟩ := step_invariant hashing input hdb h.ok
    fun a b ha hold hwrite => hold.write ha hwrite
  obtain ⟨m, hm, -⟩ := (hdb'.deliveries d (Table.mem_of_get? hd)).message
  have hrounds := hok d (Table.mem_of_get? hd) m hm
  obtain ⟨r, hr, hname, hleast⟩ := (hrow d hd).isLeast hrounds hstate hfind
  obtain ⟨harm', hattempt'⟩ := DeliveryRound.name_eq_iff.1 hname
  refine ⟨r, partNumber, hr, by rw [harm, harm'], by rw [hattempt, hattempt'], hpart, ?_, hleast,
    ?_⟩
  · have hmask : findPartsLeftInRound d ≠ 0 := by
      intro hzero
      rw [hzero] at hfind
      simp [findLowestPartNumber] at hfind
    obtain ⟨n, hn, hpos, -⟩ := findLowestPartNumber_spec hmask
    obtain rfl := Option.some.inj (hn.symm.trans hfind)
    exact hpos
  · have hfound : (step hashing db input).1.packets.get? db.packets.nextKey = some q :=
      hid ▸ Table.get?_key hq
    simp only [updateRounds, noteEvent, hevent]
    rw [hfound]
    dsimp only
    rw [if_pos hdelivery, notePacket_eq harm hattempt hpart, hname]
    rfl

/-- **What one transaction does to the log.** -/
theorem RunLog.step (hdb : Consistent db) (h : RunLog deliveryId rounds db) :
    RunLog deliveryId (updateRounds deliveryId rounds db input (step hashing db input).1)
      (step hashing db input).1 where
  linked := (h.rows hdb).1
  ok := (step_invariant hashing input hdb h.ok fun a b ha hold hwrite => hold.write ha hwrite).2
  row := (h.rows hdb).2
  unborn := by
    intro hle
    have hnext := (step_invariant hashing input hdb
      (P := fun db' => db.deliveries.nextKey ≤ db'.deliveries.nextKey) le_rfl
      fun a b _ hold hwrite => hold.trans hwrite.deliveries.nextKey).2
    have hnone : (HoptalkRelay.step hashing db input).1.deliveries.get? deliveryId = none :=
      Table.get?_eq_none.2 fun d hd => ((Table.below _ d hd).trans_le hle).ne
    have hempty := h.unborn (hnext.trans hle)
    rw [updateRounds, openRound_of_none hnone, hempty]
    rcases noteEvent_cases deliveryId db input (HoptalkRelay.step hashing db input).1 [] with
      hnote | ⟨name, incident, hnote⟩
    · exact hnote
    · exact hnote
  packets := by
    intro q hq hdelivery
    rcases step_packets hashing hdb hq with ⟨p, hp, hlater⟩ | hnew
    · have hlogged := ((h.packets p hp (hlater.delivery _ hdelivery)).later hlater).mono
        (subset_openRound deliveryId (HoptalkRelay.step hashing db input).1 rounds)
      unfold updateRounds
      rcases noteEvent_cases deliveryId db input (HoptalkRelay.step hashing db input).1
        (openRound deliveryId (HoptalkRelay.step hashing db input).1 rounds) with
        hnote | ⟨name, incident, hnote⟩
      · rwa [hnote]
      · rw [hnote]
        exact hlogged.note name incident
    · obtain ⟨r, partNumber, hr, harm, hattempt, hpart, hpos, -, hrounds⟩ :=
        h.newPacket hdb hq hnew hdelivery
      rw [hrounds]
      refine ⟨r.note (.taken partNumber), mem_noteIncident.2 ⟨r, hr, if_pos rfl⟩, partNumber, harm,
        hattempt, hpart, hpos, List.mem_cons_self⟩

end RunLog

/-- The relay with the log of a delivery beside it. -/
def roundEngine (hashing : PasswordHashing) (deliveryId : ℕ) :
    Machine (Db × List DeliveryRound) Input Outcome :=
  (engine hashing).instrument [] (updateRounds deliveryId)

/-- **The log of every run.** -/
theorem runLog_of_run {hashing : PasswordHashing} {deliveryId : ℕ}
    {history : List (Input × Outcome)} {s : Db × List DeliveryRound}
    (run : (roundEngine hashing deliveryId).Run (Db.empty, []) history s) :
    Consistent s.1 ∧ RunLog deliveryId s.2 s.1 := by
  refine run.invariant (P := fun _ s => Consistent s.1 ∧ RunLog deliveryId s.2 s.1)
    ⟨.empty, .empty deliveryId⟩ fun _ s input _ _ h => ⟨?_, h.2.step h.1⟩
  exact (step_invariant hashing input h.1 (P := fun _ => True) trivial
    fun _ _ _ _ _ => trivial).1

/-! ### One packet at a time -/

/-- No packet is prepared while another one waits for its outcome: before that the outcome of each
packet is recorded, or the process restarts. -/
def PreparesAlone (s : Db × List DeliveryRound) (input : Input) : Prop :=
  input.event.preparesAt?.isSome = true → (s.1.packets.any fun p => p.state = .prepared) = false

instance (s : Db × List DeliveryRound) (input : Input) : Decidable (PreparesAlone s input) :=
  inferInstanceAs (Decidable (_ → _))

/-- Every round of the log is orderly, and the packet that waits for its outcome carries the part
that is in hand. -/
structure OrderlyLog (deliveryId : ℕ) (rounds : List DeliveryRound) (db : Db) : Prop where
  orderly : ∀ r ∈ rounds, Orderly r.missing r.log
  inHand : ∀ p ∈ db.packets, p.state = .prepared → p.messageDeliveryId = some deliveryId →
    ∀ r ∈ rounds, p.armGeneration = some r.armGeneration →
      p.attemptNumber = some r.attemptNumber → inHand r.log = p.partNumber
  single : ∀ p ∈ db.packets, ∀ q ∈ db.packets, p.state = .prepared → q.state = .prepared → p = q

theorem OrderlyLog.empty (deliveryId : ℕ) : OrderlyLog deliveryId [] Db.empty where
  orderly := by simp
  inHand := by simp
  single := fun _ h => absurd h (Table.not_mem_empty _)

section OrderlyLog

variable {hashing : PasswordHashing} {input : Input} {db db' : Db} {rounds : List DeliveryRound}
  {deliveryId : ℕ}

/-- What is opened is a new round in which nothing has happened. -/
theorem openRound_eq (deliveryId : ℕ) (db : Db) (rounds : List DeliveryRound) :
    openRound deliveryId db rounds = rounds ∨ ∃ r, openRound deliveryId db rounds = r :: rounds ∧
      r.log = [] ∧ ∀ q ∈ rounds, q.name ≠ r.name := by
  unfold openRound
  split
  · exact Or.inl rfl
  next d hd =>
  split
  · exact Or.inl rfl
  next hnot =>
  split
  · exact Or.inl rfl
  next m hm =>
  rw [not_or, not_exists] at hnot
  exact Or.inr ⟨_, rfl, rfl, fun q hq hname => hnot.2 q ⟨hq, hname⟩⟩

/-- A round that is opened is orderly, and has no packets. -/
theorem OrderlyLog.opened (h : OrderlyLog deliveryId rounds db)
    (hlog : RunLog deliveryId rounds db) (after : Db) :
    OrderlyLog deliveryId (openRound deliveryId after rounds) db := by
  rcases openRound_eq deliveryId after rounds with hsame | ⟨x, hopen, hempty, hnew⟩
  · rw [hsame]
    exact h
  · rw [hopen]
    refine ⟨fun r hr => ?_, fun p hp hstate hdelivery r hr harm hattempt => ?_, h.single⟩
    · rcases List.mem_cons.1 hr with rfl | hr
      · rw [hempty]
        trivial
      · exact h.orderly r hr
    · rcases List.mem_cons.1 hr with rfl | hr
      · -- the packet is logged in an older round, which has another name
        obtain ⟨q, hq, -, harm', hattempt', -⟩ := hlog.packets p hp hdelivery
        have hname : q.name = r.name := by
          rw [DeliveryRound.name, DeliveryRound.name, Option.some.inj (harm'.symm.trans harm),
            Option.some.inj (hattempt'.symm.trans hattempt)]
        exact absurd hname (hnew q hq)
      · exact h.inHand p hp hstate hdelivery r hr harm hattempt

/-- Packets that were prepared before wait for the same parts. -/
theorem OrderlyLog.later (h : OrderlyLog deliveryId rounds db)
    (hpackets : ∀ q ∈ db'.packets, ∃ p ∈ db.packets, LaterPacket p q) :
    OrderlyLog deliveryId rounds db' where
  orderly := h.orderly
  inHand := by
    intro q hq hstate hdelivery r hr harm hattempt
    obtain ⟨p, hp, hlater⟩ := hpackets q hq
    rw [hlater.part]
    exact h.inHand p hp (hlater.prepared hstate) (hlater.delivery _ hdelivery) r hr
      (hlater.arm ▸ harm) (hlater.attempt ▸ hattempt)
  single := by
    intro q hq q' hq' hstate hstate'
    obtain ⟨p, hp, hlater⟩ := hpackets q hq
    obtain ⟨p', hp', hlater'⟩ := hpackets q' hq'
    have hsame := h.single p hp p' hp' (hlater.prepared hstate) (hlater'.prepared hstate')
    refine Table.eq_of_key_eq hq hq' ?_
    rw [key_packet, key_packet, hlater.id, hlater'.id, hsame]

/-- Reported parts leave a round orderly. -/
theorem OrderlyLog.withdrawn (h : OrderlyLog deliveryId rounds db) (name : RoundName)
    (parts : Finset ℕ) :
    OrderlyLog deliveryId (noteIncident name (.withdrawn parts) rounds) db where
  orderly := by
    intro r hr
    obtain ⟨q, hq, rfl⟩ := mem_noteIncident.1 hr
    split <;> exact h.orderly q hq
  inHand := by
    intro p hp hstate hdelivery r hr harm hattempt
    obtain ⟨q, hq, rfl⟩ := mem_noteIncident.1 hr
    obtain ⟨harm', hattempt', -⟩ := note_keeps q name (.withdrawn parts)
    rw [harm'] at harm
    rw [hattempt'] at hattempt
    have hsame := h.inHand p hp hstate hdelivery q hq harm hattempt
    split <;> exact hsame
  single := h.single

/-- A packet whose outcome is recorded waits no longer. -/
theorem not_prepared_recordSendOutcome {settings : RelaySettings} {packet : OutboundPacket}
    {packetId : ℕ} {outcome : NodeSendOutcome} {now : Time}
    (hfound : db.packets.get? packetId = some packet) (hprepared : packet.state = .prepared)
    {q : OutboundPacket} (hq : q ∈ (recordSendOutcome settings db packetId outcome now).1.packets)
    (hid : q.id = packetId) : q.state ≠ .prepared := by
  unfold recordSendOutcome at hq
  rw [hfound] at hq
  dsimp only at hq
  rw [if_neg (not_not.2 hprepared)] at hq
  dsimp only at hq
  obtain ⟨p, hp, rfl⟩ := Table.mem_updateWhere.1 hq
  split
  · cases outcome <;> simp [buildPacketOutcomeChanges]
  · next hcond =>
      rw [if_neg hcond] at hid
      simpa [hid] using hcond

/-- A name names one round. -/
theorem LinkedRounds.eq_of_name (h : LinkedRounds rounds) {q r : DeliveryRound} (hq : q ∈ rounds)
    (hr : r ∈ rounds) (hname : q.name = r.name) : q = r := by
  have hnodup : (rounds.map DeliveryRound.name).Nodup :=
    List.pairwise_map.2 (h.ordered.imp fun hlt => hlt.ne')
  exact List.inj_on_of_nodup_map hnodup hq hr hname

/-- **The part that is prepared** is the least one left in its round. -/
theorem OrderlyLog.prepares (hdb : Consistent db) (hlog : RunLog deliveryId rounds db)
    (h : OrderlyLog deliveryId rounds db) (hprepares : input.event.preparesAt?.isSome = true)
    (hnone : ∀ p ∈ db.packets, p.state ≠ .prepared) :
    OrderlyLog deliveryId (updateRounds deliveryId rounds db input (step hashing db input).1)
      (step hashing db input).1 := by
  have hnew : ∀ q ∈ (step hashing db input).1.packets, q.state = .prepared →
      db.packets.get? q.id = none := by
    intro q hq hstate
    rcases step_packets hashing hdb hq with ⟨p, hp, hlater⟩ | hnew
    · exact absurd (hlater.prepared hstate) (hnone p hp)
    · exact hnew
  have hunique : ∀ p ∈ (step hashing db input).1.packets, db.packets.get? p.id = none →
      ∀ q ∈ (step hashing db input).1.packets, db.packets.get? q.id = none → p = q := by
    have hid : ∀ q ∈ (step hashing db input).1.packets, db.packets.get? q.id = none →
        q.id = db.packets.nextKey := by
      intro q hq hqnew
      obtain ⟨db₁, now, device, -, -, hinserts, -, -, hpackets⟩ := step_newPacket hdb hq hqnew
      exact hinserts.id_eq.trans (by rw [hpackets])
    intro p hp hpnew q hq hqnew
    exact Table.eq_of_key_eq hp hq ((hid p hp hpnew).trans (hid q hq hqnew).symm)
  have hquiet : ¬ input.event.advancesRound := by
    cases hcase : input.event <;> simp_all [Event.preparesAt?, Event.advancesRound]
  have hsingle : ∀ p ∈ (step hashing db input).1.packets,
      ∀ q ∈ (step hashing db input).1.packets, p.state = .prepared → q.state = .prepared →
        p = q := fun p hp q hq hstate hstate' =>
    hunique p hp (hnew p hp hstate) q hq (hnew q hq hstate')
  have hopened := h.opened hlog (step hashing db input).1
  by_cases hex : ∃ q ∈ (step hashing db input).1.packets, db.packets.get? q.id = none ∧
      q.messageDeliveryId = some deliveryId
  · obtain ⟨q, hq, hqnew, hdelivery⟩ := hex
    obtain ⟨r, partNumber, hr, harm, hattempt, hpart, -, hleast, hrounds⟩ :=
      hlog.newPacket hdb hq hqnew hdelivery
    obtain ⟨hlinked, -⟩ := hlog.opened hashing hdb hquiet
    rw [hrounds]
    refine ⟨fun x hx => ?_, fun p hp hstate hfor x hx harm' hattempt' => ?_, hsingle⟩
    · obtain ⟨y, hy, rfl⟩ := mem_noteIncident.1 hx
      split
      · next hname =>
          obtain rfl := hlinked.eq_of_name hy hr hname
          exact ⟨hopened.orderly y hy, hleast⟩
      · exact hopened.orderly y hy
    · obtain rfl := hunique p hp (hnew p hp hstate) q hq hqnew
      obtain ⟨y, hy, rfl⟩ := mem_noteIncident.1 hx
      obtain ⟨harmy, hattempty, -⟩ := note_keeps y r.name (.taken partNumber)
      rw [harmy, harm] at harm'
      rw [hattempty, hattempt] at hattempt'
      have hname : y.name = r.name := by
        rw [DeliveryRound.name, DeliveryRound.name, Option.some.inj harm',
          Option.some.inj hattempt']
      rw [if_pos hname, hpart]
      rfl
  · have hsame : updateRounds deliveryId rounds db input (step hashing db input).1 =
        openRound deliveryId (step hashing db input).1 rounds := by
      unfold updateRounds noteEvent
      split
      · split
        · next q hfound =>
            refine if_neg fun hfor => hex ⟨q, Table.mem_of_get? hfound, ?_, hfor⟩
            have hkey : q.id = db.packets.nextKey := Table.key_of_get? hfound
            rw [hkey]
            exact db.packets.get?_nextKey
        · rfl
      · next hcase => exact absurd (by rw [hcase]; trivial) hquiet
      · next hcase => exact absurd (by rw [hcase]; trivial) hquiet
      · rfl
    rw [hsame]
    refine ⟨hopened.orderly, fun p hp hstate hfor => ?_, hsingle⟩
    exact absurd ⟨p, hp, hnew p hp hstate, hfor⟩ hex

/-- **The part that is settled** is the one in hand. -/
theorem OrderlyLog.settles (hlog : RunLog deliveryId rounds db)
    (h : OrderlyLog deliveryId rounds db) {packetId : ℕ} {outcome : NodeSendOutcome} {now : Time}
    (hevent : input.event = .recordSendOutcome packetId outcome now)
    (hpackets : ∀ q ∈ (step hashing db input).1.packets, ∃ p ∈ db.packets, LaterPacket p q) :
    OrderlyLog deliveryId (updateRounds deliveryId rounds db input (step hashing db input).1)
      (step hashing db input).1 := by
  have hopened := h.opened hlog (step hashing db input).1
  unfold updateRounds
  simp only [noteEvent, hevent]
  split
  swap
  · exact hopened.later hpackets
  next packet hfound =>
  split
  swap
  · exact hopened.later hpackets
  next hcond =>
  have hmem := Table.mem_of_get? hfound
  have hnone : ∀ q ∈ (step hashing db input).1.packets, q.state ≠ .prepared := by
    intro q hq hstate
    obtain ⟨p, hp, hlater⟩ := hpackets q hq
    have hsame := h.single p hp packet hmem (hlater.prepared hstate) hcond.1
    have hafter : (step hashing db input).1 =
        (recordSendOutcome input.settings db packetId outcome now).1 := by
      simp only [step, hevent]
    rw [hafter] at hq
    refine not_prepared_recordSendOutcome hfound hcond.1 hq ?_ hstate
    rw [hlater.id, hsame]
    exact Table.key_of_get? hfound
  refine ⟨fun x hx => ?_, fun q hq hstate => absurd hstate (hnone q hq),
    fun q hq _ _ hstate => absurd hstate (hnone q hq)⟩
  obtain ⟨r, -, n, harm, hattempt, hpart, -⟩ := hlog.packets packet hmem hcond.2.1
  rw [notePacket_eq harm hattempt hpart] at hx
  obtain ⟨y, hy, rfl⟩ := mem_noteIncident.1 hx
  split
  · next hname =>
      obtain ⟨harmy, hattempty⟩ : y.armGeneration = r.armGeneration ∧
          y.attemptNumber = r.attemptNumber := by
        simpa [DeliveryRound.name] using hname
      have hhand := hopened.inHand packet hmem hcond.1 hcond.2.1 y hy (harmy ▸ harm)
        (hattempty ▸ hattempt)
      exact ⟨hopened.orderly y hy, hhand.trans hpart⟩
  · exact hopened.orderly y hy

/-- **What one transaction does to an orderly log**, when it prepares alone. -/
theorem OrderlyLog.step (hdb : Consistent db) (hlog : RunLog deliveryId rounds db)
    (h : OrderlyLog deliveryId rounds db) (halone : PreparesAlone (db, rounds) input) :
    OrderlyLog deliveryId (updateRounds deliveryId rounds db input (step hashing db input).1)
      (step hashing db input).1 := by
  by_cases hprepares : input.event.preparesAt?.isSome = true
  · refine h.prepares hdb hlog hprepares fun p hp hstate => ?_
    have hnone := halone hprepares
    rw [Table.any_eq_false] at hnone
    exact absurd hstate (by simpa using hnone p hp)
  · have hpackets : ∀ q ∈ (HoptalkRelay.step hashing db input).1.packets,
        ∃ p ∈ db.packets, LaterPacket p q := by
      intro q hq
      rcases step_packets hashing hdb hq with hkept | hnew
      · exact hkept
      · have hkept := step_packets_kept hdb (by simpa using hprepares) q hq
        rw [hnew] at hkept
        cases hkept
    have hopened := (h.opened hlog (HoptalkRelay.step hashing db input).1).later hpackets
    cases hevent : input.event with
    | recordSendOutcome packetId outcome now => exact h.settles hlog hevent hpackets
    | deliveryAcknowledgement deviceId acknowledgement now =>
        simp only [updateRounds, noteEvent, hevent]
        split
        · unfold noteReport
          split
          · exact hopened.withdrawn _ _
          · exact hopened
        · exact hopened
    | prepareNextPacket connectionGeneration now =>
        rw [hevent] at hprepares
        exact absurd rfl hprepares
    | _ =>
        simp only [updateRounds, noteEvent, hevent]
        exact hopened

end OrderlyLog

/-- **The log of every run that prepares one packet at a time** is orderly. -/
theorem orderlyLog_of_run {hashing : PasswordHashing} {deliveryId : ℕ}
    {history : List (Input × Outcome)} {s : Db × List DeliveryRound}
    (run : (roundEngine hashing deliveryId).Run (Db.empty, []) history s)
    (halone : Machine.Run.Always (roundEngine hashing deliveryId) PreparesAlone (Db.empty, [])
      history) :
    OrderlyLog deliveryId s.2 s.1 := by
  induction run with
  | nil => exact .empty deliveryId
  | snoc run input ih =>
      obtain ⟨hbefore, hinput⟩ := (Machine.Run.always_snoc run _).1 halone
      obtain ⟨hdb, hlog⟩ := runLog_of_run run
      exact (ih hbefore).step hdb hlog hinput

/-! ### The name of the row's round -/

/-- Nothing of a start or of an arming happened: the row is where it was, in the same round, and
no part came back. -/
structure StaysInRound (d e : MessageDelivery) : Prop where
  name : e.roundName = d.roundName
  maximum : e.maximumAttempts = d.maximumAttempts
  started : e.roundStartedAt = d.roundStartedAt
  parts : partsOfMask e.roundPendingPartsMask ⊆ partsOfMask d.roundPendingPartsMask
  pending : e.state = .pending → d.state = .pending

/-- The row was armed again or started a round, and the name of its round grew, or it stays where it
was. -/
def Advances (d e : MessageDelivery) : Prop := d.roundName < e.roundName ∨ StaysInRound d e

section Names

variable {hashing : PasswordHashing} {input : Input} {db : Db} {a : Phase × Db}
  {d e f : MessageDelivery} {deliveryId : ℕ}

theorem StaysInRound.refl (d : MessageDelivery) : StaysInRound d d :=
  ⟨rfl, rfl, rfl, Finset.Subset.refl _, fun h => h⟩

theorem Advances.trans (h : Advances d e) (h' : Advances e f) : Advances d f := by
  rcases h with hlt | hstays <;> rcases h' with hlt' | hstays'
  · exact Or.inl (hlt.trans hlt')
  · exact Or.inl (hstays'.name ▸ hlt)
  · exact Or.inl (hstays.name ▸ hlt')
  · exact Or.inr ⟨hstays'.name.trans hstays.name, hstays'.maximum.trans hstays.maximum,
      hstays'.started.trans hstays.started, hstays'.parts.trans hstays.parts,
      fun h => hstays.pending (hstays'.pending h)⟩

/-- An arming raises the name. -/
theorem Advances.armed (harm : e.armGeneration = d.armGeneration + 1) : Advances d e :=
  Or.inl (Prod.Lex.toLex_lt_toLex.2 (Or.inl (by
    show d.armGeneration < e.armGeneration
    omega)))

theorem RoundChange.advances (h : RoundChange input db d e) : Advances d e := by
  have hclears : ∀ removed, partsOfMask (d.roundPendingPartsMask &&&
      (partsMaskMaximum ^^^ removed)) ⊆ partsOfMask d.roundPendingPartsMask := by
    intro removed
    rw [partsOfMask_and_xor]
    exact Finset.sdiff_subset
  cases h with
  | roundStarted message now =>
      exact Or.inl (Prod.Lex.toLex_lt_toLex.2 (Or.inr ⟨rfl, Nat.lt_succ_self _⟩))
  | roundCompleted due =>
      exact Or.inr ⟨rfl, rfl, rfl, by simp [partsOfMask], fun h => h⟩
  | partSent | reportedPending => exact Or.inr ⟨rfl, rfl, rfl, hclears _, fun h => h⟩
  | reported | rescheduled | acknowledged => exact Or.inr { StaysInRound.refl d with }
  | restarted => exact .armed rfl

theorem StateChange.advances {p p' : Phase} (h : StateChange input db d p e p') :
    Advances d e := by
  cases h with
  | exhausted | stopped =>
      exact Or.inr { StaysInRound.refl d with pending := fun h => by simp at h }
  | takenOver | armed => exact .armed rfl

/-- **A change of a row** raises the name of its round, or leaves the row in it. -/
theorem DeliveryChange.advances (h : DeliveryChange input a d e) : Advances d e := by
  cases h with
  | round change => exact change.advances
  | moved change => exact change.advances
  | delivered | cancelled =>
      exact Or.inr { StaysInRound.refl d with pending := fun h => by simp at h }
  | readAgain => exact Or.inr { StaysInRound.refl d with }

/-- **A step raises the name of the row's round**, or leaves the row in it. -/
theorem step_roundName (hdb : Consistent db) (hd : db.deliveries.get? deliveryId = some d)
    (he : (step hashing db input).1.deliveries.get? deliveryId = some e) : Advances d e := by
  have hid : d.id = deliveryId := Table.key_of_get? hd
  have hfollowed := (step_invariant hashing input hdb
    (P := fun db' => Table.Followed Advances d db'.deliveries)
    (Table.followed_of_mem (Or.inr (.refl d)) (Table.mem_of_get? hd))
    fun a b _ hold hwrite => hold.steps (fun _ _ _ hlater hchange =>
      hlater.trans hchange.advances) hwrite.deliveries).2
  exact hfollowed.later e (by rw [key_delivery, hid, he])

end Names

/-! ### The rounds of an arm -/

section Arms

variable {rounds : List DeliveryRound} {r : DeliveryRound} {d : MessageDelivery}

/-- The latest round of an arm has as many rounds of it up to itself as its number says. -/
theorem LinkedRounds.count_of_last (h : LinkedRounds rounds) (hr : r ∈ rounds)
    (hlast : ∀ q ∈ rounds, q.armGeneration = r.armGeneration →
      q.attemptNumber ≤ r.attemptNumber) :
    (rounds.filter fun q => q.armGeneration = r.armGeneration).length = r.attemptNumber := by
  rw [← h.numbered r hr]
  refine congrArg List.length (List.filter_congr fun q hq => ?_)
  rw [decide_eq_decide]
  exact ⟨fun harm => ⟨harm, hlast q hq harm⟩, fun hboth => hboth.1⟩

/-- An earlier round of the same arm has a smaller number. -/
theorem DeliveryRound.attempt_lt {q : DeliveryRound} (hname : q.name < r.name)
    (harm : q.armGeneration = r.armGeneration) : q.attemptNumber < r.attemptNumber := by
  rcases Prod.Lex.toLex_lt_toLex.1 hname with hlt | ⟨-, hlt⟩
  · exact absurd harm (Nat.ne_of_lt hlt)
  · exact hlt

/-- Each arm has a latest round. -/
theorem LinkedRounds.exists_last (h : LinkedRounds rounds) (hr : r ∈ rounds) :
    ∃ t ∈ rounds, t.armGeneration = r.armGeneration ∧ t.maximumAttempts = r.maximumAttempts ∧
      ∀ q ∈ rounds, q.armGeneration = t.armGeneration → q.attemptNumber ≤ t.attemptNumber := by
  have hmem : r ∈ rounds.filter fun q => q.armGeneration = r.armGeneration :=
    List.mem_filter.2 ⟨hr, by simp⟩
  obtain ⟨t, earlier, harm⟩ := List.exists_cons_of_ne_nil (List.ne_nil_of_mem hmem)
  have hordered := h.ordered.filter fun q => q.armGeneration = r.armGeneration
  have hlinked := h.linked.filter fun q => q.armGeneration = r.armGeneration
  rw [harm] at hordered hlinked
  have hin : ∀ q ∈ rounds, q.armGeneration = r.armGeneration → q ∈ t :: earlier := by
    intro q hq hsame
    rw [← harm]
    exact List.mem_filter.2 ⟨hq, by simpa using hsame⟩
  have ht : t ∈ rounds ∧ t.armGeneration = r.armGeneration := by
    have htop : t ∈ rounds.filter fun q => q.armGeneration = r.armGeneration :=
      harm ▸ List.mem_cons_self
    simpa using htop
  refine ⟨t, ht.1, ht.2, ?_, fun q hq hsame => ?_⟩
  · rcases List.mem_cons.1 (hin r hr rfl) with rfl | hr'
    · rfl
    · exact ((List.pairwise_cons.1 hlinked).1 r hr' ht.2.symm).2.symm
  · rcases List.mem_cons.1 (hin q hq (hsame.trans ht.2)) with rfl | hq'
    · exact le_rfl
    · exact (DeliveryRound.attempt_lt ((List.pairwise_cons.1 hordered).1 q hq') hsame).le

/-- **An arm has at most its maximum of rounds.** -/
theorem LinkedRounds.count_le (h : LinkedRounds rounds) (hr : r ∈ rounds) :
    (rounds.filter fun q => q.armGeneration = r.armGeneration).length ≤ r.maximumAttempts := by
  obtain ⟨t, ht, harm, hmax, hlast⟩ := h.exists_last hr
  rw [← harm, h.count_of_last ht hlast, ← hmax]
  exact (h.attempts t ht).2

/-- **A row whose attempts ran out** had its maximum of rounds, and nothing of them is left. -/
theorem RowSettled.exhausted (hlinked : LinkedRounds rounds) (h : RowSettled rounds d)
    (hexhausted : IsExhausted d) :
    (rounds.filter fun q => q.armGeneration = d.armGeneration).length = d.maximumAttempts ∧
      ∀ q ∈ rounds, q.armGeneration = d.armGeneration → q.left = ∅ := by
  cases h with
  | idle _ _ _ _ hlive => exact absurd hexhausted hlive
  | inRound r earlier hrounds hname hmax hleft hdone =>
      obtain ⟨harm, hattempt⟩ := DeliveryRound.name_eq_iff.1 hname
      obtain ⟨hattempts, hempty⟩ := hdone hexhausted
      subst hrounds
      have hordered := (List.pairwise_cons.1 hlinked.ordered).1
      constructor
      · rw [← harm, hlinked.count_of_last List.mem_cons_self, hattempt, hattempts]
        intro q hq hsame
        rcases List.mem_cons.1 hq with rfl | hq
        · exact le_rfl
        · exact (DeliveryRound.attempt_lt (hordered q hq) hsame).le
      · intro q hq hsame
        rcases List.mem_cons.1 hq with rfl | hq
        · exact hempty
        · exact ((List.pairwise_cons.1 hlinked.linked).1 q hq (hsame.trans harm.symm)).1

/-- No round of the log is after the one the row is in. -/
theorem RowSettled.le (hlinked : LinkedRounds rounds) (h : RowSettled rounds d) :
    ∀ r ∈ rounds, r.name ≤ d.roundName := by
  cases h with
  | idle _ _ harms =>
      exact fun r hr => (Prod.Lex.toLex_lt_toLex.2 (Or.inl (harms r hr))).le
  | inRound t earlier hrounds hname =>
      subst hrounds
      intro r hr
      rw [← hname]
      rcases List.mem_cons.1 hr with rfl | hr
      · exact le_rfl
      · exact ((List.pairwise_cons.1 hlinked.ordered).1 r hr).le

/-- **A packet's copy of the pair identifies its round.** -/
theorem RunLog.identified {db : Db} {deliveryId : ℕ} (h : RunLog deliveryId rounds db)
    {p : OutboundPacket} (hp : p ∈ db.packets) (hdelivery : p.messageDeliveryId = some deliveryId) :
    ∃! r, r ∈ rounds ∧ p.armGeneration = some r.armGeneration ∧
      p.attemptNumber = some r.attemptNumber ∧
      ∃ partNumber ∈ takenElements r.log, p.partNumber = some partNumber := by
  obtain ⟨r, hr, partNumber, harm, hattempt, hpart, -, htaken⟩ := h.packets p hp hdelivery
  refine ⟨r, ⟨hr, harm, hattempt, partNumber, htaken, hpart⟩, ?_⟩
  rintro q ⟨hq, harm', hattempt', -⟩
  refine h.linked.eq_of_name hq hr ?_
  rw [DeliveryRound.name, DeliveryRound.name, Option.some.inj (harm'.symm.trans harm),
    Option.some.inj (hattempt'.symm.trans hattempt)]

end Arms

/-! ### A delivery is sent round by round -/

/-- "Pool full", "contact not found", a restart, and what becomes of a packet after it was sent. -/
def Event.leavesPart : Event → Prop
  | .recordSendOutcome _ (.rejectedByNode nodeErrorCode) _ =>
      nodeErrorCode = errCodeTableFull ∨ nodeErrorCode = errCodeNotFound
  | .recoverAtStartup _ | .recordNodeAcknowledgement _ _ _
  | .recordAcknowledgementDeadlinePassed _ _ | .markPacketsAwaitingAcknowledgementDropped _ => True
  | _ => False

/-- What every run gives of the rounds of a delivery. -/
structure SentInRounds (hashing : PasswordHashing) (deliveryId : ℕ) (rounds : List DeliveryRound)
    (db : Db) : Prop where
  /-- A start of a round and an arming raise the pair, and nothing else does. -/
  advances : ∀ input d e, db.deliveries.get? deliveryId = some d →
    (step hashing db input).1.deliveries.get? deliveryId = some e → Advances d e
  started : ∀ input d r, db.deliveries.get? deliveryId = some d →
    openRound deliveryId (step hashing db input).1 rounds = r :: rounds → d.roundName < r.name
  ordered : rounds.Pairwise fun newer older => older.name < newer.name
  reached : ∀ d, db.deliveries.get? deliveryId = some d → ∀ r ∈ rounds, r.name ≤ d.roundName
  /-- A packet's copy of the pair identifies its round. -/
  identified : ∀ p ∈ db.packets, p.messageDeliveryId = some deliveryId → ∃! r, r ∈ rounds ∧
    p.armGeneration = some r.armGeneration ∧ p.attemptNumber = some r.attemptNumber ∧
    ∃ partNumber ∈ takenElements r.log, p.partNumber = some partNumber
  /-- The outcome of a packet of an earlier arm or round changes nothing on the row. -/
  late : ∀ p ∈ db.packets, p.messageDeliveryId = some deliveryId →
    ∀ d, db.deliveries.get? deliveryId = some d →
      ¬ (p.armGeneration = some d.armGeneration ∧ p.attemptNumber = some d.attemptCount) →
      ∀ settings outcome now,
        (step hashing db ⟨settings, .recordSendOutcome p.id outcome now⟩).1.deliveries =
          db.deliveries
  /-- Rejections that count for nothing, a restart and what becomes of a packet after it was sent
  leave the parts in their rounds. -/
  unsent : ∀ input, input.event.leavesPart → (step hashing db input).1.deliveries = db.deliveries
  /-- A round starts when every part of the earlier ones of its arm was counted as sent or was
  reported. -/
  completed : ∀ input r, openRound deliveryId (step hashing db input).1 rounds = r :: rounds →
    ∀ q ∈ rounds, q.armGeneration = r.armGeneration → ∀ partNumber ∈ q.missing,
      partNumber ∈ settledElements q.log ∨ IsWithdrawn q.log partNumber
  limited : ∀ r ∈ rounds,
    (rounds.filter fun q => q.armGeneration = r.armGeneration).length ≤ r.maximumAttempts
  exhausted : ∀ d, db.deliveries.get? deliveryId = some d → IsExhausted d →
    (rounds.filter fun q => q.armGeneration = d.armGeneration).length = d.maximumAttempts ∧
      ∀ q ∈ rounds, q.armGeneration = d.armGeneration → ∀ partNumber ∈ q.missing,
        partNumber ∈ settledElements q.log ∨ IsWithdrawn q.log partNumber

/-- The parts of a round are prepared in ascending order from those that were missing, and each is
counted as sent once. -/
structure SentInOrder (r : DeliveryRound) : Prop where
  ascending : (takenElements r.log).Pairwise (· ≥ ·)
  missing : ∀ partNumber ∈ takenElements r.log, partNumber ∈ r.missing
  /-- The part that is prepared is the least one that is left. -/
  least : ∀ later partNumber earlier, r.log = later ++ .taken partNumber :: earlier →
    IsLeast (left r.missing earlier : Set ℕ) partNumber
  once : (settledElements r.log).Nodup
  sent : settledElements r.log ⊆ takenElements r.log

section Rounds

variable {hashing : PasswordHashing} {input : Input} {db : Db} {rounds : List DeliveryRound}
  {deliveryId : ℕ}

theorem deliveries_of_leavesPart (hevent : input.event.leavesPart) :
    (step hashing db input).1.deliveries = db.deliveries := by
  cases hcase : input.event with
  | recordSendOutcome packetId outcome now =>
      rw [hcase] at hevent
      simp only [step, hcase]
      refine deliveries_recordSendOutcome input.settings now fun packet e partNumber hcounts => ?_
      cases outcome with
      | rejectedByNode nodeErrorCode =>
          have hcounted := hcounts.counts
          rcases hevent with rfl | rfl <;> exact absurd hcounted (by decide)
      | _ => exact hevent
  | recordAcknowledgementDeadlinePassed packetId now =>
      simp only [step, hcase, recordAcknowledgementDeadlinePassed]
      split <;> rfl
  | recoverAtStartup now => simp only [step, hcase]; rfl
  | recordNodeAcknowledgement acknowledgementCode roundTripMilliseconds now =>
      simp only [step, hcase]; rfl
  | markPacketsAwaitingAcknowledgementDropped now => simp only [step, hcase]; rfl
  | _ =>
      rw [hcase] at hevent
      exact absurd hevent id

/-- A packet of another round counts for nothing. -/
theorem deliveries_of_late {p : OutboundPacket} (hp : p ∈ db.packets)
    (hdelivery : p.messageDeliveryId = some deliveryId) {d : MessageDelivery}
    (hd : db.deliveries.get? deliveryId = some d)
    (hlate : ¬ (p.armGeneration = some d.armGeneration ∧ p.attemptNumber = some d.attemptCount))
    (settings : RelaySettings) (outcome : NodeSendOutcome) (now : Time) :
    (step hashing db ⟨settings, .recordSendOutcome p.id outcome now⟩).1.deliveries =
      db.deliveries := by
  refine deliveries_recordSendOutcome settings now fun packet e partNumber hcounts => hlate ?_
  obtain rfl := Option.some.inj ((Table.get?_key hp).symm.trans hcounts.found)
  have hid : e.id = deliveryId := Option.some.inj (hcounts.delivery.symm.trans hdelivery)
  have he : db.deliveries.get? deliveryId = some e := hid ▸ Table.get?_key hcounts.mem
  obtain rfl := Option.some.inj (he.symm.trans hd)
  exact ⟨hcounts.arm, hcounts.attempt⟩

/-- What is opened is the round the row is in. -/
theorem openRound_eq_cons {r : DeliveryRound} (h : openRound deliveryId db rounds = r :: rounds) :
    ∃ e, db.deliveries.get? deliveryId = some e ∧ e.attemptCount ≠ 0 ∧ r.name = e.roundName ∧
      ∀ q ∈ rounds, q.name ≠ e.roundName := by
  have hne : rounds ≠ r :: rounds := (List.cons_ne_self r rounds).symm
  unfold openRound at h
  split at h
  · exact absurd h hne
  next e he =>
  split at h
  · exact absurd h hne
  next hnot =>
  split at h
  · exact absurd h hne
  next m hm =>
  rw [not_or, not_exists] at hnot
  refine ⟨e, he, hnot.1, ?_, fun q hq hname => hnot.2 q ⟨hq, hname⟩⟩
  rw [← (List.cons.inj h).1]
  rfl

/-- **A round that starts** has a greater name than the one the row was in. -/
theorem lt_of_openRound (hdb : Consistent db) (h : RunLog deliveryId rounds db)
    {d : MessageDelivery} (hd : db.deliveries.get? deliveryId = some d) {r : DeliveryRound}
    (hopen : openRound deliveryId (step hashing db input).1 rounds = r :: rounds) :
    d.roundName < r.name := by
  obtain ⟨e, he, hattempt, hname, hnew⟩ := openRound_eq_cons hopen
  rw [hname]
  rcases step_roundName hdb hd he with hlt | hstays
  · exact hlt
  · cases h.row d hd with
    | idle hzero =>
        have hsame : e.attemptCount = d.attemptCount := (Prod.mk.inj hstays.name).2
        exact absurd (hsame.trans hzero) hattempt
    | inRound q earlier hrounds hq =>
        exact absurd (hq.trans hstays.name.symm) (hnew q (hrounds ▸ List.mem_cons_self))

/-- **A round that starts** follows completed rounds of its arm. -/
theorem completed_of_openRound (hdb : Consistent db) (h : RunLog deliveryId rounds db)
    {r : DeliveryRound}
    (hopen : openRound deliveryId (step hashing db input).1 rounds = r :: rounds)
    {q : DeliveryRound} (hq : q ∈ rounds) (harm : q.armGeneration = r.armGeneration) :
    q.left = ∅ := by
  have hevent : ¬ input.event.advancesRound := by
    intro hadvances
    rw [h.openRound_of_advances hdb hadvances] at hopen
    exact absurd hopen (List.cons_ne_self r rounds).symm
  obtain ⟨hlinked, -⟩ := h.opened hashing hdb hevent
  rw [hopen] at hlinked
  exact ((List.pairwise_cons.1 hlinked.linked).1 q hq harm).1

end Rounds

/-- **A delivery is sent round by round.**  In every run the pair of arm generation and attempt
count names the rounds of a delivery in order, an arm has at most its maximum of rounds and each of
them is completed before the next one starts; when no packet is prepared while another one waits for
its outcome, each round takes its parts in ascending order and counts each of them once. -/
theorem rounds_of_a_delivery {hashing : PasswordHashing} {deliveryId : ℕ}
    {history : List (Input × Outcome)} {db : Db} {rounds : List DeliveryRound}
    (run : (roundEngine hashing deliveryId).Run (Db.empty, []) history (db, rounds)) :
    SentInRounds hashing deliveryId rounds db ∧
      (Machine.Run.Always (roundEngine hashing deliveryId) PreparesAlone (Db.empty, []) history →
        ∀ r ∈ rounds, SentInOrder r) := by
  obtain ⟨hdb, hlog⟩ := runLog_of_run run
  constructor
  · exact
      { advances := fun input d e hd he => step_roundName hdb hd he
        started := fun input d r hd hopen => lt_of_openRound hdb hlog hd hopen
        ordered := hlog.linked.ordered
        reached := fun d hd => (hlog.row d hd).le hlog.linked
        identified := fun p hp hdelivery => hlog.identified hp hdelivery
        late := fun p hp hdelivery d hd hlate settings outcome now =>
          deliveries_of_late hp hdelivery hd hlate settings outcome now
        unsent := fun input hevent => deliveries_of_leavesPart hevent
        completed := fun input r hopen q hq harm =>
          left_eq_empty_iff.1 (completed_of_openRound hdb hlog hopen hq harm)
        limited := fun r hr => hlog.linked.count_le hr
        exhausted := fun d hd hexhausted => by
          obtain ⟨hcount, hempty⟩ := (hlog.row d hd).exhausted hlog.linked hexhausted
          exact ⟨hcount, fun q hq harm => left_eq_empty_iff.1 (hempty q hq harm)⟩ }
  · intro halone r hr
    have horderly := (orderlyLog_of_run run halone).orderly r hr
    exact ⟨horderly.sorted, fun partNumber => horderly.mem_missing,
      fun later partNumber earlier hsplit => (hsplit ▸ horderly).isLeast, horderly.nodup_settled,
      horderly.settled_subset⟩

/-- What the node did with the part stays unknown. -/
def sampleSent : List Event := sampleSend ++ [.recordSendOutcome 1 .outcomeUnknown (sampleTime 9)]

/-- The message's one part was sent in the first round of its first arm. -/
theorem rounds_of_a_delivery_sampleSent :
    ((roundEngine sampleHashing 1).exec (Db.empty, []) (sampleInputs sampleSent)).2.2 =
        [⟨1, 1, 5, {1}, [.settled 1, .taken 1]⟩] ∧
      ∀ r ∈ ((roundEngine sampleHashing 1).exec (Db.empty, []) (sampleInputs sampleSent)).2.2,
        SentInOrder r :=
  ⟨by decide +kernel,
    (rounds_of_a_delivery
      ((roundEngine sampleHashing 1).run_exec (Db.empty, []) (sampleInputs sampleSent))).2
      (by decide +kernel)⟩

end HoptalkRelay
