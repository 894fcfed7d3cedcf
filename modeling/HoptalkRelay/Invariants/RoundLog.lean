/-
**The rounds of a delivery.**

A delivery is sent in rounds; its arm generation and attempt count name the round it is in.  The
log of a delivery records each round with the parts that were missing when it started, and what
happened in it: a part was prepared, a part was counted as sent, a set of parts was reported.  The
row always is where its log says: in the latest round, or armed again and in none yet.

Main definitions:

* `HoptalkRelay.DeliveryRound`, `HoptalkRelay.updateRounds` — the log of a delivery;
* `HoptalkRelay.LinkedRounds` — the rounds of a log follow each other;
* `HoptalkRelay.RowSettled`, `HoptalkRelay.RowFits` — the row is where its log says, between two
  transactions and inside one.

Main results:

* `HoptalkRelay.RowFits.write` — a write that neither records an outcome nor a set of parts leaves
  the row where the log says, or starts the next round;
* `HoptalkRelay.RowFits.settle` — **a started round is logged**;
* `HoptalkRelay.RowSettled.sent`, `HoptalkRelay.RowSettled.reported` — what an outcome and what a
  status do to the round.
-/

import HoptalkRelay.Batching.Round
import HoptalkRelay.Invariants.Deliveries
import HoptalkRelay.Invariants.Masks
import Mathlib.Data.Prod.Lex

set_option relaxedAutoImplicit false
set_option autoImplicit false

namespace HoptalkRelay

open Relational Transition Batching

/-! ### The log -/

/-- The names of rounds, in the order the rounds start. -/
abbrev RoundName : Type := ℕ ×ₗ ℕ

/-- One round of a delivery, and what happened in it, the latest first. -/
structure DeliveryRound where
  armGeneration : ℕ
  attemptNumber : ℕ
  maximumAttempts : ℕ
  /-- The parts the device had not reported when the round started. -/
  missing : Finset ℕ
  log : List (Incident ℕ)
  deriving DecidableEq

namespace DeliveryRound

def name (r : DeliveryRound) : RoundName := toLex (r.armGeneration, r.attemptNumber)

/-- The parts that were neither counted as sent nor reported. -/
def left (r : DeliveryRound) : Finset ℕ := Batching.left r.missing r.log

def note (r : DeliveryRound) (incident : Incident ℕ) : DeliveryRound :=
  { r with log := incident :: r.log }

@[simp] theorem name_note (r : DeliveryRound) (incident : Incident ℕ) :
    (r.note incident).name = r.name := rfl

end DeliveryRound

/-- The round the row is in. -/
def MessageDelivery.roundName (d : MessageDelivery) : RoundName :=
  toLex (d.armGeneration, d.attemptCount)

/-- What happened in the round with this name. -/
def noteIncident (name : RoundName) (incident : Incident ℕ) (rounds : List DeliveryRound) :
    List DeliveryRound :=
  rounds.map fun r => if r.name = name then r.note incident else r

/-- What happened to the part of a packet, in the round the packet names. -/
def notePacket (packet : OutboundPacket) (incident : ℕ → Incident ℕ)
    (rounds : List DeliveryRound) : List DeliveryRound :=
  match packet.armGeneration, packet.attemptNumber, packet.partNumber with
  | some armGeneration, some attemptNumber, some partNumber =>
      noteIncident (toLex (armGeneration, attemptNumber)) (incident partNumber) rounds
  | _, _, _ => rounds

/-- What a request notes about a delivery it reports. -/
def noteReport (db : Db) (input : Input) (d : MessageDelivery) (rounds : List DeliveryRound) :
    List DeliveryRound :=
  match reportedMask? db input d with
  | some mask => noteIncident d.roundName (.withdrawn (partsOfMask mask)) rounds
  | none => rounds

/-- A started round as it is logged. -/
def startedDeliveryRound (d : MessageDelivery) (partCount : PartCount) : DeliveryRound where
  armGeneration := d.armGeneration
  attemptNumber := d.attemptCount
  maximumAttempts := d.maximumAttempts
  missing := partsOfMask (maskWithout (calculateAllPartsMask partCount) d.partsReceivedMask)
  log := []

/-- A round is logged when the row is in a round that is not in the log. -/
def openRound (deliveryId : ℕ) (db : Db) (rounds : List DeliveryRound) : List DeliveryRound :=
  match db.deliveries.get? deliveryId with
  | none => rounds
  | some d =>
      if d.attemptCount = 0 ∨ ∃ r ∈ rounds, r.name = d.roundName then rounds
      else
        match db.messages.get? d.messageId with
        | none => rounds
        | some m => startedDeliveryRound d m.partCount :: rounds

/-- A prepared packet of the delivery, a packet of it that was counted as sent, and a `K` from its
device for its message are logged. -/
def noteEvent (deliveryId : ℕ) (before : Db) (input : Input) (after : Db)
    (rounds : List DeliveryRound) : List DeliveryRound :=
  match input.event with
  | .prepareNextPacket _ _ =>
      match after.packets.get? before.packets.nextKey with
      | some packet =>
          if packet.messageDeliveryId = some deliveryId then notePacket packet .taken rounds
          else rounds
      | none => rounds
  | .recordSendOutcome packetId outcome _ =>
      match before.packets.get? packetId with
      | some packet =>
          if packet.state = .prepared ∧ packet.messageDeliveryId = some deliveryId ∧
              countsAsSent outcome = true then notePacket packet .settled rounds
          else rounds
      | none => rounds
  | .deliveryAcknowledgement _ _ _ =>
      match before.deliveries.get? deliveryId with
      | some d => noteReport before input d rounds
      | none => rounds
  | _ => rounds

/-- The log after one more transaction. -/
def updateRounds (deliveryId : ℕ) (rounds : List DeliveryRound) (before : Db) (input : Input)
    (after : Db) : List DeliveryRound :=
  noteEvent deliveryId before input after (openRound deliveryId after rounds)

/-! ### Rounds that follow each other -/

/-- The rounds of a log follow each other, the latest first: a round of the same arm starts when
nothing of the one before is left, and an arm has at most its maximum of them. -/
structure LinkedRounds (rounds : List DeliveryRound) : Prop where
  ordered : rounds.Pairwise fun newer older => older.name < newer.name
  linked : rounds.Pairwise fun newer older => older.armGeneration = newer.armGeneration →
    older.left = ∅ ∧ older.maximumAttempts = newer.maximumAttempts
  attempts : ∀ r ∈ rounds, 0 < r.attemptNumber ∧ r.attemptNumber ≤ r.maximumAttempts
  /-- The attempts of an arm are numbered without gaps. -/
  numbered : ∀ r ∈ rounds, (rounds.filter fun q =>
    q.armGeneration = r.armGeneration ∧ q.attemptNumber ≤ r.attemptNumber).length =
      r.attemptNumber

theorem LinkedRounds.nil : LinkedRounds [] :=
  ⟨.nil, .nil, by simp, by simp⟩

section Note

variable {rounds : List DeliveryRound} {name : RoundName} {incident : Incident ℕ}
  {r : DeliveryRound}

theorem mem_noteIncident :
    r ∈ noteIncident name incident rounds ↔
      ∃ q ∈ rounds, (if q.name = name then q.note incident else q) = r := List.mem_map

/-- A note keeps what a round is. -/
theorem note_keeps (q : DeliveryRound) (name : RoundName) (incident : Incident ℕ) :
    (if q.name = name then q.note incident else q).armGeneration = q.armGeneration ∧
      (if q.name = name then q.note incident else q).attemptNumber = q.attemptNumber ∧
      (if q.name = name then q.note incident else q).maximumAttempts = q.maximumAttempts ∧
      (if q.name = name then q.note incident else q).name = q.name ∧
      (if q.name = name then q.note incident else q).missing = q.missing := by
  split <;> exact ⟨rfl, rfl, rfl, rfl, rfl⟩

/-- A note leaves no more of a round than before. -/
theorem left_note_subset (q : DeliveryRound) (name : RoundName) (incident : Incident ℕ) :
    (if q.name = name then q.note incident else q).left ⊆ q.left := by
  split
  · exact left_cons_subset incident
  · exact Finset.Subset.refl _

/-- **A note keeps the rounds linked.** -/
theorem LinkedRounds.note (h : LinkedRounds rounds) (name : RoundName) (incident : Incident ℕ) :
    LinkedRounds (noteIncident name incident rounds) where
  ordered := by
    refine List.pairwise_map.2 (h.ordered.imp fun {newer older} hlt => ?_)
    rw [(note_keeps newer name incident).2.2.2.1, (note_keeps older name incident).2.2.2.1]
    exact hlt
  linked := by
    refine List.pairwise_map.2 (h.linked.imp fun {newer older} hlinked => ?_)
    obtain ⟨harm, -, hmax, -⟩ := note_keeps newer name incident
    obtain ⟨harm', -, hmax', -⟩ := note_keeps older name incident
    rw [harm, harm', hmax, hmax']
    intro hsame
    obtain ⟨hempty, hmaximum⟩ := hlinked hsame
    exact ⟨Finset.subset_empty.1 (hempty ▸ left_note_subset older name incident), hmaximum⟩
  attempts := by
    intro r hr
    obtain ⟨q, hq, rfl⟩ := mem_noteIncident.1 hr
    obtain ⟨-, hattempt, hmax, -⟩ := note_keeps q name incident
    rw [hattempt, hmax]
    exact h.attempts q hq
  numbered := by
    intro r hr
    obtain ⟨q, hq, rfl⟩ := mem_noteIncident.1 hr
    obtain ⟨harm, hattempt, -⟩ := note_keeps q name incident
    rw [harm, hattempt, noteIncident, List.filter_map, List.length_map]
    refine Eq.trans (congrArg List.length ?_) (h.numbered q hq)
    refine List.filter_congr fun p _ => ?_
    obtain ⟨harm, hattempt, -⟩ := note_keeps p name incident
    simp only [Function.comp_apply, harm, hattempt]

end Note

/-! ### The row and its log -/

/-- Where the row is between two transactions. -/
inductive RowSettled (rounds : List DeliveryRound) (d : MessageDelivery) : Prop
  /-- It was armed, and no round of this arm has started. -/
  | idle (hattempt : d.attemptCount = 0) (hround : d.roundPendingPartsMask = 0)
      (harms : ∀ r ∈ rounds, r.armGeneration < d.armGeneration)
      (hmax : d.state = .pending → 0 < d.maximumAttempts) (hlive : ¬ IsExhausted d)
  /-- It is in the latest round; while it is pending, its round mask is what is left. -/
  | inRound (r : DeliveryRound) (earlier : List DeliveryRound) (hrounds : rounds = r :: earlier)
      (hname : r.name = d.roundName) (hmax : r.maximumAttempts = d.maximumAttempts)
      (hleft : d.state = .pending → partsOfMask d.roundPendingPartsMask = r.left)
      (hdone : IsExhausted d → d.attemptCount = d.maximumAttempts ∧ r.left = ∅)

/-- The row started a round that is not in the log yet. -/
structure StartedRound (db : Db) (rounds : List DeliveryRound) (d : MessageDelivery) : Prop where
  parts : d.state = .pending → ∃ m, db.messages.get? d.messageId = some m ∧
    d.roundPendingPartsMask =
      maskWithout (calculateAllPartsMask m.partCount) d.partsReceivedMask ∧
    d.roundPendingPartsMask ≠ 0
  attempts : d.attemptCount ≤ d.maximumAttempts
  live : ¬ IsExhausted d
  /-- It is the first one of its arm, or the next one of it. -/
  next : d.attemptCount = 1 ∧ (∀ r ∈ rounds, r.armGeneration < d.armGeneration) ∨
    ∃ r earlier, rounds = r :: earlier ∧ r.armGeneration = d.armGeneration ∧
      r.attemptNumber + 1 = d.attemptCount ∧ r.maximumAttempts = d.maximumAttempts ∧ r.left = ∅

/-- Where the row is inside a transaction. -/
def RowFits (db : Db) (rounds : List DeliveryRound) (d : MessageDelivery) : Prop :=
  RowSettled rounds d ∨ StartedRound db rounds d

section Rows

variable {rounds : List DeliveryRound} {d e : MessageDelivery} {db : Db}

theorem DeliveryRound.name_eq_iff {r : DeliveryRound} :
    r.name = d.roundName ↔
      r.armGeneration = d.armGeneration ∧ r.attemptNumber = d.attemptCount := by
  simp [DeliveryRound.name, MessageDelivery.roundName]

/-- No round of the log is after the row's arm. -/
theorem LinkedRounds.arms_le (h : LinkedRounds rounds) {r : DeliveryRound}
    {earlier : List DeliveryRound} (hrounds : rounds = r :: earlier) :
    ∀ q ∈ rounds, q.armGeneration ≤ r.armGeneration := by
  subst hrounds
  intro q hq
  rcases List.mem_cons.1 hq with rfl | hq
  · exact le_rfl
  · have hlt := (List.pairwise_cons.1 h.ordered).1 q hq
    rcases Prod.Lex.toLex_lt_toLex.1 hlt with hlt | ⟨heq, -⟩
    · exact hlt.le
    · exact heq.le

/-- No round of the log belongs to a later arm than the row. -/
theorem RowFits.arms_le (hlinked : LinkedRounds rounds) (h : RowFits db rounds d) :
    ∀ r ∈ rounds, r.armGeneration ≤ d.armGeneration := by
  rcases h with hsettled | hstarted
  · cases hsettled with
    | idle hattempt hround harms => exact fun r hr => (harms r hr).le
    | inRound r earlier hrounds hname =>
        rw [← (DeliveryRound.name_eq_iff.1 hname).1]
        exact hlinked.arms_le hrounds
  · rcases hstarted.next with ⟨-, harms⟩ | ⟨r, earlier, hrounds, harm, -⟩
    · exact fun r hr => (harms r hr).le
    · rw [← harm]
      exact hlinked.arms_le hrounds

/-- A row that is armed again is in no round. -/
theorem RowFits.rearmed (h : RowFits db rounds d) (hlinked : LinkedRounds rounds)
    (harmed : ArmedAgain d e) : RowSettled rounds e := by
  refine .idle harmed.attempt harmed.round (fun r hr => ?_) harmed.maximum harmed.live
  have hle := h.arms_le hlinked r hr
  have harm := harmed.arm
  omega

theorem RowSettled.same (h : RowSettled rounds d) (hsame : SameRound d e) :
    RowSettled rounds e := by
  cases h with
  | idle hattempt hround harms hmax hlive =>
      refine .idle (hsame.attempt.trans hattempt) (hsame.round hround) ?_ ?_
        fun he => hlive (hsame.exhausted he)
      · rw [hsame.arm]
        exact harms
      · rw [hsame.maximum]
        exact fun he => hmax (hsame.pending he)
  | inRound r earlier hrounds hname hmax hleft hdone =>
      refine .inRound r earlier hrounds ?_ (hmax.trans hsame.maximum.symm) (fun he => ?_) ?_
      · rw [DeliveryRound.name_eq_iff] at hname ⊢
        rw [hsame.arm, hsame.attempt]
        exact hname
      · rw [(hsame.parts he).1]
        exact hleft (hsame.pending he)
      · rw [hsame.maximum, hsame.attempt]
        exact fun he => hdone (hsame.exhausted he)

/-- A row that keeps its round stays where its log says. -/
theorem RowFits.same (h : RowFits db rounds d) (hsame : SameRound d e) : RowFits db rounds e := by
  rcases h with hsettled | hstarted
  · exact Or.inl (hsettled.same hsame)
  · refine Or.inr ⟨fun he => ?_, ?_, fun he => hstarted.live (hsame.exhausted he), ?_⟩
    · obtain ⟨hmask, hreceived, hmessage⟩ := hsame.parts he
      rw [hmask, hreceived, hmessage]
      exact hstarted.parts (hsame.pending he)
    · rw [hsame.attempt, hsame.maximum]
      exact hstarted.attempts
    · rw [hsame.arm, hsame.attempt, hsame.maximum]
      exact hstarted.next

/-- A row with nothing left in its round may start the next one. -/
theorem RowFits.start {m : Message} (h : RowFits db rounds d)
    (hstate : d.state = .pending) (hm : db.messages.get? d.messageId = some m)
    (hok : RoundsOk d m) (hround : d.roundPendingPartsMask = 0)
    (hattempts : d.attemptCount < d.maximumAttempts) (now : Time) :
    RowFits db rounds (roundStartedDelivery d m.partCount now) := by
  have hmissing : maskWithout (calculateAllPartsMask m.partCount) d.partsReceivedMask ≠ 0 := by
    rw [ne_eq, maskWithout_calculateAllPartsMask_eq_zero hok.received_lt]
    exact hok.incomplete (by simp [hstate])
  have hlive : ¬ IsExhausted (roundStartedDelivery d m.partCount now) := by
    rintro ⟨hfailed, -⟩
    exact absurd (hstate.symm.trans hfailed) (by simp)
  refine Or.inr ⟨fun _ => ⟨m, hm, rfl, hmissing⟩, hattempts, hlive, ?_⟩
  rcases h with hsettled | hstarted
  · cases hsettled with
    | idle hattempt hround harms => exact Or.inl ⟨by simp [hattempt], harms⟩
    | inRound r earlier hrounds hname hmax hleft =>
        obtain ⟨harm, hattempt⟩ := DeliveryRound.name_eq_iff.1 hname
        have hempty : r.left = ∅ := by
          rw [← hleft hstate, hround, partsOfMask_eq_empty_iff (Nat.two_pow_pos _)]
        exact Or.inr ⟨r, earlier, hrounds, harm, congrArg (· + 1) hattempt, hmax, hempty⟩
  · obtain ⟨-, -, -, hne⟩ := hstarted.parts hstate
    exact absurd hround hne

end Rows

/-! ### Writes -/

/-- The event records what became of the parts of a round: the node's answer to a send, or a
status of the device. -/
def Event.advancesRound : Event → Prop
  | .recordSendOutcome _ _ _ | .deliveryAcknowledgement _ _ _ => True
  | _ => False

section Writes

variable {input : Input} {a b : Phase × Db} {rounds : List DeliveryRound} {d e : MessageDelivery}
  {m : Message}

theorem RoundChange.fits {db : Db} (h : RoundChange input db d e)
    (hevent : ¬ input.event.advancesRound) (hm : db.messages.get? d.messageId = some m)
    (hok : RoundsOk d m) (hlinked : LinkedRounds rounds) (hfits : RowFits db rounds d) :
    RowFits db rounds e := by
  cases h with
  | roundStarted message now _ hfound hstate hround hattempts =>
      obtain rfl := Option.some.inj (hfound.symm.trans hm)
      exact hfits.start hstate hm hok hround hattempts now
  | roundCompleted due hstate hleft =>
      -- what is left of a round never was reported, so nothing is removed here
      rw [findPartsLeftInRound, maskWithout_of_disjoint (hok.disjoint hstate)] at hleft
      exact hfits.same ⟨⟨rfl, rfl, rfl, id, fun _ => rfl, id⟩, fun _ => ⟨hleft.symm, rfl, rfl⟩⟩
  | partSent packet partNumber now _ _ _ _ _ _ _ hrecords =>
      refine absurd ?_ hevent
      cases hcase : input.event <;> simp_all [Event.recordsOutcome, Event.advancesRound]
  | reportedPending message mask _ hreport | reported message mask _ hreport =>
      obtain ⟨acknowledgement, now, hstatus, -⟩ := hreport.event
      exact absurd (by rw [hstatus]; trivial) hevent
  | rescheduled due hstate =>
      exact hfits.same { SameRound.refl d with }
  | restarted now hstate =>
      refine Or.inl (hfits.rearmed hlinked ⟨rfl, rfl, rfl, fun _ => ?_, ?_⟩)
      · exact input.settings.one_le_maximumAttempts
      · rintro ⟨hfailed, -⟩
        exact absurd (hstate.symm.trans hfailed) (by simp)
  | acknowledged now => exact hfits.same { SameRound.refl d with }

/-- A row whose attempts ran out completed its last round. -/
theorem RowFits.exhausted {db : Db} (hok : RoundsOk d m) (hfits : RowFits db rounds d)
    (hstate : d.state = .pending) (hround : d.roundPendingPartsMask = 0)
    (hattempts : d.maximumAttempts ≤ d.attemptCount) (now : Time) :
    RowFits db rounds (failedDelivery d .attemptsExhausted now) := by
  rcases hfits with hsettled | hstarted
  · cases hsettled with
    | idle hattempt _ _ hmax =>
        have hpos := hmax hstate
        omega
    | inRound r earlier hrounds hname hmax hleft =>
        refine Or.inl (.inRound r earlier hrounds hname hmax (fun h => by simp at h) fun _ => ?_)
        refine ⟨le_antisymm hok.attempts hattempts, ?_⟩
        rw [← hleft hstate, hround, partsOfMask_eq_empty_iff (Nat.two_pow_pos _)]
  · obtain ⟨-, -, -, hne⟩ := hstarted.parts hstate
    exact absurd hround hne

theorem StateChange.fits {db : Db} {p p' : Phase} (h : StateChange input db d p e p')
    (hok : RoundsOk d m) (hlinked : LinkedRounds rounds) (hfits : RowFits db rounds d) :
    RowFits db rounds e := by
  cases h with
  | exhausted now _ hstate hround hattempts =>
      exact hfits.exhausted hok hstate hround hattempts now
  | stopped refreshSessionId now _ hqueued =>
      refine hfits.same (.of_not_pending (by simp) rfl rfl rfl rfl ?_)
      rintro ⟨-, hreason⟩
      simp at hreason
  | takenOver message refreshSessionId htake =>
      refine Or.inl (hfits.rearmed hlinked ⟨rfl, rfl, rfl, fun h => by simp at h, ?_⟩)
      rintro ⟨hfailed, -⟩
      simp at hfailed
  | armed refreshSessionId now hqueued =>
      exact Or.inl (hfits.rearmed hlinked (.armed input.settings d now))

/-- **No change of a row leaves its log behind**, except for the two that are logged. -/
theorem DeliveryChange.fits (h : DeliveryChange input a d e)
    (hevent : ¬ input.event.advancesRound) (hm : a.2.messages.get? d.messageId = some m)
    (hok : RoundsOk d m) (hlinked : LinkedRounds rounds) (hfits : RowFits a.2 rounds d) :
    RowFits a.2 rounds e := by
  cases h with
  | round change => exact change.fits hevent hm hok hlinked hfits
  | moved change => exact change.fits hok hlinked hfits
  | delivered | cancelled =>
      refine hfits.same (.of_not_pending (by simp) rfl rfl rfl rfl ?_)
      rintro ⟨hfailed, -⟩
      simp at hfailed
  | readAgain => exact hfits.same { SameRound.refl d with }

/-- The log of a delivery and its row: it has no rounds before the row is created. -/
structure LogFits (deliveryId : ℕ) (rounds : List DeliveryRound) (db : Db) : Prop where
  ok : DeliveryRoundsOk db
  row : ∀ d, db.deliveries.get? deliveryId = some d → RowFits db rounds d
  unborn : db.deliveries.nextKey ≤ deliveryId → rounds = []

/-- What the messages keep is all a started round needs of them. -/
theorem RowFits.write (hdb : Consistent b.2) (h : Write input a b) (he : e ∈ b.2.deliveries)
    (hm : a.2.messages.get? e.messageId = some m) (hfits : RowFits a.2 rounds e) :
    RowFits b.2 rounds e := by
  rcases hfits with hsettled | hstarted
  · exact Or.inl hsettled
  · refine Or.inr { hstarted with parts := fun hpending => ?_ }
    obtain ⟨m', hm', hmask, hne⟩ := hstarted.parts hpending
    obtain rfl := Option.some.inj (hm'.symm.trans hm)
    obtain ⟨n, hn, -⟩ := (hdb.deliveries e he).message
    exact ⟨n, hn, by rw [h.partCount_eq hm hn]; exact hmask, hne⟩

/-- **A write that is not logged keeps the row where its log says.** -/
theorem LogFits.write {deliveryId : ℕ} (hlinked : LinkedRounds rounds)
    (hevent : ¬ input.event.advancesRound) (hdb : Consistent a.2) (h : Write input a b)
    (hfits : LogFits deliveryId rounds a.2) : LogFits deliveryId rounds b.2 where
  ok := hfits.ok.write hdb h
  row := by
    intro e hfound
    have he := Table.mem_of_get? hfound
    have hid : e.id = deliveryId := Table.key_of_get? hfound
    rcases h.deliveries.origin he with he' | ⟨d, hd, hkey, hchange⟩ | ⟨hfresh, hcreated⟩
    · obtain ⟨m, hm, -⟩ := (hdb.deliveries e he').message
      have hold : a.2.deliveries.get? deliveryId = some e := hid ▸ Table.get?_key he'
      exact (hfits.row e hold).write (h.consistent hdb) h he hm
    · obtain ⟨m, hm, -⟩ := (hdb.deliveries d hd).message
      have hid' : d.id = deliveryId := hkey.trans hid
      have hold : a.2.deliveries.get? deliveryId = some d := hid' ▸ Table.get?_key hd
      have hsame : a.2.messages.get? e.messageId = some m := hchange.keeps.2.1 ▸ hm
      exact (hchange.fits hevent hm (hfits.ok d hd m hm) hlinked (hfits.row d hold)).write
        (h.consistent hdb) h he hsame
    · have hnone := hfits.unborn (hid ▸ hfresh)
      subst hnone
      cases hcreated with
      | pending =>
          exact Or.inl (.idle rfl rfl (by simp) (fun _ => input.settings.one_le_maximumAttempts)
            fun hdone => by simp [IsExhausted] at hdone)
      | owned =>
          exact Or.inl (.idle rfl rfl (by simp) (fun h => by simp at h)
            fun hdone => by simp [IsExhausted] at hdone)
  unborn := fun hle => hfits.unborn (h.deliveries.nextKey.trans hle)

end Writes

/-! ### Logging a started round -/

section Open

variable {rounds : List DeliveryRound} {d : MessageDelivery} {db : Db} {deliveryId : ℕ}

/-- Every round of the log is before a round that is not in it yet. -/
theorem StartedRound.lt (hlinked : LinkedRounds rounds) (h : StartedRound db rounds d) :
    ∀ q ∈ rounds, q.name < d.roundName := by
  intro q hq
  rcases h.next with ⟨-, harms⟩ | ⟨r, earlier, hrounds, harm, hattempt, -⟩
  · exact Prod.Lex.toLex_lt_toLex.2 (Or.inl (harms q hq))
  · have hlast : r.name < d.roundName :=
      Prod.Lex.toLex_lt_toLex.2 (Or.inr ⟨harm, by show r.attemptNumber < d.attemptCount; omega⟩)
    subst hrounds
    rcases List.mem_cons.1 hq with rfl | hq
    · exact hlast
    · exact ((List.pairwise_cons.1 hlinked.ordered).1 q hq).trans hlast

/-- The rounds of the same arm before it are completed. -/
theorem StartedRound.completed (hlinked : LinkedRounds rounds) (h : StartedRound db rounds d) :
    ∀ q ∈ rounds, q.armGeneration = d.armGeneration →
      q.left = ∅ ∧ q.maximumAttempts = d.maximumAttempts := by
  intro q hq hsame
  rcases h.next with ⟨-, harms⟩ | ⟨r, earlier, hrounds, harm, -, hmax, hleft⟩
  · exact absurd hsame (harms q hq).ne
  · subst hrounds
    rcases List.mem_cons.1 hq with rfl | hq
    · exact ⟨hleft, hmax⟩
    · obtain ⟨hempty, hmaximum⟩ := (List.pairwise_cons.1 hlinked.linked).1 q hq
        (hsame.trans harm.symm)
      exact ⟨hempty, hmaximum.trans hmax⟩

/-- The attempts before it are numbered without gaps. -/
theorem StartedRound.numbered (hlinked : LinkedRounds rounds) (h : StartedRound db rounds d) :
    (rounds.filter fun q =>
      q.armGeneration = d.armGeneration ∧ q.attemptNumber ≤ d.attemptCount).length + 1 =
        d.attemptCount := by
  rcases h.next with ⟨hfirst, harms⟩ | ⟨r, earlier, hrounds, harm, hattempt, -⟩
  · have hempty : rounds.filter (fun q =>
        q.armGeneration = d.armGeneration ∧ q.attemptNumber ≤ d.attemptCount) = [] := by
      rw [List.filter_eq_nil_iff]
      intro q hq
      simp [(harms q hq).ne]
    rw [hempty, hfirst]
    rfl
  · have hr : r ∈ rounds := hrounds ▸ List.mem_cons_self
    have hsame : rounds.filter (fun q =>
        q.armGeneration = d.armGeneration ∧ q.attemptNumber ≤ d.attemptCount) =
        rounds.filter (fun q =>
          q.armGeneration = r.armGeneration ∧ q.attemptNumber ≤ r.attemptNumber) := by
      refine List.filter_congr fun q hq => ?_
      rw [decide_eq_decide, harm]
      refine and_congr_right fun hqarm => ⟨fun _ => ?_, fun hle => by omega⟩
      -- the latest round has the largest number of its arm
      have hlt := h.lt hlinked q hq
      rcases Prod.Lex.toLex_lt_toLex.1 hlt with hlt | ⟨-, hlt⟩
      · have : q.armGeneration < d.armGeneration := hlt
        omega
      · have : q.attemptNumber < d.attemptCount := hlt
        omega
    rw [hsame, hlinked.numbered r hr, hattempt]

/-- **A started round follows the rounds of the log.** -/
theorem StartedRound.cons (hlinked : LinkedRounds rounds) (h : StartedRound db rounds d)
    (partCount : PartCount) : LinkedRounds (startedDeliveryRound d partCount :: rounds) where
  ordered := List.pairwise_cons.2 ⟨h.lt hlinked, hlinked.ordered⟩
  linked := List.pairwise_cons.2 ⟨h.completed hlinked, hlinked.linked⟩
  attempts := by
    intro q hq
    rcases List.mem_cons.1 hq with rfl | hq
    · have hnumbered := h.numbered hlinked
      exact ⟨by show 0 < d.attemptCount; omega, h.attempts⟩
    · exact hlinked.attempts q hq
  numbered := by
    intro q hq
    rcases List.mem_cons.1 hq with rfl | hq
    · rw [List.filter_cons_of_pos (by simp), List.length_cons]
      exact h.numbered hlinked
    · have hlt := h.lt hlinked q hq
      have hnot : ¬ (d.armGeneration = q.armGeneration ∧ d.attemptCount ≤ q.attemptNumber) := by
        rintro ⟨harm, hle⟩
        rcases Prod.Lex.toLex_lt_toLex.1 hlt with hlt | ⟨-, hlt⟩
        · exact hlt.ne harm.symm
        · exact hlt.not_ge hle
      rw [List.filter_cons_of_neg (by rw [decide_eq_true_iff]; exact hnot)]
      exact hlinked.numbered q hq

/-- What the log becomes when the row is looked at after a transaction. -/
theorem openRound_cases (hdb : Consistent db) (hlinked : LinkedRounds rounds)
    (hd : db.deliveries.get? deliveryId = some d) (hfits : RowFits db rounds d) :
    RowSettled rounds d ∧ openRound deliveryId db rounds = rounds ∨
      ∃ m, db.messages.get? d.messageId = some m ∧ StartedRound db rounds d ∧
        openRound deliveryId db rounds = startedDeliveryRound d m.partCount :: rounds := by
  unfold openRound
  rw [hd]
  dsimp only
  rcases hfits with hsettled | hstarted
  · refine Or.inl ⟨hsettled, if_pos ?_⟩
    cases hsettled with
    | idle hattempt => exact Or.inl hattempt
    | inRound r earlier hrounds hname =>
        exact Or.inr ⟨r, hrounds ▸ List.mem_cons_self, hname⟩
  · obtain ⟨m, hm, -⟩ := (hdb.deliveries d (Table.mem_of_get? hd)).message
    refine Or.inr ⟨m, hm, hstarted, ?_⟩
    have hnumbered := hstarted.numbered hlinked
    rw [if_neg, hm]
    rintro (hzero | ⟨r, hr, hname⟩)
    · omega
    · exact (hstarted.lt hlinked r hr).ne hname

/-- **A started round is logged**, and the row is where its log says. -/
theorem RowFits.settle (hdb : Consistent db) (hlinked : LinkedRounds rounds)
    (hd : db.deliveries.get? deliveryId = some d) (hfits : RowFits db rounds d) :
    LinkedRounds (openRound deliveryId db rounds) ∧
      RowSettled (openRound deliveryId db rounds) d := by
  rcases openRound_cases hdb hlinked hd hfits with ⟨hsettled, hopen⟩ | ⟨m, hm, hstarted, hopen⟩
  · rw [hopen]
    exact ⟨hlinked, hsettled⟩
  · rw [hopen]
    refine ⟨hstarted.cons hlinked m.partCount, .inRound _ _ rfl rfl rfl (fun hpending => ?_)
      fun hdone => absurd hdone hstarted.live⟩
    obtain ⟨m', hm', hmask, -⟩ := hstarted.parts hpending
    obtain rfl := Option.some.inj (hm'.symm.trans hm)
    rw [hmask]
    rfl

theorem openRound_of_none (hd : db.deliveries.get? deliveryId = none) :
    openRound deliveryId db rounds = rounds := by
  unfold openRound
  rw [hd]

end Open

/-! ### Outcomes -/

/-- The outcome counts the packet's part as sent, in the round the delivery is in. -/
structure CountsPart (db : Db) (packetId : ℕ) (outcome : NodeSendOutcome) (packet : OutboundPacket)
    (d : MessageDelivery) (partNumber : ℕ) : Prop where
  found : db.packets.get? packetId = some packet
  prepared : packet.state = .prepared
  counts : countsAsSent outcome = true
  mem : d ∈ db.deliveries
  pending : d.state = .pending
  delivery : packet.messageDeliveryId = some d.id
  part : packet.partNumber = some partNumber
  arm : packet.armGeneration = some d.armGeneration
  attempt : packet.attemptNumber = some d.attemptCount

section Outcomes

variable {settings : RelaySettings} {db : Db} {packetId : ℕ} {outcome : NodeSendOutcome}
  {packet : OutboundPacket} {d : MessageDelivery} {now : Time}

theorem findDeliveryOfPacket_eq_some {deliveryId : ℕ}
    (h : findDeliveryOfPacket db packet deliveryId = some d) :
    d ∈ db.deliveries ∧ d.id = deliveryId ∧ d.state = .pending ∧
      packet.armGeneration = some d.armGeneration ∧ packet.attemptNumber = some d.attemptCount := by
  obtain ⟨hmem, hcond⟩ := Table.first?_eq_some h
  simp only [Bool.and_eq_true, decide_eq_true_eq] at hcond
  exact ⟨hmem, hcond.1.1.1, hcond.1.1.2, hcond.1.2, hcond.2⟩

/-- **An outcome that counts** takes the part out of the round. -/
theorem CountsPart.deliveries {partNumber : ℕ}
    (h : CountsPart db packetId outcome packet d partNumber) (settings : RelaySettings)
    (now : Time) :
    ∃ due, (recordSendOutcome settings db packetId outcome now).1.deliveries =
      db.deliveries.put (rescheduledDelivery (partSentDelivery d partNumber now) due) := by
  have hfind : findDeliveryOfPacket db packet d.id = some d := by
    refine Table.first?_eq_of_unique h.mem ?_ fun e he hcond => ?_
    · simp [h.pending, h.arm, h.attempt]
    · simp only [Bool.and_eq_true, decide_eq_true_eq] at hcond
      exact Table.eq_of_key_eq he h.mem hcond.1.1.1
  have hknown : outcome ≠ .rejectedByNode errCodeNotFound := by
    rintro rfl
    exact absurd h.counts (by decide)
  have hbeside : recordOutcomeBesidePacket settings db packet outcome now =
      countPacketAsSent settings db packet (suggestedTimeoutOfOutcome outcome) now := by
    unfold recordOutcomeBesidePacket
    cases packet.contactId <;> simp [hknown, h.counts]
  obtain ⟨due, hdue⟩ := recordDeliveryPartSent_of_mem settings h.mem h.pending partNumber
    (suggestedTimeoutOfOutcome outcome) now
  refine ⟨due, ?_⟩
  unfold recordSendOutcome
  rw [h.found]
  dsimp only
  rw [if_neg (not_not.2 h.prepared)]
  change (recordOutcomeBesidePacket settings db packet outcome now).deliveries = _
  rw [hbeside, countPacketAsSent, h.delivery, h.part]
  dsimp only
  rw [hfind]
  exact congrArg Db.deliveries hdue

theorem deliveries_countPacketAsSent (db : Db)
    (h : ∀ e ∈ db.deliveries, e.state = .pending → packet.messageDeliveryId = some e.id →
      packet.armGeneration = some e.armGeneration → packet.attemptNumber = some e.attemptCount →
      packet.partNumber = none) (suggestedTimeout : Option ℕ) :
    (countPacketAsSent settings db packet suggestedTimeout now).deliveries = db.deliveries := by
  unfold countPacketAsSent
  split
  · next deliveryId partNumber hdelivery hpart =>
      split
      · rfl
      · next e hfind =>
          obtain ⟨he, rfl, hpending, harm, hattempt⟩ := findDeliveryOfPacket_eq_some hfind
          rw [h e he hpending hdelivery harm hattempt] at hpart
          cases hpart
  · split
    · rfl
    · next receipt _ =>
        unfold recordReceiptPacketSent updateLockedReceipt
        dsimp only
        split
        · rfl
        · split <;> rfl
  · rfl

/-- **Any other outcome leaves every delivery as it is**: that of a packet of an earlier round, and
one that leaves its part in the round. -/
theorem deliveries_recordSendOutcome (settings : RelaySettings) (now : Time)
    (h : ∀ packet e partNumber, ¬ CountsPart db packetId outcome packet e partNumber) :
    (recordSendOutcome settings db packetId outcome now).1.deliveries = db.deliveries := by
  unfold recordSendOutcome
  cases hfound : db.packets.get? packetId with
  | none => rfl
  | some packet =>
      dsimp only
      split
      · rfl
      next hprepared =>
      have hbeside : (recordOutcomeBesidePacket settings db packet outcome now).deliveries =
          db.deliveries := by
        unfold recordOutcomeBesidePacket
        dsimp only
        have hcount : ∀ db₁ : Db, db₁.deliveries = db.deliveries →
            (if countsAsSent outcome = true then
              countPacketAsSent settings db₁ packet (suggestedTimeoutOfOutcome outcome) now
              else db₁).deliveries = db.deliveries := by
          intro db₁ hsame
          split
          · next hcounts =>
              refine (deliveries_countPacketAsSent db₁ (fun e he hpending hdelivery harm hattempt =>
                ?_) _).trans hsame
              by_contra hpart
              obtain ⟨partNumber, hpart⟩ := Option.ne_none_iff_exists'.1 hpart
              exact h packet e partNumber ⟨hfound, not_not.1 hprepared, hcounts, hsame ▸ he,
                hpending, hdelivery, hpart, harm, hattempt⟩
          · exact hsame
        cases packet.contactId with
        | none => exact hcount db rfl
        | some contactId =>
            refine hcount _ ?_
            dsimp only
            split <;> rfl
      exact hbeside

end Outcomes

/-! ### Notes -/

section Notes

variable {rounds : List DeliveryRound} {d e : MessageDelivery} {name : RoundName}
  {incident : Incident ℕ}

/-- A note that says what the row shows leaves the row where its log says. -/
theorem RowSettled.note (h : RowSettled rounds d) (hkeeps : KeepsRound d e)
    (hleft : ∀ r ∈ rounds, r.name = d.roundName → e.state = .pending →
      partsOfMask d.roundPendingPartsMask = r.left →
      partsOfMask e.roundPendingPartsMask =
        (if r.name = name then r.note incident else r).left) :
    RowSettled (noteIncident name incident rounds) e := by
  cases h with
  | idle hattempt hround harms hmax hlive =>
      refine .idle (hkeeps.attempt.trans hattempt) (hkeeps.round hround) (fun r hr => ?_) ?_
        fun he => hlive (hkeeps.exhausted he)
      · obtain ⟨q, hq, rfl⟩ := mem_noteIncident.1 hr
        rw [(note_keeps q name incident).1, hkeeps.arm]
        exact harms q hq
      · rw [hkeeps.maximum]
        exact fun he => hmax (hkeeps.pending he)
  | inRound r earlier hrounds hname hmax hrow hdone =>
      subst hrounds
      obtain ⟨-, -, hmaximum, hname', -⟩ := note_keeps r name incident
      refine .inRound _ _ rfl (hname'.trans ?_) ?_ (fun he => ?_) fun he => ?_
      · rw [DeliveryRound.name_eq_iff] at hname ⊢
        rw [hkeeps.arm, hkeeps.attempt]
        exact hname
      · rw [hmaximum, hkeeps.maximum]
        exact hmax
      · exact hleft r List.mem_cons_self hname he (hrow (hkeeps.pending he))
      · obtain ⟨hattempts, hempty⟩ := hdone (hkeeps.exhausted he)
        rw [hkeeps.attempt, hkeeps.maximum]
        exact ⟨hattempts, Finset.subset_empty.1 (hempty ▸ left_note_subset r name incident)⟩

/-- A note about a round the row is not in, or not waiting in, says nothing of the row. -/
theorem RowSettled.note_other (h : RowSettled rounds d)
    (hother : name = d.roundName → d.state ≠ .pending) :
    RowSettled (noteIncident name incident rounds) d := by
  refine h.note (.refl d) fun r hr hname hpending hrow => ?_
  rw [if_neg fun heq => hother (heq.symm.trans hname) hpending]
  exact hrow

/-- **A part that was counted as sent** left the round of the row. -/
theorem RowSettled.sent (h : RowSettled rounds d) {partNumber : ℕ} (hpart : 0 < partNumber)
    (now : Time) (due : Option Time) :
    RowSettled (noteIncident d.roundName (.settled partNumber) rounds)
      (rescheduledDelivery (partSentDelivery d partNumber now) due) := by
  refine h.note ⟨rfl, rfl, rfl, id, fun hround => ?_, id⟩ fun r hr hname hpending hrow => ?_
  · simp [hround]
  · rw [if_pos hname]
    change partsOfMask
      (d.roundPendingPartsMask &&& (partsMaskMaximum ^^^ 2 ^ (partNumber - 1))) = r.left.erase _
    rw [partsOfMask_and_xor_bit _ hpart, hrow]

/-- **The reported parts** left the round of the row. -/
theorem RowSettled.reported {db : Db} {input : Input} (hlinked : LinkedRounds rounds)
    (h : RowSettled rounds d) (hreported : RowReported db input d e) :
    RowSettled (noteReport db input d rounds) e := by
  unfold noteReport
  cases hreported with
  | kept hkept hreport =>
      rw [hreport]
      rcases hkept.round with hsame | harmed
      · exact h.same hsame
      · have hfits : RowFits db rounds d := Or.inl h
        exact hfits.rearmed hlinked harmed
  | reported hid hstate hreport hround =>
      rw [hreport]
      refine h.note hround.toKeepsRound fun r hr hname hpending hrow => ?_
      rw [if_pos hname, hround.parts hpending, partsOfMask_and_xor, hrow]
      rfl
  | confirmed hid hstate hconfirms hround =>
      have hdelivered : e.state ≠ .pending := by simp [hstate]
      split
      · exact (h.same hround).note_other fun _ => hdelivered
      · exact h.same hround

end Notes

end HoptalkRelay
