/-
**Every step as writes.**

A step of the machine commits what its transaction wrote, or nothing.  So the steps are sequences
of writes, and what every write keeps holds in every reachable database.

Main results:

* `HoptalkRelay.step_writes` — **every step is a sequence of writes**;
* `HoptalkRelay.step_invariant`, `HoptalkRelay.run_invariant`,
  `HoptalkRelay.reachable_invariant` — what every write keeps holds after every step and at the
  end of every run;
* `HoptalkRelay.consistent_of_reachable` — every reachable database satisfies its constraints.
-/

import HoptalkRelay.Rows
import HoptalkRelay.Transactions.Accounts
import HoptalkRelay.Transactions.Confirmations
import HoptalkRelay.Transactions.Uploads
import HoptalkRelay.Transactions.Refreshes
import HoptalkRelay.Transactions.Scheduling

set_option relaxedAutoImplicit false
set_option autoImplicit false

namespace HoptalkRelay

open Relational Transition

variable {hashing : PasswordHashing} {input : Input} {db : Db}

/-! ### The small transactions -/

/-- Adding a contact. -/
theorem quiets_createContact {relayNodePublicKeys : List Text} {publicKey : Text}
    {nodeType : ℕ} {now : Time} {db' : Db} {contactId : ℕ}
    (h : createContact db relayNodePublicKeys publicKey nodeType now = .ok (db', contactId)) :
    Quiets input db db' := by
  unfold createContact at h
  split at h
  · obtain ⟨rfl, rfl⟩ := Prod.mk.injEq .. ▸ Except.ok.inj h
    exact (Quiet.newContact fun _ => rfl).quiets
  · simp at h

/-- `C`. -/
theorem quiets_recordReceiptAcknowledgement (deviceId : ℕ)
    (acknowledgement : ReceiptAcknowledgement) (now : Time) :
    Quiets input db (recordReceiptAcknowledgement db deviceId acknowledgement now).1 := by
  unfold recordReceiptAcknowledgement
  split
  · exact .refl
  split
  · exact .refl
  split
  · exact .refl
  next receipt hreceipt =>
  have hquiets : Quiets input db (recordReceiptConfirmation db receipt
      (receiptLevelNumber acknowledgement.receiptLevel) now).1 :=
    quiets_recordReceiptConfirmation (Table.first?_eq_some hreceipt).1 _ now
  split <;> next heq => rw [heq] at hquiets; exact hquiets

theorem quiets_recordAcknowledgementDeadlinePassed (packetId : ℕ) (now : Time) :
    Quiets input db (recordAcknowledgementDeadlinePassed db packetId now).1 := by
  unfold recordAcknowledgementDeadlinePassed
  split
  · exact .refl
  next packet hfound =>
  obtain ⟨hpacket, hcond⟩ := Table.first?_eq_some hfound
  refine quiets_packets rfl rfl (samePackets_updateWhere ?_ fun p hp hmatch => ?_)
  · exact fun _ _ => rfl
  · simp only [Bool.and_eq_true, decide_eq_true_eq] at hcond hmatch
    obtain rfl := Table.eq_of_key_eq hp hpacket (hmatch.1.trans hcond.1.symm)
    refine .of_state (by simp) rfl (packetLife_timedOut hmatch.2 rfl fun hpending => ?_)
    exact route_of_decideRouteResetAtDeadline hpending

theorem quiets_markPacketsAwaitingAcknowledgementDropped (now : Time) :
    Quiets input db (markPacketsAwaitingAcknowledgementDropped db now) := by
  refine quiets_packets rfl rfl (samePackets_updateWhere ?_ fun p _ hmatch => ?_)
  · exact fun _ _ => rfl
  · exact .of_state (by simp) rfl
      (packetLife_timedOut (by simpa using hmatch) rfl fun hpending => by simp at hpending)

theorem quiets_recoverOutboundPacketsAtStartup (now : Time) :
    Quiets input db (recoverOutboundPacketsAtStartup db now) := by
  have hunknown : Quiets input db (markPreparedPacketsOutcomeUnknown db) := by
    refine quiets_packets rfl rfl (samePackets_updateWhere ?_ fun p _ hmatch => ?_)
    · exact fun _ _ => rfl
    · exact .of_state (by simp) rfl (packetLife_unknown (by simpa using hmatch) rfl rfl rfl)
  refine (hunknown.trans (quiets_markPacketsAwaitingAcknowledgementDropped now)).trans ?_
  refine quiets_packets rfl rfl (samePackets_updateWhere ?_ fun p _ hmatch => ?_)
  · exact fun _ _ => rfl
  · exact ⟨rfl, rfl, rfl, rfl, rfl, rfl, rfl, rfl, rfl, rfl, fun h => h,
      packetLife_decided (by simpa using hmatch) rfl (by simp)⟩

/-! ### The steps -/

/-- A rolled back transaction wrote nothing. -/
theorem writes_commit {α : Type} {toOutcome : α → Outcome} {result : Except ServiceError (Db × α)}
    (h : ∀ db' value, result = .ok (db', value) → Writes input (.settled, db) (.settled, db')) :
    Writes input (.settled, db) (.settled, (commit db toOutcome result).1) := by
  cases result with
  | error serviceError => exact .refl
  | ok committed => exact h _ _ rfl

/-- **Every step is a sequence of writes.** -/
theorem step_writes (hashing : PasswordHashing) (input : Input) (hdb : Consistent db) :
    ∃ phase : Phase, phase.IsFinal ∧
      Writes input (.settled, db) (phase, (step hashing db input).1) := by
  -- an upload may end with a fan-out; every other transaction ends where it began
  by_cases hupload : ∃ deviceId part now, input.event = .messagePart deviceId part now
  · obtain ⟨deviceId, part, now, hevent⟩ := hupload
    simp only [step, hevent]
    cases haccept : acceptMessagePart input.settings db deviceId part now with
    | error serviceError => exact ⟨.settled, Or.inl rfl, .refl⟩
    | ok committed => exact writes_acceptMessagePart hdb hevent haccept
  refine ⟨.settled, Or.inl rfl, ?_⟩
  unfold step
  cases hevent : input.event with
  | createContact relayNodePublicKeys publicKey nodeType now =>
      dsimp only
      split
      · next hcreate => exact (quiets_createContact hcreate).writes .settled
      · exact .refl
  | markContactOnNode contactId publicKey now =>
      refine Quiets.writes (quiets_updateContacts _ _ _ fun c => ?_) .settled
      rfl
  | markContactAddFailed contactId publicKey syncError now =>
      refine Quiets.writes (quiets_updateContacts _ _ _ fun c => ?_) .settled
      rfl
  | returnContactToPendingAdd publicKey syncError =>
      refine Quiets.writes (quiets_updateContacts _ _ _ fun c => ?_) .settled
      rfl
  | recordPathUpdate publicKey now =>
      refine Quiets.writes (quiets_updateContacts _ _ _ fun c => ?_) .settled
      rfl
  | account deviceId request salt now =>
      exact writes_commit fun _ _ h => (registerOrSignIn_ok h).writes hevent
  | query deviceId request => exact .refl
  | messagePart deviceId part now => exact absurd ⟨_, _, _, hevent⟩ hupload
  | deliveryAcknowledgement deviceId acknowledgement now =>
      exact writes_commit fun _ _ h => (writes_recordDeliveryAcknowledgement hevent h).1
  | read deviceId request now => exact (writes_recordRead hevent).1
  | receiptAcknowledgement deviceId acknowledgement now =>
      exact (quiets_recordReceiptAcknowledgement _ _ _).writes .settled
  | refresh deviceId request inboundId now =>
      exact writes_commit fun _ _ h => writes_startRefresh hevent h
  | prepareNextPacket connectionGeneration now =>
      refine writes_commit fun _ _ h => (prepareNextPacket_ok ⟨_, hevent⟩ h).writes ?_
      rw [hevent, Event.preparesAt?]
  | prepareReplyPacket contactId replyKey text connectionGeneration now =>
      refine writes_commit fun db' _ h => ?_
      rcases prepareReplyPacket_ok h with ⟨rfl, -⟩ | ⟨packet, contact, hinserts, hreply, -⟩
      · exact .refl
      · have hprepares : input.event.preparesAt? = some now := by rw [hevent, Event.preparesAt?]
        exact (Quiet.packetPrepared hprepares hinserts (Or.inr hreply)).quiets.writes .settled
  | recordSendOutcome packetId outcome now =>
      have hrecords : input.event.recordsOutcome := by rw [hevent]; trivial
      exact (quiets_recordSendOutcome hrecords _ _ _).writes .settled
  | recordNodeAcknowledgement acknowledgementCode roundTripMilliseconds now =>
      refine Quiets.writes (quiets_packets ?_ ?_
        (samePackets_updateWhere ?_ fun p _ hmatch => ?_)) .settled
      · rfl
      · rfl
      · exact fun _ _ => rfl
      · simp only [Bool.and_eq_true, List.contains_iff_mem] at hmatch
        exact .of_state (by simp) rfl (packetLife_acknowledged hmatch.1.2 rfl rfl)
  | recordAcknowledgementDeadlinePassed packetId now =>
      exact (quiets_recordAcknowledgementDeadlinePassed _ _).writes .settled
  | markPacketsAwaitingAcknowledgementDropped now =>
      exact (quiets_markPacketsAwaitingAcknowledgementDropped now).writes .settled
  | recoverAtStartup now =>
      exact (quiets_recoverOutboundPacketsAtStartup now).writes .settled
  | pruneOutboundPackets now =>
      refine Quiets.writes (quiets_packets ?_ ?_ (samePackets_deleteWhere _)) .settled <;> rfl
  | deleteExpiredIncompleteMessages now | deleteContact contactId | deleteUser userId =>
      exact (Write.deleted (congrArg Event.deletionRoots? hevent)).writes

/-- A step of the scheduler fails and changes nothing, or is a call of the scheduler. -/
theorem step_prepareNextPacket {connectionGeneration : ℕ} {now : Time}
    (hevent : input.event = .prepareNextPacket connectionGeneration now) :
    (step hashing db input).1 = db ∧ (∃ e, (step hashing db input).2 = .failed e) ∨
      ∃ packetDescriptor, NextPacket input db now (step hashing db input).1 packetDescriptor ∧
        (step hashing db input).2 = .prepared packetDescriptor := by
  simp only [step, hevent]
  cases hprepare : prepareNextPacket input.settings db now connectionGeneration with
  | error serviceError => exact Or.inl ⟨rfl, serviceError, rfl⟩
  | ok committed => exact Or.inr ⟨_, prepareNextPacket_ok ⟨_, hevent⟩ hprepare, rfl⟩

/-- A step that confirms leaves the messages alone or confirms one of them. -/
theorem step_confirms (hashing : PasswordHashing) (hevent : input.event.confirms = true) :
    (step hashing db input).1.messages = db.messages ∨
      ∃ m ∈ db.messages, ∃ now isRead,
        ConfirmsMessage db (step hashing db input).1 m now isRead := by
  cases hcase : input.event with
  | deliveryAcknowledgement deviceId acknowledgement now =>
      simp only [step, hcase]
      cases hrecord : recordDeliveryAcknowledgement input.settings db deviceId acknowledgement now with
      | error serviceError => exact Or.inl rfl
      | ok committed =>
          obtain ⟨-, hmessages⟩ := writes_recordDeliveryAcknowledgement hcase hrecord
          exact hmessages.imp_right fun ⟨m, hm, hconfirms⟩ => ⟨m, hm, now, false, hconfirms⟩
  | read deviceId request now =>
      simp only [step, hcase]
      obtain ⟨-, hmessages⟩ := writes_recordRead hcase
      exact hmessages.imp_right fun ⟨m, hm, hconfirms⟩ => ⟨m, hm, now, true, hconfirms⟩
  | _ =>
      rw [hcase] at hevent
      cases hevent

/-! ### Runs -/

/-- The rule for one step, for what depends on the phase: what every write of it keeps holds in the
phase the step ends in. -/
theorem step_phase_invariant {P : Phase × Db → Prop} (hashing : PasswordHashing) (input : Input)
    (hdb : Consistent db) (hP : P (.settled, db))
    (hwrite : ∀ a b, Consistent a.2 → P a → Write input a b → P b) :
    ∃ phase : Phase, phase.IsFinal ∧ Consistent (step hashing db input).1 ∧
      P (phase, (step hashing db input).1) := by
  obtain ⟨phase, hfinal, hwrites⟩ := step_writes hashing input hdb
  exact ⟨phase, hfinal, hwrites.invariant hdb hP hwrite⟩

/-- The rule for one step: what every write of it keeps holds after it. -/
theorem step_invariant {P : Db → Prop} (hashing : PasswordHashing) (input : Input)
    (hdb : Consistent db) (hP : P db)
    (hwrite : ∀ a b, Consistent a.2 → P a.2 → Write input a b → P b.2) :
    Consistent (step hashing db input).1 ∧ P (step hashing db input).1 := by
  obtain ⟨phase, -, hdb', hP'⟩ :=
    step_phase_invariant hashing input hdb (P := fun b => P b.2) hP hwrite
  exact ⟨hdb', hP'⟩

/-- A transaction that prepares no packet adds none. -/
theorem step_packets_kept (hdb : Consistent db) (hevent : input.event.preparesAt? = none) :
    ∀ p ∈ (step hashing db input).1.packets, (db.packets.get? p.id).isSome := by
  refine (step_invariant hashing input hdb (P := fun db' =>
    ∀ p ∈ db'.packets, (db.packets.get? p.id).isSome) ?_ ?_).2
  · intro p hp
    exact Option.isSome_of_eq_some (Table.get?_key hp)
  · intro a b _ hstored hwrite p hp
    rcases hwrite.packets.origin hp with hp' | ⟨q, hq, hkey, -⟩ | ⟨-, hcreated⟩
    · exact hstored p hp'
    · rw [key_packet, key_packet] at hkey
      exact hkey ▸ hstored q hq
    · obtain ⟨-, now, hprepares, -⟩ := hcreated.inserted
      rw [hevent] at hprepares
      cases hprepares

/-- **A packet that was not there before** was prepared in this step, and the step returned it. -/
theorem step_newPacket (hdb : Consistent db) {packet : OutboundPacket}
    (hpacket : packet ∈ (step hashing db input).1.packets)
    (hnew : db.packets.get? packet.id = none) :
    ∃ db₁ now device, input.event.preparesAt? = some now ∧
      Writes input (.settled, db) (.settled, db₁) ∧
      InsertsPacket db₁ (step hashing db input).1 packet now ∧
      (PacketWork db₁ packet ∨ IsReplyPacket packet ∧ db₁ = db) ∧
      (step hashing db input).2 = .prepared (some (buildPacketDescriptor packet device)) ∧
      db₁.packets = db.packets := by
  have hstored : packet ∉ db.packets := by
    intro hmem
    have hfound := Table.get?_key hmem
    rw [key_packet, hnew] at hfound
    cases hfound
  have hprepares : input.event.preparesAt? ≠ none := by
    intro hnone
    have hfound := step_packets_kept hdb hnone packet hpacket
    rw [hnew] at hfound
    cases hfound
  cases hevent : input.event with
  | prepareNextPacket connectionGeneration now =>
      rcases step_prepareNextPacket hevent with
        ⟨hsame, -⟩ | ⟨packetDescriptor, hnext, houtcome⟩
      · rw [hsame] at hpacket
        exact absurd hpacket hstored
      · obtain ⟨db₁, device, hwrites, hinserts, hwork, rfl, hpackets⟩ :=
          hnext.prepared hpacket hnew
        exact ⟨db₁, now, device, rfl, hwrites, hinserts, Or.inl hwork, houtcome, hpackets⟩
  | prepareReplyPacket contactId replyKey text connectionGeneration now =>
      simp only [step, hevent] at hpacket ⊢
      cases hreply : prepareReplyPacket db contactId replyKey text now connectionGeneration with
      | error serviceError =>
          rw [hreply] at hpacket
          exact absurd hpacket hstored
      | ok committed =>
          rw [hreply] at hpacket
          rcases prepareReplyPacket_ok hreply with
            ⟨hsame, -⟩ | ⟨inserted, contact, hinserts, hreply, -, -, hdescriptor⟩
          · exact absurd (hsame ▸ hpacket) hstored
          · rcases hinserts.mem_iff.1 hpacket with hold | rfl
            · exact absurd hold hstored
            · exact ⟨db, now, contact, rfl, .refl, hinserts, Or.inr ⟨hreply, rfl⟩,
                congrArg Outcome.prepared hdescriptor, rfl⟩
  | _ => simp [Event.preparesAt?, hevent] at hprepares

/-- **The rule for runs**: what every write of the run keeps holds at its end. -/
theorem run_invariant {P : Db → Prop} {history : List (Input × Outcome)} {db' : Db}
    (run : (engine hashing).Run db history db') (hdb : Consistent db) (hP : P db)
    (hwrite : ∀ entry ∈ history, ∀ a b, Consistent a.2 → P a.2 → Write entry.1 a b → P b.2) :
    Consistent db' ∧ P db' := by
  refine run.invariant (P := fun _ db => Consistent db ∧ P db) ⟨hdb, hP⟩ ?_
  intro before db input _ hbefore hdb
  have hmem : (input, (step hashing db input).2) ∈ history := hbefore.subset (by simp [engine])
  exact step_invariant hashing input hdb.1 hdb.2 (hwrite _ hmem)

/-- The rule for reachable databases. -/
theorem reachable_invariant {P : Db → Prop} (h : (engine hashing).Reachable db)
    (hempty : P Db.empty)
    (hwrite : ∀ input a b, Consistent a.2 → P a.2 → Write input a b → P b.2) :
    Consistent db ∧ P db := by
  obtain ⟨history, run⟩ := h
  exact run_invariant run .empty hempty fun entry _ => hwrite entry.1

/-- A step leads from a reachable database to a reachable one. -/
theorem reachable_step (h : (engine hashing).Reachable db) (input : Input) :
    (engine hashing).Reachable (step hashing db input).1 := by
  obtain ⟨history, run⟩ := h
  exact ⟨_, run.snoc input⟩

/-- **Every reachable database satisfies its constraints.** -/
theorem consistent_of_reachable (h : (engine hashing).Reachable db) : Consistent db :=
  (reachable_invariant h (P := fun _ => True) trivial fun _ _ _ _ _ _ => trivial).1

/-! ### A small relay -/

/-- Passwords as they are. -/
def sampleHashing : PasswordHashing where
  normalizePassword password := password
  makePassword _ password := password
  checkPassword password passwordHash := password = passwordHash

/-- Attempts after 30 seconds, one and two minutes and so on, three deliveries at a time, packets
kept for a month. -/
def sampleSettings : RelaySettings where
  retryStrategy :=
    { maximumAttempts := 5
      initialPauseSeconds := 30
      backoffMultiplier := 2
      maximumPauseSeconds := 3600
      deliveredReceiptDelaySeconds := 5 }
  maximumActiveDeliveriesPerDevice := 3
  logRetentionDays := 30
  one_le_maximumAttempts := by decide
  one_le_maximumActiveDeliveries := by decide
  one_le_logRetentionDays := by decide

/-- Events under these settings. -/
def sampleInputs (events : List Event) : List Input :=
  events.map fun event => ⟨sampleSettings, event⟩

/-- The database after these events. -/
def sampleDb (events : List Event) : Db :=
  ((engine sampleHashing).exec Db.empty (sampleInputs events)).2

/-- What was asked and answered. -/
def sampleHistory (events : List Event) : List (Input × Outcome) :=
  ((engine sampleHashing).exec Db.empty (sampleInputs events)).1

theorem run_sampleDb (events : List Event) :
    (engine sampleHashing).Run Db.empty (sampleHistory events) (sampleDb events) :=
  (engine sampleHashing).run_exec Db.empty (sampleInputs events)

theorem input_of_mem_sampleHistory {events : List Event} {entry : Input × Outcome}
    (h : entry ∈ sampleHistory events) : ∃ event ∈ events, entry.1 = ⟨sampleSettings, event⟩ := by
  have hmem : entry.1 ∈ sampleInputs events := by
    rw [← (engine sampleHashing).map_fst_exec Db.empty (sampleInputs events)]
    exact List.mem_map_of_mem h
  obtain ⟨event, hevent, heq⟩ := List.mem_map.1 hmem
  exact ⟨event, hevent, heq.symm⟩

theorem reachable_sampleDb (events : List Event) :
    (engine sampleHashing).Reachable (sampleDb events) :=
  ⟨_, run_sampleDb events⟩

/-- The clock reading after so many seconds. -/
def sampleTime (seconds : ℕ) : Time := 1000000 * seconds

def alice : Text := ['a', 'l', 'i', 'c', 'e']

def bob : Text := ['b', 'o', 'b']

def samplePassword : Text := ['p', 'a', 's', 's', 'w', 'o', 'r', 'd']

/-- Two devices sign in as new users: device 1 as alice, device 2 as bob. -/
def sampleSignIns : List Event :=
  [.createContact [] ['a'] chatNodeType (sampleTime 1),
    .createContact [] ['b'] chatNodeType (sampleTime 2),
    .markContactOnNode 1 ['a'] (sampleTime 3),
    .markContactOnNode 2 ['b'] (sampleTime 4),
    .account 1 ⟨alice, samplePassword⟩ [] (sampleTime 5),
    .account 2 ⟨bob, samplePassword⟩ [] (sampleTime 6)]

/-- A message of one part to this user. -/
def samplePart (recipient : Text) (messageId : ℕ) : MessagePartRequest where
  recipientUsername := recipient
  messageId := messageId
  partNumber := 1
  partCount := 1
  partText := ['h', 'i']

/-- Alice sends bob a message. -/
def sampleMessage : List Event :=
  sampleSignIns ++ [.messagePart 1 (samplePart bob 7) (sampleTime 7)]

/-- The message's part is prepared for bob's device. -/
def sampleSend : List Event := sampleMessage ++ [.prepareNextPacket 1 (sampleTime 8)]

/-- Alice writes again, and bob's device asks for everything she wrote. -/
def sampleRefresh : List Event :=
  sampleMessage ++
    [.messagePart 1 (samplePart bob 8) (sampleTime 8), .refresh 2 ⟨alice⟩ none (sampleTime 9)]

/-- Bob's device confirms the message, and bob reads it. -/
def sampleRead : List Event :=
  sampleSend ++
    [.deliveryAcknowledgement 2 ⟨alice, 7, ['1']⟩ (sampleTime 9),
      .read 2 ⟨alice, 7⟩ (sampleTime 10)]

end HoptalkRelay
