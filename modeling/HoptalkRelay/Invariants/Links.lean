/-
**No message leaves its users' devices.**

The scheduler never looks at the user of a device.  It need not: whatever is in progress for a
device belongs to the user the device is linked to, because a relink cancels the rest and nothing
is created or revived for another user's device.

Main definitions:

* `HoptalkRelay.IsDeviceOfRecipient`, `HoptalkRelay.IsDeviceOfSender` — the links a row needs;
* `HoptalkRelay.LinksOk` — every row in progress has its link.

Main results:

* `HoptalkRelay.linksOk_of_reachable` — every row in progress has its link in every reachable
  database;
* `HoptalkRelay.no_cross_account_leak` — **and every packet goes to a device with that link**.
-/

import HoptalkRelay.Rows
import HoptalkRelay.Transactions.Steps

set_option relaxedAutoImplicit false
set_option autoImplicit false

namespace HoptalkRelay

open Relational Transition

/-! ### The links -/

/-- The device is linked to the message's recipient. -/
def IsDeviceOfRecipient (db : Db) (deviceId messageId : ℕ) : Prop :=
  ∃ m, db.messages.get? messageId = some m ∧ db.deviceUserId deviceId = some m.recipientId

/-- The device is linked to the message's sender. -/
def IsDeviceOfSender (db : Db) (deviceId messageId : ℕ) : Prop :=
  ∃ m, db.messages.get? messageId = some m ∧ db.deviceUserId deviceId = some m.senderId

/-- Every row in progress belongs to a device of the right user. -/
structure LinksOk (db : Db) : Prop where
  deliveries : ∀ d ∈ db.deliveries, d.state ∈ nonTerminalDeliveryStates →
    IsDeviceOfRecipient db d.deviceId d.messageId
  receipts : ∀ r ∈ db.receipts, ¬ IsSettledReceipt r → IsDeviceOfSender db r.deviceId r.messageId

theorem LinksOk.empty : LinksOk Db.empty where
  deliveries _ h := absurd h (Table.not_mem_empty _)
  receipts _ h := absurd h (Table.not_mem_empty _)

section Write

variable {input : Input} {a b : Phase × Db}

/-- A message that is still there has the parties it had. -/
theorem Write.parties (h : Write input a b) {messageId : ℕ} {m n : Message}
    (hm : a.2.messages.get? messageId = some m) (hn : b.2.messages.get? messageId = some n) :
    n.senderId = m.senderId ∧ n.recipientId = m.recipientId := by
  rcases h.messages.outcome hm with hsame | ⟨n', hn', hchange⟩ | ⟨hnone, -⟩
  · obtain rfl := Option.some.inj (hn.symm.trans hsame)
    exact ⟨rfl, rfl⟩
  · obtain rfl := Option.some.inj (hn.symm.trans hn')
    exact ⟨hchange.keeps.2.1, hchange.keeps.2.2.1⟩
  · cases hn.symm.trans hnone

/-- The link of a delivery lasts until nothing is in progress for the device. -/
theorem Write.deviceOfRecipient (h : Write input a b) {deviceId messageId : ℕ} {n : Message}
    (hn : b.2.messages.get? messageId = some n)
    (hlink : IsDeviceOfRecipient a.2 deviceId messageId) :
    IsDeviceOfRecipient b.2 deviceId messageId ∨ IsCleared b.2 deviceId := by
  obtain ⟨m, hm, huser⟩ := hlink
  refine (h.link huser).imp_left fun hkept => ⟨n, hn, ?_⟩
  rw [hkept, (h.parties hm hn).2]

/-- The link of a receipt lasts until nothing is in progress for the device. -/
theorem Write.deviceOfSender (h : Write input a b) {deviceId messageId : ℕ} {n : Message}
    (hn : b.2.messages.get? messageId = some n)
    (hlink : IsDeviceOfSender a.2 deviceId messageId) :
    IsDeviceOfSender b.2 deviceId messageId ∨ IsCleared b.2 deviceId := by
  obtain ⟨m, hm, huser⟩ := hlink
  refine (h.link huser).imp_left fun hkept => ⟨n, hn, ?_⟩
  rw [hkept, (h.parties hm hn).1]

/-- A change of a delivery that leaves it in progress was made to one in progress, or with its
device linked. -/
theorem DeliveryChange.linked {d e : MessageDelivery} (h : DeliveryChange input a d e)
    (hlive : e.state ∈ nonTerminalDeliveryStates) :
    d.state ∈ nonTerminalDeliveryStates ∨ IsDeviceOfRecipient a.2 d.deviceId d.messageId := by
  obtain ⟨phase, db⟩ := a
  cases h with
  | round change => exact Or.inl (change.keeps.2.2.2.1 ▸ hlive)
  | moved change =>
      cases change with
      | exhausted now hevent hstate => exact Or.inl (by simp [hstate, nonTerminalDeliveryStates])
      | stopped sid now hevent hqueued => exact Or.inl (by simp [hqueued.2, nonTerminalDeliveryStates])
      | takenOver message sid htake => exact Or.inr ⟨message, htake.found, htake.linked⟩
      | armed sid now hqueued => exact Or.inl (by simp [hqueued.2, nonTerminalDeliveryStates])
  | delivered | cancelled => simp [nonTerminalDeliveryStates] at hlive
  | readAgain => exact Or.inl hlive

/-- A new delivery belongs to a device of the recipient. -/
theorem DeliveryCreated.linked {d : MessageDelivery} (h : DeliveryCreated input a d) :
    IsDeviceOfRecipient a.2 d.deviceId d.messageId := by
  cases h with
  | pending hm haccepted hlinked => exact ⟨_, Table.get?_key hm, hlinked⟩
  | owned hm haccepted hlinked => exact ⟨_, Table.get?_key hm, hlinked⟩

/-- A change of a receipt that leaves it in progress was made to one in progress, or with its
device linked. -/
theorem ReceiptRowChange.linked {db : Db} {r q : ReceiptNotification}
    (h : ReceiptRowChange input db r q) (hlive : ¬ IsSettledReceipt q) :
    ¬ IsSettledReceipt r ∨ IsDeviceOfSender db r.deviceId r.messageId := by
  have hpending : ∀ state, r.state = state → state ≠ .cancelled → state ≠ .confirmed →
      ¬ IsSettledReceipt r := by
    rintro state hstate hcancelled hconfirmed (h | ⟨h, -⟩)
    · exact hcancelled (hstate.symm.trans h)
    · exact hconfirmed (hstate.symm.trans h)
  cases h with
  | cancelled => exact absurd (Or.inl rfl) hlive
  | changed change =>
      cases change with
      | started now hstate | sent now due hstate | exhausted now hstate =>
          exact Or.inl (hpending _ hstate (by simp) (by simp))
      | acknowledged => exact Or.inl hlive
      | confirmed level now hstate =>
          rcases hstate with hstate | hstate <;>
            exact Or.inl (hpending _ hstate (by simp) (by simp))
      | raised message now hlink | rearmed message now hlink | revivedConfirmed message now hlink
      | revivedPending message now hlink => exact Or.inr ⟨message, hlink.found, hlink.linked⟩

/-- A new receipt belongs to a device of the sender. -/
theorem ReceiptCreated.linked {db : Db} {r : ReceiptNotification} (h : ReceiptCreated input db r) :
    IsDeviceOfSender db r.deviceId r.messageId := by
  cases h with
  | first hm haccepted hlevel hlinked => exact ⟨_, Table.get?_key hm, hlinked⟩

/-- No write leaves a row in progress without its link. -/
theorem LinksOk.write (hdb : Consistent a.2) (hlinks : LinksOk a.2) (h : Write input a b) :
    LinksOk b.2 := by
  have hb : Consistent b.2 := h.consistent hdb
  constructor
  · intro e he hlive
    obtain ⟨n, hn, -⟩ := (hb.deliveries e he).message
    have hbefore : IsDeviceOfRecipient a.2 e.deviceId e.messageId := by
      rcases h.deliveries.origin he with he' | ⟨d, hd, -, hchange⟩ | ⟨-, hcreated⟩
      · exact hlinks.deliveries e he' hlive
      · obtain ⟨-, hmessage, hdevice⟩ := hchange.keeps
        rw [hmessage, hdevice]
        exact (hchange.linked hlive).elim (hlinks.deliveries d hd) id
      · exact hcreated.linked
    rcases h.deviceOfRecipient hn hbefore with hafter | hcleared
    · exact hafter
    · exact absurd hlive (hcleared.deliveries e he rfl)
  · intro q hq hlive
    obtain ⟨n, hn, -⟩ := (hb.receipts q hq).message
    have hbefore : IsDeviceOfSender a.2 q.deviceId q.messageId := by
      rcases h.receipts.origin hq with hq' | ⟨r, hr, -, hchange⟩ | ⟨-, hcreated⟩
      · exact hlinks.receipts q hq' hlive
      · obtain ⟨-, hmessage, hdevice⟩ := hchange.keeps
        rw [hmessage, hdevice]
        exact (hchange.linked hlive).elim (hlinks.receipts r hr) id
      · exact hcreated.linked
    rcases h.deviceOfSender hn hbefore with hafter | hcleared
    · exact hafter
    · exact absurd (hcleared.receipts q hq rfl) hlive

end Write

/-! ### Reachable databases -/

variable {hashing : PasswordHashing} {db : Db}

/-- Every row in progress has its link. -/
theorem linksOk_of_reachable (h : (engine hashing).Reachable db) : LinksOk db :=
  (reachable_invariant h .empty fun _ _ _ hdb hlinks hwrite => hlinks.write hdb hwrite).2

/-- **No cross-account leak**: whatever is in progress for a device belongs to its user, and so the
scheduler sends each delivery to a device of the recipient and each receipt to a device of the
sender. -/
theorem no_cross_account_leak (h : (engine hashing).Reachable db) :
    (∀ d ∈ db.deliveries,
      d.state = .pending ∨ d.state = .queuedForRefresh ∨ d.state = .failed →
        IsDeviceOfRecipient db d.deviceId d.messageId) ∧
    (∀ r ∈ db.receipts,
      r.state ≠ .cancelled → ¬ (r.state = .confirmed ∧ r.confirmedLevel = readLevel) →
        IsDeviceOfSender db r.deviceId r.messageId) ∧
    ∀ (input : Input) (connectionGeneration : ℕ) (now : Time),
      input.event = .prepareNextPacket connectionGeneration now →
      ∀ packet ∈ (step hashing db input).1.packets, db.packets.get? packet.id = none →
        (packet.purpose = .delivery ∧
          ∃ d ∈ (step hashing db input).1.deliveries, packet.messageDeliveryId = some d.id ∧
            packet.contactId = some d.deviceId ∧
            IsDeviceOfRecipient (step hashing db input).1 d.deviceId d.messageId) ∨
        (packet.purpose = .receipt ∧
          ∃ r ∈ (step hashing db input).1.receipts, packet.receiptNotificationId = some r.id ∧
            packet.contactId = some r.deviceId ∧
            IsDeviceOfSender (step hashing db input).1 r.deviceId r.messageId) := by
  have hlinks := linksOk_of_reachable h
  refine ⟨fun d hd hlive => hlinks.deliveries d hd ?_, fun r hr hcancelled hconfirmed => ?_, ?_⟩
  · simpa [nonTerminalDeliveryStates] using hlive
  · exact hlinks.receipts r hr (by simp [IsSettledReceipt, hcancelled, hconfirmed])
  intro input connectionGeneration now hevent packet hpacket hnew
  have hlinks' := linksOk_of_reachable (reachable_step h input)
  rcases step_prepareNextPacket hevent with ⟨hsame, -⟩ | ⟨_, hnext, -⟩
  · rw [hsame] at hpacket
    have hfound := Table.get?_key hpacket
    rw [key_packet, hnew] at hfound
    cases hfound
  generalize (step hashing db input).1 = db' at *
  obtain ⟨db₁, device, -, hinserts, hwork, -⟩ := hnext.prepared hpacket hnew
  have hframe := hinserts.frame
  have hdeliveries : db'.deliveries = db₁.deliveries := by rw [hframe]
  have hreceipts : db'.receipts = db₁.receipts := by rw [hframe]
  cases hwork with
  | delivery d m sender partNumber partText hd hstate hm hsender hpart hpartText htext hpurpose
      hcontact hdelivery =>
      have hd' : d ∈ db'.deliveries := hdeliveries ▸ hd
      have hlive : d.state ∈ nonTerminalDeliveryStates := by simp [hstate, nonTerminalDeliveryStates]
      exact Or.inl ⟨hpurpose, d, hd', hdelivery, hcontact, hlinks'.deliveries d hd' hlive⟩
  | receipt r m recipient receiptLevel hr hstate hm hrecipient hlevel htext hpurpose hcontact
      hreceipt =>
      have hr' : r ∈ db'.receipts := hreceipts ▸ hr
      have hlive : ¬ IsSettledReceipt r := by simp [IsSettledReceipt, hstate]
      exact Or.inr ⟨hpurpose, r, hr', hreceipt, hcontact, hlinks'.receipts r hr' hlive⟩

/-- Bob's device is sent what alice wrote to bob. -/
theorem no_cross_account_leak_sampleMessage :
    (sampleDb sampleMessage).deliveries.rows.map MessageDelivery.state = [.pending] ∧
    (∀ d ∈ (sampleDb sampleMessage).deliveries,
      d.state = .pending ∨ d.state = .queuedForRefresh ∨ d.state = .failed →
        IsDeviceOfRecipient (sampleDb sampleMessage) d.deviceId d.messageId) :=
  ⟨by decide +kernel, (no_cross_account_leak (reachable_sampleDb sampleMessage)).1⟩

end HoptalkRelay
