/-
**Contact reconciliation converges.**

What a pass does to the node's keys is what `Capacity.converge` does to a set of limited size: it is
offered the missing contacts, loses the extra ones and is offered the refused ones again.  Beside
that run the marks of the contacts, the counts of the summary and the log of what the node was
asked.

Main definitions:

* `HoptalkRelay.NodeContactTable.keys` — the node as a set;
* `HoptalkRelay.AddContactResult` — what one addition can come to;
* `HoptalkRelay.Progress`, `HoptalkRelay.Added` — what steps of a pass leave behind.

Main results:

* `HoptalkRelay.addMissingContacts_ok`, `HoptalkRelay.removeContacts_ok`,
  `HoptalkRelay.retryContacts_ok` — the steps of a pass, on the node's keys;
* `HoptalkRelay.contact_reconciliation_converges` — **a pass makes the node's contacts those of the
  database**.
-/

import HoptalkRelay.Capacity.Offers
import HoptalkRelay.ContactReconciler

set_option relaxedAutoImplicit false
set_option autoImplicit false

namespace HoptalkRelay

open Relational Capacity

/-! ### The node as a set -/

namespace NodeContactTable

variable {node : NodeContactTable} {publicKey : Text}

/-- The public keys of the node's contacts. -/
def keys (node : NodeContactTable) : Finset Text := node.contacts.keys.toFinset

theorem mem_keys : publicKey ∈ node.keys ↔ publicKey ∈ node.contacts := by
  rw [keys, List.mem_toFinset, AList.mem_keys]

theorem card_keys (node : NodeContactTable) : node.keys.card = node.count :=
  List.toFinset_card_of_nodup node.contacts.keys_nodup

theorem keys_insert {contact : ListedNodeContact} :
    keys { node with contacts := node.contacts.insert publicKey contact } =
      insert publicKey node.keys := by
  ext other
  rw [mem_keys, Finset.mem_insert, mem_keys, AList.mem_insert]

theorem keys_removeContact : (node.removeContact publicKey).keys = node.keys.erase publicKey := by
  ext other
  rw [mem_keys, Finset.mem_erase, mem_keys, removeContact, AList.mem_erase]

end NodeContactTable

/-! ### The contacts -/

section Contacts

variable {t u v : ContactsTable} {contact : ContactForNode} {publicKey : Text}

/-- The ids and public keys of the contacts. -/
def contactIdentities (table : ContactsTable) : List (ℕ × Text) :=
  table.db.contacts.rows.map fun row => (row.id, row.publicKey)

/-- The contact is one of the table. -/
def IsListed (table : ContactsTable) (contact : ContactForNode) : Prop :=
  (contact.contactId, contact.publicKey) ∈ contactIdentities table

/-- The public keys of the contacts, which are unique in the database. -/
def databasePublicKeys (table : ContactsTable) : List Text :=
  table.db.contacts.rows.map Contact.publicKey

def MarkedOnNode (table : ContactsTable) (publicKey : Text) : Prop :=
  ∀ row ∈ table.db.contacts, row.publicKey = publicKey → row.nodeSyncState = .onNode

/-- The same contacts, of which those on the node stay marked and none is marked as failed. -/
structure KeepsMarks (t u : ContactsTable) : Prop where
  identities : contactIdentities u = contactIdentities t
  marked : ∀ publicKey, MarkedOnNode t publicKey → MarkedOnNode u publicKey
  failed : ∀ row ∈ u.db.contacts, row.nodeSyncState = .addFailed →
    ∃ before ∈ t.db.contacts, before.id = row.id ∧ before.nodeSyncState = .addFailed

theorem KeepsMarks.refl (t : ContactsTable) : KeepsMarks t t :=
  ⟨rfl, fun _ h => h, fun row hrow hfailed => ⟨row, hrow, rfl, hfailed⟩⟩

theorem KeepsMarks.trans (h : KeepsMarks t u) (h' : KeepsMarks u v) : KeepsMarks t v := by
  refine ⟨h'.identities.trans h.identities, fun k hk => h'.marked k (h.marked k hk),
    fun row hrow hfailed => ?_⟩
  obtain ⟨middle, hmiddle, hid, hfailed'⟩ := h'.failed row hrow hfailed
  obtain ⟨before, hbefore, hid', hfailed''⟩ := h.failed middle hmiddle hfailed'
  exact ⟨before, hbefore, hid'.trans hid, hfailed''⟩

theorem map_publicKey_eq (table : ContactsTable) :
    databasePublicKeys table = (contactIdentities table).map Prod.snd := by
  rw [databasePublicKeys, contactIdentities, List.map_map]
  rfl

theorem KeepsMarks.publicKeys (h : KeepsMarks t u) :
    databasePublicKeys u = databasePublicKeys t := by
  rw [map_publicKey_eq, map_publicKey_eq, h.identities]

theorem KeepsMarks.isListed (h : KeepsMarks t u) (hlisted : IsListed t contact) :
    IsListed u contact := by
  rwa [IsListed, h.identities]

/-- A public key belongs to one contact. -/
theorem IsListed.id_eq (hlisted : IsListed t contact) (hunique : (databasePublicKeys t).Nodup)
    {row : Contact} (hrow : row ∈ t.db.contacts) (hkey : row.publicKey = contact.publicKey) :
    row.id = contact.contactId := by
  obtain ⟨other, hother, heq⟩ := List.mem_map.1 hlisted
  obtain ⟨hid, hpublicKey⟩ := Prod.mk.inj heq
  have hsame : row = other :=
    List.inj_on_of_nodup_map hunique hrow hother (hkey.trans hpublicKey.symm)
  rw [hsame, hid]

theorem mem_listContactsForNode (table : ContactsTable) :
    ∀ contact ∈ listContactsForNode table, IsListed table contact := by
  intro contact hcontact
  obtain ⟨row, hrow, rfl⟩ := List.mem_map.1 hcontact
  exact List.mem_map_of_mem hrow

theorem map_publicKey_listContactsForNode (table : ContactsTable) :
    (listContactsForNode table).map ContactForNode.publicKey = databasePublicKeys table := by
  rw [listContactsForNode, List.map_map]
  rfl

/-- Rows that are updated keep their identities. -/
theorem identities_updateWhere {p : Contact → Bool} {f : Contact → Contact}
    (h : ∀ row, key (f row) = key row)
    (hu : u.db.contacts = t.db.contacts.updateWhere p f fun row _ => h row)
    (hid : ∀ row, (f row).id = row.id) (hkey : ∀ row, (f row).publicKey = row.publicKey) :
    contactIdentities u = contactIdentities t := by
  rw [contactIdentities, hu]
  simp only [Table.updateWhere, contactIdentities, List.map_map]
  refine List.map_congr_left fun row _ => ?_
  dsimp only [Function.comp_apply]
  split
  · rw [hid, hkey]
  · rfl

/-- What marking a contact does to its row. -/
theorem mem_markContactOnNode {contactId : ℕ} {nodeName : Text} {nodeOutPathLength : Option ℤ}
    {now : Time} {row : Contact}
    (h : row ∈ (t.markContactOnNode contactId publicKey nodeName nodeOutPathLength
      now).db.contacts) :
    ∃ before ∈ t.db.contacts, before.id = row.id ∧ before.publicKey = row.publicKey ∧
      (row.nodeSyncState = .onNode ∨
        row = before ∧ ¬ (row.id = contactId ∧ row.publicKey = publicKey)) := by
  unfold ContactsTable.markContactOnNode markContactOnNode at h
  dsimp only at h
  obtain ⟨before, hbefore, rfl⟩ := Table.mem_updateWhere.1 h
  refine ⟨before, hbefore, ?_⟩
  split
  · exact ⟨rfl, rfl, Or.inl rfl⟩
  · next hsame =>
      refine ⟨rfl, rfl, ?_⟩
      by_cases hmarked : before.nodeSyncState = .onNode
      · exact Or.inl hmarked
      · refine Or.inr ⟨rfl, fun hboth => hsame ?_⟩
        simp [hboth.1, hboth.2, hmarked]

/-- **A contact that is marked** stays the same contact. -/
theorem keepsMarks_markContactOnNode (t : ContactsTable) (contactId : ℕ) (publicKey nodeName : Text)
    (nodeOutPathLength : Option ℤ) (now : Time) :
    KeepsMarks t (t.markContactOnNode contactId publicKey nodeName nodeOutPathLength now) := by
  refine ⟨?_, fun k hmarked row hrow hkey => ?_, fun row hrow hfailed => ?_⟩
  · refine identities_updateWhere ?_ rfl ?_ ?_
    all_goals exact fun _ => rfl
  · obtain ⟨before, hbefore, -, -, hon | ⟨rfl, -⟩⟩ := mem_markContactOnNode hrow
    · exact hon
    · exact hmarked _ hbefore hkey
  · obtain ⟨before, hbefore, -, -, hon | ⟨rfl, -⟩⟩ := mem_markContactOnNode hrow
    · rw [hon] at hfailed
      cases hfailed
    · exact ⟨_, hbefore, rfl, hfailed⟩

theorem marked_markContactOnNode (hlisted : IsListed t contact)
    (hunique : (databasePublicKeys t).Nodup) (nodeName : Text) (nodeOutPathLength : Option ℤ)
    (now : Time) :
    MarkedOnNode (t.markContactOnNode contact.contactId contact.publicKey nodeName
      nodeOutPathLength now) contact.publicKey := by
  intro row hrow hkey
  obtain ⟨before, hbefore, hid, hpublicKey, hon | ⟨-, hother⟩⟩ := mem_markContactOnNode hrow
  · exact hon
  · have hsame := hlisted.id_eq hunique hbefore (hpublicKey.trans hkey)
    exact absurd ⟨hid ▸ hsame, hkey⟩ hother

/-- A contact whose addition failed is the same contact. -/
theorem identities_markContactAddFailed (t : ContactsTable) (contactId : ℕ)
    (publicKey syncError : Text) (now : Time) :
    contactIdentities (t.markContactAddFailed contactId publicKey syncError now) =
      contactIdentities t := by
  refine identities_updateWhere ?_ rfl ?_ ?_
  all_goals exact fun _ => rfl

end Contacts

/-! ### One addition -/

section Addition

variable {surroundings : Surroundings} {pass : ReconciliationPass} {contact : ContactForNode}

/-- The node was asked; nothing else changed but its contacts. -/
structure Asked (pass pass' : ReconciliationPass) (command : NodeContactCommand) : Prop where
  commands : pass'.commands = pass.commands ++ [command]
  table : pass'.table = pass.table
  summary : pass'.summary = pass.summary
  errors : pass'.recordedErrors = pass.recordedErrors
  capacity : pass'.node.capacity = pass.node.capacity

/-- **What one addition can come to.** -/
inductive AddContactResult (pass : ReconciliationPass) (contact : ContactForNode) :
    ReconciliationPass × Except ReconciliationAborted (Option ℕ) → Prop
  | aborted {pass' : ReconciliationPass} {reason : ReconciliationAborted}
      (hasked : Asked pass pass' (.addContact contact.publicKey))
      (hkeys : pass.node.keys ⊆ pass'.node.keys) :
      AddContactResult pass contact (pass', .error reason)
  | refused {pass' : ReconciliationPass}
      (hasked : Asked pass pass' (.addContact contact.publicKey))
      (hkeys : pass'.node.keys = pass.node.keys)
      (hfull : contact.publicKey ∉ pass.node.keys ∧ pass.node.capacity ≤ pass.node.keys.card) :
      AddContactResult pass contact (pass', .ok (some errCodeTableFull))
  | accepted {pass' : ReconciliationPass}
      (hasked : Asked pass pass' (.addContact contact.publicKey))
      (hkeys : pass'.node.keys = insert contact.publicKey pass.node.keys)
      (hroom : ¬ (contact.publicKey ∉ pass.node.keys ∧
        pass.node.capacity ≤ pass.node.keys.card)) :
      AddContactResult pass contact (pass', .ok none)

/-- What the node makes of an addition. -/
theorem node_addContact_cases (node : NodeContactTable) (record : NodeContactRecord) :
    (node.addContact record = (node, some errCodeTableFull) ∧
      record.publicKey ∉ node.keys ∧ node.capacity ≤ node.keys.card) ∨
    ∃ node', node.addContact record = (node', none) ∧ node'.capacity = node.capacity ∧
      node'.keys = insert record.publicKey node.keys ∧
      ¬ (record.publicKey ∉ node.keys ∧ node.capacity ≤ node.keys.card) := by
  have hfull : (record.publicKey ∉ node.contacts ∧ node.capacity ≤ node.count) ↔
      (record.publicKey ∉ node.keys ∧ node.capacity ≤ node.keys.card) := by
    rw [NodeContactTable.mem_keys, NodeContactTable.card_keys]
  unfold NodeContactTable.addContact
  split
  · next hrefused => exact Or.inl ⟨rfl, hfull.1 hrefused⟩
  · next haccepted =>
      exact Or.inr ⟨_, rfl, rfl, NodeContactTable.keys_insert, fun h => haccepted (hfull.2 h)⟩

/-- The node answers, or the link fails before or after it did what it was asked. -/
theorem command_cases (surroundings : Surroundings) (pass : ReconciliationPass)
    (command : NodeContactCommand) (answered : NodeContactTable) :
    pass.command surroundings command answered =
        ({ pass with commands := pass.commands ++ [command], node := answered }, true) ∨
      ∃ node', (node' = answered ∨ node' = pass.node) ∧
        pass.command surroundings command answered =
          ({ pass with commands := pass.commands ++ [command], node := node' }, false) := by
  unfold ReconciliationPass.command
  dsimp only
  split
  · exact Or.inl rfl
  · next wasExecuted _ =>
      refine Or.inr ⟨_, ?_, rfl⟩
      cases wasExecuted
      · exact Or.inr rfl
      · exact Or.inl rfl

theorem addContact_result (surroundings : Surroundings) (pass : ReconciliationPass)
    (contact : ContactForNode) :
    AddContactResult pass contact (pass.addContact surroundings contact) := by
  unfold ReconciliationPass.addContact
  rcases node_addContact_cases pass.node
    { publicKey := contact.publicKey
      name := contact.name
      advertTimestamp := contact.advertTimestamp
      latitudeMicrodegrees := contact.latitudeMicrodegrees
      longitudeMicrodegrees := contact.longitudeMicrodegrees } with
    ⟨hnode, hfull⟩ | ⟨node', hnode, hcapacity, hkeys, hroom⟩
  · rw [hnode]
    dsimp only
    rcases command_cases surroundings pass (.addContact contact.publicKey) pass.node with
      hanswered | ⟨failed, hfailed, hlost⟩
    · rw [hanswered]
      exact .refused ⟨rfl, rfl, rfl, rfl, rfl⟩ rfl hfull
    · rw [hlost]
      obtain rfl : failed = pass.node := hfailed.elim id id
      exact .aborted ⟨rfl, rfl, rfl, rfl, rfl⟩ (Finset.Subset.refl _)
  · rw [hnode]
    dsimp only
    rcases command_cases surroundings pass (.addContact contact.publicKey) node' with
      hanswered | ⟨failed, hfailed, hlost⟩
    · rw [hanswered]
      exact .accepted ⟨rfl, rfl, rfl, rfl, hcapacity⟩ hkeys hroom
    · rw [hlost]
      rcases hfailed with rfl | rfl
      · exact .aborted ⟨rfl, rfl, rfl, rfl, hcapacity⟩ (hkeys ▸ Finset.subset_insert _ _)
      · exact .aborted ⟨rfl, rfl, rfl, rfl, rfl⟩ (Finset.Subset.refl _)

end Addition

/-! ### What a pass asks of the node -/

section Progress

variable {surroundings : Surroundings} {p q r : ReconciliationPass} {missing extra : List Text}
  {contacts : List ContactForNode}

/-- Missing contacts are added and extra ones removed. -/
def IsAllowed (missing extra : List Text) : NodeContactCommand → Prop
  | .listContacts => True
  | .addContact publicKey => publicKey ∈ missing
  | .removeContact publicKey => publicKey ∈ extra

/-- Only what is allowed was asked, and only extra contacts left the node. -/
structure Progress (missing extra : List Text) (p q : ReconciliationPass) : Prop where
  commands : ∃ more, q.commands = p.commands ++ more ∧ ∀ c ∈ more, IsAllowed missing extra c
  kept : ∀ k ∈ p.node.keys, k ∉ extra → k ∈ q.node.keys

theorem Progress.refl (missing extra : List Text) (p : ReconciliationPass) :
    Progress missing extra p p :=
  ⟨⟨[], (List.append_nil _).symm, fun _ hc => absurd hc List.not_mem_nil⟩, fun _ hk _ => hk⟩

theorem Progress.trans (h : Progress missing extra p q) (h' : Progress missing extra q r) :
    Progress missing extra p r := by
  obtain ⟨more, hmore, hallowed⟩ := h.commands
  obtain ⟨more', hmore', hallowed'⟩ := h'.commands
  refine ⟨⟨more ++ more', ?_, fun c hc => ?_⟩, fun k hk hextra =>
    h'.kept k (h.kept k hk hextra) hextra⟩
  · rw [hmore', hmore, List.append_assoc]
  · exact (List.mem_append.1 hc).elim (hallowed c) (hallowed' c)

/-- What changes neither the node nor the log is progress. -/
theorem Progress.of_eq (hcommands : q.commands = p.commands) (hnode : q.node = p.node) :
    Progress missing extra p q :=
  ⟨⟨[], by rw [hcommands, List.append_nil], fun _ hc => absurd hc List.not_mem_nil⟩,
    fun _ hk _ => hnode ▸ hk⟩

theorem Asked.progress {command : NodeContactCommand} (h : Asked p q command)
    (hallowed : IsAllowed missing extra command)
    (hkept : ∀ k ∈ p.node.keys, k ∉ extra → k ∈ q.node.keys) : Progress missing extra p q :=
  ⟨⟨[command], h.commands, fun c hc => by rwa [List.mem_singleton.1 hc]⟩, hkept⟩

theorem AddContactResult.progress {contact : ContactForNode}
    {result : ReconciliationPass × Except ReconciliationAborted (Option ℕ)}
    (h : AddContactResult p contact result) (hmissing : contact.publicKey ∈ missing) :
    Progress missing extra p result.1 := by
  cases h with
  | aborted hasked hkeys => exact hasked.progress hmissing fun k hk _ => hkeys hk
  | refused hasked hkeys => exact hasked.progress hmissing fun k hk _ => hkeys.symm ▸ hk
  | accepted hasked hkeys =>
      exact hasked.progress hmissing fun k hk _ => hkeys.symm ▸ Finset.mem_insert_of_mem hk

theorem addMissingContacts_progress (surroundings : Surroundings)
    (hmissing : ∀ contact ∈ contacts, contact.publicKey ∈ missing) (p : ReconciliationPass) :
    Progress missing extra p (addMissingContacts surroundings p contacts).1 := by
  induction contacts generalizing p with
  | nil => exact .refl _ _ p
  | cons contact contacts ih =>
      have hrest := ih fun other hother => hmissing other (List.mem_cons_of_mem _ hother)
      have hresult := addContact_result surroundings p contact
      have hone : Progress missing extra p _ :=
        hresult.progress (hmissing contact List.mem_cons_self)
      unfold addMissingContacts
      generalize p.addContact surroundings contact = result at hresult hone
      obtain ⟨q, answer⟩ := result
      cases answer with
      | error reason => exact hone
      | ok errorCode =>
          cases errorCode with
          | none =>
              have hcounted : Progress missing extra q (q.countAdded surroundings contact) :=
                .of_eq rfl rfl
              exact (hone.trans hcounted).trans (hrest _)
          | some errorCode =>
              dsimp only
              split
              · have hlater := hone.trans (hrest q)
                generalize addMissingContacts surroundings q contacts = later at hlater
                obtain ⟨r, refused⟩ := later
                cases refused <;> exact hlater
              · have hfailed : Progress missing extra q (q.recordAddFailed surroundings contact
                    (describeAddRefusal errorCode)) := .of_eq rfl rfl
                exact (hone.trans hfailed).trans (hrest _)

theorem removeContacts_progress (surroundings : Surroundings) {publicKeys : List Text}
    (hextra : ∀ k ∈ publicKeys, k ∈ extra) (p : ReconciliationPass) :
    Progress missing extra p (removeContacts surroundings p publicKeys).1 := by
  induction publicKeys generalizing p with
  | nil => exact .refl _ _ p
  | cons publicKey publicKeys ih =>
      have hrest := ih fun other hother => hextra other (List.mem_cons_of_mem _ hother)
      have hkept : ∀ k ∈ p.node.keys, k ∉ extra → k ∈ (p.node.removeContact publicKey).keys := by
        intro k hk hnot
        rw [NodeContactTable.keys_removeContact]
        refine Finset.mem_erase.2 ⟨?_, hk⟩
        rintro rfl
        exact hnot (hextra _ List.mem_cons_self)
      unfold removeContacts
      rcases command_cases surroundings p (.removeContact publicKey)
          (p.node.removeContact publicKey) with hanswered | ⟨node', hnode', hlost⟩
      · rw [hanswered]
        refine Progress.trans ?_ (hrest _)
        exact ⟨⟨[.removeContact publicKey], rfl, fun c hc => by
          rw [List.mem_singleton.1 hc]
          exact hextra _ List.mem_cons_self⟩, hkept⟩
      · rw [hlost]
        refine ⟨⟨[.removeContact publicKey], rfl, fun c hc => by
          rw [List.mem_singleton.1 hc]
          exact hextra _ List.mem_cons_self⟩, ?_⟩
        rcases hnode' with rfl | rfl
        · exact hkept
        · exact fun k hk _ => hk

theorem removeExtraContacts_progress (surroundings : Surroundings) (p : ReconciliationPass)
    (extra : List Text) :
    Progress missing extra p (removeExtraContacts surroundings p extra).1 := by
  unfold removeExtraContacts
  split
  · exact .refl _ _ p
  split
  · exact .of_eq rfl rfl
  split
  · exact .refl _ _ p
  have hremoved : Progress missing extra p (removeContacts surroundings p extra).1 :=
    removeContacts_progress surroundings (fun _ hk => hk) p
  generalize removeContacts surroundings p extra = removed at hremoved
  obtain ⟨q, outcome⟩ := removed
  cases outcome <;> exact hremoved

theorem retryContacts_progress (surroundings : Surroundings) (removalsDone remain : Bool)
    (hmissing : ∀ contact ∈ contacts, contact.publicKey ∈ missing) (p : ReconciliationPass) :
    Progress missing extra p
      (retryContactsRefusedForFullTable surroundings removalsDone remain p contacts).1 := by
  induction contacts generalizing p with
  | nil => exact .refl _ _ p
  | cons contact contacts ih =>
      have hrest := ih fun other hother => hmissing other (List.mem_cons_of_mem _ hother)
      unfold retryContactsRefusedForFullTable
      split
      · exact hrest p
      · have hone : Progress missing extra p
            (if removalsDone then p.addContact surroundings contact
              else (p, .ok (some errCodeTableFull))).1 := by
          split
          · exact (addContact_result surroundings p contact).progress
              (hmissing contact List.mem_cons_self)
          · exact .refl _ _ p
        generalize (if removalsDone then p.addContact surroundings contact
          else (p, .ok (some errCodeTableFull))) = result at hone
        obtain ⟨q, answer⟩ := result
        cases answer with
        | error reason => exact hone
        | ok errorCode =>
            cases errorCode with
            | none =>
                have hcounted : Progress missing extra q (q.countAdded surroundings contact) :=
                  .of_eq rfl rfl
                exact (hone.trans hcounted).trans (hrest _)
            | some errorCode =>
                have hfailed : ∀ syncError, Progress missing extra q
                    (q.recordAddFailed surroundings contact syncError) := fun _ => .of_eq rfl rfl
                exact (hone.trans (hfailed _)).trans (hrest _)

end Progress

/-! ### Steps that succeed -/

section Success

variable {surroundings : Surroundings} {p q r : ReconciliationPass}
  {contacts refused : List ContactForNode} {contact : ContactForNode}

/-- These contacts were added and marked, and counted. -/
structure Added (p q : ReconciliationPass) (contacts : List ContactForNode) : Prop where
  capacity : q.node.capacity = p.node.capacity
  summary : q.summary =
    { p.summary with
      addedCount := p.summary.addedCount + contacts.length
      nodeContactCount := p.summary.nodeContactCount + contacts.length }
  errors : q.recordedErrors = p.recordedErrors
  marks : KeepsMarks p.table q.table
  marked : ∀ contact ∈ contacts, MarkedOnNode q.table contact.publicKey

theorem Added.of_table_eq (hcapacity : q.node.capacity = p.node.capacity)
    (hsummary : q.summary = p.summary) (herrors : q.recordedErrors = p.recordedErrors)
    (htable : q.table = p.table) : Added p q [] :=
  ⟨hcapacity, by simp [hsummary], herrors, htable ▸ .refl _,
    fun _ hc => absurd hc List.not_mem_nil⟩

theorem Asked.added {command : NodeContactCommand} (h : Asked p q command) : Added p q [] :=
  .of_table_eq h.capacity h.summary h.errors h.table

theorem Added.trans {later : List ContactForNode} (h : Added p q contacts)
    (h' : Added q r later) : Added p r (contacts ++ later) := by
  refine ⟨h'.capacity.trans h.capacity, ?_, h'.errors.trans h.errors, h.marks.trans h'.marks,
    fun contact hcontact => ?_⟩
  · rw [h'.summary, h.summary, List.length_append]
    simp [Nat.add_assoc, Int.add_assoc]
  · rcases List.mem_append.1 hcontact with hold | hnew
    · exact h'.marks.marked _ (h.marked contact hold)
    · exact h'.marked contact hnew

theorem countAdded_added (surroundings : Surroundings)
    (hunique : (databasePublicKeys p.table).Nodup) (hlisted : IsListed p.table contact) :
    Added p (p.countAdded surroundings contact) [contact] := by
  refine ⟨rfl, rfl, rfl, keepsMarks_markContactOnNode _ _ _ _ _ _, fun other hother => ?_⟩
  obtain rfl := List.mem_singleton.1 hother
  exact marked_markContactOnNode hlisted hunique _ _ _

/-- **The additions of a pass** offer the missing keys to the node. -/
theorem addMissingContacts_ok (hunique : (databasePublicKeys p.table).Nodup)
    (hlisted : ∀ contact ∈ contacts, IsListed p.table contact)
    (hok : addMissingContacts surroundings p contacts = (q, .ok refused)) :
    ∃ added, Added p q added ∧ (added ++ refused).Perm contacts ∧
      offer p.node.capacity p.node.keys (contacts.map ContactForNode.publicKey) =
        (q.node.keys, refused.map ContactForNode.publicKey) := by
  induction contacts generalizing p refused with
  | nil =>
      unfold addMissingContacts at hok
      cases hok
      exact ⟨[], .of_table_eq rfl rfl rfl rfl, List.Perm.refl _, rfl⟩
  | cons contact contacts ih =>
      have hresult := addContact_result surroundings p contact
      unfold addMissingContacts at hok
      generalize p.addContact surroundings contact = result at hresult hok
      cases hresult with
      | aborted => cases hok
      | @refused p' hasked hkeys hfull =>
          dsimp only at hok
          rw [if_pos rfl] at hok
          cases hlater : addMissingContacts surroundings p' contacts with
          | mk r outcome =>
              rw [hlater] at hok
              cases outcome with
              | error => cases hok
              | ok later =>
                  cases hok
                  obtain ⟨added, hadded, hperm, hoffer⟩ := ih (hasked.table ▸ hunique)
                    (fun other hother =>
                      hasked.table ▸ hlisted other (List.mem_cons_of_mem _ hother)) hlater
                  refine ⟨added, hasked.added.trans hadded, ?_, ?_⟩
                  · exact List.perm_middle.trans (hperm.cons contact)
                  · rw [hasked.capacity, hkeys] at hoffer
                    rw [List.map_cons, offer_refused hfull.1 hfull.2, hoffer, List.map_cons]
      | @accepted p' hasked hkeys hroom =>
          dsimp only at hok
          have hcounted := countAdded_added surroundings (p := p') (hasked.table ▸ hunique)
            (hasked.table ▸ hlisted contact List.mem_cons_self)
          have hfirst := hasked.added.trans hcounted
          obtain ⟨added, hadded, hperm, hoffer⟩ := ih
            (by rwa [hfirst.marks.publicKeys])
            (fun other hother =>
              hfirst.marks.isListed (hlisted other (List.mem_cons_of_mem _ hother))) hok
          refine ⟨contact :: added, hfirst.trans hadded, hperm.cons contact, ?_⟩
          rw [List.map_cons, offer_accepted hroom, ← hoffer, hfirst.capacity]
          exact congrArg (fun s => offer p.node.capacity s _) hkeys.symm

/-- **The removals of a pass.** -/
theorem removeContacts_ok {publicKeys : List Text}
    (hok : removeContacts surroundings p publicKeys = (q, .ok ())) :
    q.node.capacity = p.node.capacity ∧ q.table = p.table ∧
      q.recordedErrors = p.recordedErrors ∧
      q.summary =
        { p.summary with
          removedCount := p.summary.removedCount + publicKeys.length
          nodeContactCount := p.summary.nodeContactCount - publicKeys.length } ∧
      q.node.keys = p.node.keys \ publicKeys.toFinset := by
  induction publicKeys generalizing p with
  | nil =>
      unfold removeContacts at hok
      cases hok
      simp
  | cons publicKey publicKeys ih =>
      unfold removeContacts at hok
      rcases command_cases surroundings p (.removeContact publicKey)
          (p.node.removeContact publicKey) with hanswered | ⟨node', -, hlost⟩
      · rw [hanswered] at hok
        obtain ⟨hcapacity, htable, herrors, hsummary, hkeys⟩ := ih hok
        refine ⟨hcapacity, htable, herrors, ?_, ?_⟩
        · rw [hsummary, List.length_cons]
          simp only [ReconciliationSummary.mk.injEq, true_and, and_true]
          refine ⟨by omega, ?_⟩
          push_cast
          omega
        · rw [hkeys]
          change (p.node.removeContact publicKey).keys \ _ = _
          rw [NodeContactTable.keys_removeContact]
          ext k
          simp only [Finset.mem_sdiff, Finset.mem_erase, List.toFinset_cons, Finset.mem_insert,
            List.mem_toFinset]
          tauto
      · rw [hlost] at hok
        cases hok

/-- **The second additions** of a pass that removed the extra contacts. -/
theorem retryContacts_ok (hunique : (databasePublicKeys p.table).Nodup)
    (hlisted : ∀ contact ∈ contacts, IsListed p.table contact)
    (hroom : (offer p.node.capacity p.node.keys
      (contacts.map ContactForNode.publicKey)).2 = [])
    (hok : retryContactsRefusedForFullTable surroundings true false p contacts = (q, .ok ())) :
    Added p q contacts ∧
      q.node.keys = (offer p.node.capacity p.node.keys
        (contacts.map ContactForNode.publicKey)).1 := by
  induction contacts generalizing p with
  | nil =>
      unfold retryContactsRefusedForFullTable at hok
      cases hok
      exact ⟨.of_table_eq rfl rfl rfl rfl, rfl⟩
  | cons contact contacts ih =>
      have hresult := addContact_result surroundings p contact
      unfold retryContactsRefusedForFullTable at hok
      simp only [Bool.false_eq_true, if_false, if_true] at hok
      generalize p.addContact surroundings contact = result at hresult hok
      cases hresult with
      | aborted => cases hok
      | refused hasked hkeys hfull =>
          rw [List.map_cons, offer_refused hfull.1 hfull.2] at hroom
          cases hroom
      | @accepted p' hasked hkeys haccepted =>
          dsimp only at hok
          have hcounted := countAdded_added surroundings (p := p') (hasked.table ▸ hunique)
            (hasked.table ▸ hlisted contact List.mem_cons_self)
          have hfirst := hasked.added.trans hcounted
          have hoffer : offer p.node.capacity p.node.keys
              ((contact :: contacts).map ContactForNode.publicKey) =
              offer (p'.countAdded surroundings contact).node.capacity
                (p'.countAdded surroundings contact).node.keys
                (contacts.map ContactForNode.publicKey) := by
            rw [List.map_cons, offer_accepted haccepted, hfirst.capacity]
            exact congrArg (fun s => offer p.node.capacity s _) hkeys.symm
          rw [hoffer] at hroom ⊢
          obtain ⟨hadded, hkeys'⟩ := ih (by rwa [hfirst.marks.publicKeys])
            (fun other hother =>
              hfirst.marks.isListed (hlisted other (List.mem_cons_of_mem _ hother))) hroom hok
          exact ⟨hfirst.trans hadded, hkeys'⟩

/-- While extra contacts remain, nothing is added a second time. -/
theorem retryContacts_of_remain (removalsDone : Bool) (p : ReconciliationPass)
    (contacts : List ContactForNode) :
    retryContactsRefusedForFullTable surroundings removalsDone true p contacts = (p, .ok ()) := by
  induction contacts with
  | nil => rfl
  | cons contact contacts ih =>
      unfold retryContactsRefusedForFullTable
      rw [if_pos rfl, ih]

/-- Only the removal step postpones. -/
theorem retryContacts_removalsPostponed (surroundings : Surroundings)
    (removalsDone remain : Bool) (p : ReconciliationPass) (contacts : List ContactForNode) :
    (retryContactsRefusedForFullTable surroundings removalsDone remain p
      contacts).1.summary.removalsPostponed = p.summary.removalsPostponed := by
  induction contacts generalizing p with
  | nil => rfl
  | cons contact contacts ih =>
      unfold retryContactsRefusedForFullTable
      split
      · exact ih p
      · have hone : (if removalsDone then p.addContact surroundings contact
            else (p, .ok (some errCodeTableFull))).1.summary = p.summary := by
          split
          · have hresult := addContact_result surroundings p contact
            generalize p.addContact surroundings contact = result at hresult ⊢
            cases hresult with
            | aborted hasked | refused hasked | accepted hasked => exact hasked.summary
          · rfl
        generalize (if removalsDone then p.addContact surroundings contact
          else (p, .ok (some errCodeTableFull))) = result at hone
        obtain ⟨q, answer⟩ := result
        rw [← hone]
        cases answer with
        | error => rfl
        | ok errorCode =>
            cases errorCode with
            | none => exact ih _
            | some errorCode => exact ih _

/-- **The contacts that were on the node before** are marked. -/
theorem markContactsFoundOnNode_marks {contactsOnNode : AList fun _ : Text => ListedNodeContact}
    (hunique : (databasePublicKeys p.table).Nodup)
    (hlisted : ∀ contact ∈ contacts, IsListed p.table contact) :
    KeepsMarks p.table
        (markContactsFoundOnNode surroundings p contacts contactsOnNode).table ∧
      ∀ contact ∈ contacts, contact.publicKey ∈ contactsOnNode →
        MarkedOnNode (markContactsFoundOnNode surroundings p contacts contactsOnNode).table
          contact.publicKey := by
  unfold markContactsFoundOnNode
  dsimp only
  generalize p.now surroundings = now
  generalize p.table = table at hunique hlisted ⊢
  induction contacts generalizing table with
  | nil => exact ⟨.refl table, fun _ hc => absurd hc List.not_mem_nil⟩
  | cons contact contacts ih =>
      rw [List.foldl_cons]
      cases hlookup : contactsOnNode.lookup contact.publicKey with
      | none =>
          obtain ⟨hkeeps, hmarked⟩ := ih table hunique fun other hother =>
            hlisted other (List.mem_cons_of_mem _ hother)
          refine ⟨hkeeps, fun other hother hon => ?_⟩
          rcases List.mem_cons.1 hother with rfl | hrest
          · exact absurd hon (AList.lookup_eq_none.1 hlookup)
          · exact hmarked other hrest hon
      | some listedContact =>
          dsimp only
          have hone := keepsMarks_markContactOnNode table contact.contactId contact.publicKey
            listedContact.name (some listedContact.outPathLength) now
          obtain ⟨hkeeps, hmarked⟩ := ih _ (by rwa [hone.publicKeys]) fun other hother =>
            hone.isListed (hlisted other (List.mem_cons_of_mem _ hother))
          refine ⟨hone.trans hkeeps, fun other hother hon => ?_⟩
          rcases List.mem_cons.1 hother with rfl | hrest
          · exact hkeeps.marked _ (marked_markContactOnNode
              (hlisted other List.mem_cons_self) hunique _ _ _)
          · exact hmarked other hrest hon

end Success

/-! ### A pass -/

section Pass

variable {surroundings : Surroundings} {ownPublicKey : Text} {node : NodeContactTable}
  {table : ContactsTable} {pass : ReconciliationPass} {summary : ReconciliationSummary}

/-- The pass after the node was listed. -/
def listedPass (node : NodeContactTable) (table : ContactsTable) : ReconciliationPass :=
  { node, table
    commands := [.listContacts]
    summary := { nodeContactCount := node.contacts.keys.length } }

/-- The public keys that are to be added. -/
def missingKeys (node : NodeContactTable) (table : ContactsTable) : List Text :=
  (findMissingContacts (listContactsForNode table) node.contacts).map ContactForNode.publicKey

/-- The public keys that are to be removed. -/
def extraKeys (ownPublicKey : Text) (node : NodeContactTable) (table : ContactsTable) :
    List Text :=
  findExtraPublicKeys (listContactsForNode table) node.contacts ownPublicKey

theorem mem_missingKeys {k : Text} :
    k ∈ missingKeys node table ↔ k ∈ databasePublicKeys table ∧ k ∉ node.keys := by
  rw [← map_publicKey_listContactsForNode, missingKeys, findMissingContacts, List.mem_map,
    List.mem_map]
  constructor
  · rintro ⟨contact, hcontact, rfl⟩
    obtain ⟨hlisted, hnew⟩ := List.mem_filter.1 hcontact
    exact ⟨⟨contact, hlisted, rfl⟩, fun h => of_decide_eq_true hnew (NodeContactTable.mem_keys.1 h)⟩
  · rintro ⟨⟨contact, hlisted, rfl⟩, hnew⟩
    refine ⟨contact, List.mem_filter.2 ⟨hlisted, decide_eq_true fun h => ?_⟩, rfl⟩
    exact hnew (NodeContactTable.mem_keys.2 h)

theorem mem_extraKeys {k : Text} :
    k ∈ extraKeys ownPublicKey node table ↔
      k ∈ node.keys ∧ k ∉ databasePublicKeys table ∧ k ≠ ownPublicKey := by
  rw [extraKeys, findExtraPublicKeys, mem_orderBy, List.mem_filter, decide_eq_true_eq,
    map_publicKey_listContactsForNode, NodeContactTable.keys, List.mem_toFinset]

theorem nodup_missingKeys (hunique : (databasePublicKeys table).Nodup) :
    (missingKeys node table).Nodup := by
  have hsublist : (missingKeys node table).Sublist (databasePublicKeys table) := by
    rw [← map_publicKey_listContactsForNode]
    exact List.filter_sublist.map _
  exact hsublist.nodup hunique

theorem nodup_extraKeys : (extraKeys ownPublicKey node table).Nodup := by
  rw [extraKeys, findExtraPublicKeys, (orderBy_perm _ _).nodup_iff]
  exact node.contacts.keys_nodup.filter _

/-- A pass that cannot list the node is over. -/
theorem reconcileContactsOnce_of_not_listed (h : (surroundings.linkFailure 0).isSome) :
    reconcileContactsOnce surroundings ownPublicKey node table =
      ({ node, table, commands := [.listContacts] }, .error .contactsNotListed) := by
  obtain ⟨wasExecuted, hfailure⟩ := Option.isSome_iff_exists.1 h
  unfold reconcileContactsOnce ReconciliationPass.command
  simp only [List.length_nil, hfailure, ite_self, List.nil_append]

/-- **A pass, step after step.** -/
theorem reconcileContactsOnce_of_listed (h : surroundings.linkFailure 0 = none) :
    reconcileContactsOnce surroundings ownPublicKey node table =
      match addMissingContacts surroundings (listedPass node table)
          (findMissingContacts (listContactsForNode table) node.contacts) with
      | (pass, .error aborted) => (pass, .error aborted)
      | (pass, .ok refused) =>
          match removeExtraContacts surroundings pass (extraKeys ownPublicKey node table) with
          | (pass, .error aborted) => (pass, .error aborted)
          | (pass, .ok removalsDone) =>
              match retryContactsRefusedForFullTable surroundings removalsDone
                  (decide (extraKeys ownPublicKey node table ≠ [] ∧ ¬ removalsDone)) pass
                  refused with
              | (pass, .error aborted) => (pass, .error aborted)
              | (pass, .ok ()) =>
                  (markContactsFoundOnNode surroundings pass (listContactsForNode table)
                    node.contacts, .ok pass.summary) := by
  unfold reconcileContactsOnce ReconciliationPass.command
  simp only [List.length_nil, h, List.nil_append]
  rfl

/-- **What a pass asks of the node**, however it ends. -/
theorem reconcileContactsOnce_progress (hunique : (databasePublicKeys table).Nodup) :
    Progress (missingKeys node table) (extraKeys ownPublicKey node table) { node, table }
      (reconcileContactsOnce surroundings ownPublicKey node table).1 := by
  have hlisted : Progress (missingKeys node table) (extraKeys ownPublicKey node table)
      { node, table } (listedPass node table) :=
    ⟨⟨[.listContacts], rfl, fun c hc => by
      rw [List.mem_singleton.1 hc]
      trivial⟩, fun _ hk _ => hk⟩
  cases hfailure : surroundings.linkFailure 0 with
  | some wasExecuted =>
      rw [reconcileContactsOnce_of_not_listed (by rw [hfailure]; rfl)]
      exact ⟨hlisted.commands, hlisted.kept⟩
  | none =>
      rw [reconcileContactsOnce_of_listed hfailure]
      have hmissing : ∀ contact ∈ findMissingContacts (listContactsForNode table) node.contacts,
          contact.publicKey ∈ missingKeys node table := fun contact hcontact =>
        List.mem_map_of_mem hcontact
      have hadds := hlisted.trans
        (addMissingContacts_progress surroundings hmissing (listedPass node table))
      cases hadd : addMissingContacts surroundings (listedPass node table)
          (findMissingContacts (listContactsForNode table) node.contacts) with
      | mk added outcome =>
          rw [hadd] at hadds
          cases outcome with
          | error => exact hadds
          | ok refused =>
              have hrefused : ∀ contact ∈ refused, contact.publicKey ∈ missingKeys node table := by
                obtain ⟨accepted, -, hperm, -⟩ := addMissingContacts_ok hunique
                  (fun contact hcontact => mem_listContactsForNode table contact
                    (List.mem_of_mem_filter hcontact)) hadd
                exact fun contact hcontact =>
                  hmissing contact (hperm.subset (List.mem_append_right _ hcontact))
              have hremoves := hadds.trans
                (removeExtraContacts_progress surroundings added
                  (extraKeys ownPublicKey node table))
              dsimp only
              cases hremove : removeExtraContacts surroundings added
                  (extraKeys ownPublicKey node table) with
              | mk removed outcome =>
                  rw [hremove] at hremoves
                  cases outcome with
                  | error => exact hremoves
                  | ok removalsDone =>
                      dsimp only
                      have hretries := hremoves.trans (retryContacts_progress surroundings
                        removalsDone (decide (extraKeys ownPublicKey node table ≠ [] ∧
                          ¬ removalsDone)) hrefused removed)
                      generalize retryContactsRefusedForFullTable surroundings removalsDone
                        (decide (extraKeys ownPublicKey node table ≠ [] ∧ ¬ removalsDone)) removed
                        refused = retried at hretries ⊢
                      obtain ⟨last, outcome⟩ := retried
                      cases outcome with
                      | error => exact hretries
                      | ok => exact hretries.trans (.of_eq rfl rfl)

/-- A pass that ends: its steps, none of which was aborted. -/
theorem reconcileContactsOnce_ok
    (hok : reconcileContactsOnce surroundings ownPublicKey node table = (pass, .ok summary)) :
    ∃ added refused removed removalsDone retried,
      addMissingContacts surroundings (listedPass node table)
          (findMissingContacts (listContactsForNode table) node.contacts) = (added, .ok refused) ∧
        removeExtraContacts surroundings added (extraKeys ownPublicKey node table) =
          (removed, .ok removalsDone) ∧
        retryContactsRefusedForFullTable surroundings removalsDone
            (decide (extraKeys ownPublicKey node table ≠ [] ∧ ¬ removalsDone)) removed refused =
          (retried, .ok ()) ∧
        pass = markContactsFoundOnNode surroundings retried (listContactsForNode table)
          node.contacts ∧
        summary = retried.summary := by
  cases hfailure : surroundings.linkFailure 0 with
  | some wasExecuted =>
      rw [reconcileContactsOnce_of_not_listed (by rw [hfailure]; rfl)] at hok
      cases hok
  | none =>
      rw [reconcileContactsOnce_of_listed hfailure] at hok
      cases hadd : addMissingContacts surroundings (listedPass node table)
          (findMissingContacts (listContactsForNode table) node.contacts) with
      | mk added outcome =>
          rw [hadd] at hok
          cases outcome with
          | error => cases hok
          | ok refused =>
              dsimp only at hok
              cases hremove : removeExtraContacts surroundings added
                  (extraKeys ownPublicKey node table) with
              | mk removed outcome =>
                  rw [hremove] at hok
                  cases outcome with
                  | error => cases hok
                  | ok removalsDone =>
                      dsimp only at hok
                      cases hretry : retryContactsRefusedForFullTable surroundings removalsDone
                          (decide (extraKeys ownPublicKey node table ≠ [] ∧ ¬ removalsDone))
                          removed refused with
                      | mk retried outcome =>
                          rw [hretry] at hok
                          cases outcome with
                          | error => cases hok
                          | ok =>
                              cases hok
                              exact ⟨added, refused, removed, removalsDone, retried, rfl, hremove,
                                hretry, rfl, rfl⟩

/-- What the removal step of a pass comes to. -/
theorem removeExtraContacts_ok {p q : ReconciliationPass} {extra : List Text}
    {removalsDone : Bool}
    (hok : removeExtraContacts surroundings p extra = (q, .ok removalsDone)) :
    (extra = [] ∧ removalsDone = false ∧ q = p) ∨
      (extra ≠ [] ∧ removalsDone = false ∧
        q = { p with summary := { p.summary with removalsPostponed := true } }) ∨
      (extra ≠ [] ∧ removalsDone = true ∧ removeContacts surroundings p extra = (q, .ok ())) := by
  unfold removeExtraContacts at hok
  split at hok
  · next hnone =>
      cases hok
      exact Or.inl ⟨hnone, rfl, rfl⟩
  next hextra =>
  split at hok
  · cases hok
    exact Or.inr (Or.inl ⟨hextra, rfl, rfl⟩)
  split at hok
  · cases hok
  cases hremoved : removeContacts surroundings p extra with
  | mk removed outcome =>
      rw [hremoved] at hok
      cases outcome with
      | error => cases hok
      | ok =>
          cases hok
          exact Or.inr (Or.inr ⟨hextra, rfl, rfl⟩)

/-- What a pass that was not postponed leaves before the listed contacts are marked. -/
structure Converged (ownPublicKey : Text) (node : NodeContactTable) (table : ContactsTable)
    (pass : ReconciliationPass) : Prop where
  keys : pass.node.keys = (databasePublicKeys table).toFinset
  marks : KeepsMarks table pass.table
  marked : ∀ k ∈ missingKeys node table, MarkedOnNode pass.table k
  errors : pass.recordedErrors = []
  summary : pass.summary =
    { addedCount := (missingKeys node table).length
      removedCount := (extraKeys ownPublicKey node table).length
      nodeContactCount := (node.count : ℤ) + (missingKeys node table).length -
        (extraKeys ownPublicKey node table).length }

theorem Added.marked_of_perm {p q : ReconciliationPass} {contacts others : List ContactForNode}
    (h : Added p q contacts) (hperm : contacts.Perm others) :
    ∀ k ∈ others.map ContactForNode.publicKey, MarkedOnNode q.table k := by
  intro k hk
  obtain ⟨contact, hcontact, rfl⟩ := List.mem_map.1 hk
  exact h.marked contact (hperm.symm.subset hcontact)

/-- **The pass converges**: extra contacts make room for those that were refused. -/
theorem converged_of_ok (hunique : (databasePublicKeys table).Nodup)
    (hfits : (databasePublicKeys table).length ≤ node.capacity) (hown : ownPublicKey ∉ node.keys)
    (hok : reconcileContactsOnce surroundings ownPublicKey node table = (pass, .ok summary))
    (hpostponed : summary.removalsPostponed = false) :
    ∃ retried, Converged ownPublicKey node table retried ∧ summary = retried.summary ∧
      pass = markContactsFoundOnNode surroundings retried (listContactsForNode table)
        node.contacts := by
  obtain ⟨added, refused, removed, removalsDone, retried, hadd, hremove, hretry, hpass, hsummary⟩ :=
    reconcileContactsOnce_ok hok
  have hlisted : ∀ contact ∈ findMissingContacts (listContactsForNode table) node.contacts,
      IsListed table contact := fun contact hcontact =>
    mem_listContactsForNode table contact (List.mem_of_mem_filter hcontact)
  obtain ⟨accepted, hadded, hperm, hoffer⟩ :=
    addMissingContacts_ok (p := listedPass node table) hunique hlisted hadd
  change offer node.capacity node.keys (missingKeys node table) = _ at hoffer
  have hconverge := converge_eq (nodup_missingKeys hunique)
    (fun k => by rw [mem_missingKeys, List.mem_toFinset] :
      ∀ k, k ∈ missingKeys node table ↔
        k ∈ (databasePublicKeys table).toFinset ∧ k ∉ node.keys)
    (fun k => by
      rw [mem_extraKeys, List.mem_toFinset]
      exact ⟨fun h => ⟨h.1, h.2.1⟩, fun h => ⟨h.1, h.2, fun heq => hown (heq ▸ h.1)⟩⟩ :
      ∀ k, k ∈ extraKeys ownPublicKey node table ↔
        k ∈ node.keys ∧ k ∉ (databasePublicKeys table).toFinset)
    ((List.toFinset_card_le _).trans hfits)
  rw [converge, hoffer] at hconverge
  dsimp only at hconverge
  refine ⟨retried, ?_, hsummary, hpass⟩
  have hcount : (node.contacts.keys.length : ℤ) = (node.count : ℤ) := rfl
  rcases removeExtraContacts_ok hremove with
    ⟨hextra, rfl, rfl⟩ | ⟨hextra, rfl, rfl⟩ | ⟨hextra, rfl, hremoved⟩
  · -- nothing is extra, and nothing was refused
    rw [if_pos hextra] at hconverge
    obtain ⟨hkeys, hnone⟩ := Prod.mk.inj hconverge
    obtain rfl := List.map_eq_nil_iff.1 hnone
    cases hretry
    rw [List.append_nil] at hperm
    refine ⟨hkeys, hadded.marks, hadded.marked_of_perm hperm, hadded.errors, ?_⟩
    rw [hadded.summary, hperm.length_eq, hextra, ← List.length_map ContactForNode.publicKey]
    simp [listedPass, missingKeys, hcount]
  · -- the removals were postponed
    rw [decide_eq_true ⟨hextra, Bool.false_ne_true⟩, retryContacts_of_remain] at hretry
    cases hretry
    rw [hsummary] at hpostponed
    cases hpostponed
  · rw [if_neg hextra] at hconverge
    obtain ⟨hcapacity, htable, herrors, hsummary', hkeys⟩ := removeContacts_ok hremoved
    have hremain : decide (extraKeys ownPublicKey node table ≠ [] ∧ ¬ true = true) = false :=
      decide_eq_false fun h => h.2 rfl
    rw [hremain] at hretry
    have hroom : offer removed.node.capacity removed.node.keys
        (refused.map ContactForNode.publicKey) =
          ((databasePublicKeys table).toFinset, []) := by
      rw [hcapacity, hadded.capacity, hkeys]
      exact hconverge
    obtain ⟨hretried, hfinal⟩ := retryContacts_ok
      (by rw [htable, hadded.marks.publicKeys]; exact hunique)
      (fun contact hcontact => htable ▸ hadded.marks.isListed
        (hlisted contact (hperm.subset (List.mem_append_right _ hcontact))))
      (by rw [hroom]) hretry
    refine ⟨by rw [hfinal, hroom], ?_, ?_, ?_, ?_⟩
    · exact hadded.marks.trans (htable ▸ hretried.marks)
    · intro k hk
      obtain ⟨contact, hcontact, rfl⟩ := List.mem_map.1 hk
      rcases List.mem_append.1 (hperm.symm.subset hcontact) with hfirst | hsecond
      · exact hretried.marks.marked _ (htable ▸ hadded.marked contact hfirst)
      · exact hretried.marked contact hsecond
    · rw [hretried.errors, herrors, hadded.errors]
      rfl
    · have hlength : accepted.length + refused.length = (missingKeys node table).length := by
        rw [← List.length_append, hperm.length_eq, missingKeys, List.length_map]
      rw [hretried.summary, hsummary', hadded.summary, ← hlength]
      simp only [listedPass, ReconciliationSummary.mk.injEq, Nat.zero_add, true_and, and_true,
        hcount]
      push_cast
      omega

/-- **A pass that was postponed** added what the node took, and no more. -/
theorem postponed_of_ok (hunique : (databasePublicKeys table).Nodup)
    (hok : reconcileContactsOnce surroundings ownPublicKey node table = (pass, .ok summary))
    (hpostponed : summary.removalsPostponed = true) :
    Progress (missingKeys node table) [] { node, table } pass ∧ KeepsMarks table pass.table ∧
      pass.recordedErrors = [] ∧ summary.failedCount = 0 ∧ summary.failedPublicKeys = [] := by
  obtain ⟨added, refused, removed, removalsDone, retried, hadd, hremove, hretry, rfl, rfl⟩ :=
    reconcileContactsOnce_ok hok
  have hlisted : ∀ contact ∈ findMissingContacts (listContactsForNode table) node.contacts,
      IsListed table contact := fun contact hcontact =>
    mem_listContactsForNode table contact (List.mem_of_mem_filter hcontact)
  obtain ⟨accepted, hadded, hperm, -⟩ :=
    addMissingContacts_ok (p := listedPass node table) hunique hlisted hadd
  have hkept := retryContacts_removalsPostponed surroundings removalsDone
    (decide (extraKeys ownPublicKey node table ≠ [] ∧ ¬ removalsDone)) removed refused
  rw [hretry] at hkept
  dsimp only at hkept
  rw [hpostponed] at hkept
  rcases removeExtraContacts_ok hremove with
    ⟨hextra, rfl, rfl⟩ | ⟨hextra, rfl, rfl⟩ | ⟨hextra, rfl, hremoved⟩
  · rw [hadded.summary] at hkept
    cases hkept
  · rw [decide_eq_true ⟨hextra, Bool.false_ne_true⟩, retryContacts_of_remain] at hretry
    cases hretry
    have hmissing : ∀ contact ∈ findMissingContacts (listContactsForNode table) node.contacts,
        contact.publicKey ∈ missingKeys node table := fun contact hcontact =>
      List.mem_map_of_mem hcontact
    have hstart : Progress (missingKeys node table) [] { node, table }
        (listedPass node table) :=
      ⟨⟨[.listContacts], rfl, fun c hc => by
        rw [List.mem_singleton.1 hc]
        trivial⟩, fun _ hk _ => hk⟩
    have hadds := hstart.trans
      (addMissingContacts_progress surroundings hmissing (listedPass node table))
    rw [hadd] at hadds
    obtain ⟨hfound, -⟩ := @markContactsFoundOnNode_marks surroundings added
      (listContactsForNode table) node.contacts (by rwa [hadded.marks.publicKeys])
      fun contact hcontact => hadded.marks.isListed (mem_listContactsForNode table contact hcontact)
    refine ⟨hadds.trans (.of_eq rfl rfl), hadded.marks.trans hfound, hadded.errors, ?_, ?_⟩
    · change added.summary.failedCount = 0
      rw [hadded.summary]
      rfl
    · change added.summary.failedPublicKeys = []
      rw [hadded.summary]
      rfl
  · obtain ⟨-, -, -, hsummary, -⟩ := removeContacts_ok hremoved
    rw [hsummary, hadded.summary] at hkept
    cases hkept

/-- **The pass that converged**, as it ends. -/
theorem converged_pass (hunique : (databasePublicKeys table).Nodup)
    (hfits : (databasePublicKeys table).length ≤ node.capacity) (hown : ownPublicKey ∉ node.keys)
    (hok : reconcileContactsOnce surroundings ownPublicKey node table = (pass, .ok summary))
    (hpostponed : summary.removalsPostponed = false) :
    Converged ownPublicKey node table pass ∧ pass.summary = summary ∧
      ∀ row ∈ pass.table.db.contacts, row.nodeSyncState = .onNode := by
  obtain ⟨retried, hconverged, rfl, rfl⟩ := converged_of_ok hunique hfits hown hok hpostponed
  obtain ⟨hfound, hmarked⟩ := @markContactsFoundOnNode_marks surroundings retried
    (listContactsForNode table) node.contacts (by rwa [hconverged.marks.publicKeys])
    fun contact hcontact =>
      hconverged.marks.isListed (mem_listContactsForNode table contact hcontact)
  refine ⟨⟨hconverged.keys, hconverged.marks.trans hfound, fun k hk =>
    hfound.marked k (hconverged.marked k hk), hconverged.errors, hconverged.summary⟩, rfl,
    fun row hrow => ?_⟩
  -- the contact of the row was on the node, or it was missing
  have hkey : row.publicKey ∈ databasePublicKeys table := by
    rw [← (hconverged.marks.trans hfound).publicKeys]
    exact List.mem_map_of_mem hrow
  by_cases hlisted : row.publicKey ∈ node.keys
  · rw [← map_publicKey_listContactsForNode] at hkey
    obtain ⟨contact, hcontact, heq⟩ := List.mem_map.1 hkey
    refine hmarked contact hcontact ?_ row hrow heq.symm
    rw [heq]
    exact NodeContactTable.mem_keys.1 hlisted
  · exact hfound.marked _ (hconverged.marked _ (mem_missingKeys.2 ⟨hkey, hlisted⟩)) row hrow rfl

theorem length_missingKeys (hunique : (databasePublicKeys table).Nodup) :
    (missingKeys node table).length =
      ((databasePublicKeys table).toFinset \ node.keys).card := by
  rw [← List.toFinset_card_of_nodup (nodup_missingKeys hunique)]
  congr 1
  ext k
  rw [List.mem_toFinset, mem_missingKeys, Finset.mem_sdiff, List.mem_toFinset]

theorem length_extraKeys (hown : ownPublicKey ∉ node.keys) :
    (extraKeys ownPublicKey node table).length =
      (node.keys \ (databasePublicKeys table).toFinset).card := by
  rw [← List.toFinset_card_of_nodup nodup_extraKeys]
  congr 1
  ext k
  rw [List.mem_toFinset, mem_extraKeys, Finset.mem_sdiff, List.mem_toFinset]
  exact ⟨fun h => ⟨h.1, h.2.1⟩, fun h => ⟨h.1, h.2, fun heq => hown (heq ▸ h.1)⟩⟩

/-- The count of the summary is the count of the node. -/
theorem Converged.nodeContactCount (h : Converged ownPublicKey node table pass)
    (hunique : (databasePublicKeys table).Nodup) (hown : ownPublicKey ∉ node.keys) :
    pass.summary.nodeContactCount = pass.node.count := by
  have hadded := Finset.card_sdiff_add_card_inter (databasePublicKeys table).toFinset node.keys
  have hremoved := Finset.card_sdiff_add_card_inter node.keys (databasePublicKeys table).toFinset
  rw [Finset.inter_comm] at hremoved
  rw [h.summary, ← NodeContactTable.card_keys pass.node, h.keys, length_missingKeys hunique,
    length_extraKeys hown, ← NodeContactTable.card_keys node]
  dsimp only
  omega

end Pass

/-! ### The reconciler -/

theorem ContactReconciler.schedulePassIn_le (reconciler : ContactReconciler)
    (delaySeconds now : Seconds) :
    ∃ nextPassAt, (reconciler.schedulePassIn delaySeconds now).nextPassAt = some nextPassAt ∧
      nextPassAt ≤ now + delaySeconds := by
  unfold schedulePassIn
  dsimp only
  split
  · exact ⟨now + delaySeconds, rfl, le_rfl⟩
  · next hearlier =>
      cases hnext : reconciler.nextPassAt with
      | none =>
          rw [hnext] at hearlier
          exact absurd rfl hearlier
      | some nextPassAt =>
          rw [hnext] at hearlier
          refine ⟨nextPassAt, rfl, ?_⟩
          simpa using hearlier

/-- A pass that runs, and what the reconciler keeps of it. -/
theorem reconcileContacts_cases (timing : ReconciliationTiming) (surroundings : Surroundings)
    (ownPublicKey : Text) (now : Seconds) (reconciler : ContactReconciler)
    (node : NodeContactTable) (table : ContactsTable) :
    (∃ pass aborted,
      reconcileContactsOnce surroundings ownPublicKey node table = (pass, .error aborted) ∧
        reconcileContacts timing surroundings true ownPublicKey now reconciler node table =
          (reconciler, pass, .error aborted)) ∨
    ∃ pass summary,
      reconcileContactsOnce surroundings ownPublicKey node table = (pass, .ok summary) ∧
        reconcileContacts timing surroundings true ownPublicKey now reconciler node table =
          ({ (if summary.removalsPostponed then
                reconciler.schedulePassIn timing.postponedRemovalRetrySeconds now
              else reconciler) with
              nodeContactCount := some summary.nodeContactCount }, pass, .ok summary) := by
  unfold reconcileContacts
  rw [if_neg (by simp)]
  generalize reconcileContactsOnce surroundings ownPublicKey node table = result
  obtain ⟨pass, outcome⟩ := result
  cases outcome with
  | error aborted => exact Or.inl ⟨pass, aborted, rfl, rfl⟩
  | ok summary => exact Or.inr ⟨pass, summary, rfl, rfl⟩

/-- **Contact reconciliation converges.**  A pass that is neither aborted nor postponed leaves
exactly the contacts of the database on the node, all of them marked and none recorded as failed,
with counts that say what happened.  Every pass adds only contacts that were missing and removes
only contacts that were extra, never the relay's own key.  A postponed pass removes nothing, records
no failure and schedules the next pass; a pass that cannot list the node changes nothing. -/
theorem contact_reconciliation_converges (timing : ReconciliationTiming)
    (surroundings : Surroundings) (ownPublicKey : Text) (now : Seconds)
    (reconciler : ContactReconciler) (node : NodeContactTable) (table : ContactsTable)
    (hunique : (databasePublicKeys table).Nodup)
    (hfits : (databasePublicKeys table).length ≤ node.capacity) :
    let result := reconcileContacts timing surroundings true ownPublicKey now reconciler node table
    let pass := result.2.1
    let wanted := (databasePublicKeys table).toFinset
    (∀ summary, result.2.2 = .ok summary → summary.removalsPostponed = false →
      ownPublicKey ∉ node.keys →
        pass.node.keys = wanted ∧ contactIdentities pass.table = contactIdentities table ∧
        (∀ row ∈ pass.table.db.contacts, row.nodeSyncState = .onNode) ∧
        summary.failedCount = 0 ∧ summary.failedPublicKeys = [] ∧ pass.recordedErrors = [] ∧
        summary.addedCount = (wanted \ node.keys).card ∧
        summary.removedCount = (node.keys \ wanted).card ∧
        summary.nodeContactCount = pass.node.count ∧
        result.1.nodeContactCount = some (pass.node.count : ℤ)) ∧
      (∀ k, .addContact k ∈ pass.commands → k ∈ wanted ∧ k ∉ node.keys) ∧
      (∀ k, .removeContact k ∈ pass.commands →
        k ∈ node.keys ∧ k ∉ wanted ∧ k ≠ ownPublicKey) ∧
      (∀ k ∈ node.keys, k ∈ wanted ∨ k = ownPublicKey → k ∈ pass.node.keys) ∧
      (∀ summary, result.2.2 = .ok summary → summary.removalsPostponed = true →
        (∀ k, .removeContact k ∉ pass.commands) ∧ node.keys ⊆ pass.node.keys ∧
        summary.failedCount = 0 ∧ summary.failedPublicKeys = [] ∧ pass.recordedErrors = [] ∧
        (∀ row ∈ pass.table.db.contacts, row.nodeSyncState = .addFailed →
          ∃ before ∈ table.db.contacts, before.id = row.id ∧ before.nodeSyncState = .addFailed) ∧
        ∃ nextPassAt, result.1.nextPassAt = some nextPassAt ∧
          nextPassAt ≤ now + timing.postponedRemovalRetrySeconds) ∧
      ((surroundings.linkFailure 0).isSome →
        result.2.2 = .error .contactsNotListed ∧ pass.node = node ∧ pass.table = table ∧
          result.1 = reconciler) := by
  have hprogress : Progress (missingKeys node table) (extraKeys ownPublicKey node table)
      { node, table } (reconcileContactsOnce surroundings ownPublicKey node table).1 :=
    reconcileContactsOnce_progress hunique
  have hlisting : (surroundings.linkFailure 0).isSome →
      reconcileContactsOnce surroundings ownPublicKey node table =
        ({ node, table, commands := [.listContacts] }, .error .contactsNotListed) :=
    reconcileContactsOnce_of_not_listed
  have hcommands : ∀ pass, Progress (missingKeys node table) (extraKeys ownPublicKey node table)
      { node, table } pass →
      (∀ k, .addContact k ∈ pass.commands →
        k ∈ (databasePublicKeys table).toFinset ∧ k ∉ node.keys) ∧
      (∀ k, .removeContact k ∈ pass.commands →
        k ∈ node.keys ∧ k ∉ (databasePublicKeys table).toFinset ∧ k ≠ ownPublicKey) ∧
      ∀ k ∈ node.keys, k ∈ (databasePublicKeys table).toFinset ∨ k = ownPublicKey →
        k ∈ pass.node.keys := by
    rintro pass ⟨⟨more, hmore, hallowed⟩, hkept⟩
    rw [List.nil_append] at hmore
    refine ⟨fun k hk => ?_, fun k hk => ?_, fun k hk hstays => hkept k hk fun hextra => ?_⟩
    · have hallow : k ∈ missingKeys node table := hallowed (.addContact k) (hmore ▸ hk)
      rw [List.mem_toFinset]
      exact mem_missingKeys.1 hallow
    · have hallow : k ∈ extraKeys ownPublicKey node table :=
        hallowed (.removeContact k) (hmore ▸ hk)
      rw [List.mem_toFinset]
      exact mem_extraKeys.1 hallow
    · rw [List.mem_toFinset] at hstays
      obtain ⟨-, hunwanted, hother⟩ := mem_extraKeys.1 hextra
      exact hstays.elim hunwanted hother
  rcases reconcileContacts_cases timing surroundings ownPublicKey now reconciler node table with
    ⟨pass, aborted, honce, hresult⟩ | ⟨pass, summary, honce, hresult⟩
  · rw [hresult]
    rw [honce] at hprogress hlisting
    obtain ⟨hadds, hremoves, hstays⟩ := hcommands pass hprogress
    refine ⟨fun _ h => ?_, hadds, hremoves, hstays, fun _ h => ?_, fun hfailure => ?_⟩
    · cases h
    · cases h
    · obtain ⟨rfl, hreason⟩ := Prod.mk.inj (hlisting hfailure)
      exact ⟨hreason, rfl, rfl, rfl⟩
  · rw [hresult]
    rw [honce] at hprogress hlisting
    obtain ⟨hadds, hremoves, hstays⟩ := hcommands pass hprogress
    refine ⟨fun other h hpostponed hown => ?_, hadds, hremoves, hstays,
      fun other h hpostponed => ?_, fun hfailure => ?_⟩
    · obtain rfl := Except.ok.inj h
      obtain ⟨hconverged, rfl, hmarked⟩ := converged_pass hunique hfits hown honce hpostponed
      have hcount := hconverged.nodeContactCount hunique hown
      have hsummary := hconverged.summary
      refine ⟨hconverged.keys, hconverged.marks.identities, hmarked, ?_, ?_, hconverged.errors, ?_,
        ?_, hcount, congrArg some hcount⟩
      · rw [hsummary]
      · rw [hsummary]
      · rw [hsummary, length_missingKeys hunique]
      · rw [hsummary, length_extraKeys hown]
    · obtain rfl := Except.ok.inj h
      obtain ⟨hadded, hmarks, herrors, hfailed, hkeys⟩ := postponed_of_ok hunique honce hpostponed
      obtain ⟨⟨more, hmore, hallowed⟩, hkept⟩ := hadded
      rw [List.nil_append] at hmore
      refine ⟨fun k hk => ?_, fun k hk => hkept k hk List.not_mem_nil, hfailed, hkeys, herrors,
        hmarks.failed, ?_⟩
      · have hallow : k ∈ ([] : List Text) := hallowed (.removeContact k) (hmore ▸ hk)
        exact absurd hallow List.not_mem_nil
      · rw [if_pos hpostponed]
        exact reconciler.schedulePassIn_le timing.postponedRemovalRetrySeconds now
    · cases (Prod.mk.inj (hlisting hfailure)).2

/-- The contacts a and b of the database. -/
def sampleContactsTable : ContactsTable where
  db :=
    { Db.empty with
      contacts := (Table.empty.insert fun id => { id, publicKey := ['a'], addedAt := 1 }).insert
        fun id => { id, publicKey := ['b'], addedAt := 2 } }
  details := fun _ => ⟨[], 0, 0, 0⟩
  mirrors := fun _ => {}

/-- A full node, which holds b and an extra contact c. -/
def sampleFullNode : NodeContactTable where
  capacity := 2
  contacts := AList.insert ['b'] ⟨['b'], [], -1⟩ (AList.insert ['c'] ⟨['c'], [], -1⟩ ∅)

/-- The link holds, and the node becomes quiet. -/
def sampleSurroundings : Surroundings := ⟨fun _ => none, true, true, fun _ => 0⟩

/-- Contact a is refused, c is removed, and then a fits. -/
theorem contact_reconciliation_converges_sampleFullNode :
    (reconcileContacts {} sampleSurroundings true ['r'] 0 ⟨none, false, none⟩ sampleFullNode
        sampleContactsTable).2.1.node.keys = {['a'], ['b']} := by
  refine ((contact_reconciliation_converges {} sampleSurroundings ['r'] 0 ⟨none, false, none⟩
    sampleFullNode sampleContactsTable (by decide) (by decide)).1 ⟨1, 1, 0, false, 2, []⟩
    ?_ rfl (by decide)).1.trans (by decide)
  decide +kernel

end HoptalkRelay
