/-
**Converging the node's contact table to the contacts table.**

The functions of `worker/contact_reconciler.py`, over those of `directory/node_sync.py`.  The node
is its contact table, which refuses a new contact only when it is full.  What a pass meets on its
way is given with it: where the link fails, whether the node became quiet in time, whether it still
is the listed one.  The contacts are the same ones during the pass.

Main definitions:

* `HoptalkRelay.NodeContactTable` — the node;
* `HoptalkRelay.ContactsTable` — the contacts, and the marks of a pass;
* `HoptalkRelay.addMissingContacts`, `HoptalkRelay.removeExtraContacts`,
  `HoptalkRelay.retryContactsRefusedForFullTable`, `HoptalkRelay.markContactsFoundOnNode` — the
  steps of a pass;
* `HoptalkRelay.reconcileContactsOnce`, `HoptalkRelay.reconcileContacts` — **a pass**.
-/

import HoptalkRelay.OutboundPackets
import HoptalkRelay.ReplyQueue
import Mathlib.Data.List.AList
import Mathlib.Data.Char
import Mathlib.Data.List.Lex

set_option relaxedAutoImplicit false
set_option autoImplicit false

namespace HoptalkRelay

open Relational

/-! ### The node -/

structure NodeContactRecord where
  publicKey : Text
  name : Text
  advertTimestamp : ℕ
  latitudeMicrodegrees : ℤ
  longitudeMicrodegrees : ℤ
  deriving DecidableEq

/-- How the library reports a contact without a known route. -/
def listedFloodRouteLength : ℤ := -1

/-- One contact of the node's own table. -/
structure ListedNodeContact where
  publicKey : Text
  name : Text
  outPathLength : ℤ
  deriving DecidableEq

/-- The node's contacts, keyed by public key. -/
structure NodeContactTable where
  capacity : ℕ
  contacts : AList fun _ : Text => ListedNodeContact

namespace NodeContactTable

def count (node : NodeContactTable) : ℕ := node.contacts.keys.length

/-- A contact is always added without a route; the answer is an error code or none. -/
def addContact (node : NodeContactTable) (record : NodeContactRecord) :
    NodeContactTable × Option ℕ :=
  if record.publicKey ∉ node.contacts ∧ node.capacity ≤ node.count then
    (node, some errCodeTableFull)
  else
    ({ node with
        contacts := node.contacts.insert record.publicKey
          ⟨record.publicKey, record.name, listedFloodRouteLength⟩ }, none)

/-- A contact the node does not hold is as good as removed. -/
def removeContact (node : NodeContactTable) (publicKey : Text) : NodeContactTable :=
  { node with contacts := node.contacts.erase publicKey }

end NodeContactTable

/-- What a pass asks of the node. -/
inductive NodeContactCommand
  | listContacts
  | addContact (publicKey : Text)
  | removeContact (publicKey : Text)
  deriving DecidableEq, Repr

/-! ### The contacts -/

/-- The columns of a contact that the node's record is built from. -/
structure ContactDetails where
  name : Text
  advertTimestamp : ℕ
  latitudeMicrodegrees : ℤ
  longitudeMicrodegrees : ℤ

/-- The display mirrors of what the node holds. -/
structure ContactMirror where
  nodeName : Text := []
  nodeOutPathLength : Option ℤ := none
  deriving DecidableEq

/-- The contacts table: its rows, and under their ids the columns only the reconciler uses. -/
structure ContactsTable where
  db : Db
  details : ℕ → ContactDetails
  mirrors : ℕ → ContactMirror

structure ContactForNode where
  contactId : ℕ
  publicKey : Text
  name : Text
  advertTimestamp : ℕ
  latitudeMicrodegrees : ℤ
  longitudeMicrodegrees : ℤ
  nodeSyncState : NodeSyncState

/-- Every contact, in id order: the order in which missing contacts are added to the node. -/
def listContactsForNode (table : ContactsTable) : List ContactForNode :=
  table.db.contacts.rows.map fun row =>
    { contactId := row.id
      publicKey := row.publicKey
      name := (table.details row.id).name
      advertTimestamp := (table.details row.id).advertTimestamp
      latitudeMicrodegrees := (table.details row.id).latitudeMicrodegrees
      longitudeMicrodegrees := (table.details row.id).longitudeMicrodegrees
      nodeSyncState := row.nodeSyncState }

namespace ContactsTable

variable (table : ContactsTable) (contactId : ℕ) (publicKey : Text)

/-- The node holds the contact: its row is marked, and its mirrors are refreshed. -/
def markContactOnNode (nodeName : Text) (nodeOutPathLength : Option ℤ) (now : Time) :
    ContactsTable :=
  { table with
    db := HoptalkRelay.markContactOnNode table.db contactId publicKey now
    mirrors :=
      if table.db.contacts.any fun row => row.id = contactId && row.publicKey = publicKey then
        Function.update table.mirrors contactId ⟨nodeName, nodeOutPathLength⟩
      else table.mirrors }

/-- The node refused the contact; the next pass tries again. -/
def markContactAddFailed (syncError : Text) (now : Time) : ContactsTable :=
  { table with
    db := HoptalkRelay.markContactAddFailed table.db contactId publicKey syncError now }

end ContactsTable

/-! ### A pass -/

structure ReconciliationSummary where
  addedCount : ℕ := 0
  removedCount : ℕ := 0
  failedCount : ℕ := 0
  removalsPostponed : Bool := false
  nodeContactCount : ℤ := 0
  failedPublicKeys : List Text := []
  deriving DecidableEq

/-- Why a pass stopped before it changed anything more. -/
inductive ReconciliationAborted
  | relayModeNotRunning
  | contactsNotListed
  | addFailed (contactId : ℕ)
  | listedNodeGone
  | removalFailed
  deriving DecidableEq, Repr

/-- What a pass meets. -/
structure Surroundings where
  /-- The link fails at a command, which the node then executed or not. -/
  linkFailure : ℕ → Option Bool
  /-- Before the wait for the removals ended, no packet awaited an acknowledgement. -/
  isQuiet : Bool
  /-- The relay still runs, on the connection the node was listed on. -/
  isListedNodeStillRunning : Bool
  /-- The wall clock after so many commands. -/
  clockAt : ℕ → Time

/-- A pass on its way. -/
structure ReconciliationPass where
  node : NodeContactTable
  table : ContactsTable
  /-- What the node was asked so far. -/
  commands : List NodeContactCommand := []
  /-- What the worker reported so far. -/
  recordedErrors : List Text := []
  summary : ReconciliationSummary := {}

namespace ReconciliationPass

variable (surroundings : Surroundings) (pass : ReconciliationPass)

def now : Time := surroundings.clockAt pass.commands.length

/-- The node answers a command, unless the link fails meanwhile. -/
def command (nodeContactCommand : NodeContactCommand) (answered : NodeContactTable) :
    ReconciliationPass × Bool :=
  let commands := pass.commands ++ [nodeContactCommand]
  match surroundings.linkFailure pass.commands.length with
  | none => ({ pass with commands, node := answered }, true)
  | some wasExecuted =>
      ({ pass with commands, node := if wasExecuted then answered else pass.node }, false)

/-- None on success, otherwise the node's error code; a lost link aborts the pass. -/
def addContact (contact : ContactForNode) :
    ReconciliationPass × Except ReconciliationAborted (Option ℕ) :=
  let (node, errorCode) := pass.node.addContact
    { publicKey := contact.publicKey
      name := contact.name
      advertTimestamp := contact.advertTimestamp
      latitudeMicrodegrees := contact.latitudeMicrodegrees
      longitudeMicrodegrees := contact.longitudeMicrodegrees }
  let (pass, wasAnswered) := pass.command surroundings (.addContact contact.publicKey) node
  (pass, if wasAnswered then .ok errorCode else .error (.addFailed contact.contactId))

def recordContactOnNode (contact : ContactForNode) : ReconciliationPass :=
  { pass with
    table := pass.table.markContactOnNode contact.contactId contact.publicKey contact.name
      (some (-1)) (pass.now surroundings) }

/-- A contact the node took. -/
def countAdded (contact : ContactForNode) : ReconciliationPass :=
  let pass := pass.recordContactOnNode surroundings contact
  { pass with
    summary := { pass.summary with
      addedCount := pass.summary.addedCount + 1
      nodeContactCount := pass.summary.nodeContactCount + 1 } }

def recordAddFailed (contact : ContactForNode) (syncError : Text) : ReconciliationPass :=
  let described :=
    if contact.name ≠ [] then contact.name else contact.publicKey.take publicKeyPrefixLength
  { pass with
    table := pass.table.markContactAddFailed contact.contactId contact.publicKey syncError
      (pass.now surroundings)
    recordedErrors := pass.recordedErrors ++
      ["Contact ".toList ++ described ++ " could not be added to the node: ".toList ++ syncError]
    summary := { pass.summary with
      failedCount := pass.summary.failedCount + 1
      failedPublicKeys := pass.summary.failedPublicKeys ++ [contact.publicKey] } }

end ReconciliationPass

def contactTableFullError : Text := "The node's contact table is full.".toList

def describeAddRefusal (errorCode : ℕ) : Text :=
  "The node refused the contact with error ".toList ++ decimal errorCode ++ ['.']

/-- Every missing contact once; those refused for a full table are kept for later. -/
def addMissingContacts (surroundings : Surroundings) :
    ReconciliationPass → List ContactForNode →
      ReconciliationPass × Except ReconciliationAborted (List ContactForNode)
  | pass, [] => (pass, .ok [])
  | pass, contact :: contacts =>
      match pass.addContact surroundings contact with
      | (pass, .error aborted) => (pass, .error aborted)
      | (pass, .ok none) =>
          addMissingContacts surroundings (pass.countAdded surroundings contact) contacts
      | (pass, .ok (some errorCode)) =>
          if errorCode = errCodeTableFull then
            match addMissingContacts surroundings pass contacts with
            | (pass, .error aborted) => (pass, .error aborted)
            | (pass, .ok refused) => (pass, .ok (contact :: refused))
          else
            addMissingContacts surroundings
              (pass.recordAddFailed surroundings contact (describeAddRefusal errorCode)) contacts

/-- The removals themselves, while sending is paused. -/
def removeContacts (surroundings : Surroundings) :
    ReconciliationPass → List Text → ReconciliationPass × Except ReconciliationAborted Unit
  | pass, [] => (pass, .ok ())
  | pass, publicKey :: publicKeys =>
      match pass.command surroundings (.removeContact publicKey)
          (pass.node.removeContact publicKey) with
      | (pass, false) => (pass, .error .removalFailed)
      | (pass, true) =>
          removeContacts surroundings
            { pass with
              summary := { pass.summary with
                removedCount := pass.summary.removedCount + 1
                nodeContactCount := pass.summary.nodeContactCount - 1 } }
            publicKeys

/-- True when the extra contacts are gone; while packets await acknowledgements they stay. -/
def removeExtraContacts (surroundings : Surroundings) (pass : ReconciliationPass)
    (extraPublicKeys : List Text) : ReconciliationPass × Except ReconciliationAborted Bool :=
  if extraPublicKeys = [] then (pass, .ok false)
  else if ¬ surroundings.isQuiet then
    ({ pass with summary := { pass.summary with removalsPostponed := true } }, .ok false)
  else if ¬ surroundings.isListedNodeStillRunning then (pass, .error .listedNodeGone)
  else
    match removeContacts surroundings pass extraPublicKeys with
    | (pass, .error aborted) => (pass, .error aborted)
    | (pass, .ok ()) => (pass, .ok true)

def retryContactsRefusedForFullTable (surroundings : Surroundings)
    (removalsDone extraContactsRemain : Bool) :
    ReconciliationPass → List ContactForNode →
      ReconciliationPass × Except ReconciliationAborted Unit
  | pass, [] => (pass, .ok ())
  | pass, contact :: contacts =>
      -- the pass that retries the postponed removals adds it afterwards
      if extraContactsRemain then
        retryContactsRefusedForFullTable surroundings removalsDone extraContactsRemain pass contacts
      else
        match if removalsDone then pass.addContact surroundings contact
            else (pass, .ok (some errCodeTableFull)) with
        | (pass, .error aborted) => (pass, .error aborted)
        | (pass, .ok none) =>
            retryContactsRefusedForFullTable surroundings removalsDone extraContactsRemain
              (pass.countAdded surroundings contact) contacts
        | (pass, .ok (some errorCode)) =>
            retryContactsRefusedForFullTable surroundings removalsDone extraContactsRemain
              (pass.recordAddFailed surroundings contact
                (if errorCode = errCodeTableFull then contactTableFullError
                  else describeAddRefusal errorCode)) contacts

/-- The contacts that were on the node before. -/
def markContactsFoundOnNode (surroundings : Surroundings) (pass : ReconciliationPass)
    (databaseContacts : List ContactForNode)
    (contactsOnNode : AList fun _ : Text => ListedNodeContact) : ReconciliationPass :=
  let now := pass.now surroundings
  { pass with
    table := databaseContacts.foldl (fun table contact =>
      match contactsOnNode.lookup contact.publicKey with
      | none => table
      | some listedContact =>
          table.markContactOnNode contact.contactId contact.publicKey listedContact.name
            (some listedContact.outPathLength) now) pass.table }

def findMissingContacts (databaseContacts : List ContactForNode)
    (contactsOnNode : AList fun _ : Text => ListedNodeContact) : List ContactForNode :=
  databaseContacts.filter fun contact => contact.publicKey ∉ contactsOnNode

def findExtraPublicKeys (databaseContacts : List ContactForNode)
    (contactsOnNode : AList fun _ : Text => ListedNodeContact) (ownPublicKey : Text) : List Text :=
  orderBy id (contactsOnNode.keys.filter fun publicKey =>
    publicKey ∉ databaseContacts.map ContactForNode.publicKey ∧ publicKey ≠ ownPublicKey)

/-- The node is listed first; the contacts and the relay's own key are read afterwards. -/
def reconcileContactsOnce (surroundings : Surroundings) (ownPublicKey : Text)
    (node : NodeContactTable) (table : ContactsTable) :
    ReconciliationPass × Except ReconciliationAborted ReconciliationSummary :=
  match ReconciliationPass.command surroundings { node, table } .listContacts node with
  | (pass, false) => (pass, .error .contactsNotListed)
  | (pass, true) =>
      let contactsOnNode := node.contacts
      let databaseContacts := listContactsForNode pass.table
      let pass := { pass with summary := { nodeContactCount := contactsOnNode.keys.length } }
      let missingContacts := findMissingContacts databaseContacts contactsOnNode
      let extraPublicKeys := findExtraPublicKeys databaseContacts contactsOnNode ownPublicKey
      match addMissingContacts surroundings pass missingContacts with
      | (pass, .error aborted) => (pass, .error aborted)
      | (pass, .ok contactsRefusedForFullTable) =>
          match removeExtraContacts surroundings pass extraPublicKeys with
          | (pass, .error aborted) => (pass, .error aborted)
          | (pass, .ok removalsDone) =>
              let extraContactsRemain : Bool := extraPublicKeys ≠ [] ∧ ¬ removalsDone
              match retryContactsRefusedForFullTable surroundings removalsDone extraContactsRemain
                  pass contactsRefusedForFullTable with
              | (pass, .error aborted) => (pass, .error aborted)
              | (pass, .ok ()) =>
                  let pass := markContactsFoundOnNode surroundings pass databaseContacts
                    contactsOnNode
                  (pass, .ok pass.summary)

/-! ### The reconciler -/

/-- What the reconciler keeps between passes. -/
structure ContactReconciler where
  nextPassAt : Option Seconds
  nextPassMoved : Bool
  /-- The contacts on the node, as the status row shows them. -/
  nodeContactCount : Option ℤ

/-- The fields of the worker's timing that say when passes run. -/
structure ReconciliationTiming where
  reconciliationIntervalSeconds : Seconds := 600
  postponedRemovalRetrySeconds : Seconds := 60

def ContactReconciler.schedulePassIn (reconciler : ContactReconciler) (delaySeconds now : Seconds) :
    ContactReconciler :=
  let requestedPassAt := now + delaySeconds
  if reconciler.nextPassAt.all (requestedPassAt < ·) then
    { reconciler with nextPassAt := some requestedPassAt, nextPassMoved := true }
  else reconciler

/-- One full pass. -/
def reconcileContacts (timing : ReconciliationTiming) (surroundings : Surroundings)
    (isRunning : Bool) (ownPublicKey : Text) (now : Seconds) (reconciler : ContactReconciler)
    (node : NodeContactTable) (table : ContactsTable) :
    ContactReconciler × ReconciliationPass ×
      Except ReconciliationAborted ReconciliationSummary :=
  if ¬ isRunning then (reconciler, { node, table }, .error .relayModeNotRunning)
  else
    match reconcileContactsOnce surroundings ownPublicKey node table with
    | (pass, .error aborted) => (reconciler, pass, .error aborted)
    | (pass, .ok summary) =>
        let reconciler :=
          if summary.removalsPostponed then
            reconciler.schedulePassIn timing.postponedRemovalRetrySeconds now
          else reconciler
        ({ reconciler with nodeContactCount := some summary.nodeContactCount }, pass, .ok summary)

end HoptalkRelay
