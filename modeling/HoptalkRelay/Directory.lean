/-
**Adding and deleting contacts and users.**

The functions of `directory/contacts.py`, `directory/users.py` and `directory/node_sync.py` that
write the tables of the delivery engine, and the deletion of uploads that were never completed
(`messaging/incoming_messages.py`).  A deletion takes with it every row that refers to a deleted
one, except for the columns that are set to null: a message's sender device, and what a packet
refers to.

Main definitions:

* `HoptalkRelay.createContact` — the operator adds a node;
* `HoptalkRelay.markContactOnNode`, `HoptalkRelay.markContactAddFailed`,
  `HoptalkRelay.returnContactToPendingAdd`, `HoptalkRelay.recordPathUpdate` — what the worker
  finds on the node;
* `HoptalkRelay.deleteRows` — a deletion with the rows that depend on it;
* `HoptalkRelay.deleteContact`, `HoptalkRelay.deleteUser`,
  `HoptalkRelay.deleteExpiredIncompleteMessages` — the three deletions.
-/

import HoptalkRelay.IncomingMessages

set_option relaxedAutoImplicit false
set_option autoImplicit false

namespace HoptalkRelay

open Relational

/-! ### Adding a contact -/

/-- The size of the companion firmware's contact table. -/
def contactCapacity : ℕ := 350

/-- The type of a node that can be a contact. -/
def chatNodeType : ℕ := 1

inductive ContactAdditionProblem
  | notAChatNode
  | alreadyAContact
  | prefixCollision
  | relayNodeItself
  | capacityReached
  deriving DecidableEq, Repr

/-- What would stop a node from becoming a contact. -/
def checkContactAddition (db : Db) (relayNodePublicKeys : List Text) (publicKey : Text)
    (nodeType : ℕ) : List ContactAdditionProblem :=
  (if nodeType ≠ chatNodeType then [.notAChatNode] else []) ++
  (if db.contacts.any fun contact => contact.publicKey = publicKey then [.alreadyAContact]
    else if db.contacts.any fun contact =>
        contact.publicKeyPrefix = publicKey.take publicKeyPrefixLength then [.prefixCollision]
    else []) ++
  (if relayNodePublicKeys.contains publicKey then [.relayNodeItself] else []) ++
  (if contactCapacity ≤ db.contacts.rows.length then [.capacityReached] else [])

/-- A node the relay node must hold from now on, or the problems that stop it. -/
def createContact (db : Db) (relayNodePublicKeys : List Text) (publicKey : Text) (nodeType : ℕ)
    (now : Time) : Except (List ContactAdditionProblem) (Db × ℕ) :=
  match checkContactAddition db relayNodePublicKeys publicKey nodeType with
  | [] =>
      .ok ({ db with
          contacts := db.contacts.insert fun id => { id, publicKey, addedAt := now } },
        db.contacts.nextKey)
  | problems => .error problems

/-! ### What the worker finds on the node -/

/-- The node holds the contact; one already known to be there keeps when it was first found. -/
def markContactOnNode (db : Db) (contactId : ℕ) (publicKey : Text) (now : Time) : Db :=
  { db with
    contacts := db.contacts.updateWhere
      (fun row => row.id = contactId && row.publicKey = publicKey &&
        !(row.nodeSyncState = .onNode && row.nodeSyncedAt.isSome))
      fun row =>
        { row with nodeSyncState := .onNode, nodeSyncError := [], nodeSyncedAt := some now } }

/-- The node refused the contact. -/
def markContactAddFailed (db : Db) (contactId : ℕ) (publicKey syncError : Text) (now : Time) :
    Db :=
  { db with
    contacts := db.contacts.updateWhere
      (fun row => row.id = contactId && row.publicKey = publicKey)
      fun row =>
        { row with
          nodeSyncState := .addFailed
          nodeSyncError := syncError
          nodeSyncedAt := some now } }

/-- The node no longer holds the contact. -/
def returnContactToPendingAdd (db : Db) (publicKey syncError : Text) : Db :=
  { db with
    contacts := db.contacts.updateWhere (fun row => row.publicKey = publicKey) fun row =>
      { row with nodeSyncState := .pendingAdd, nodeSyncError := syncError } }

/-- The node learned a new route to the contact. -/
def recordPathUpdate (db : Db) (publicKey : Text) (now : Time) : Db :=
  { db with
    contacts := db.contacts.updateWhere (fun row => row.publicKey = publicKey) fun row =>
      { row with lastPathUpdateAt := some now } }

/-! ### Deletions -/

/-- The rows a deletion starts from. -/
structure DeletionRoots where
  user : User → Bool := fun _ => false
  contact : Contact → Bool := fun _ => false
  message : Message → Bool := fun _ => false

section Deletions

variable (db : Db) (roots : DeletionRoots)

def isUserDeleted (userId : ℕ) : Bool := (db.users.get? userId).any roots.user

def isContactRowDeleted (contact : Contact) : Bool :=
  roots.contact contact || contact.userId.any (isUserDeleted db roots)

def isContactDeleted (contactId : ℕ) : Bool :=
  (db.contacts.get? contactId).any (isContactRowDeleted db roots)

def isMessageRowDeleted (message : Message) : Bool :=
  roots.message message || isUserDeleted db roots message.senderId ||
    isUserDeleted db roots message.recipientId

def isMessageDeleted (messageId : ℕ) : Bool :=
  (db.messages.get? messageId).any (isMessageRowDeleted db roots)

def isSessionRowDeleted (session : RefreshSession) : Bool :=
  isContactDeleted db roots session.deviceId || isUserDeleted db roots session.peerId

def isSessionDeleted (sessionId : ℕ) : Bool :=
  (db.sessions.get? sessionId).any (isSessionRowDeleted db roots)

def isDeliveryRowDeleted (delivery : MessageDelivery) : Bool :=
  isMessageDeleted db roots delivery.messageId || isContactDeleted db roots delivery.deviceId ||
    delivery.refreshSessionId.any (isSessionDeleted db roots)

def isReceiptRowDeleted (receipt : ReceiptNotification) : Bool :=
  isMessageDeleted db roots receipt.messageId || isContactDeleted db roots receipt.deviceId

/-- A kept message loses a sender device that is deleted. -/
def forgetSenderDevice (message : Message) : Message :=
  { message with
    senderDeviceId := message.senderDeviceId.filter fun id => !isContactDeleted db roots id }

theorem id_forgetSenderDevice (message : Message) :
    (forgetSenderDevice db roots message).id = message.id := rfl

/-- A packet stays in the traffic log and loses what is deleted. -/
def forgetPacketReferences (packet : OutboundPacket) : OutboundPacket :=
  { packet with
    contactId := packet.contactId.filter fun id => !isContactDeleted db roots id
    messageDeliveryId := packet.messageDeliveryId.filter fun id =>
      !(db.deliveries.get? id).any (isDeliveryRowDeleted db roots)
    receiptNotificationId := packet.receiptNotificationId.filter fun id =>
      !(db.receipts.get? id).any (isReceiptRowDeleted db roots) }

theorem id_forgetPacketReferences (packet : OutboundPacket) :
    (forgetPacketReferences db roots packet).id = packet.id := rfl

/-- Delete the roots with every row that depends on them. -/
def deleteRows : Db where
  users := db.users.deleteWhere roots.user
  contacts := db.contacts.deleteWhere (isContactRowDeleted db roots)
  messages := (db.messages.deleteWhere (isMessageRowDeleted db roots)).updateWhere
    (fun _ => true) (forgetSenderDevice db roots)
    fun message _ => id_forgetSenderDevice db roots message
  deliveries := db.deliveries.deleteWhere (isDeliveryRowDeleted db roots)
  receipts := db.receipts.deleteWhere (isReceiptRowDeleted db roots)
  sessions := db.sessions.deleteWhere (isSessionRowDeleted db roots)
  packets := db.packets.updateWhere (fun _ => true) (forgetPacketReferences db roots)
    fun packet _ => id_forgetPacketReferences db roots packet

end Deletions

/-- The operator deletes a contact with its deliveries, receipts and refresh sessions. -/
def deleteContact (db : Db) (contactId : ℕ) : Db :=
  deleteRows db { contact := fun contact => contact.id = contactId }

/-- The operator deletes a user with its devices, every message it sent or received and every
refresh session with it as peer. -/
def deleteUser (db : Db) (userId : ℕ) : Db :=
  deleteRows db { user := fun user => user.id = userId }

/-- Drop an upload whose last part arrived 24 hours ago. -/
def deleteExpiredIncompleteMessages (db : Db) (now : Time) : Db :=
  deleteRows db { message := isExpiredIncompleteMessage now }

end HoptalkRelay
