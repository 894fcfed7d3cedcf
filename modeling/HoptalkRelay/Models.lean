/-
**The tables of the relay.**

The rows of `directory/models.py` and `messaging/models.py`, one structure per table, and the
database that holds the tables.  A column the delivery engine neither reads nor writes is left
out: a contact's card, name, position and display mirrors, and the labels the traffic log keeps.

A foreign key is the primary key of the row it refers to.  The value constraints of a single
column are part of its type (`Username`, `MessageId`, `PartCount`); the constraints between
columns and between tables are proved of every reachable database.

Main definitions:

* `HoptalkRelay.User`, `HoptalkRelay.Contact`, `HoptalkRelay.Message`,
  `HoptalkRelay.RefreshSession`, `HoptalkRelay.MessageDelivery`,
  `HoptalkRelay.ReceiptNotification`, `HoptalkRelay.OutboundPacket` — the rows;
* `HoptalkRelay.Db` — the database.
-/

import HoptalkRelay.Relational.Table
import HoptalkRelay.Protocol.Formatting
import HoptalkRelay.RetrySchedule

set_option relaxedAutoImplicit false
set_option autoImplicit false

namespace HoptalkRelay

open Relational

/-! ### Users and contacts -/

/-- An account, created only by a sign-in request of a new username. -/
structure User where
  id : ℕ
  username : Username
  passwordHash : Text
  createdAt : Time
  deriving DecidableEq

instance : Keyed User := ⟨User.id⟩

/-- The generated column every lookup uses. -/
def User.usernameLookup (user : User) : Text := normalizeUsernameForLookup user.username.val

inductive NodeSyncState
  | pendingAdd
  | onNode
  | addFailed
  deriving DecidableEq, Repr

/-- A node the relay holds as a contact; a contact with a user is that user's device. -/
structure Contact where
  id : ℕ
  publicKey : Text
  addedAt : Time
  userId : Option ℕ := none
  linkedAt : Option Time := none
  failedSignInCount : ℕ := 0
  failedSignInWindowStartedAt : Option Time := none
  nodeSyncState : NodeSyncState := .pendingAdd
  nodeSyncError : Text := []
  nodeSyncedAt : Option Time := none
  /-- Any inbound direct message from this contact, firmware-level repeats included. -/
  lastHeardAt : Option Time := none
  lastPathUpdateAt : Option Time := none
  deriving DecidableEq

instance : Keyed Contact := ⟨Contact.id⟩

def publicKeyPrefixLength : ℕ := 12

/-- The generated column of the first six bytes of the key. -/
def Contact.publicKeyPrefix (contact : Contact) : Text :=
  contact.publicKey.take publicKeyPrefixLength

/-! ### Messages -/

/-- A message from its first part on: incomplete while `acceptedAt` is null. -/
structure Message where
  id : ℕ
  senderId : ℕ
  /-- The device that sent the first part; null once that device was deleted. -/
  senderDeviceId : Option ℕ
  recipientId : ℕ
  clientMessageId : MessageId
  partCount : PartCount
  /-- One entry per part: the text exactly as received, or null while the part is missing. -/
  partTexts : List (Option Text)
  /-- The parts concatenated, set when the last part arrives. -/
  text : Option Text := none
  createdAt : Time
  lastPartAt : Time
  acceptedAt : Option Time := none
  deliveredAt : Option Time := none
  readAt : Option Time := none
  deriving DecidableEq

instance : Keyed Message := ⟨Message.id⟩

/-! ### Refresh sessions -/

inductive RefreshSessionState
  | active
  | completed
  | stopped
  | cancelled
  deriving DecidableEq, Repr

/-- Re-delivery of a peer's missed messages to one device, one at a time. -/
structure RefreshSession where
  id : ℕ
  deviceId : ℕ
  peerId : ℕ
  state : RefreshSessionState := .active
  requestedAt : Time
  finishedAt : Option Time := none
  requestedForAllPeers : Bool := false
  messagesTotal : ℕ := 0
  requestedByInboundId : Option ℕ := none
  deriving DecidableEq

instance : Keyed RefreshSession := ⟨RefreshSession.id⟩

/-! ### Deliveries -/

inductive DeliveryState
  | pending
  | queuedForRefresh
  | delivered
  | failed
  | cancelled
  deriving DecidableEq, Repr

inductive FailureReason
  | attemptsExhausted
  | refreshStopped
  deriving DecidableEq, Repr

/-- One message to one device of its recipient. -/
structure MessageDelivery where
  id : ℕ
  messageId : ℕ
  deviceId : ℕ
  state : DeliveryState := .pending
  /-- The owner while queued or the session's head; kept on terminal rows for the record. -/
  refreshSessionId : Option ℕ := none
  attemptCount : ℕ := 0
  maximumAttempts : ℕ
  armGeneration : ℕ := 1
  nextAttemptAt : Option Time := none
  /-- Bit n - 1 is part n still to be sent in the current round. -/
  roundPendingPartsMask : ℕ := 0
  /-- The set of the device's latest status. -/
  partsReceivedMask : ℕ := 0
  /-- Set means "in progress" for the per-device cap on active deliveries. -/
  roundStartedAt : Option Time := none
  lastSentAt : Option Time := none
  lastAcknowledgementReceivedAt : Option Time := none
  deliveredAt : Option Time := none
  readAt : Option Time := none
  failedAt : Option Time := none
  cancelledAt : Option Time := none
  failureReason : Option FailureReason := none
  createdAt : Time
  deriving DecidableEq

instance : Keyed MessageDelivery := ⟨MessageDelivery.id⟩

/-! ### Receipts -/

inductive ReceiptState
  | pending
  | confirmed
  | failed
  | cancelled
  deriving DecidableEq, Repr

/-- The delivered and read status of one message for one device of its sender. -/
structure ReceiptNotification where
  id : ℕ
  messageId : ℕ
  deviceId : ℕ
  targetLevel : ℕ
  confirmedLevel : ℕ := 0
  state : ReceiptState := .pending
  attemptCount : ℕ := 0
  maximumAttempts : ℕ
  armGeneration : ℕ := 1
  /-- The packet of the current attempt is still to be sent. -/
  roundPending : Bool := false
  nextAttemptAt : Option Time := none
  roundStartedAt : Option Time := none
  lastSentAt : Option Time := none
  lastConfirmationReceivedAt : Option Time := none
  failedAt : Option Time := none
  cancelledAt : Option Time := none
  createdAt : Time
  updatedAt : Time
  deriving DecidableEq

instance : Keyed ReceiptNotification := ⟨ReceiptNotification.id⟩

/-! ### Packets -/

inductive PacketPurpose
  | reply
  | delivery
  | receipt
  deriving DecidableEq, Repr

inductive PacketState
  | prepared
  | queuedOnNode
  | nodeAcknowledged
  | acknowledgementTimedOut
  | rejectedByNode
  | outcomeUnknown
  deriving DecidableEq, Repr

inductive PacketRoute
  | flood
  | direct
  deriving DecidableEq, Repr

inductive RouteResetState
  | notApplicable
  | pending
  | performed
  | skippedPathUpdate
  | skippedApplicationEvidence
  | skippedLateAcknowledgement
  | droppedByRestart
  deriving DecidableEq, Repr

/-- A direct message the relay sends. -/
structure OutboundPacket where
  id : ℕ
  contactId : Option ℕ
  purpose : PacketPurpose
  messageDeliveryId : Option ℕ := none
  partNumber : Option ℕ := none
  receiptNotificationId : Option ℕ := none
  receiptLevel : Option ℕ := none
  armGeneration : Option ℕ := none
  attemptNumber : Option ℕ := none
  replyKey : Text := []
  text : Text
  senderTimestamp : ℤ
  state : PacketState := .prepared
  route : Option PacketRoute := none
  expectedAcknowledgementCode : Text := []
  suggestedTimeoutMilliseconds : Option ℕ := none
  preparedAt : Option Time
  queuedAt : Option Time := none
  acknowledgementDeadlineAt : Option Time := none
  acknowledgedAt : Option Time := none
  roundTripMilliseconds : Option ℕ := none
  nodeErrorCode : Option ℕ := none
  routeResetState : RouteResetState := .notApplicable
  routeResetDecidedAt : Option Time := none
  connectionGeneration : ℕ
  deriving DecidableEq

instance : Keyed OutboundPacket := ⟨OutboundPacket.id⟩

/-! ### The database -/

@[simp] theorem key_user (u : User) : key u = u.id := rfl
@[simp] theorem key_contact (c : Contact) : key c = c.id := rfl
@[simp] theorem key_message (m : Message) : key m = m.id := rfl
@[simp] theorem key_session (s : RefreshSession) : key s = s.id := rfl
@[simp] theorem key_delivery (d : MessageDelivery) : key d = d.id := rfl
@[simp] theorem key_receipt (r : ReceiptNotification) : key r = r.id := rfl
@[simp] theorem key_packet (p : OutboundPacket) : key p = p.id := rfl

/-- The tables the delivery engine works on. -/
structure Db where
  users : Table User
  contacts : Table Contact
  messages : Table Message
  deliveries : Table MessageDelivery
  receipts : Table ReceiptNotification
  sessions : Table RefreshSession
  packets : Table OutboundPacket

namespace Db

/-- The database before the first contact is added. -/
def empty : Db :=
  ⟨Table.empty, Table.empty, Table.empty, Table.empty, Table.empty, Table.empty, Table.empty⟩

/-! Replacing one row of a table. -/

def putContact (db : Db) (contact : Contact) : Db :=
  { db with contacts := db.contacts.put contact }

def putMessage (db : Db) (message : Message) : Db :=
  { db with messages := db.messages.put message }

def putDelivery (db : Db) (delivery : MessageDelivery) : Db :=
  { db with deliveries := db.deliveries.put delivery }

def putReceipt (db : Db) (receipt : ReceiptNotification) : Db :=
  { db with receipts := db.receipts.put receipt }

def putSession (db : Db) (session : RefreshSession) : Db :=
  { db with sessions := db.sessions.put session }

section Put

variable {db : Db}

@[simp] theorem users_putDelivery (d : MessageDelivery) : (db.putDelivery d).users = db.users := rfl
@[simp] theorem contacts_putDelivery (d : MessageDelivery) :
    (db.putDelivery d).contacts = db.contacts := rfl
@[simp] theorem messages_putDelivery (d : MessageDelivery) :
    (db.putDelivery d).messages = db.messages := rfl
@[simp] theorem deliveries_putDelivery (d : MessageDelivery) :
    (db.putDelivery d).deliveries = db.deliveries.put d := rfl
@[simp] theorem receipts_putDelivery (d : MessageDelivery) :
    (db.putDelivery d).receipts = db.receipts := rfl
@[simp] theorem sessions_putDelivery (d : MessageDelivery) :
    (db.putDelivery d).sessions = db.sessions := rfl
@[simp] theorem packets_putDelivery (d : MessageDelivery) :
    (db.putDelivery d).packets = db.packets := rfl

@[simp] theorem users_putReceipt (r : ReceiptNotification) :
    (db.putReceipt r).users = db.users := rfl
@[simp] theorem contacts_putReceipt (r : ReceiptNotification) :
    (db.putReceipt r).contacts = db.contacts := rfl
@[simp] theorem messages_putReceipt (r : ReceiptNotification) :
    (db.putReceipt r).messages = db.messages := rfl
@[simp] theorem deliveries_putReceipt (r : ReceiptNotification) :
    (db.putReceipt r).deliveries = db.deliveries := rfl
@[simp] theorem receipts_putReceipt (r : ReceiptNotification) :
    (db.putReceipt r).receipts = db.receipts.put r := rfl
@[simp] theorem sessions_putReceipt (r : ReceiptNotification) :
    (db.putReceipt r).sessions = db.sessions := rfl
@[simp] theorem packets_putReceipt (r : ReceiptNotification) :
    (db.putReceipt r).packets = db.packets := rfl

@[simp] theorem users_putMessage (m : Message) : (db.putMessage m).users = db.users := rfl
@[simp] theorem contacts_putMessage (m : Message) : (db.putMessage m).contacts = db.contacts := rfl
@[simp] theorem messages_putMessage (m : Message) :
    (db.putMessage m).messages = db.messages.put m := rfl
@[simp] theorem deliveries_putMessage (m : Message) :
    (db.putMessage m).deliveries = db.deliveries := rfl
@[simp] theorem receipts_putMessage (m : Message) : (db.putMessage m).receipts = db.receipts := rfl
@[simp] theorem sessions_putMessage (m : Message) : (db.putMessage m).sessions = db.sessions := rfl
@[simp] theorem packets_putMessage (m : Message) : (db.putMessage m).packets = db.packets := rfl

end Put

/-- The user a device is linked to. -/
def deviceUserId (db : Db) (deviceId : ℕ) : Option ℕ :=
  (db.contacts.get? deviceId).bind Contact.userId

theorem deviceUserId_congr {db db' : Db} (hcontacts : db'.contacts = db.contacts)
    (deviceId : ℕ) : db'.deviceUserId deviceId = db.deviceUserId deviceId := by
  rw [deviceUserId, deviceUserId, hcontacts]

/-- The user with the given lookup value. -/
def userByLookup (db : Db) (lookup : Text) : Option User :=
  db.users.first? fun user => user.usernameLookup = lookup

/-- The devices linked to a user, in id order. -/
def deviceIdsOfUser (db : Db) (userId : ℕ) : List ℕ :=
  (db.contacts.filter fun contact => contact.userId = some userId).map Contact.id

end Db

/-- Why a transaction was rolled back. -/
inductive ServiceError
  /-- `LockedRowChangedError`: a row changed or vanished between reading and locking it. -/
  | lockedRowChanged
  /-- `IntegrityError` or `DoesNotExist`. -/
  | integrity
  /-- `ValueError`. -/
  | value
  /-- `InvalidDirectMessageTextError`. -/
  | invalidText (reason : InvalidDirectMessageText)
  deriving DecidableEq, Repr

end HoptalkRelay
