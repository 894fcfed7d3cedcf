/-
**Recording what the node received.**

The recording functions of `messaging/inbound_log.py`: a frame becomes a row of the inbox before
it has any effect, or is counted on the row it repeats.  Recording is one transaction; one that
raises changes nothing, and `worker/inbound_recorder.py` calls it again a little later, or gives
the frame up.

The hash function is a parameter, and so are the names of the contacts, which the contacts table
here leaves out.

Main definitions:

* `HoptalkRelay.ReceivedDirectMessageFrame` — a frame as the node delivered it;
* `HoptalkRelay.countFirmwareRepeat` — the row a frame repeats;
* `HoptalkRelay.recordInboundFrameInTransaction` — one frame;
* `HoptalkRelay.inboundRecorder` — frame after frame.
-/

import HoptalkRelay.RequestProcessing
import HoptalkRelay.Transition.Run

set_option relaxedAutoImplicit false
set_option autoImplicit false

namespace HoptalkRelay

open Relational Transition

/-! ### Frames -/

/-- A `CONTACT_MSG_RECV` frame; NUL characters were replaced before. -/
structure ReceivedDirectMessageFrame where
  /-- The first six bytes of the sender's public key, in lower-case hex. -/
  senderPublicKeyPrefix : Text
  senderTimestamp : ℤ
  text : PlainText
  /-- 0 plain text, 1 CLI data, 2 signed plain text. -/
  textType : ℕ
  pathLength : ℕ
  signalToNoiseRatio : Option ℚ
  receivedAt : Time
  deriving DecidableEq

/-- The inbox row that holds the frame; for a firmware-level repeat, the row that counted it. -/
structure RecordedInboundFrame where
  inboxRowId : ℕ
  contactId : Option ℕ
  isFirmwareRepeat : Bool
  arrivedByFlood : Bool
  deriving DecidableEq, Repr

/-- Why recording a frame was rolled back. -/
inductive RecordingError
  /-- `UnicodeEncodeError`: a lone surrogate has no UTF-8. -/
  | unicodeEncode
  deriving DecidableEq, Repr

/-! ### The sender -/

/-- The first words of `str(contact)`. -/
def unnamedContactName : Text := "unnamed".toList

/-- What `str(contact)` shows. -/
def contactLabelText (name : Text) (contact : Contact) : Text :=
  (if name = [] then unnamedContactName else name) ++ " (".toList ++ contact.publicKeyPrefix ++
    [')']

def hasPublicKeyPrefix (senderPublicKeyPrefix : Text) (contact : Contact) : Bool :=
  contact.publicKeyPrefix = senderPublicKeyPrefix

/-- The contact with these first six bytes; the message is the latest that was heard from it. -/
def findSenderAndRecordItWasHeard (contacts : Table Contact) (senderPublicKeyPrefix : Text)
    (receivedAt : Time) : Table Contact × Option Contact :=
  let contacts := contacts.updateWhere (hasPublicKeyPrefix senderPublicKeyPrefix)
    (fun contact => { contact with lastHeardAt := some receivedAt }) fun _ _ => rfl
  (contacts, contacts.first? (hasPublicKeyPrefix senderPublicKeyPrefix))

/-! ### Firmware-level repeats -/

def firmwareRepeatWindowHours : ℕ := 24

/-- How long a row counts the frames that repeat it. -/
def firmwareRepeatWindow : Duration := durationOfHours firmwareRepeatWindowHours

/-- The row is one of the last 24 hours that the frame repeats. -/
def isRepeatedByFrame (contactId : ℕ) (frame : ReceivedDirectMessageFrame) (textSha256 : Text)
    (now : Time) (row : InboundDirectMessage) : Bool :=
  row.contactId = some contactId && row.senderTimestamp = frame.senderTimestamp &&
    row.textSha256 = textSha256 && now - firmwareRepeatWindow ≤ row.receivedAt

/-- The row with one more repeat. -/
def repeatedRow (receivedAt : Time) (row : InboundDirectMessage) : InboundDirectMessage :=
  { row with duplicateCount := row.duplicateCount + 1, lastDuplicateAt := some receivedAt }

/-- The id of the original row when the frame repeats one of the last 24 hours, after counting it
there. -/
def countFirmwareRepeat (inbox : Table InboundDirectMessage) (contactId : ℕ)
    (frame : ReceivedDirectMessageFrame) (textSha256 : Text) (now : Time) :
    Option (Table InboundDirectMessage × ℕ) :=
  match inbox.first? (isRepeatedByFrame contactId frame textSha256 now) with
  | none => none
  | some originalRow =>
      some (inbox.updateWhere (fun row => row.id = originalRow.id)
        (repeatedRow frame.receivedAt) fun _ _ => rfl, originalRow.id)

/-! ### One frame -/

section Recording

variable (sha256 : Text → Text) (names : ℕ → Text)

/-- The hash of a text's UTF-8, in hex. -/
def calculateTextSha256 (storedText : PlainText) : Except RecordingError Text :=
  match scalarValues? storedText with
  | none => .error .unicodeEncode
  | some text => .ok (sha256 text)

/-- The row that records a frame. -/
def inboundRowOfFrame (contact : Option Contact) (frame : ReceivedDirectMessageFrame)
    (textSha256 : Text) (id : ℕ) : InboundDirectMessage :=
  { id
    receivedAt := frame.receivedAt
    senderPublicKeyPrefix := frame.senderPublicKeyPrefix
    contactId := contact.map Contact.id
    contactLabel :=
      match contact with
      | none => []
      | some contact => contactLabelText (names contact.id) contact
    senderTimestamp := frame.senderTimestamp
    textType := frame.textType
    pathLength := frame.pathLength
    signalToNoiseRatio := frame.signalToNoiseRatio
    text := redactStoredText frame.text
    textSha256 }

theorem key_inboundRowOfFrame (contact : Option Contact) (frame : ReceivedDirectMessageFrame)
    (textSha256 : Text) (id : ℕ) : key (inboundRowOfFrame names contact frame textSha256 id) = id :=
  rfl

/-- Persist the frame as an inbox row, or count it as a firmware-level repeat of an earlier row.
A frame from an unknown sender is recorded without a contact and never counted as a repeat. -/
def recordInboundFrameInTransaction (state : RelayDb) (frame : ReceivedDirectMessageFrame)
    (now : Time) : Except RecordingError (RelayDb × RecordedInboundFrame) := do
  let (contacts, contact) :=
    findSenderAndRecordItWasHeard state.db.contacts frame.senderPublicKeyPrefix frame.receivedAt
  let db := { state.db with contacts }
  let textSha256 ← calculateTextSha256 sha256 (redactStoredText frame.text)
  let arrivedByFlood := frame.pathLength != directArrivalPathLength
  match contact.bind fun contact =>
      countFirmwareRepeat state.inbox contact.id frame textSha256 now with
  | some (inbox, originalRowId) =>
      return ({ db, inbox },
        { inboxRowId := originalRowId
          contactId := contact.map Contact.id
          isFirmwareRepeat := true
          arrivedByFlood })
  | none =>
      return (
        { db
          inbox := state.inbox.insert
            (inboundRowOfFrame names contact frame textSha256)
            (key_inboundRowOfFrame names contact frame textSha256) },
        { inboxRowId := state.inbox.nextKey
          contactId := contact.map Contact.id
          isFirmwareRepeat := false
          arrivedByFlood })

/-! ### Frame after frame -/

/-- Recording one frame at one time: a transaction that raises is rolled back. -/
def recordInboundFrame (state : RelayDb) (input : ReceivedDirectMessageFrame × Time) :
    RelayDb × Option RecordedInboundFrame :=
  match recordInboundFrameInTransaction sha256 names state input.1 input.2 with
  | .ok (state', recorded) => (state', some recorded)
  | .error _ => (state, none)

/-- The recorder, with its attempts one after the other. -/
def inboundRecorder (state : RelayDb) :
    Machine RelayDb (ReceivedDirectMessageFrame × Time) (Option RecordedInboundFrame) where
  init := state
  step := recordInboundFrame sha256 names

end Recording

end HoptalkRelay
