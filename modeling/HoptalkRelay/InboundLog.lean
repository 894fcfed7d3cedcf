/-
**The inbox.**

Every direct message the node received is a row of the inbox before it has any effect; the
password of a sign-in request is never stored.  The rows and the text functions of
`messaging/inbound_log.py`.  The columns only the traffic log shows are left out once a row is
processed: the summaries of the outcome and of the reply, and the error of a failed row.

Main definitions:

* `HoptalkRelay.InboundDirectMessage` — a row;
* `HoptalkRelay.redactStoredText`, `HoptalkRelay.carriesAccountRequestPassword` — passwords.
-/

import HoptalkRelay.Models
import HoptalkRelay.Protocol.ErrorReplies

set_option relaxedAutoImplicit false
set_option autoImplicit false

namespace HoptalkRelay

open Relational

inductive Classification
  | unclassified
  | request
  | acknowledgement
  | notProtocol
  | unsupportedVersion
  | syntaxError
  | serverTypeIgnored
  | unknownSender
  | unsupportedTextType
  deriving DecidableEq, Repr

inductive ProcessingState
  | received
  | processed
  | failed
  deriving DecidableEq, Repr

/-- A direct message the relay node received; the id is the processing order. -/
structure InboundDirectMessage where
  id : ℕ
  receivedAt : Time
  senderPublicKeyPrefix : Text
  /-- None when the sender's key is unknown or the contact was deleted. -/
  contactId : Option ℕ
  /-- A snapshot `name (prefix)`, kept when the contact is deleted. -/
  contactLabel : Text := []
  /-- The MeshCore timestamp; part of the firmware-repeat key. -/
  senderTimestamp : ℤ
  /-- 0 plain, 1 CLI, 2 signed. -/
  textType : ℕ
  /-- 255 means it arrived direct, anything else is the flood hop count. -/
  pathLength : ℕ
  signalToNoiseRatio : Option ℚ := none
  /-- Redacted for a sign-in request. -/
  text : PlainText
  /-- SHA-256 of the stored, redacted text.  Part of the firmware-repeat key. -/
  textSha256 : Text
  duplicateCount : ℕ := 0
  lastDuplicateAt : Option Time := none
  classification : Classification := .unclassified
  /-- The letter after `HT1 `. -/
  requestType : Text := []
  processingState : ProcessingState := .received
  processedAt : Option Time := none
  deriving DecidableEq

instance : Keyed InboundDirectMessage := ⟨InboundDirectMessage.id⟩

@[simp] theorem key_inbound (row : InboundDirectMessage) : key row = row.id := rfl

/-- MeshCore's path length of a message that arrived over a stored route. -/
def directArrivalPathLength : ℕ := 255

/-! ### Passwords -/

def redactedPassword : Text := "********".toList

/-- Match `^(HT[0-9]{1,3} A [^ ]*) .*`: the group.  The rest of the match runs to the end of the
text. -/
def matchAccountRequestWithPassword (text : PlainText) : Option PlainText :=
  match matchProtocolTraffic text with
  | some (version, .scalar 'A' :: .scalar ' ' :: fields) =>
      match fields.dropWhile (· ≠ separator) with
      | _ :: _ =>
          some (plainText ("HT".toList ++ version ++ " A ".toList) ++
            fields.takeWhile (· ≠ separator))
      | [] => none
  | _ => none

/-- The text with the password of a sign-in request replaced. -/
def redactStoredText (text : PlainText) : PlainText :=
  match matchAccountRequestWithPassword text with
  | some beforePassword => beforePassword ++ separator :: plainText redactedPassword
  | none => text

/-- True for a sign-in request with a password field. -/
def carriesAccountRequestPassword (text : PlainText) : Bool :=
  (matchAccountRequestWithPassword text).isSome

end HoptalkRelay
