/-
**The text of every direct message.**

A formatter checks every field against the grammar and the value rules, joins the fields behind
the prefix and refuses a text that may not go to the node.  An exception of the source is the
error of an `Except`, with the field that was refused.  A text holds no lone surrogate, so the
check for one has nothing to refuse here; Unicode NFC is a parameter.

Main definitions:

* `HoptalkRelay.InvalidDirectMessageText` — the refusals;
* `HoptalkRelay.ensureDirectMessageTextIsSendable`, `HoptalkRelay.buildDirectMessageText` — the
  finished text;
* `HoptalkRelay.formatDeliveryPart`, `HoptalkRelay.formatReceiptPush` — the two pushes;
* `HoptalkRelay.formatServerMessage`, `HoptalkRelay.formatProtocolMessage` — every message.
-/

import HoptalkRelay.Protocol.FieldGrammar
import HoptalkRelay.Protocol.MessageTypes

set_option relaxedAutoImplicit false
set_option autoImplicit false

namespace HoptalkRelay

def protocolPrefix : Text := ['H', 'T', '1', ' ']

def directMessageMaximumBytes : ℕ := 150

/-- Why a text is never sent. -/
inductive InvalidDirectMessageText
  | notAUsername (username : Text)
  | notAMessageId (messageId : ℕ)
  | notAPartNumbering (partNumber partCount : ℕ)
  | notAPartText
  | missingPrefix
  | containsNul
  | tooLong (bytes : ℕ)
  | notAReceivedSet (receivedSet : Text)
  | notARefreshTarget (refreshTarget : Text)
  | negativeMessageCount (messageCount : ℤ)
  | notAnErrorCode (errorCode : Text)
  | notARequestType (requestType : Text)
  | notAnErrorReference (errorReference : Text)
  | notAPassword
  deriving DecidableEq, Repr

def convertUsernameToField (username : Text) : Except InvalidDirectMessageText Text :=
  if isValidUsername username then .ok username else .error (.notAUsername username)

def convertMessageIdToField (messageId : ℕ) : Except InvalidDirectMessageText Text :=
  if messageIdMinimum ≤ messageId ∧ messageId ≤ messageIdMaximum then .ok (decimal messageId)
  else .error (.notAMessageId messageId)

def convertPartNumberingToField (partNumber partCount : ℕ) : Except InvalidDirectMessageText Text :=
  if isValidPartNumbering partNumber partCount then
    .ok (decimal partNumber ++ '/' :: decimal partCount)
  else .error (.notAPartNumbering partNumber partCount)

def convertPartTextToField (partText : Text) : Except InvalidDirectMessageText Text :=
  if isValidPartText partText then .ok partText else .error .notAPartText

def convertReceiptLevelToField : ReceiptLevel → Text
  | .delivered => ['D']
  | .read => ['R']

/-- Refuse a text that may not go to the node as one direct message. -/
def ensureDirectMessageTextIsSendable (text : Text) : Except InvalidDirectMessageText Unit :=
  if ¬ protocolPrefix.isPrefixOf text then .error .missingPrefix
  else if text.contains '\x00' then .error .containsNul
  else if directMessageMaximumBytes < countUtf8Bytes text then .error (.tooLong (countUtf8Bytes text))
  else .ok ()

def buildDirectMessageText (messageTypeLetter : Char) (fields : List Text) :
    Except InvalidDirectMessageText Text := do
  let text := protocolPrefix ++ [' '].intercalate ([messageTypeLetter] :: fields)
  ensureDirectMessageTextIsSendable text
  return text

def formatDeliveryPart (senderUsername : Text) (messageId partNumber partCount : ℕ)
    (partText : Text) : Except InvalidDirectMessageText Text := do
  buildDirectMessageText 'm'
    [← convertUsernameToField senderUsername,
     ← convertMessageIdToField messageId,
     ← convertPartNumberingToField partNumber partCount,
     ← convertPartTextToField partText]

def formatReceiptPush (recipientUsername : Text) (messageId : ℕ) (receiptLevel : ReceiptLevel) :
    Except InvalidDirectMessageText Text := do
  buildDirectMessageText 's'
    [← convertUsernameToField recipientUsername,
     ← convertMessageIdToField messageId,
     convertReceiptLevelToField receiptLevel]

/-! ### Server to client -/

def convertReceivedSetToField (receivedSet : Text) : Except InvalidDirectMessageText Text :=
  if isReceivedSetField receivedSet then .ok receivedSet else .error (.notAReceivedSet receivedSet)

def convertRefreshTargetToField (refreshTarget : Text) : Except InvalidDirectMessageText Text :=
  if isRefreshTargetField refreshTarget then .ok refreshTarget
  else .error (.notARefreshTarget refreshTarget)

def formatAccountReply (username : Text) : Except InvalidDirectMessageText Text := do
  buildDirectMessageText 'a' [← convertUsernameToField username]

def formatQueryReply (username : Text) (userExists : Bool) :
    Except InvalidDirectMessageText Text := do
  let existence := if userExists then ['1'] else ['0']
  buildDirectMessageText 'q' [← convertUsernameToField username, existence]

def formatSendStatusReply (recipientUsername : Text) (messageId : ℕ) (receivedSet : Text) :
    Except InvalidDirectMessageText Text := do
  buildDirectMessageText 'k'
    [← convertUsernameToField recipientUsername,
     ← convertMessageIdToField messageId,
     ← convertReceivedSetToField receivedSet]

def formatReadReply (senderUsername : Text) (messageId : ℕ) :
    Except InvalidDirectMessageText Text := do
  buildDirectMessageText 'r'
    [← convertUsernameToField senderUsername, ← convertMessageIdToField messageId]

def refreshReplyMaximumMessageCount : ℕ := 9999

/-- A count above 9999 is sent as 9999. -/
def formatRefreshReply (refreshTarget : Text) (messageCount : ℤ) :
    Except InvalidDirectMessageText Text :=
  if messageCount < 0 then .error (.negativeMessageCount messageCount)
  else do
    let shownMessageCount := min messageCount.toNat refreshReplyMaximumMessageCount
    buildDirectMessageText 'f'
      [← convertRefreshTargetToField refreshTarget, decimal shownMessageCount]

def formatErrorReply (errorCode requestType : Text) (errorReference : Option Text) :
    Except InvalidDirectMessageText Text :=
  if ¬ isErrorCodeField errorCode then .error (.notAnErrorCode errorCode)
  else if ¬ isRequestTypeField requestType then .error (.notARequestType requestType)
  else
    match errorReference with
    | none => buildDirectMessageText 'e' [errorCode, requestType]
    | some errorReference =>
        if ¬ isErrorReferenceField errorReference then
          .error (.notAnErrorReference errorReference)
        else buildDirectMessageText 'e' [errorCode, requestType, errorReference]

/-! ### Client to server -/

/-- The password is sent as given; it is checked in NFC. -/
def formatAccountRequest (normalizePassword : Text → Text) (username password : Text) :
    Except InvalidDirectMessageText Text :=
  if ¬ isValidPassword (normalizePassword password) then .error .notAPassword
  else do buildDirectMessageText 'A' [← convertUsernameToField username, password]

def formatQueryRequest (username : Text) : Except InvalidDirectMessageText Text := do
  buildDirectMessageText 'Q' [← convertUsernameToField username]

def formatMessagePartRequest (recipientUsername : Text) (messageId partNumber partCount : ℕ)
    (partText : Text) : Except InvalidDirectMessageText Text := do
  buildDirectMessageText 'M'
    [← convertUsernameToField recipientUsername,
     ← convertMessageIdToField messageId,
     ← convertPartNumberingToField partNumber partCount,
     ← convertPartTextToField partText]

def formatDeliveryAcknowledgement (senderUsername : Text) (messageId : ℕ) (receivedSet : Text) :
    Except InvalidDirectMessageText Text := do
  buildDirectMessageText 'K'
    [← convertUsernameToField senderUsername,
     ← convertMessageIdToField messageId,
     ← convertReceivedSetToField receivedSet]

def formatReadRequest (senderUsername : Text) (messageId : ℕ) :
    Except InvalidDirectMessageText Text := do
  buildDirectMessageText 'R'
    [← convertUsernameToField senderUsername, ← convertMessageIdToField messageId]

def formatReceiptAcknowledgement (recipientUsername : Text) (messageId : ℕ)
    (receiptLevel : ReceiptLevel) : Except InvalidDirectMessageText Text := do
  buildDirectMessageText 'C'
    [← convertUsernameToField recipientUsername,
     ← convertMessageIdToField messageId,
     convertReceiptLevelToField receiptLevel]

def formatRefreshRequest (refreshTarget : Text) : Except InvalidDirectMessageText Text := do
  buildDirectMessageText 'F' [← convertRefreshTargetToField refreshTarget]

/-! ### Every message -/

/-- Format any message value; the typed formatters do the work. -/
def formatProtocolMessage (normalizePassword : Text → Text) :
    ProtocolMessage → Except InvalidDirectMessageText Text
  | .accountRequest request =>
      formatAccountRequest normalizePassword request.username request.password
  | .queryRequest request => formatQueryRequest request.username
  | .messagePartRequest request =>
      formatMessagePartRequest request.recipientUsername request.messageId request.partNumber
        request.partCount request.partText
  | .deliveryAcknowledgement acknowledgement =>
      formatDeliveryAcknowledgement acknowledgement.senderUsername acknowledgement.messageId
        acknowledgement.receivedSet
  | .readRequest request => formatReadRequest request.senderUsername request.messageId
  | .receiptAcknowledgement acknowledgement =>
      formatReceiptAcknowledgement acknowledgement.recipientUsername acknowledgement.messageId
        acknowledgement.receiptLevel
  | .refreshRequest request => formatRefreshRequest request.refreshTarget
  | .accountReply username => formatAccountReply username
  | .queryReply username userExists => formatQueryReply username userExists
  | .sendStatusReply recipientUsername messageId receivedSet =>
      formatSendStatusReply recipientUsername messageId receivedSet
  | .deliveryPart senderUsername messageId partNumber partCount partText =>
      formatDeliveryPart senderUsername messageId partNumber partCount partText
  | .readReply senderUsername messageId => formatReadReply senderUsername messageId
  | .receiptPush recipientUsername messageId receiptLevel =>
      formatReceiptPush recipientUsername messageId receiptLevel
  | .refreshReply refreshTarget messageCount => formatRefreshReply refreshTarget messageCount
  | .errorReply errorCode requestType errorReference =>
      formatErrorReply errorCode requestType errorReference

/-- Format the answer of a service. -/
def formatServerMessage : ServerMessage → Except InvalidDirectMessageText Text
  | .accountReply username => formatAccountReply username
  | .queryReply username userExists => formatQueryReply username userExists
  | .sendStatusReply recipientUsername messageId receivedSet =>
      formatSendStatusReply recipientUsername messageId receivedSet
  | .readReply senderUsername messageId => formatReadReply senderUsername messageId
  | .refreshReply refreshTarget messageCount => formatRefreshReply refreshTarget messageCount
  | .errorReply reply =>
      formatErrorReply reply.errorCode.text [reply.requestType] reply.errorReference

/-- An answer is formatted as the message of the protocol it is. -/
theorem formatProtocolMessage_toProtocolMessage (normalizePassword : Text → Text)
    (message : ServerMessage) :
    formatProtocolMessage normalizePassword message.toProtocolMessage =
      formatServerMessage message := by
  cases message <;> rfl

end HoptalkRelay
