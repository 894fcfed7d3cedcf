/-
**Parsing a received direct message text.**

The functions of `protocol/parsing.py`.  Grammar first, strictly: the fields behind the type
letter are cut at single spaces, a layout with a tail as many times as it has header fields, and
checked one after the other.  Value rules are not checked here.

A function that builds a message unpacks its fields and raises a `ValueError` when there are
fewer or more of them; such an exception is `none`.

Main definitions:

* `HoptalkRelay.parseDirectMessageText` — classify and parse any string;
* `HoptalkRelay.parseVersionOneMessageBody`, `HoptalkRelay.parseFieldsByLayout`,
  `HoptalkRelay.parseErrorReplyFields` — its steps;
* `HoptalkRelay.MessageLayout`, `HoptalkRelay.messageLayoutsByTypeLetter` — the layouts.
-/

import HoptalkRelay.Protocol.Formatting

set_option relaxedAutoImplicit false
set_option autoImplicit false

namespace HoptalkRelay

open Formats

/-! ### Layouts -/

structure HeaderField where
  matchesGrammar : Text → Bool
  /-- Usernames, message ids and refresh targets: an error reply repeats them when they parsed. -/
  isCorrelationField : Bool

def usernameField : HeaderField := ⟨isValidUsername, true⟩
def messageIdField : HeaderField := ⟨isMessageIdField, true⟩
def refreshTargetField : HeaderField := ⟨isRefreshTargetField, true⟩
def partField : HeaderField := ⟨isPartField, false⟩
def receivedSetField : HeaderField := ⟨isReceivedSetField, false⟩
def receiptLevelField : HeaderField := ⟨isReceiptLevelField, false⟩
def existenceField : HeaderField := ⟨isExistenceField, false⟩
def messageCountField : HeaderField := ⟨isMessageCountField, false⟩

/-- The fields after the type letter, in order; a tail is everything after the last header
field. -/
structure MessageLayout where
  headerFields : List HeaderField
  hasTail : Bool
  buildMessage : List Text → Option ProtocolMessage

/-! ### Building a message from field values that matched the grammar -/

def receiptLevelOfField (field : Text) : Option ReceiptLevel :=
  if field = ['D'] then some .delivered else if field = ['R'] then some .read else none

def buildAccountRequest : List Text → Option ProtocolMessage
  | [username, password] => some (.accountRequest { username, password })
  | _ => none

def buildQueryRequest : List Text → Option ProtocolMessage
  | [username] => some (.queryRequest { username })
  | _ => none

def buildMessagePartRequest : List Text → Option ProtocolMessage
  | [recipientUsername, messageId, partField, partText] => do
      let (partNumber, partCount) ← readPartField partField
      return .messagePartRequest
        { recipientUsername, messageId := numberOf messageId, partNumber, partCount, partText }
  | _ => none

def buildDeliveryAcknowledgement : List Text → Option ProtocolMessage
  | [senderUsername, messageId, receivedSet] =>
      some (.deliveryAcknowledgement
        { senderUsername, messageId := numberOf messageId, receivedSet })
  | _ => none

def buildReadRequest : List Text → Option ProtocolMessage
  | [senderUsername, messageId] =>
      some (.readRequest { senderUsername, messageId := numberOf messageId })
  | _ => none

def buildReceiptAcknowledgement : List Text → Option ProtocolMessage
  | [recipientUsername, messageId, receiptLevel] => do
      let receiptLevel ← receiptLevelOfField receiptLevel
      return .receiptAcknowledgement
        { recipientUsername, messageId := numberOf messageId, receiptLevel }
  | _ => none

def buildRefreshRequest : List Text → Option ProtocolMessage
  | [refreshTarget] => some (.refreshRequest { refreshTarget })
  | _ => none

def buildAccountReply : List Text → Option ProtocolMessage
  | [username] => some (.accountReply username)
  | _ => none

def buildQueryReply : List Text → Option ProtocolMessage
  | [username, existence] => some (.queryReply username (existence = ['1']))
  | _ => none

def buildSendStatusReply : List Text → Option ProtocolMessage
  | [recipientUsername, messageId, receivedSet] =>
      some (.sendStatusReply recipientUsername (numberOf messageId) receivedSet)
  | _ => none

def buildDeliveryPart : List Text → Option ProtocolMessage
  | [senderUsername, messageId, partField, partText] => do
      let (partNumber, partCount) ← readPartField partField
      return .deliveryPart senderUsername (numberOf messageId) partNumber partCount partText
  | _ => none

def buildReadReply : List Text → Option ProtocolMessage
  | [senderUsername, messageId] => some (.readReply senderUsername (numberOf messageId))
  | _ => none

def buildReceiptPush : List Text → Option ProtocolMessage
  | [recipientUsername, messageId, receiptLevel] => do
      let receiptLevel ← receiptLevelOfField receiptLevel
      return .receiptPush recipientUsername (numberOf messageId) receiptLevel
  | _ => none

def buildRefreshReply : List Text → Option ProtocolMessage
  | [refreshTarget, messageCount] =>
      some (.refreshReply refreshTarget (numberOf messageCount))
  | _ => none

/-- The error reply, `e`, has no layout: its reference has a variable shape. -/
def messageLayoutsByTypeLetter : Char → Option MessageLayout
  | 'A' => some ⟨[usernameField], true, buildAccountRequest⟩
  | 'Q' => some ⟨[usernameField], false, buildQueryRequest⟩
  | 'M' => some ⟨[usernameField, messageIdField, partField], true, buildMessagePartRequest⟩
  | 'K' =>
      some ⟨[usernameField, messageIdField, receivedSetField], false,
        buildDeliveryAcknowledgement⟩
  | 'R' => some ⟨[usernameField, messageIdField], false, buildReadRequest⟩
  | 'C' =>
      some ⟨[usernameField, messageIdField, receiptLevelField], false,
        buildReceiptAcknowledgement⟩
  | 'F' => some ⟨[refreshTargetField], false, buildRefreshRequest⟩
  | 'a' => some ⟨[usernameField], false, buildAccountReply⟩
  | 'q' => some ⟨[usernameField, existenceField], false, buildQueryReply⟩
  | 'k' =>
      some ⟨[usernameField, messageIdField, receivedSetField], false, buildSendStatusReply⟩
  | 'm' => some ⟨[usernameField, messageIdField, partField], true, buildDeliveryPart⟩
  | 'r' => some ⟨[usernameField, messageIdField], false, buildReadReply⟩
  | 's' => some ⟨[usernameField, messageIdField, receiptLevelField], false, buildReceiptPush⟩
  | 'f' => some ⟨[refreshTargetField, messageCountField], false, buildRefreshReply⟩
  | _ => none

/-! ### Fields -/

def separator : CodePoint := .scalar fieldSeparator

/-- The check of the header fields, one after the other, as far as there are both: the correlation
fields that parsed, as an error when a field did not match. -/
def checkHeaderFields : List HeaderField → List PlainText → List Text →
    Except (List Text) (List Text)
  | headerField :: headerFields, fieldValue :: fieldValues, correlationFields =>
      match fieldText? headerField.matchesGrammar fieldValue with
      | none => .error correlationFields
      | some text =>
          checkHeaderFields headerFields fieldValues
            (if headerField.isCorrelationField then correlationFields ++ [text]
              else correlationFields)
  | _, _, correlationFields => .ok correlationFields

/-- The fields of a text, cut at single spaces. -/
def MessageLayout.splitFields (messageLayout : MessageLayout) (fieldsText : PlainText) :
    List PlainText :=
  if messageLayout.hasTail then
    splitAtMost separator messageLayout.headerFields.length fieldsText
  else fieldsText.splitOn separator

def MessageLayout.expectedFieldCount (messageLayout : MessageLayout) : ℕ :=
  if messageLayout.hasTail then messageLayout.headerFields.length + 1
  else messageLayout.headerFields.length

def parseFieldsByLayout (messageTypeLetter : Char) (fieldsText : PlainText)
    (messageLayout : MessageLayout) : Option ParsedDirectMessage :=
  let fieldValues := messageLayout.splitFields fieldsText
  match checkHeaderFields messageLayout.headerFields fieldValues [] with
  | .error correlationFields => some (.protocolSyntaxError messageTypeLetter correlationFields)
  | .ok correlationFields =>
      if fieldValues.length ≠ messageLayout.expectedFieldCount then
        some (.protocolSyntaxError messageTypeLetter correlationFields)
      else if messageLayout.hasTail ∧
          (fieldValues.getLast?.bind (fieldText? isTailField)) = none then
        some (.protocolSyntaxError messageTypeLetter correlationFields)
      else
        ((fieldValues.mapM scalarValues?).bind messageLayout.buildMessage).map .message

/-- The members of `ErrorCode`. -/
def errorCodes : List ErrorCode :=
  [.syntax_, .version, .unsupported, .notSignedIn, .passwordInvalid, .wrongPassword, .rateLimited,
    .noSuchUser, .self, .idConflict, .partInvalid, .notFound]

/-- A code this version does not know stays a plain string. -/
def readErrorCode (errorCode : Text) : Text :=
  match errorCodes.find? fun known => known.text = errorCode with
  | some known => known.text
  | none => errorCode

/-- A member of `ErrorCode` equals the string it was read from. -/
@[simp] theorem readErrorCode_eq (errorCode : Text) : readErrorCode errorCode = errorCode := by
  unfold readErrorCode
  cases h : errorCodes.find? fun known => known.text = errorCode with
  | none => rfl
  | some known =>
      have hknown := List.find?_some h
      exact of_decide_eq_true hknown

/-- Parse `<code> <request-type> [<reference>]`, where the reference is one or two fields. -/
def parseErrorReplyFields (fieldsText : PlainText) : ParsedDirectMessage :=
  match fieldsText.splitOn separator with
  | errorCode :: requestType :: referenceFields =>
      if 2 < referenceFields.length then .protocolSyntaxError 'e' []
      else
        match fieldText? isErrorCodeField errorCode, fieldText? isRequestTypeField requestType with
        | some errorCode, some requestType =>
            if referenceFields = [] then
              .message (.errorReply (readErrorCode errorCode) requestType none)
            else
              match fieldText? isErrorReferenceField (join separator referenceFields) with
              | some errorReference =>
                  .message (.errorReply (readErrorCode errorCode) requestType (some errorReference))
              | none => .protocolSyntaxError 'e' []
        | _, _ => .protocolSyntaxError 'e' []
  | _ => .protocolSyntaxError 'e' []

/-! ### The text -/

/-- Parse what follows `HT1 `: the type letter, one space, then the type's fields. -/
def parseVersionOneMessageBody (messageBody : PlainText) : Option ParsedDirectMessage :=
  match messageBody with
  | .scalar messageTypeLetter :: rest =>
      if ¬ messageTypeLetter.isAlpha then some (.protocolSyntaxError '?' [])
      else if messageTypeLetter = 'e' then
        match rest with
        | .scalar ' ' :: fieldsText => some (parseErrorReplyFields fieldsText)
        | _ => some (.protocolSyntaxError messageTypeLetter [])
      else
        match messageLayoutsByTypeLetter messageTypeLetter with
        | none => some (.unknownMessageType messageTypeLetter)
        | some messageLayout =>
            match rest with
            | .scalar ' ' :: fieldsText =>
                parseFieldsByLayout messageTypeLetter fieldsText messageLayout
            | _ => some (.protocolSyntaxError messageTypeLetter [])
  | _ => some (.protocolSyntaxError '?' [])

def isDigitCodePoint : CodePoint → Bool
  | .scalar c => c.isDigit
  | .surrogate _ => false

/-- Match `^HT([0-9]{1,3}) `: the version, and what follows the match. -/
def matchProtocolTraffic : PlainText → Option (Text × PlainText)
  | .scalar 'H' :: .scalar 'T' :: rest =>
      match fieldText? isVersionNumberField (rest.takeWhile isDigitCodePoint),
          rest.dropWhile isDigitCodePoint with
      | some version, .scalar ' ' :: messageBody => some (version, messageBody)
      | _, _ => none
  | _ => none

def protocolVersion : Text := ['1']

/-- Classify and parse any string, never raising for bad input. -/
def parseDirectMessageText (directMessageText : PlainText) : Option ParsedDirectMessage :=
  match matchProtocolTraffic directMessageText with
  | none => some (.otherText directMessageText)
  | some (version, messageBody) =>
      if version ≠ protocolVersion then some (.unsupportedVersion version (messageBody.take 1))
      else parseVersionOneMessageBody messageBody

end HoptalkRelay
