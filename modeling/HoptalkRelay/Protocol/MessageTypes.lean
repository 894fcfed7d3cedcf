/-
**The messages of the protocol.**

One structure per message type, with the fields as they travelled on the wire: usernames in the
case they were sent, received-sets as their characters, passwords and part texts verbatim.  The
error replies a service answers repeat the request's correlation fields as they were sent.

Main definitions:

* `HoptalkRelay.AccountRequest`, `HoptalkRelay.MessagePartRequest`, … — what a client sends;
* `HoptalkRelay.ServerMessage` — what a service answers;
* `HoptalkRelay.ProtocolMessage`, `HoptalkRelay.ParsedDirectMessage` — every message, and whatever
  else a text may be;
* `HoptalkRelay.AnswerableRequest`, `HoptalkRelay.buildRequestErrorReply` — error replies.
-/

import HoptalkRelay.Protocol.ReceivedSets

set_option relaxedAutoImplicit false
set_option autoImplicit false

namespace HoptalkRelay

/-- `R` implies `D`. -/
inductive ReceiptLevel
  | delivered
  | read
  deriving DecidableEq, Repr

/-- The receipt levels as the database stores them. -/
def receiptLevelNumber : ReceiptLevel → ℕ
  | .delivered => 1
  | .read => 2

/-- The level of a stored number; 0 stands for no level, and any other number for none. -/
def receiptLevelByNumber : ℕ → Option ReceiptLevel
  | 1 => some .delivered
  | 2 => some .read
  | _ => none

/-- The error codes of the protocol. -/
inductive ErrorCode
  | syntax_
  | version
  | unsupported
  | notSignedIn
  | passwordInvalid
  | wrongPassword
  | rateLimited
  | noSuchUser
  | self
  | idConflict
  | partInvalid
  | notFound
  deriving DecidableEq, Repr

/-! ### Client to server -/

structure AccountRequest where
  username : Text
  password : Text
  deriving DecidableEq, Repr

structure QueryRequest where
  username : Text
  deriving DecidableEq, Repr

structure MessagePartRequest where
  recipientUsername : Text
  messageId : ℕ
  partNumber : ℕ
  partCount : ℕ
  partText : Text
  deriving DecidableEq, Repr

structure DeliveryAcknowledgement where
  senderUsername : Text
  messageId : ℕ
  receivedSet : Text
  deriving DecidableEq, Repr

structure ReadRequest where
  senderUsername : Text
  messageId : ℕ
  deriving DecidableEq, Repr

structure ReceiptAcknowledgement where
  recipientUsername : Text
  messageId : ℕ
  receiptLevel : ReceiptLevel
  deriving DecidableEq, Repr

structure RefreshRequest where
  refreshTarget : Text
  deriving DecidableEq, Repr

/-- The refresh target that stands for every conversation. -/
def refreshAllPeersTarget : Text := ['*']

def RefreshRequest.isForAllPeers (request : RefreshRequest) : Bool :=
  request.refreshTarget == refreshAllPeersTarget

/-! ### Server to client -/

structure ErrorReply where
  errorCode : ErrorCode
  requestType : Char
  errorReference : Option Text
  deriving DecidableEq, Repr

inductive ServerMessage
  | accountReply (username : Text)
  | queryReply (username : Text) (userExists : Bool)
  | sendStatusReply (recipientUsername : Text) (messageId : ℕ) (receivedSet : Text)
  | readReply (senderUsername : Text) (messageId : ℕ)
  | refreshReply (refreshTarget : Text) (messageCount : ℕ)
  | errorReply (reply : ErrorReply)
  deriving DecidableEq, Repr

/-! ### Every message -/

/-- The value of an error code.  `ErrorCode` is a `StrEnum`: a member equals the string of its
value. -/
def ErrorCode.text : ErrorCode → Text
  | syntax_ => "SYNTAX".toList
  | version => "VERSION".toList
  | unsupported => "UNSUPPORTED".toList
  | notSignedIn => "NOT_SIGNED_IN".toList
  | passwordInvalid => "PASSWORD_INVALID".toList
  | wrongPassword => "WRONG_PASSWORD".toList
  | rateLimited => "RATE_LIMITED".toList
  | noSuchUser => "NO_SUCH_USER".toList
  | self => "SELF".toList
  | idConflict => "ID_CONFLICT".toList
  | partInvalid => "PART_INVALID".toList
  | notFound => "NOT_FOUND".toList

/-- `ClientMessage | ServerMessage`: the fifteen messages of the protocol.  The error code of a
newer server is a text this version does not know. -/
inductive ProtocolMessage
  | accountRequest (request : AccountRequest)
  | queryRequest (request : QueryRequest)
  | messagePartRequest (request : MessagePartRequest)
  | deliveryAcknowledgement (acknowledgement : DeliveryAcknowledgement)
  | readRequest (request : ReadRequest)
  | receiptAcknowledgement (acknowledgement : ReceiptAcknowledgement)
  | refreshRequest (request : RefreshRequest)
  | accountReply (username : Text)
  | queryReply (username : Text) (userExists : Bool)
  | sendStatusReply (recipientUsername : Text) (messageId : ℕ) (receivedSet : Text)
  | deliveryPart (senderUsername : Text) (messageId partNumber partCount : ℕ) (partText : Text)
  | readReply (senderUsername : Text) (messageId : ℕ)
  | receiptPush (recipientUsername : Text) (messageId : ℕ) (receiptLevel : ReceiptLevel)
  | refreshReply (refreshTarget : Text) (messageCount : ℤ)
  | errorReply (errorCode requestType : Text) (errorReference : Option Text)
  deriving DecidableEq, Repr

/-- The answer of a service, as a message of the protocol. -/
def ServerMessage.toProtocolMessage : ServerMessage → ProtocolMessage
  | accountReply username => .accountReply username
  | queryReply username userExists => .queryReply username userExists
  | sendStatusReply recipientUsername messageId receivedSet =>
      .sendStatusReply recipientUsername messageId receivedSet
  | readReply senderUsername messageId => .readReply senderUsername messageId
  | refreshReply refreshTarget messageCount => .refreshReply refreshTarget messageCount
  | errorReply reply => .errorReply reply.errorCode.text [reply.requestType] reply.errorReference

/-- What a received text is: a message of the protocol, or one of the texts that are none. -/
inductive ParsedDirectMessage
  | message (message : ProtocolMessage)
  /-- Not protocol traffic, never answered. -/
  | otherText (text : PlainText)
  /-- Protocol traffic of another version; the next character is empty at the end of the text. -/
  | unsupportedVersion (version : Text) (nextCharacter : PlainText)
  /-- A letter that is no known type. -/
  | unknownMessageType (messageTypeLetter : Char)
  /-- A message that breaks the grammar, with the leading fields that did parse. -/
  | protocolSyntaxError (requestType : Char) (correlationFields : List Text)
  deriving DecidableEq, Repr

/-! ### Error replies -/

/-- The requests that are answered, with an error when a service refuses them. -/
inductive AnswerableRequest
  | account (request : AccountRequest)
  | query (request : QueryRequest)
  | messagePart (request : MessagePartRequest)
  | read (request : ReadRequest)
  | refresh (request : RefreshRequest)
  deriving DecidableEq, Repr

namespace AnswerableRequest

def messageType : AnswerableRequest → Char
  | account _ => 'A'
  | query _ => 'Q'
  | messagePart _ => 'M'
  | read _ => 'R'
  | refresh _ => 'F'

def toProtocolMessage : AnswerableRequest → ProtocolMessage
  | account request => .accountRequest request
  | query request => .queryRequest request
  | messagePart request => .messagePartRequest request
  | read request => .readRequest request
  | refresh request => .refreshRequest request

/-- The correlation fields of a request, as they were sent. -/
def errorReference : AnswerableRequest → Text
  | account request => request.username
  | query request => request.username
  | messagePart request => request.recipientUsername ++ ' ' :: decimal request.messageId
  | read request => request.senderUsername ++ ' ' :: decimal request.messageId
  | refresh request => request.refreshTarget

end AnswerableRequest

/-- The error a service answers for a well-formed request, with the request's reference as sent. -/
def buildRequestErrorReply (errorCode : ErrorCode) (request : AnswerableRequest) : ServerMessage :=
  .errorReply
    { errorCode
      requestType := request.messageType
      errorReference := some request.errorReference }

end HoptalkRelay
