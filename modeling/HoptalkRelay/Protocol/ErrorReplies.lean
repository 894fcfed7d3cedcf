/-
**The errors a text earns by itself, and reply keys.**

The functions of `protocol/error_replies.py` that look at a parsed text alone, and those of
`messaging/reply_keys.py`.  Three modules of the source decide on their own whether a text is
answered: the parser, the builder of the error reply and the builder of its key.

Main definitions:

* `HoptalkRelay.buildGrammarErrorReply` — the error a text earns before any service looks at it;
* `HoptalkRelay.buildRequestReplyKey`, `HoptalkRelay.buildReplyKeyForDirectMessage` — which request
  a reply answers.
-/

import HoptalkRelay.Protocol.Parsing

set_option relaxedAutoImplicit false
set_option autoImplicit false

namespace HoptalkRelay

open Formats

/-- The types that are retried by the client until answered. -/
def requestTypes : List Char := ['A', 'Q', 'M', 'R', 'F']

/-- The types that are never answered. -/
def acknowledgementTypes : List Char := ['K', 'C']

/-- The request type of an error whose request letter could not be determined. -/
def unknownRequestType : Char := '?'

/-! ### Error replies -/

def correlationFieldCountsByRequestType : Char → Option ℕ
  | 'A' => some 1
  | 'Q' => some 1
  | 'M' => some 2
  | 'R' => some 2
  | 'F' => some 1
  | _ => none

/-- Every correlation field of the request type must have parsed, or the reference is left out. -/
def buildSyntaxErrorReference (requestType : Char) (correlationFields : List Text) :
    Option Text :=
  match correlationFieldCountsByRequestType requestType with
  | none => none
  | some requiredFieldCount =>
      if correlationFields.length < requiredFieldCount then none
      else some (join fieldSeparator (correlationFields.take requiredFieldCount))

/-- None for a malformed acknowledgement or server type, which is dropped without an answer. -/
def buildSyntaxErrorReply (requestType : Char) (correlationFields : List Text) :
    Option ErrorReply :=
  if requestType ∉ requestTypes ∧ requestType ≠ unknownRequestType then none
  else
    some
      { errorCode := .syntax_
        requestType
        errorReference := buildSyntaxErrorReference requestType correlationFields }

def isUpperCaseTypeLetter : PlainText → Bool
  | [.scalar c] => 'A' ≤ c && c ≤ 'Z'
  | _ => false

/-- Only a request, an upper-case letter after `HT<version> `, is answered. -/
def buildVersionErrorReply (version : Text) (nextCharacter : PlainText) : Option ErrorReply :=
  if ¬ isUpperCaseTypeLetter nextCharacter then none
  else
    some
      { errorCode := .version
        requestType := unknownRequestType
        errorReference := some version }

/-- A lower-case letter the parser does not know is a newer server type, which is never
answered. -/
def buildUnsupportedTypeErrorReply (messageTypeLetter : Char) : Option ErrorReply :=
  if ¬ isUpperCaseTypeLetter [.scalar messageTypeLetter] then none
  else
    some
      { errorCode := .unsupported
        requestType := messageTypeLetter
        errorReference := none }

/-- The error a direct message earns by its text alone, before any service looks at it. -/
def buildGrammarErrorReply : ParsedDirectMessage → Option ErrorReply
  | .protocolSyntaxError requestType correlationFields =>
      buildSyntaxErrorReply requestType correlationFields
  | .unsupportedVersion version nextCharacter => buildVersionErrorReply version nextCharacter
  | .unknownMessageType messageTypeLetter => buildUnsupportedTypeErrorReply messageTypeLetter
  | .message _ => none
  | .otherText _ => none

/-! ### Reply keys -/

def replyKeySeparator : Char := ':'

/-- The fields of a reply key behind the type letter. -/
def AnswerableRequest.keyFields : AnswerableRequest → List Text
  | account request => [normalizeUsernameForLookup request.username]
  | query request => [normalizeUsernameForLookup request.username]
  | messagePart request =>
      [normalizeUsernameForLookup request.recipientUsername, decimal request.messageId]
  | read request => [normalizeUsernameForLookup request.senderUsername, decimal request.messageId]
  | refresh request => [normalizeUsernameForLookup request.refreshTarget]

def buildRequestReplyKey (request : AnswerableRequest) : Text :=
  join replyKeySeparator ([request.messageType] :: request.keyFields)

def buildUnreferencedReplyKey (inboxRowId : ℕ) : Text :=
  unknownRequestType :: replyKeySeparator :: decimal inboxRowId

/-- The answered request's key when the reference parsed, so the reply to a corrected retry
replaces it. -/
def buildSyntaxErrorReplyKey (requestType : Char) (correlationFields : List Text)
    (inboxRowId : ℕ) : Text :=
  match correlationFieldCountsByRequestType requestType with
  | none => buildUnreferencedReplyKey inboxRowId
  | some requiredFieldCount =>
      if correlationFields.length < requiredFieldCount then buildUnreferencedReplyKey inboxRowId
      else
        join replyKeySeparator
          ([requestType] ::
            (correlationFields.take requiredFieldCount).map (List.map Char.toLower))

/-- The requests among the messages. -/
def answerableRequest? : ProtocolMessage → Option AnswerableRequest
  | .accountRequest request => some (.account request)
  | .queryRequest request => some (.query request)
  | .messagePartRequest request => some (.messagePart request)
  | .readRequest request => some (.read request)
  | .refreshRequest request => some (.refresh request)
  | _ => none

/-- The key of the reply a received direct message earns, or none when the server never answers
it. -/
def buildReplyKeyForDirectMessage (parsedDirectMessage : ParsedDirectMessage) (inboxRowId : ℕ) :
    Option Text :=
  match parsedDirectMessage with
  | .message message => (answerableRequest? message).map buildRequestReplyKey
  | .protocolSyntaxError requestType correlationFields =>
      if requestType ∈ requestTypes then
        some (buildSyntaxErrorReplyKey requestType correlationFields inboxRowId)
      else if requestType = unknownRequestType then some (buildUnreferencedReplyKey inboxRowId)
      else none
  | .unsupportedVersion _ nextCharacter =>
      if isUpperCaseTypeLetter nextCharacter then some (buildUnreferencedReplyKey inboxRowId)
      else none
  | .unknownMessageType messageTypeLetter =>
      if isUpperCaseTypeLetter [.scalar messageTypeLetter] then
        some (buildUnreferencedReplyKey inboxRowId)
      else none
  | .otherText _ => none

end HoptalkRelay
