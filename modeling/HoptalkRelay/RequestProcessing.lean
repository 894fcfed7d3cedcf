/-
**Processing one recorded inbox row.**

The functions of `messaging/request_processing.py`: classify the row's text, run the service it
asks for and return the replies to queue, in one transaction with the processed mark of the row.
A transaction that raises is rolled back; then the row is marked failed and gets no reply.

A sign-in request is stored with its password redacted, so its password comes from the frame's
text as the node delivered it.

Main definitions:

* `HoptalkRelay.RelayDb` — the tables of the delivery engine and the inbox;
* `HoptalkRelay.classifyAndServe`, `HoptalkRelay.serveRequest` — what a text earns;
* `HoptalkRelay.processInTransaction`, `HoptalkRelay.processInboundDirectMessage` — one row.
-/

import HoptalkRelay.Engine
import HoptalkRelay.InboundLog

set_option relaxedAutoImplicit false
set_option autoImplicit false

namespace HoptalkRelay

open Relational

/-- The database: the tables of the delivery engine, and the inbox. -/
structure RelayDb where
  db : Db
  inbox : Table InboundDirectMessage

def plainTextType : ℕ := 0

inductive ReplyReadiness
  | immediate
  /-- Sent once some seconds pass without a new part of that message. -/
  | coalescedIncompleteStatus
  deriving DecidableEq, Repr

/-- A reply to queue for the sender loop, once the transaction that produced it committed. -/
structure QueuedReply where
  contactId : ℕ
  replyKey : Text
  text : Text
  serverMessage : ServerMessage
  readiness : ReplyReadiness
  deriving DecidableEq, Repr

structure InboundProcessingResult where
  inboxRowId : ℕ
  contactId : Option ℕ
  processingState : ProcessingState
  classification : Classification
  replies : List QueuedReply := []
  /-- A new message that arrived by flood: reset the route to the contact before replying. -/
  floodArrivalRouteResetNeeded : Bool := false
  /-- The node holds a contact the database does not. -/
  reconciliationNeeded : Bool := false
  /-- Another call processed the row first; nothing was done. -/
  wasAlreadyProcessed : Bool := false
  deriving DecidableEq, Repr

/-- What classifying and serving one row decided, before the reply is formatted. -/
structure RowProcessing where
  classification : Classification
  requestType : Text := []
  reply : Option ServerMessage := none
  replyReadiness : ReplyReadiness := .immediate
  reconciliationNeeded : Bool := false
  deriving DecidableEq, Repr

/-- Why processing a row was rolled back. -/
inductive ProcessingError
  /-- `InboxRowAlreadyProcessedError` -/
  | alreadyProcessed
  | service (serviceError : ServiceError)
  deriving DecidableEq, Repr

/-! ### The row before it is served -/

def isPathUpdateRecent (settings : RelaySettings) (lastPathUpdateAt : Option Time) (now : Time) :
    Bool :=
  match lastPathUpdateAt with
  | none => false
  | some lastPathUpdateAt =>
      now - lastPathUpdateAt ≤
        durationOfSeconds settings.engineTiming.recentPathUpdateSeconds

/-- A new message that arrived by flood means the node's stored route may be stale. -/
def needsFloodArrivalRouteReset (settings : RelaySettings) (arrivedByFlood : Bool)
    (receivedAt : Time) (lastPathUpdateAt : Option Time) (now : Time) : Bool :=
  if !arrivedByFlood || isPathUpdateRecent settings lastPathUpdateAt now then false
  else
    now - receivedAt ≤
      durationOfSeconds settings.engineTiming.floodArrivalResetMaximumAgeSeconds

def decideFloodArrivalRouteReset (settings : RelaySettings) (inboxRow : InboundDirectMessage)
    (contact : Option Contact) (now : Time) : Bool :=
  match contact with
  | none => false
  | some contact =>
      needsFloodArrivalRouteReset settings (inboxRow.pathLength != directArrivalPathLength)
        inboxRow.receivedAt contact.lastPathUpdateAt now

/-- The text to parse, and whether a sign-in request's password is in it. -/
def chooseTextToProcess (storedText : PlainText) (originalText : Option PlainText) :
    PlainText × Bool :=
  if ¬ carriesAccountRequestPassword storedText then (storedText, true)
  else
    match originalText with
    | some originalText =>
        if redactStoredText originalText = storedText then (originalText, true)
        else (storedText, false)
    | none => (storedText, false)

/-- The letter after `HT1 `, or the empty text when there is none. -/
def readVersionOneTypeLetter (text : PlainText) : Text :=
  match text with
  | .scalar 'H' :: .scalar 'T' :: .scalar '1' :: .scalar ' ' :: .scalar c :: _ =>
      if c.isAlpha then [c] else []
  | _ => []

/-! ### Classifying and serving -/

def buildRequestProcessing (request : AnswerableRequest) (reply : ServerMessage)
    (replyReadiness : ReplyReadiness) : RowProcessing :=
  { classification := .request
    requestType := [request.messageType]
    reply := some reply
    replyReadiness }

def buildAcknowledgementProcessing (requestType : Text) : RowProcessing :=
  { classification := .acknowledgement, requestType }

def buildServerTypeIgnored (requestType : Text) : RowProcessing :=
  { classification := .serverTypeIgnored, requestType }

/-- Only a request in another version is answered. -/
def classifyUnsupportedVersion (version : Text) (nextCharacter : PlainText) : RowProcessing :=
  { classification := .unsupportedVersion
    reply := (buildGrammarErrorReply (.unsupportedVersion version nextCharacter)).map .errorReply }

def classifyUnknownMessageType (letter : Char) : RowProcessing :=
  match buildGrammarErrorReply (.unknownMessageType letter) with
  | none => buildServerTypeIgnored [letter]
  | some unsupportedTypeReply =>
      { classification := .request
        requestType := [letter]
        reply := some (.errorReply unsupportedTypeReply) }

def classifySyntaxError (requestType : Char) (correlationFields : List Text) : RowProcessing :=
  if requestType ∈ acknowledgementTypes then buildAcknowledgementProcessing [requestType]
  else
    match buildGrammarErrorReply (.protocolSyntaxError requestType correlationFields) with
    | none => buildServerTypeIgnored [requestType]
    | some syntaxErrorReply =>
        { classification := .syntaxError
          requestType := if requestType = unknownRequestType then [] else [requestType]
          reply := some (.errorReply syntaxErrorReply) }

section Services

variable (hashing : PasswordHashing) (settings : RelaySettings)

/-- Run the service a request asks for.  The salt is what `make_password` draws for a new
account. -/
def serveRequest (db : Db) (inboxRow : InboundDirectMessage) (contact : Contact)
    (request : AnswerableRequest) (isPasswordAvailable : Bool) (salt : Text) (now : Time) :
    Except ServiceError (Db × RowProcessing) :=
  match request with
  | .account accountRequest =>
      if ¬ isPasswordAvailable then
        .ok (db, { classification := .request, requestType := [request.messageType] })
      else do
        let (db, outcome) ← registerOrSignIn hashing db contact.id accountRequest salt now
        return (db, buildRequestProcessing request outcome.reply .immediate)
  | .query queryRequest =>
      .ok (db,
        buildRequestProcessing request (userExists db contact.id queryRequest) .immediate)
  | .messagePart part => do
      let (db, outcome) ← acceptMessagePart settings db contact.id part now
      return (db, buildRequestProcessing request outcome.reply
        (if outcome.isIncompleteStatus then .coalescedIncompleteStatus else .immediate))
  | .read readRequest =>
      match recordRead settings db contact.id readRequest now with
      | (db, outcome) => .ok (db, buildRequestProcessing request outcome.reply .immediate)
  | .refresh refreshRequest => do
      let (db, reply) ←
        startRefresh settings db contact.id refreshRequest (some inboxRow.id) now
      return (db, buildRequestProcessing request reply .immediate)

/-- A well-formed message of a contact: an acknowledgement, a request, or a server type that is
never answered. -/
def serveMessage (db : Db) (inboxRow : InboundDirectMessage) (contact : Contact)
    (message : ProtocolMessage) (isPasswordAvailable : Bool) (salt : Text) (now : Time) :
    Except ServiceError (Db × RowProcessing) :=
  let requestType := readVersionOneTypeLetter inboxRow.text
  match message with
  | .deliveryAcknowledgement acknowledgement => do
      let (db, _) ←
        recordDeliveryAcknowledgement settings db contact.id acknowledgement now
      return (db, buildAcknowledgementProcessing requestType)
  | .receiptAcknowledgement acknowledgement =>
      .ok ((recordReceiptAcknowledgement db contact.id acknowledgement now).1,
        buildAcknowledgementProcessing requestType)
  | message =>
      match answerableRequest? message with
      | some request =>
          serveRequest hashing settings db inboxRow contact request isPasswordAvailable salt now
      | none => .ok (db, buildServerTypeIgnored requestType)

def classifyAndServe (db : Db) (inboxRow : InboundDirectMessage) (contact : Option Contact)
    (parsedDirectMessage : ParsedDirectMessage) (isPasswordAvailable : Bool) (salt : Text)
    (now : Time) : Except ServiceError (Db × RowProcessing) :=
  match contact with
  | none =>
      .ok (db, { classification := .unknownSender, reconciliationNeeded := true })
  | some contact =>
      if inboxRow.textType ≠ plainTextType then
        .ok (db, { classification := .unsupportedTextType })
      else
        match parsedDirectMessage with
        | .otherText _ => .ok (db, { classification := .notProtocol })
        | .unsupportedVersion version nextCharacter =>
            .ok (db, classifyUnsupportedVersion version nextCharacter)
        | .unknownMessageType letter => .ok (db, classifyUnknownMessageType letter)
        | .protocolSyntaxError requestType correlationFields =>
            .ok (db, classifySyntaxError requestType correlationFields)
        | .message message =>
            serveMessage hashing settings db inboxRow contact message isPasswordAvailable salt now

end Services

/-! ### One row -/

/-- Formatting raises before anything is committed if a reply may not be sent. -/
def buildQueuedReplies (rowProcessing : RowProcessing) (contact : Option Contact)
    (replyKey : Option Text) : Except ServiceError (List QueuedReply) :=
  match rowProcessing.reply, contact, replyKey with
  | some reply, some contact, some replyKey =>
      match formatServerMessage reply with
      | .error reason => .error (.invalidText reason)
      | .ok text =>
          .ok
            [{ contactId := contact.id
               replyKey
               text
               serverMessage := reply
               readiness := rowProcessing.replyReadiness }]
  | _, _, _ => .ok []

/-- The row once it was processed. -/
def processedRow (rowProcessing : RowProcessing) (now : Time) (row : InboundDirectMessage) :
    InboundDirectMessage :=
  { row with
    processingState := .processed
    processedAt := some now
    classification := rowProcessing.classification
    requestType := rowProcessing.requestType }

theorem id_processedRow (rowProcessing : RowProcessing) (now : Time)
    (row : InboundDirectMessage) : (processedRow rowProcessing now row).id = row.id := rfl

def isReceivedRow (inboxRowId : ℕ) (row : InboundDirectMessage) : Bool :=
  row.id = inboxRowId && row.processingState = .received

/-- The compare-and-set that makes processing happen once. -/
def markInboxRowProcessed (inbox : Table InboundDirectMessage) (inboxRowId : ℕ)
    (rowProcessing : RowProcessing) (now : Time) :
    Except ProcessingError (Table InboundDirectMessage) :=
  if inbox.filter (isReceivedRow inboxRowId) = [] then .error .alreadyProcessed
  else
    .ok (inbox.updateWhere (isReceivedRow inboxRowId) (processedRow rowProcessing now)
      fun row _ => id_processedRow rowProcessing now row)

/-- The error of a service, as an error of the row's transaction. -/
def liftServiceError {α : Type} : Except ServiceError α → Except ProcessingError α
  | .ok a => .ok a
  | .error serviceError => .error (.service serviceError)

def processInTransaction (hashing : PasswordHashing) (settings : RelaySettings) (state : RelayDb)
    (inboxRowId : ℕ) (salt : Text) (now : Time) (originalText : Option PlainText) :
    Except ProcessingError (RelayDb × InboundProcessingResult) :=
  match state.inbox.get? inboxRowId with
  | none => .error .alreadyProcessed
  | some inboxRow =>
      if inboxRow.processingState ≠ .received then .error .alreadyProcessed
      else
        let contact := inboxRow.contactId.bind state.db.contacts.get?
        let (textToProcess, isPasswordAvailable) :=
          chooseTextToProcess inboxRow.text originalText
        match parseDirectMessageText textToProcess with
        | none => .error (.service .value)
        | some parsedDirectMessage => do
            let (db, rowProcessing) ← liftServiceError
              (classifyAndServe hashing settings state.db inboxRow contact parsedDirectMessage
                isPasswordAvailable salt now)
            let replyKey := buildReplyKeyForDirectMessage parsedDirectMessage inboxRowId
            let replies ← liftServiceError (buildQueuedReplies rowProcessing contact replyKey)
            let inbox ← markInboxRowProcessed state.inbox inboxRowId rowProcessing now
            return ({ db, inbox },
              { inboxRowId
                contactId := contact.map Contact.id
                processingState := .processed
                classification := rowProcessing.classification
                replies
                floodArrivalRouteResetNeeded :=
                  decideFloodArrivalRouteReset settings inboxRow contact now
                reconciliationNeeded := rowProcessing.reconciliationNeeded })

/-! ### The transaction and its failure -/

/-- The row once processing it failed. -/
def failedRow (now : Time) (row : InboundDirectMessage) : InboundDirectMessage :=
  { row with processingState := .failed, processedAt := some now }

theorem id_failedRow (now : Time) (row : InboundDirectMessage) :
    (failedRow now row).id = row.id := rfl

def markInboxRowFailed (inbox : Table InboundDirectMessage) (inboxRowId : ℕ) (now : Time) :
    Table InboundDirectMessage :=
  inbox.updateWhere (isReceivedRow inboxRowId) (failedRow now) fun row _ => id_failedRow now row

def buildAlreadyProcessedResult (inbox : Table InboundDirectMessage) (inboxRowId : ℕ) :
    InboundProcessingResult :=
  match inbox.get? inboxRowId with
  | none =>
      { inboxRowId
        contactId := none
        processingState := .processed
        classification := .unclassified
        wasAlreadyProcessed := true }
  | some inboxRow =>
      { inboxRowId
        contactId := inboxRow.contactId
        processingState := inboxRow.processingState
        classification := inboxRow.classification
        wasAlreadyProcessed := true }

/-- Process one inbox row: classify it, run its service and mark it processed. -/
def processInboundDirectMessage (hashing : PasswordHashing) (settings : RelaySettings)
    (state : RelayDb) (inboxRowId : ℕ) (salt : Text) (now : Time)
    (originalText : Option PlainText) : RelayDb × InboundProcessingResult :=
  match processInTransaction hashing settings state inboxRowId salt now originalText with
  | .ok processed => processed
  | .error .alreadyProcessed => (state, buildAlreadyProcessedResult state.inbox inboxRowId)
  | .error (.service _) =>
      ({ state with inbox := markInboxRowFailed state.inbox inboxRowId now },
        { inboxRowId
          contactId := (state.inbox.get? inboxRowId).bind InboundDirectMessage.contactId
          processingState := .failed
          classification := .unclassified })

end HoptalkRelay
