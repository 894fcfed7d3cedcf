/-
**No reply loops, and no answer dropped.**

The parser, the builder of the error reply and the builder of the reply key each decide on their
own whether a text is answered.  They agree: a reply that was computed for a contact always has a
key, and a text has a key only when it is a request.  A text the relay itself sends is a lower-case
message, so it earns nothing wherever it comes back.

Main definitions:

* `HoptalkRelay.EarnsAnswer` — the texts that may be answered;
* `HoptalkRelay.RelaySends` — the texts the relay sends;
* `HoptalkRelay.SameRequest` — requests that ask the same.

Main results:

* `HoptalkRelay.not_earnsAnswer` — what earns nothing;
* `HoptalkRelay.earnsAnswer_of_replyKey` — only a request has a reply key;
* `HoptalkRelay.replyKey_of_classifyAndServe` — a reply of a contact has a key;
* `HoptalkRelay.replyKey_eq_iff` — the keys of two requests;
* `HoptalkRelay.answers_only_requests` — **no reply loops, and no answer dropped**.
-/

import HoptalkRelay.Protocol.RequestReplies
import HoptalkRelay.RequestProcessing
import HoptalkRelay.Transactions.Steps

set_option relaxedAutoImplicit false
set_option autoImplicit false

namespace HoptalkRelay

open Formats Relational

/-! ### The texts that may be answered -/

/-- A version-1 request, well-formed or malformed; a version-1 text with an unknown upper-case
letter or with no letter; a text of another version whose next character is an upper-case
letter. -/
inductive EarnsAnswer (text : PlainText) : Prop
  | request {letter : Char} {rest : PlainText}
      (h : Grammar.Traffic text ['1'] (.scalar letter :: rest))
      (hletter : letter ∈ ['A', 'Q', 'M', 'R', 'F'])
  | unknownLetter {letter : Char} {rest : PlainText}
      (h : Grammar.Traffic text ['1'] (.scalar letter :: rest))
      (hupper : Grammar.UpperCaseLetter letter) (hunknown : letter ∉ Grammar.typeLetters)
  | noLetter {messageBody : PlainText} (h : Grammar.Traffic text ['1'] messageBody)
      (hno : ¬ ∃ letter rest, messageBody = .scalar letter :: rest ∧
        (Grammar.UpperCaseLetter letter ∨ Grammar.LowerCaseLetter letter))
  | otherVersion {version : Text} {letter : Char} {rest : PlainText}
      (h : Grammar.Traffic text version (.scalar letter :: rest)) (hversion : version ≠ ['1'])
      (hupper : Grammar.UpperCaseLetter letter)

/-- **An acknowledgement, a lower-case message and a text without a header earn nothing.** -/
theorem not_earnsAnswer {text : PlainText}
    (h : ∀ version messageBody, Grammar.Traffic text version messageBody →
      ∃ letter rest, messageBody = .scalar letter :: rest ∧
        (Grammar.LowerCaseLetter letter ∨ version = ['1'] ∧ letter ∈ ['K', 'C'])) :
    ¬ EarnsAnswer text := by
  have hcase : ∀ {c : Char}, Grammar.UpperCaseLetter c → ¬ Grammar.LowerCaseLetter c := by
    intro c hupper hlower
    unfold Grammar.UpperCaseLetter at hupper
    unfold Grammar.LowerCaseLetter at hlower
    omega
  intro hearns
  cases hearns with
  | request htraffic hletter =>
      obtain ⟨letter, rest, heq, hlower | ⟨-, hack⟩⟩ := h _ _ htraffic
      · obtain rfl := CodePoint.scalar.inj (List.cons.inj heq).1
        refine hcase ?_ hlower
        simp only [List.mem_cons, List.not_mem_nil, or_false] at hletter
        rcases hletter with rfl | rfl | rfl | rfl | rfl <;> exact upperCaseLetter_iff.2 rfl
      · obtain rfl := CodePoint.scalar.inj (List.cons.inj heq).1
        simp only [List.mem_cons, List.not_mem_nil, or_false] at hack
        rcases hack with rfl | rfl <;> exact absurd hletter (by decide)
  | unknownLetter htraffic hupper hunknown =>
      obtain ⟨letter, rest, heq, hlower | ⟨-, hack⟩⟩ := h _ _ htraffic
      · obtain rfl := CodePoint.scalar.inj (List.cons.inj heq).1
        exact hcase hupper hlower
      · obtain rfl := CodePoint.scalar.inj (List.cons.inj heq).1
        simp only [List.mem_cons, List.not_mem_nil, or_false] at hack
        rcases hack with rfl | rfl <;> exact hunknown (by decide)
  | noLetter htraffic hno =>
      obtain ⟨letter, rest, heq, hlower | ⟨-, hack⟩⟩ := h _ _ htraffic
      · exact hno ⟨letter, rest, heq, .inr hlower⟩
      · refine hno ⟨letter, rest, heq, .inl ?_⟩
        simp only [List.mem_cons, List.not_mem_nil, or_false] at hack
        rcases hack with rfl | rfl <;> exact upperCaseLetter_iff.2 rfl
  | otherVersion htraffic hversion hupper =>
      obtain ⟨letter, rest, heq, hlower | ⟨hone, -⟩⟩ := h _ _ htraffic
      · obtain rfl := CodePoint.scalar.inj (List.cons.inj heq).1
        exact hcase hupper hlower
      · exact hversion hone

/-- The body of a parsed message starts with its letter. -/
theorem traffic_of_parse_message {text : PlainText} {message : ProtocolMessage}
    (h : parseDirectMessageText text = some (.message message)) :
    ∃ rest, Grammar.Traffic text ['1'] (.scalar message.messageType :: rest) := by
  obtain ⟨derived, rfl, hderived⟩ := parse_eq_message_iff.1 h
  rw [eq_messageText_of_protocolDm hderived]
  exact ⟨_, traffic_one (plainText (bodyText message.messageType message.fields))⟩

theorem messageType_of_answerableRequest? {message : ProtocolMessage} {request : AnswerableRequest}
    (h : answerableRequest? message = some request) :
    message.messageType ∈ ['A', 'Q', 'M', 'R', 'F'] := by
  cases message with
  | accountRequest | queryRequest | messagePartRequest | readRequest | refreshRequest =>
      simp [ProtocolMessage.messageType]
  | _ => simp [answerableRequest?] at h

/-- **Only a request has a reply key.** -/
theorem earnsAnswer_of_replyKey {text : PlainText} {parsed : ParsedDirectMessage}
    {inboxRowId : ℕ} {replyKey : Text} (hparse : parseDirectMessageText text = some parsed)
    (h : buildReplyKeyForDirectMessage parsed inboxRowId = some replyKey) : EarnsAnswer text := by
  cases parsed with
  | message message =>
      obtain ⟨request, hrequest, -⟩ := Option.map_eq_some_iff.mp h
      obtain ⟨rest, htraffic⟩ := traffic_of_parse_message hparse
      exact .request htraffic (messageType_of_answerableRequest? hrequest)
  | otherText other => exact absurd h (by simp [buildReplyKeyForDirectMessage])
  | unsupportedVersion version nextCharacter =>
      obtain ⟨messageBody, htraffic, hversion, rfl⟩ := parse_eq_unsupportedVersion_iff.1 hparse
      unfold buildReplyKeyForDirectMessage at h
      dsimp only at h
      split at h
      · rename_i hupper
        obtain ⟨c, htake, hletter⟩ := isUpperCaseTypeLetter_iff.1 hupper
        cases messageBody with
        | nil => simp at htake
        | cons first rest =>
            obtain rfl : first = .scalar c := by simpa using htake
            exact .otherVersion htraffic hversion hletter
      · exact absurd h (by simp)
  | unknownMessageType letter =>
      obtain ⟨rest, htraffic, -, hunknown⟩ := parse_eq_unknownMessageType_iff.1 hparse
      unfold buildReplyKeyForDirectMessage at h
      dsimp only at h
      split at h
      · rename_i hupper
        obtain ⟨c, heq, hletter⟩ := isUpperCaseTypeLetter_iff.1 hupper
        cases heq
        exact .unknownLetter htraffic hletter hunknown
      · exact absurd h (by simp)
  | protocolSyntaxError requestType kept =>
      obtain ⟨messageBody, htraffic, hbody⟩ := traffic_of_parse_syntaxError hparse
      unfold buildReplyKeyForDirectMessage at h
      dsimp only at h
      rcases requestType_of_syntaxError hbody with ⟨rest, rfl, halpha⟩ | ⟨rfl, hno⟩
      · split at h
        · rename_i hletter
          exact .request htraffic hletter
        · split at h
          · rename_i hunknown
            rw [hunknown] at halpha
            exact absurd halpha (by decide)
          · exact absurd h (by simp)
      · exact .noLetter htraffic hno

/-! ### Stored texts -/

/-- A sign-in request of any version earns an answer. -/
theorem earnsAnswer_of_account {text : PlainText} {version : Text} {rest : PlainText}
    (h : Grammar.Traffic text version (.scalar 'A' :: rest)) : EarnsAnswer text := by
  by_cases hversion : version = ['1']
  · subst hversion
    exact .request h (by decide)
  · exact .otherVersion h hversion (upperCaseLetter_iff.2 rfl)

theorem traffic_of_matchAccountRequest {text beforePassword : PlainText}
    (h : matchAccountRequestWithPassword text = some beforePassword) :
    ∃ version rest, Grammar.Traffic text version (.scalar 'A' :: rest) := by
  unfold matchAccountRequestWithPassword at h
  split at h
  · rename_i version fields hmatch
    exact ⟨version, _, matchProtocolTraffic_iff.1 hmatch⟩
  · exact absurd h (by simp)

theorem earnsAnswer_of_carriesPassword {text : PlainText}
    (h : carriesAccountRequestPassword text = true) : EarnsAnswer text := by
  obtain ⟨beforePassword, hmatch⟩ := Option.isSome_iff_exists.mp h
  obtain ⟨version, rest, htraffic⟩ := traffic_of_matchAccountRequest hmatch
  exact earnsAnswer_of_account htraffic

/-- The text that is processed earns an answer only if the stored text does. -/
theorem earnsAnswer_of_chooseTextToProcess {storedText : PlainText}
    {originalText : Option PlainText}
    (h : EarnsAnswer (chooseTextToProcess storedText originalText).1) : EarnsAnswer storedText := by
  by_cases hcarries : carriesAccountRequestPassword storedText = true
  · exact earnsAnswer_of_carriesPassword hcarries
  · unfold chooseTextToProcess at h
    rw [if_pos hcarries] at h
    exact h

/-- A received text earns an answer if what is stored of it does. -/
theorem earnsAnswer_of_redactStoredText {text : PlainText}
    (h : EarnsAnswer (redactStoredText text)) : EarnsAnswer text := by
  unfold redactStoredText at h
  cases hmatch : matchAccountRequestWithPassword text with
  | none =>
      rw [hmatch] at h
      exact h
  | some beforePassword =>
      obtain ⟨version, rest, htraffic⟩ := traffic_of_matchAccountRequest hmatch
      exact earnsAnswer_of_account htraffic

/-! ### A computed reply has a key -/

theorem exists_of_map_errorReply {reply : ServerMessage} {errorReply : Option ErrorReply}
    (h : errorReply.map ServerMessage.errorReply = some reply) :
    ∃ e, errorReply = some e := by
  obtain ⟨e, he, -⟩ := Option.map_eq_some_iff.mp h
  exact ⟨e, he⟩

/-- An error a text earns by itself has a reply key. -/
theorem replyKey_of_buildGrammarErrorReply {parsed : ParsedDirectMessage} {errorReply : ErrorReply}
    (h : buildGrammarErrorReply parsed = some errorReply) (inboxRowId : ℕ) :
    ∃ replyKey, buildReplyKeyForDirectMessage parsed inboxRowId = some replyKey := by
  cases parsed with
  | message message => exact absurd h (by simp [buildGrammarErrorReply])
  | otherText text => exact absurd h (by simp [buildGrammarErrorReply])
  | unsupportedVersion version nextCharacter =>
      unfold buildGrammarErrorReply buildVersionErrorReply at h
      dsimp only at h
      split at h
      · exact absurd h (by simp)
      · rename_i hupper
        rw [not_not] at hupper
        exact ⟨_, if_pos hupper⟩
  | unknownMessageType letter =>
      unfold buildGrammarErrorReply buildUnsupportedTypeErrorReply at h
      dsimp only at h
      split at h
      · exact absurd h (by simp)
      · rename_i hupper
        rw [not_not] at hupper
        exact ⟨_, if_pos hupper⟩
  | protocolSyntaxError requestType kept =>
      unfold buildGrammarErrorReply buildSyntaxErrorReply at h
      dsimp only at h
      split at h
      · exact absurd h (by simp)
      · rename_i hanswered
        unfold buildReplyKeyForDirectMessage
        dsimp only
        by_cases hrequest : requestType ∈ requestTypes
        · exact ⟨_, if_pos hrequest⟩
        · have hunknown : requestType = unknownRequestType := by
            by_contra hne
            exact hanswered ⟨hrequest, hne⟩
          rw [if_neg hrequest, if_pos hunknown]
          exact ⟨_, rfl⟩

/-- Only a request is served with a reply. -/
theorem answerableRequest?_of_serveMessage {hashing : PasswordHashing} {settings : RelaySettings}
    {db db' : Db} {row : InboundDirectMessage} {contact : Contact} {message : ProtocolMessage}
    {isPasswordAvailable : Bool} {salt : Text} {now : Time} {rowProcessing : RowProcessing}
    {reply : ServerMessage}
    (h : serveMessage hashing settings db row contact message isPasswordAvailable salt now =
      .ok (db', rowProcessing)) (hreply : rowProcessing.reply = some reply) :
    ∃ request, answerableRequest? message = some request := by
  unfold serveMessage at h
  dsimp only at h
  split at h
  · obtain ⟨⟨db₁, outcome⟩, -, hok⟩ := bind_eq_ok.1 h
    obtain ⟨-, rfl⟩ := Prod.mk.inj (Except.ok.inj hok)
    exact absurd hreply (by simp [buildAcknowledgementProcessing])
  · obtain ⟨-, rfl⟩ := Prod.mk.inj (Except.ok.inj h)
    exact absurd hreply (by simp [buildAcknowledgementProcessing])
  · split at h
    · rename_i request hrequest
      exact ⟨request, hrequest⟩
    · obtain ⟨-, rfl⟩ := Prod.mk.inj (Except.ok.inj h)
      exact absurd hreply (by simp [buildServerTypeIgnored])

/-- **A reply that was computed for a contact has a key.** -/
theorem replyKey_of_classifyAndServe {hashing : PasswordHashing} {settings : RelaySettings}
    {db db' : Db} {row : InboundDirectMessage} {contact : Option Contact}
    {parsed : ParsedDirectMessage} {isPasswordAvailable : Bool} {salt : Text} {now : Time}
    {rowProcessing : RowProcessing} {reply : ServerMessage}
    (h : classifyAndServe hashing settings db row contact parsed isPasswordAvailable salt now =
      .ok (db', rowProcessing)) (hreply : rowProcessing.reply = some reply) (inboxRowId : ℕ) :
    ∃ replyKey, buildReplyKeyForDirectMessage parsed inboxRowId = some replyKey := by
  unfold classifyAndServe at h
  split at h
  · obtain ⟨-, rfl⟩ := Prod.mk.inj (Except.ok.inj h)
    exact absurd hreply (by simp)
  split at h
  · obtain ⟨-, rfl⟩ := Prod.mk.inj (Except.ok.inj h)
    exact absurd hreply (by simp)
  split at h
  · obtain ⟨-, rfl⟩ := Prod.mk.inj (Except.ok.inj h)
    exact absurd hreply (by simp)
  · obtain ⟨-, rfl⟩ := Prod.mk.inj (Except.ok.inj h)
    obtain ⟨e, he⟩ := exists_of_map_errorReply hreply
    exact replyKey_of_buildGrammarErrorReply he inboxRowId
  · rename_i letter
    obtain ⟨-, rfl⟩ := Prod.mk.inj (Except.ok.inj h)
    unfold classifyUnknownMessageType at hreply
    split at hreply
    · exact absurd hreply (by simp [buildServerTypeIgnored])
    · rename_i he
      exact replyKey_of_buildGrammarErrorReply he inboxRowId
  · rename_i requestType kept
    obtain ⟨-, rfl⟩ := Prod.mk.inj (Except.ok.inj h)
    unfold classifySyntaxError at hreply
    split at hreply
    · exact absurd hreply (by simp [buildAcknowledgementProcessing])
    · split at hreply
      · exact absurd hreply (by simp [buildServerTypeIgnored])
      · rename_i he
        exact replyKey_of_buildGrammarErrorReply he inboxRowId
  · obtain ⟨request, hrequest⟩ := answerableRequest?_of_serveMessage h hreply
    refine ⟨buildRequestReplyKey request, ?_⟩
    unfold buildReplyKeyForDirectMessage
    dsimp only
    rw [hrequest]
    rfl

/-! ### One row -/

theorem liftServiceError_eq_ok {α : Type} {x : Except ServiceError α} {a : α} :
    liftServiceError x = .ok a ↔ x = .ok a := by
  cases x <;> simp [liftServiceError]

/-- What a row that is processed went through. -/
theorem processInTransaction_cases {hashing : PasswordHashing} {settings : RelaySettings}
    {state state' : RelayDb} {inboxRowId : ℕ} {salt : Text} {now : Time}
    {originalText : Option PlainText} {result : InboundProcessingResult}
    (h : processInTransaction hashing settings state inboxRowId salt now originalText =
      .ok (state', result)) :
    ∃ row parsed rowProcessing, state.inbox.get? inboxRowId = some row ∧
      parseDirectMessageText (chooseTextToProcess row.text originalText).1 = some parsed ∧
      classifyAndServe hashing settings state.db row (row.contactId.bind state.db.contacts.get?)
        parsed (chooseTextToProcess row.text originalText).2 salt now =
          .ok (state'.db, rowProcessing) ∧
      buildQueuedReplies rowProcessing (row.contactId.bind state.db.contacts.get?)
        (buildReplyKeyForDirectMessage parsed inboxRowId) = .ok result.replies := by
  unfold processInTransaction at h
  split at h
  · simp at h
  · rename_i row hrow
    split at h
    · simp at h
    · dsimp only at h
      split at h
      · simp at h
      · rename_i parsed hparsed
        obtain ⟨⟨db, rowProcessing⟩, hserve, h⟩ := bind_eq_ok.1 h
        obtain ⟨replies, hreplies, h⟩ := bind_eq_ok.1 h
        obtain ⟨inbox, -, h⟩ := bind_eq_ok.1 h
        obtain ⟨rfl, rfl⟩ := Prod.mk.inj (Except.ok.inj h)
        exact ⟨row, parsed, rowProcessing, hrow, hparsed, liftServiceError_eq_ok.1 hserve,
          liftServiceError_eq_ok.1 hreplies⟩

/-- A reply is queued only under a key. -/
theorem replyKey_of_buildQueuedReplies {rowProcessing : RowProcessing} {contact : Option Contact}
    {replyKey : Option Text} {replies : List QueuedReply}
    (h : buildQueuedReplies rowProcessing contact replyKey = .ok replies)
    (hreplies : replies ≠ []) :
    ∃ key, replyKey = some key := by
  unfold buildQueuedReplies at h
  split at h
  · exact ⟨_, rfl⟩
  · exact absurd (Except.ok.inj h).symm hreplies

/-- **The reply of a known contact is queued.** -/
theorem serverMessages_of_buildQueuedReplies {hashing : PasswordHashing} {settings : RelaySettings}
    {db db' : Db} {row : InboundDirectMessage} {contact : Contact} {parsed : ParsedDirectMessage}
    {isPasswordAvailable : Bool} {salt : Text} {now : Time} {rowProcessing : RowProcessing}
    {inboxRowId : ℕ} {replies : List QueuedReply}
    (hserve : classifyAndServe hashing settings db row (some contact) parsed isPasswordAvailable
      salt now = .ok (db', rowProcessing))
    (h : buildQueuedReplies rowProcessing (some contact)
      (buildReplyKeyForDirectMessage parsed inboxRowId) = .ok replies) :
    replies.map QueuedReply.serverMessage = rowProcessing.reply.toList := by
  cases hreply : rowProcessing.reply with
  | none =>
      unfold buildQueuedReplies at h
      rw [hreply] at h
      rw [← Except.ok.inj h]
      rfl
  | some reply =>
      obtain ⟨key, hkey⟩ := replyKey_of_classifyAndServe hserve hreply inboxRowId
      unfold buildQueuedReplies at h
      simp only [hreply, hkey] at h
      split at h
      · exact absurd h (by simp)
      · rw [← Except.ok.inj h]
        rfl

/-! ### The texts the relay sends -/

/-- A formatted reply, delivery part or receipt. -/
inductive RelaySends (text : Text) : Prop
  | reply {reply : ServerMessage} (h : formatServerMessage reply = .ok text)
  | deliveryPart {senderUsername : Text} {messageId partNumber partCount : ℕ} {partText : Text}
      (h : formatDeliveryPart senderUsername messageId partNumber partCount partText = .ok text)
  | receipt {recipientUsername : Text} {messageId : ℕ} {receiptLevel : ReceiptLevel}
      (h : formatReceiptPush recipientUsername messageId receiptLevel = .ok text)

/-- **A text the relay sends is parsed to a server message.** -/
theorem parse_of_relaySends {text : Text} (h : RelaySends text) :
    ∃ message : ProtocolMessage, message.IsServerMessage ∧
      parseDirectMessageText (plainText text) = some (.message message) := by
  have hformatted : ∃ message : ProtocolMessage, message.IsServerMessage ∧
      formatProtocolMessage id message = .ok text := by
    cases h with
    | @reply reply h =>
        exact ⟨_, isServerMessage_toProtocolMessage reply,
          (formatProtocolMessage_toProtocolMessage id reply).trans h⟩
    | @deliveryPart senderUsername messageId partNumber partCount partText h =>
        refine ⟨.deliveryPart senderUsername messageId partNumber partCount partText, ?_, h⟩
        simp [ProtocolMessage.IsServerMessage, ProtocolMessage.messageType]
    | @receipt recipientUsername messageId receiptLevel h =>
        refine ⟨.receiptPush recipientUsername messageId receiptLevel, ?_, h⟩
        simp [ProtocolMessage.IsServerMessage, ProtocolMessage.messageType]
  obtain ⟨message, hserver, hok⟩ := hformatted
  obtain ⟨hformattable, rfl, hsendable⟩ := formatProtocolMessage_eq_ok.1 hok
  refine ⟨message.shown, ?_, parse_eq_message_iff.2
    ⟨_, rfl, protocolDm_of_isFormattable hformattable hsendable.noNul⟩⟩
  rw [ProtocolMessage.IsServerMessage, messageType_shown]
  exact hserver

/-- A server message has no reply key. -/
theorem replyKey_of_isServerMessage {message : ProtocolMessage} (h : message.IsServerMessage)
    (inboxRowId : ℕ) : buildReplyKeyForDirectMessage (.message message) inboxRowId = none := by
  cases message with
  | accountRequest | queryRequest | messagePartRequest | readRequest | refreshRequest =>
      exact absurd h (by simp [ProtocolMessage.IsServerMessage, ProtocolMessage.messageType])
  | _ => rfl

/-- A server message changes nothing. -/
theorem serveMessage_of_isServerMessage {message : ProtocolMessage} (h : message.IsServerMessage)
    (hashing : PasswordHashing) (settings : RelaySettings) (db : Db) (row : InboundDirectMessage)
    (contact : Contact) (isPasswordAvailable : Bool) (salt : Text) (now : Time) :
    serveMessage hashing settings db row contact message isPasswordAvailable salt now =
      .ok (db, buildServerTypeIgnored (readVersionOneTypeLetter row.text)) := by
  cases message with
  | accountRequest | queryRequest | messagePartRequest | readRequest | refreshRequest
  | deliveryAcknowledgement | receiptAcknowledgement =>
      exact absurd h (by simp [ProtocolMessage.IsServerMessage, ProtocolMessage.messageType])
  | _ => rfl

theorem db_of_classifyAndServe_message {hashing : PasswordHashing} {settings : RelaySettings}
    {db db' : Db} {row : InboundDirectMessage} {contact : Option Contact}
    {message : ProtocolMessage} (hserver : message.IsServerMessage) {isPasswordAvailable : Bool}
    {salt : Text} {now : Time} {rowProcessing : RowProcessing}
    (h : classifyAndServe hashing settings db row contact (.message message) isPasswordAvailable
      salt now = .ok (db', rowProcessing)) : db' = db := by
  unfold classifyAndServe at h
  split at h
  · exact (Prod.mk.inj (Except.ok.inj h)).1.symm
  split at h
  · exact (Prod.mk.inj (Except.ok.inj h)).1.symm
  · dsimp only at h
    rw [serveMessage_of_isServerMessage hserver] at h
    exact (Prod.mk.inj (Except.ok.inj h)).1.symm

/-- A text that is parsed to a server message is no sign-in request. -/
theorem carriesPassword_of_isServerMessage {text : PlainText} {message : ProtocolMessage}
    (hserver : message.IsServerMessage)
    (hparse : parseDirectMessageText text = some (.message message)) :
    matchAccountRequestWithPassword text = none := by
  by_contra hsome
  obtain ⟨beforePassword, hmatch⟩ := Option.ne_none_iff_exists'.mp hsome
  obtain ⟨version, rest, htraffic⟩ := traffic_of_matchAccountRequest hmatch
  obtain ⟨rest', hown⟩ := traffic_of_parse_message hparse
  obtain ⟨-, hbody⟩ := traffic_unique htraffic hown
  obtain ⟨hletter, -⟩ := List.cons.inj hbody
  have htype : message.messageType = 'A' := CodePoint.scalar.inj hletter
  rw [ProtocolMessage.IsServerMessage, htype] at hserver
  exact absurd hserver (by decide)

/-- **A text the relay sends earns nothing where it comes back**, and leaves every table of the
engine as it is. -/
theorem processInbound_of_relaySends {text : Text} (h : RelaySends text)
    (hashing : PasswordHashing) (settings : RelaySettings) (state : RelayDb) (inboxRowId : ℕ)
    (salt : Text) (now : Time) (originalText : Option PlainText)
    (hrow : ∀ row, state.inbox.get? inboxRowId = some row →
      row.text = redactStoredText (plainText text)) :
    (processInboundDirectMessage hashing settings state inboxRowId salt now
        originalText).1.db = state.db ∧
      (processInboundDirectMessage hashing settings state inboxRowId salt now
        originalText).2.replies = [] := by
  obtain ⟨message, hserver, hparse⟩ := parse_of_relaySends h
  have hpassword := carriesPassword_of_isServerMessage hserver hparse
  unfold processInboundDirectMessage
  cases hprocess : processInTransaction hashing settings state inboxRowId salt now originalText with
  | error reason =>
      cases reason with
      | alreadyProcessed =>
          refine ⟨rfl, ?_⟩
          dsimp only
          unfold buildAlreadyProcessedResult
          split <;> rfl
      | service serviceError => exact ⟨rfl, rfl⟩
  | ok processed =>
      obtain ⟨state', result⟩ := processed
      obtain ⟨row, parsed, rowProcessing, hget, hparsed, hserve, hreplies⟩ :=
        processInTransaction_cases hprocess
      have htext : row.text = plainText text := by
        rw [hrow row hget, redactStoredText, hpassword]
      have hchosen : (chooseTextToProcess row.text originalText).1 = plainText text := by
        unfold chooseTextToProcess
        rw [htext, if_pos (by simp [carriesAccountRequestPassword, hpassword])]
      rw [hchosen, hparse] at hparsed
      obtain rfl := Option.some.inj hparsed
      refine ⟨db_of_classifyAndServe_message hserver hserve, ?_⟩
      by_contra hne
      obtain ⟨key, hkey⟩ := replyKey_of_buildQueuedReplies hreplies hne
      rw [replyKey_of_isServerMessage hserver] at hkey
      exact absurd hkey (by simp)

/-! ### Reply keys -/

namespace AnswerableRequest

/-- The peer or the username a request names. -/
def peer : AnswerableRequest → Text
  | account request => request.username
  | query request => request.username
  | messagePart request => request.recipientUsername
  | read request => request.senderUsername
  | refresh request => request.refreshTarget

/-- The id of the message a request is about. -/
def messageId? : AnswerableRequest → Option ℕ
  | account _ => none
  | query _ => none
  | messagePart request => some request.messageId
  | read request => some request.messageId
  | refresh _ => none

/-- The key fields are the peer and the id. -/
theorem keyFields_eq (request : AnswerableRequest) :
    request.keyFields =
      normalizeUsernameForLookup request.peer :: (request.messageId?.map decimal).toList := by
  cases request <;> rfl

end AnswerableRequest

/-- Two requests ask the same: one type, one peer up to case, one id. -/
structure SameRequest (request other : AnswerableRequest) : Prop where
  messageType : request.messageType = other.messageType
  peer : normalizeUsernameForLookup request.peer = normalizeUsernameForLookup other.peer
  messageId : request.messageId? = other.messageId?

/-- Only a colon is a colon in lower case. -/
theorem eq_replyKeySeparator_of_toLower {c : Char} (h : c.toLower = replyKeySeparator) :
    c = replyKeySeparator := by
  unfold Char.toLower at h
  split at h
  · rename_i hupper
    exfalso
    have hval : c.val + 32 = 58 := congrArg Char.val h
    have hlow : (65 : UInt32).toNat ≤ c.val.toNat := hupper.1
    have hhigh : c.val.toNat ≤ (90 : UInt32).toNat := hupper.2
    have hsum := congrArg UInt32.toNat hval
    rw [UInt32.toNat_add] at hsum
    simp at hsum hlow hhigh
    omega
  · exact h

theorem replyKeySeparator_not_mem_lookup {field : Text} (h : replyKeySeparator ∉ field) :
    replyKeySeparator ∉ normalizeUsernameForLookup field := by
  intro hmem
  obtain ⟨c, hc, hlower⟩ := List.mem_map.mp hmem
  rw [eq_replyKeySeparator_of_toLower hlower] at hc
  exact h hc

theorem replyKeySeparator_not_mem_refreshTarget {field : Text}
    (h : isRefreshTargetField field = true) : replyKeySeparator ∉ field := by
  rw [isRefreshTargetField, Bool.or_eq_true, beq_iff_eq] at h
  rcases h with rfl | h
  · decide
  · rw [isValidUsername, Bool.and_eq_true, List.all_eq_true] at h
    exact fun hmem => absurd (h.2 _ hmem) (by decide)

theorem replyKeySeparator_not_mem_decimal (n : ℕ) : replyKeySeparator ∉ decimal n :=
  not_mem_of_isDigit rfl fun _ hc => isDigit_of_mem_decimal hc

/-- The peer of a well-formed request is a username or `*`. -/
theorem isRefreshTargetField_peer {text : PlainText} {request : AnswerableRequest}
    (h : parseDirectMessageText text = some (.message request.toProtocolMessage)) :
    isRefreshTargetField request.peer = true := by
  obtain ⟨derived, -, hderived⟩ := parse_eq_message_iff.1 h
  refine refreshTarget_iff.1 ?_
  cases hderived with
  | server hbody => cases request <;> cases hbody
  | client hbody =>
      cases request with
      | account => cases hbody with | accountRequest husername => exact .username husername
      | query => cases hbody with | queryRequest husername => exact .username husername
      | messagePart => cases hbody with | messagePartRequest husername => exact .username husername
      | read => cases hbody with | readRequest husername => exact .username husername
      | refresh => cases hbody with | refreshRequest htarget => exact htarget

/-- No field of a well-formed request's key holds the separator. -/
theorem replyKeySeparator_not_mem_keyFields {request : AnswerableRequest}
    (hpeer : isRefreshTargetField request.peer = true) :
    ∀ field ∈ [request.messageType] :: request.keyFields, replyKeySeparator ∉ field := by
  intro field hfield
  rw [AnswerableRequest.keyFields_eq] at hfield
  rcases List.mem_cons.mp hfield with rfl | hfield
  · cases request <;> simp [AnswerableRequest.messageType, replyKeySeparator]
  rcases List.mem_cons.mp hfield with rfl | hfield
  · exact replyKeySeparator_not_mem_lookup (replyKeySeparator_not_mem_refreshTarget hpeer)
  · obtain ⟨messageId, -, rfl⟩ := Option.map_eq_some_iff.mp (Option.mem_toList.mp hfield)
    exact replyKeySeparator_not_mem_decimal messageId

theorem decimal_injective {n m : ℕ} (h : decimal n = decimal m) : n = m := by
  have hread := congrArg numberOf h
  rwa [numberOf_decimal, numberOf_decimal] at hread

theorem messageId_of_decimal {a b : Option ℕ}
    (h : (a.map decimal).toList = (b.map decimal).toList) : a = b := by
  cases a <;> cases b
  · rfl
  · exact absurd h (by simp)
  · exact absurd h (by simp)
  · simp only [Option.map_some, Option.toList_some, List.cons.injEq, and_true] at h
    rw [decimal_injective h]

/-- **Two well-formed requests have one key exactly when they ask the same.** -/
theorem replyKey_eq_iff {request other : AnswerableRequest}
    (hpeer : isRefreshTargetField request.peer = true)
    (hpeer' : isRefreshTargetField other.peer = true) :
    buildRequestReplyKey request = buildRequestReplyKey other ↔ SameRequest request other := by
  constructor
  · intro h
    have hpieces := congrArg (List.splitOn replyKeySeparator) h
    rw [buildRequestReplyKey, buildRequestReplyKey,
      splitOn_join (replyKeySeparator_not_mem_keyFields hpeer) (by simp),
      splitOn_join (replyKeySeparator_not_mem_keyFields hpeer') (by simp),
      AnswerableRequest.keyFields_eq, AnswerableRequest.keyFields_eq] at hpieces
    obtain ⟨htype, hfields⟩ := List.cons.inj hpieces
    obtain ⟨hname, hid⟩ := List.cons.inj hfields
    exact ⟨List.singleton_injective htype, hname, messageId_of_decimal hid⟩
  · rintro ⟨htype, hname, hid⟩
    rw [buildRequestReplyKey, buildRequestReplyKey, AnswerableRequest.keyFields_eq,
      AnswerableRequest.keyFields_eq, htype, hname, hid]

theorem buildReplyKeyForDirectMessage_request (request : AnswerableRequest) (inboxRowId : ℕ) :
    buildReplyKeyForDirectMessage (.message request.toProtocolMessage) inboxRowId =
      some (buildRequestReplyKey request) := by
  cases request <;> rfl

/-! ### The main theorem -/

/-- **No reply loops, and no answer dropped.**  A row earns a reply only if its text is a request:
the stored text, and every received text that is stored so.  What was computed for a known contact
is queued.  A text the relay sends earns nothing in any relay and changes nothing but the inbox.
Two well-formed requests share a reply key exactly when they ask the same. -/
theorem answers_only_requests (hashing : PasswordHashing) (settings : RelaySettings)
    (state : RelayDb) (inboxRowId : ℕ) (salt : Text) (now : Time)
    (originalText : Option PlainText) :
    (∀ state' result row,
      processInTransaction hashing settings state inboxRowId salt now originalText =
          .ok (state', result) → state.inbox.get? inboxRowId = some row → result.replies ≠ [] →
        EarnsAnswer row.text ∧ ∀ text, redactStoredText text = row.text → EarnsAnswer text) ∧
    (∀ db row contact parsed isPasswordAvailable rowProcessing reply,
      classifyAndServe hashing settings state.db row (some contact) parsed isPasswordAvailable salt
          now = .ok (db, rowProcessing) → rowProcessing.reply = some reply →
        ∃ replyKey, buildReplyKeyForDirectMessage parsed inboxRowId = some replyKey ∧
          ∀ replies, buildQueuedReplies rowProcessing (some contact)
              (buildReplyKeyForDirectMessage parsed inboxRowId) = .ok replies →
            replies.map QueuedReply.serverMessage = [reply]) ∧
    (∀ text, RelaySends text →
      (∀ row, state.inbox.get? inboxRowId = some row →
          row.text = redactStoredText (plainText text)) →
        (processInboundDirectMessage hashing settings state inboxRowId salt now
            originalText).1.db = state.db ∧
          (processInboundDirectMessage hashing settings state inboxRowId salt now
            originalText).2.replies = []) ∧
    ∀ text otherText request other otherRowId,
      parseDirectMessageText text = some (.message (AnswerableRequest.toProtocolMessage request)) →
      parseDirectMessageText otherText =
        some (.message (AnswerableRequest.toProtocolMessage other)) →
      (buildReplyKeyForDirectMessage (.message request.toProtocolMessage) inboxRowId =
          buildReplyKeyForDirectMessage (.message other.toProtocolMessage) otherRowId ↔
        SameRequest request other) := by
  refine ⟨?_, ?_, ?_, ?_⟩
  · intro state' result row hprocess hrow hreplies
    obtain ⟨row', parsed, rowProcessing, hget, hparsed, -, hqueued⟩ :=
      processInTransaction_cases hprocess
    obtain rfl := Option.some.inj (hrow.symm.trans hget)
    obtain ⟨key, hkey⟩ := replyKey_of_buildQueuedReplies hqueued hreplies
    have hstored := earnsAnswer_of_chooseTextToProcess (earnsAnswer_of_replyKey hparsed hkey)
    refine ⟨hstored, fun text htext => earnsAnswer_of_redactStoredText ?_⟩
    rw [htext]
    exact hstored
  · intro db row contact parsed isPasswordAvailable rowProcessing reply hserve hreply
    obtain ⟨key, hkey⟩ := replyKey_of_classifyAndServe hserve hreply inboxRowId
    refine ⟨key, hkey, fun replies hqueued => ?_⟩
    rw [serverMessages_of_buildQueuedReplies hserve hqueued, hreply]
    rfl
  · intro text hsends hrow
    exact processInbound_of_relaySends hsends hashing settings state inboxRowId salt now
      originalText hrow
  · intro text otherText request other otherRowId hparse hother
    rw [buildReplyKeyForDirectMessage_request, buildReplyKeyForDirectMessage_request,
      Option.some_inj]
    exact replyKey_eq_iff (isRefreshTargetField_peer hparse) (isRefreshTargetField_peer hother)

/-- Alice's device sent a text that is not processed yet. -/
def sampleRow (text : Text) : InboundDirectMessage :=
  { id := 1, receivedAt := sampleTime 9, senderPublicKeyPrefix := [], contactId := some 1,
    senderTimestamp := 9, textType := plainTextType, pathLength := directArrivalPathLength,
    text := plainText text, textSha256 := [] }

def sampleRelayDb (text : Text) : RelayDb where
  db := sampleDb sampleSignIns
  inbox :=
    { rows := [sampleRow text]
      nextKey := 2
      sorted := List.pairwise_singleton _ _
      below := fun _ hr => List.mem_singleton.1 hr ▸ Nat.one_lt_two }

def sampleProcess (text : Text) : Except ProcessingError (RelayDb × InboundProcessingResult) :=
  processInTransaction sampleHashing sampleSettings (sampleRelayDb text) 1 [] (sampleTime 9) none

/-- A query is answered, its reply has a key, the reply coming back is not answered, and the
queries for `Bob` and `bob` share their key. -/
theorem answers_only_requests_sampleQuery :
    EarnsAnswer (plainText "HT1 Q Bob".toList) ∧
      (∃ replyKey, buildReplyKeyForDirectMessage (.message (.queryRequest ⟨"Bob".toList⟩)) 1 =
        some replyKey) ∧
      (processInboundDirectMessage sampleHashing sampleSettings
        (sampleRelayDb "HT1 q Bob 1".toList) 1 [] (sampleTime 9) none).2.replies = [] ∧
      SameRequest (.query ⟨"Bob".toList⟩) (.query ⟨"bob".toList⟩) := by
  have hall := fun text => answers_only_requests sampleHashing sampleSettings (sampleRelayDb text) 1
    [] (sampleTime 9) none
  refine ⟨?_, ?_, ?_, ?_⟩
  · have hone : (sampleProcess "HT1 Q Bob".toList).toOption.any fun processed =>
        processed.2.replies != [] := by decide +kernel
    cases hprocess : sampleProcess "HT1 Q Bob".toList with
    | error reason =>
        rw [hprocess] at hone
        exact absurd hone (by simp [Except.toOption])
    | ok processed =>
        obtain ⟨state', result⟩ := processed
        rw [hprocess] at hone
        exact ((hall _).1 state' result _ hprocess rfl (bne_iff_ne.mp hone)).1
  · exact ((hall []).2.1 _ (sampleRow []) { id := 1, publicKey := [], addedAt := sampleTime 0 }
      (.message (.queryRequest ⟨"Bob".toList⟩)) true _ _ rfl rfl).imp fun _ h => h.1
  · refine ((hall _).2.2.1 "HT1 q Bob 1".toList
      (@RelaySends.reply _ (.queryReply "Bob".toList true) (by decide +kernel)) ?_).2
    rintro row ⟨⟩
    decide +kernel
  · exact ((hall []).2.2.2 (plainText "HT1 Q Bob".toList) (plainText "HT1 Q bob".toList)
      (.query ⟨"Bob".toList⟩) (.query ⟨"bob".toList⟩) 1 (by decide +kernel) (by decide +kernel)).mp
      (by decide +kernel)

end HoptalkRelay
