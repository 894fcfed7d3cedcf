/-
**What is stored can always be sent on.**

Every text the relay sends is formatted from a request it just parsed or from rows that passed the
same checks when they were written.  A reply, a part of an accepted message and a receipt therefore
always fit, whatever the usernames and the length of the id, and a forwarded part says exactly what
the upload said.

Main results:

* `HoptalkRelay.isFormattable_of_classifyAndServe` — the reply a text earns can be formatted;
* `HoptalkRelay.parse_deliveryPacket` — what a prepared part parses back to;
* `HoptalkRelay.forwarding_byte_exact` — **no row ever blocks the sender, and parts are forwarded
  byte by byte**.
-/

import HoptalkRelay.Invariants.Scheduler
import HoptalkRelay.Invariants.Uploads
import HoptalkRelay.Protocol.RequestReplies
import HoptalkRelay.RequestProcessing

set_option relaxedAutoImplicit false
set_option autoImplicit false

namespace HoptalkRelay

open Relational Transition

/-! ### The replies of the services -/

/-- The formatter of the reply's kind accepts it. -/
def ServerMessage.IsSendable (reply : ServerMessage) : Prop :=
  IsFormattable id reply.toProtocolMessage

section Services

variable {hashing : PasswordHashing} {settings : RelaySettings} {db db' : Db} {deviceId : ℕ}
  {salt : Text} {now : Time}

/-- The reply of an `A`. -/
theorem isSendable_of_registerOrSignIn {request : AccountRequest} {outcome : AccountRequestOutcome}
    (hrequest : (AnswerableRequest.account request).IsWellFormed)
    (h : registerOrSignIn hashing db deviceId request salt now = .ok (db', outcome)) :
    outcome.reply.IsSendable := by
  have herror : ∀ errorCode, (ServerMessage.IsSendable
      (buildRequestErrorReply errorCode (.account request))) :=
    fun errorCode => isFormattable_buildRequestErrorReply errorCode hrequest
  unfold registerOrSignIn at h
  dsimp only at h
  split at h
  · obtain ⟨-, rfl⟩ := Prod.mk.inj (Except.ok.inj h)
    exact herror .passwordInvalid
  split at h
  · cases h
  split at h
  · -- a new account
    unfold createAccount at h
    split at h
    · rename_i hvalid
      obtain ⟨⟨db₁, linkSummary⟩, -, h⟩ := bind_eq_ok.1 h
      obtain ⟨-, rfl⟩ := Prod.mk.inj (Except.ok.inj h)
      exact hvalid
    · cases h
  · rename_i user hfound
    unfold signIn at h
    split at h
    split at h
    · obtain ⟨-, rfl⟩ := Prod.mk.inj (Except.ok.inj h)
      exact herror .rateLimited
    split at h
    · obtain ⟨-, rfl⟩ := Prod.mk.inj (Except.ok.inj h)
      exact herror .wrongPassword
    · obtain ⟨⟨db₁, linkSummary⟩, -, h⟩ := bind_eq_ok.1 h
      obtain ⟨-, rfl⟩ := Prod.mk.inj (Except.ok.inj h)
      exact user.username.property

/-- The reply of a `Q`. -/
theorem isSendable_userExists {request : QueryRequest}
    (hrequest : (AnswerableRequest.query request).IsWellFormed) :
    (userExists db deviceId request).IsSendable := by
  unfold userExists
  split
  · exact isFormattable_buildRequestErrorReply .notSignedIn hrequest
  split
  · exact hrequest
  · rename_i user hfound
    exact user.username.property

/-- The set of a message's parts has one digit per part. -/
theorem isReceivedSetField_of_buildReceivedSet {m : Message} {receivedSet : Text}
    (h : buildReceivedSet m = .ok receivedSet) : isReceivedSetField receivedSet = true := by
  unfold buildReceivedSet convertPartsMaskToReceivedSet at h
  split at h
  swap
  · cases h
  rename_i set hset
  split at hset
  swap
  · cases hset
  obtain rfl := Except.ok.inj h
  obtain rfl := Option.some.inj hset
  have hcount := m.partCount.property
  unfold isReceivedSetField
  simp only [List.length_map, List.length_range, Bool.and_eq_true, decide_eq_true_eq,
    List.all_eq_true, List.mem_map]
  refine ⟨⟨hcount.1, hcount.2⟩, ?_⟩
  rintro c ⟨partIndex, -, rfl⟩
  split <;> rfl

/-- The reply of an `M`. -/
theorem isSendable_of_acceptMessagePart {part : MessagePartRequest} {outcome : MessagePartOutcome}
    (hrequest : (AnswerableRequest.messagePart part).IsWellFormed)
    (h : acceptMessagePart settings db deviceId part now = .ok (db', outcome)) :
    outcome.reply.IsSendable := by
  have herror : ∀ errorCode reason,
      (buildPartErrorOutcome errorCode part reason).reply.IsSendable :=
    fun errorCode _ => isFormattable_buildRequestErrorReply errorCode hrequest
  unfold acceptMessagePart at h
  split at h
  · obtain ⟨-, rfl⟩ := Prod.mk.inj (Except.ok.inj h)
    exact herror _ _
  split at h
  · obtain ⟨-, rfl⟩ := Prod.mk.inj (Except.ok.inj h)
    exact herror _ _
  rename_i recipient hfound
  split at h
  · obtain ⟨-, rfl⟩ := Prod.mk.inj (Except.ok.inj h)
    exact herror _ _
  obtain ⟨-, -, h⟩ := bind_eq_ok.1 h
  split at h
  swap
  · obtain ⟨-, rfl⟩ := Prod.mk.inj (Except.ok.inj h)
    exact herror _ _
  obtain ⟨⟨lockedDb, m⟩, -, h⟩ := bind_eq_ok.1 h
  dsimp only at h
  split at h
  · obtain ⟨-, rfl⟩ := Prod.mk.inj (Except.ok.inj h)
    exact herror _ _
  · unfold storePartOfMessage at h
    obtain ⟨receivedSet, hset, h⟩ := bind_eq_ok.1 h
    obtain ⟨-, rfl⟩ := Prod.mk.inj (Except.ok.inj h)
    exact ⟨recipient.username.property, hrequest.2, isReceivedSetField_of_buildReceivedSet hset⟩

/-- The reply of an `R`. -/
theorem isSendable_recordRead {request : ReadRequest}
    (hrequest : (AnswerableRequest.read request).IsWellFormed) :
    (recordRead settings db deviceId request now).2.reply.IsSendable := by
  unfold recordRead
  split
  · exact isFormattable_buildRequestErrorReply .notSignedIn hrequest
  split
  · exact isFormattable_buildRequestErrorReply .notFound hrequest
  · rename_i m sender hfound
    exact ⟨sender.username.property, m.clientMessageId.property⟩

/-- The reply of an `F`. -/
theorem isSendable_of_startRefresh {request : RefreshRequest} {reply : ServerMessage}
    {requestedByInboundId : Option ℕ}
    (hrequest : (AnswerableRequest.refresh request).IsWellFormed)
    (h : startRefresh settings db deviceId request requestedByInboundId now = .ok (db', reply)) :
    reply.IsSendable := by
  have herror : ∀ errorCode, (ServerMessage.IsSendable
      (buildRequestErrorReply errorCode (.refresh request))) :=
    fun errorCode => isFormattable_buildRequestErrorReply errorCode hrequest
  have hpeer : ∀ (peer : User) (count : ℕ),
      (ServerMessage.refreshReply peer.username.val count).IsSendable :=
    fun peer count => ⟨Int.natCast_nonneg count,
      refreshTarget_iff.1 (.username (username_iff.2 peer.username.property))⟩
  unfold startRefresh at h
  dsimp only at h
  split at h
  · obtain ⟨-, rfl⟩ := Prod.mk.inj (Except.ok.inj h)
    exact herror _
  split at h
  · obtain ⟨lockedUsers, -, h⟩ := bind_eq_ok.1 h
    obtain ⟨-, rfl⟩ := Prod.mk.inj (Except.ok.inj h)
    exact ⟨Int.natCast_nonneg _, hrequest⟩
  split at h
  · obtain ⟨-, rfl⟩ := Prod.mk.inj (Except.ok.inj h)
    exact herror _
  split at h
  · obtain ⟨-, rfl⟩ := Prod.mk.inj (Except.ok.inj h)
    exact herror _
  obtain ⟨lockedUsers, -, h⟩ := bind_eq_ok.1 h
  split at h
  · obtain ⟨-, rfl⟩ := Prod.mk.inj (Except.ok.inj h)
    exact herror _
  · obtain ⟨-, rfl⟩ := Prod.mk.inj (Except.ok.inj h)
    exact hpeer _ _

/-- A reply that can be formatted is formatted, within the limit. -/
theorem ServerMessage.IsSendable.format {reply : ServerMessage} (h : reply.IsSendable) :
    ∃ text, formatServerMessage reply = .ok text ∧
      countUtf8Bytes text ≤ directMessageMaximumBytes ∧
      ensureDirectMessageTextIsSendable text = .ok () := by
  have hserver := isServerMessage_toProtocolMessage reply
  obtain ⟨hformat, hbytes⟩ := formatProtocolMessage_of_isFormattable hserver h
  rw [formatProtocolMessage_toProtocolMessage] at hformat
  exact ⟨_, hformat, hbytes,
    ensureDirectMessageTextIsSendable_messageText (isSendable_of_isFormattable hserver h)⟩

/-- The reply of a service. -/
theorem isSendable_of_serveRequest {inboxRow : InboundDirectMessage} {contact : Contact}
    {request : AnswerableRequest} {isPasswordAvailable : Bool} {rowProcessing : RowProcessing}
    (hrequest : request.IsWellFormed)
    (h : serveRequest hashing settings db inboxRow contact request isPasswordAvailable salt now =
      .ok (db', rowProcessing)) :
    ∀ reply, rowProcessing.reply = some reply → reply.IsSendable := by
  intro reply hreply
  cases request with
  | account accountRequest =>
      simp only [serveRequest] at h
      split at h
      · obtain ⟨-, rfl⟩ := Prod.mk.inj (Except.ok.inj h)
        cases hreply
      · obtain ⟨⟨db₁, outcome⟩, hserved, h⟩ := bind_eq_ok.1 h
        obtain ⟨-, rfl⟩ := Prod.mk.inj (Except.ok.inj h)
        obtain rfl := Option.some.inj hreply
        exact isSendable_of_registerOrSignIn hrequest hserved
  | query queryRequest =>
      obtain ⟨-, rfl⟩ := Prod.mk.inj (Except.ok.inj h)
      obtain rfl := Option.some.inj hreply
      exact isSendable_userExists hrequest
  | messagePart part =>
      obtain ⟨⟨db₁, outcome⟩, hserved, h⟩ := bind_eq_ok.1 h
      obtain ⟨-, rfl⟩ := Prod.mk.inj (Except.ok.inj h)
      obtain rfl := Option.some.inj hreply
      exact isSendable_of_acceptMessagePart hrequest hserved
  | read readRequest =>
      obtain ⟨-, rfl⟩ := Prod.mk.inj (Except.ok.inj h)
      obtain rfl := Option.some.inj hreply
      exact isSendable_recordRead hrequest
  | refresh refreshRequest =>
      obtain ⟨⟨db₁, served⟩, hserved, h⟩ := bind_eq_ok.1 h
      obtain ⟨-, rfl⟩ := Prod.mk.inj (Except.ok.inj h)
      obtain rfl := Option.some.inj hreply
      exact isSendable_of_startRefresh hrequest hserved

/-- **The reply a text earns** can be formatted. -/
theorem isSendable_of_classifyAndServe {inboxRow : InboundDirectMessage}
    {contact : Option Contact} {text : PlainText} {parsed : ParsedDirectMessage}
    {isPasswordAvailable : Bool} {rowProcessing : RowProcessing}
    (hparse : parseDirectMessageText text = some parsed)
    (h : classifyAndServe hashing settings db inboxRow contact parsed isPasswordAvailable salt now =
      .ok (db', rowProcessing)) :
    ∀ reply, rowProcessing.reply = some reply → reply.IsSendable := by
  intro reply hreply
  have hgrammar : ∀ errorReply, buildGrammarErrorReply parsed = some errorReply →
      (ServerMessage.errorReply errorReply).IsSendable :=
    fun _ hbuilt => isFormattable_of_buildGrammarErrorReply hparse hbuilt
  unfold classifyAndServe at h
  split at h
  · obtain ⟨-, rfl⟩ := Prod.mk.inj (Except.ok.inj h)
    cases hreply
  split at h
  · obtain ⟨-, rfl⟩ := Prod.mk.inj (Except.ok.inj h)
    cases hreply
  cases parsed with
  | otherText other =>
      obtain ⟨-, rfl⟩ := Prod.mk.inj (Except.ok.inj h)
      cases hreply
  | unsupportedVersion version nextCharacter =>
      obtain ⟨-, rfl⟩ := Prod.mk.inj (Except.ok.inj h)
      obtain ⟨errorReply, hbuilt, rfl⟩ := Option.map_eq_some_iff.mp hreply
      exact hgrammar errorReply hbuilt
  | unknownMessageType letter =>
      obtain ⟨-, rfl⟩ := Prod.mk.inj (Except.ok.inj h)
      unfold classifyUnknownMessageType at hreply
      split at hreply
      · cases hreply
      · rename_i errorReply hbuilt
        obtain rfl := Option.some.inj hreply
        exact hgrammar errorReply hbuilt
  | protocolSyntaxError requestType correlationFields =>
      obtain ⟨-, rfl⟩ := Prod.mk.inj (Except.ok.inj h)
      unfold classifySyntaxError at hreply
      split at hreply
      · cases hreply
      split at hreply
      · cases hreply
      · rename_i errorReply hbuilt
        obtain rfl := Option.some.inj hreply
        exact hgrammar errorReply hbuilt
  | message message =>
      dsimp only at h
      unfold serveMessage at h
      dsimp only at h
      split at h
      · obtain ⟨⟨db₁, outcome⟩, -, h⟩ := bind_eq_ok.1 h
        obtain ⟨-, rfl⟩ := Prod.mk.inj (Except.ok.inj h)
        cases hreply
      · obtain ⟨-, rfl⟩ := Prod.mk.inj (Except.ok.inj h)
        cases hreply
      · split at h
        · rename_i request hrequest
          exact isSendable_of_serveRequest (isWellFormed_of_parse hparse hrequest) h reply hreply
        · obtain ⟨-, rfl⟩ := Prod.mk.inj (Except.ok.inj h)
          cases hreply

/-- The replies to queue for a text. -/
theorem buildQueuedReplies_isOk {rowProcessing : RowProcessing}
    (hreply : ∀ reply, rowProcessing.reply = some reply → reply.IsSendable)
    (contact : Option Contact) (replyKey : Option Text) :
    ∃ replies, buildQueuedReplies rowProcessing contact replyKey = .ok replies ∧
      ∀ reply ∈ replies, countUtf8Bytes reply.text ≤ directMessageMaximumBytes ∧
        ensureDirectMessageTextIsSendable reply.text = .ok () := by
  unfold buildQueuedReplies
  split
  · rename_i reply contact replyKey hsome
    obtain ⟨text, hformat, hbytes, hsendable⟩ := (hreply reply hsome).format
    rw [hformat]
    refine ⟨_, rfl, ?_⟩
    simp only [List.mem_singleton]
    rintro queued rfl
    exact ⟨hbytes, hsendable⟩
  · exact ⟨[], rfl, by simp⟩

/-- A sendable reply is prepared, or dropped when its contact is not on the node. -/
theorem prepareReplyPacket_isOk {text : Text}
    (hsendable : ensureDirectMessageTextIsSendable text = .ok ()) (db : Db) (contactId : ℕ)
    (replyKey : Text) (now : Time) (connectionGeneration : ℕ) :
    ∃ db' packetDescriptor, prepareReplyPacket db contactId replyKey text now connectionGeneration =
      .ok (db', packetDescriptor) := by
  unfold prepareReplyPacket
  rw [hsendable]
  dsimp only
  split
  · exact ⟨db, none, rfl⟩
  split
  · exact ⟨db, none, rfl⟩
  simp only [bind, Except.bind, pure, Except.pure]
  split
  · rename_i herror
    exact absurd herror (insertPreparedPacket_ne_error fun _ _ => hsendable)
  · exact ⟨_, _, rfl⟩

end Services

/-! ### Parts and receipts -/

section Rows

variable {db : Db}

/-- A part of a delivery can be formatted. -/
theorem formatDeliveryPart_of_mem (hok : PreparationOk db) {d : MessageDelivery}
    (hd : d ∈ db.deliveries) :
    ∃ m sender, db.messages.get? d.messageId = some m ∧ db.users.get? m.senderId = some sender ∧
      ∀ partNumber, 1 ≤ partNumber → partNumber ≤ m.partCount.val → ∃ partText text,
        m.partTexts.getD (partNumber - 1) none = some partText ∧
        formatDeliveryPart sender.username.val m.clientMessageId.val partNumber m.partCount.val
          partText = .ok text ∧ countUtf8Bytes text ≤ directMessageMaximumBytes := by
  obtain ⟨m, hm, haccepted⟩ := (hok.consistent.deliveries d hd).message
  have hmem := Table.mem_of_get? hm
  obtain ⟨sender, hsender⟩ :=
    Option.isSome_iff_exists.mp (hok.consistent.messages m hmem).sender
  refine ⟨m, sender, hm, hsender, fun partNumber hpos hle => ?_⟩
  obtain ⟨partText, hpartText, hformattable⟩ :=
    formatDeliveryPart_isOk hok hmem haccepted sender hpos hle
  obtain ⟨hformat, hbytes⟩ := formatProtocolMessage_of_isFormattable
    (by simp [ProtocolMessage.IsServerMessage, ProtocolMessage.messageType]) hformattable
  exact ⟨partText, _, hpartText, hformat, hbytes⟩

/-- A receipt can be formatted. -/
theorem formatReceiptPush_of_mem (hok : PreparationOk db) {r : ReceiptNotification}
    (hr : r ∈ db.receipts) :
    ∃ m recipient receiptLevel text, db.messages.get? r.messageId = some m ∧
      db.users.get? m.recipientId = some recipient ∧
      receiptLevelByNumber r.targetLevel = some receiptLevel ∧
      formatReceiptPush recipient.username.val m.clientMessageId.val receiptLevel = .ok text ∧
      countUtf8Bytes text ≤ directMessageMaximumBytes := by
  obtain ⟨m, hm, -⟩ := (hok.consistent.receipts r hr).message
  obtain ⟨recipient, hrecipient⟩ := Option.isSome_iff_exists.mp
    (hok.consistent.messages m (Table.mem_of_get? hm)).recipient
  obtain ⟨receiptLevel, hlevel⟩ := receiptLevel_of_target (hok.targets r hr)
  have hformattable : IsFormattable id (.receiptPush recipient.username.val
      m.clientMessageId.val receiptLevel) :=
    ⟨recipient.username.property, m.clientMessageId.property⟩
  obtain ⟨hformat, hbytes⟩ := formatProtocolMessage_of_isFormattable
    (by simp [ProtocolMessage.IsServerMessage, ProtocolMessage.messageType]) hformattable
  exact ⟨m, recipient, receiptLevel, _, hm, hrecipient, hlevel, hformat, hbytes⟩

/-- **What a formatted part parses back to.** -/
theorem parse_of_formatDeliveryPart {username partText text : Text}
    {messageId partNumber partCount : ℕ}
    (h : formatDeliveryPart username messageId partNumber partCount partText = .ok text) :
    parseDirectMessageText (plainText text) =
      some (.message (.deliveryPart username messageId partNumber partCount partText)) := by
  have hformat : formatProtocolMessage id
      (.deliveryPart username messageId partNumber partCount partText) = .ok text := h
  obtain ⟨hformattable, rfl, hsendable⟩ := formatProtocolMessage_eq_ok.1 hformat
  exact parse_eq_message_iff.2 ⟨_, rfl, protocolDm_of_isFormattable hformattable hsendable.noNul⟩

end Rows

/-! ### Forwarded parts -/

/-- The packet carries a part of a stored message, and says exactly what the upload of that part
said. -/
structure ForwardsUpload (hashing : PasswordHashing) (history : List (Input × Outcome)) (db : Db)
    (packet : OutboundPacket) (d : MessageDelivery) (m : Message) (sender : User)
    (partNumber : ℕ) (partText : Text) : Prop where
  delivery : packet.messageDeliveryId = some d.id ∧ d ∈ db.deliveries
  message : db.messages.get? d.messageId = some m
  account : db.users.get? m.senderId = some sender
  number : packet.partNumber = some partNumber
  stored : m.partTexts.getD (partNumber - 1) none = some partText
  uploaded : ∃ creator, Uploaded hashing history m creator (partNumber - 1) partText
  parsed : parseDirectMessageText (plainText packet.text) = some (.message
    (.deliveryPart sender.username.val m.clientMessageId.val partNumber m.partCount.val partText))

section Run

variable {hashing : PasswordHashing} {history : List (Input × Outcome)} {db : Db} {input : Input}
  {packet : OutboundPacket}

/-- A part that was just prepared. -/
theorem forwardsUpload_of_step (run : (engine hashing).Run Db.empty history db)
    (hpacket : packet ∈ (step hashing db input).1.packets)
    (hnew : db.packets.get? packet.id = none) (hdelivery : packet.messageDeliveryId.isSome) :
    ∃ d m sender partNumber partText, ForwardsUpload hashing
      (history ++ [(input, (step hashing db input).2)]) (step hashing db input).1 packet d m sender
      partNumber partText := by
  have hdb := consistent_of_reachable ⟨history, run⟩
  have hsent := sentBy_of_run (run.snoc input)
  obtain ⟨db₁, now, device, -, -, hinserts, hwork, -, -⟩ := step_newPacket hdb hpacket hnew
  have hframe := hinserts.frame
  have hdeliveries : (step hashing db input).1.deliveries = db₁.deliveries := by rw [hframe]
  have hmessages : (step hashing db input).1.messages = db₁.messages := by rw [hframe]
  have husers : (step hashing db input).1.users = db₁.users := by rw [hframe]
  rcases hwork with hwork | ⟨hreply, -⟩
  swap
  · simp [hreply.delivery] at hdelivery
  cases hwork with
  | receipt _ _ _ _ _ _ _ _ _ _ _ _ _ _ _ _ hnone => simp [hnone] at hdelivery
  | delivery d m sender partNumber partText hd hstate hm hsender hpart hpartText htext hpurpose
      hcontact hid hnumber =>
      obtain ⟨creator, hcreator⟩ := hsent m (hmessages ▸ Table.mem_of_get? hm)
      exact ⟨d, m, sender, partNumber, partText,
        { delivery := ⟨hid, hdeliveries ▸ hd⟩
          message := hmessages ▸ hm
          account := husers ▸ hsender
          number := hnumber
          stored := hpartText
          uploaded := ⟨creator, hcreator.parts _ _ hpartText⟩
          parsed := parse_of_formatDeliveryPart htext }⟩

/-- **No row ever blocks the sender, and parts are forwarded byte by byte.**  In every run: every
reply a text earns is formatted within 150 bytes and can be prepared; so is every part of every
delivery, and every receipt; the scheduler never fails; and a packet prepared for a delivery parses
back to the part as it was uploaded. -/
theorem forwarding_byte_exact (run : (engine hashing).Run Db.empty history db) :
    (∀ settings inboxRow contact text parsed isPasswordAvailable salt now db' rowProcessing,
      parseDirectMessageText text = some parsed →
      classifyAndServe hashing settings db inboxRow contact parsed isPasswordAvailable salt now =
        .ok (db', rowProcessing) →
      ∀ replyKey, ∃ replies, buildQueuedReplies rowProcessing contact replyKey = .ok replies ∧
        ∀ reply ∈ replies, countUtf8Bytes reply.text ≤ 150 ∧
          ∀ later contactId sentAt connectionGeneration, ∃ db' packetDescriptor,
            prepareReplyPacket later contactId reply.replyKey reply.text sentAt
              connectionGeneration = .ok (db', packetDescriptor)) ∧
    (∀ d ∈ db.deliveries, ∃ m sender, db.messages.get? d.messageId = some m ∧
      db.users.get? m.senderId = some sender ∧
      ∀ partNumber, 1 ≤ partNumber → partNumber ≤ m.partCount.val → ∃ partText text,
        m.partTexts.getD (partNumber - 1) none = some partText ∧
        formatDeliveryPart sender.username.val m.clientMessageId.val partNumber m.partCount.val
          partText = .ok text ∧ countUtf8Bytes text ≤ 150) ∧
    (∀ r ∈ db.receipts, ∃ m recipient receiptLevel text,
      db.messages.get? r.messageId = some m ∧ db.users.get? m.recipientId = some recipient ∧
      receiptLevelByNumber r.targetLevel = some receiptLevel ∧
      formatReceiptPush recipient.username.val m.clientMessageId.val receiptLevel = .ok text ∧
      countUtf8Bytes text ≤ 150) ∧
    (∀ settings now connectionGeneration, ∃ db' packetDescriptor,
      prepareNextPacket settings db now connectionGeneration = .ok (db', packetDescriptor)) ∧
    ∀ input, ∀ packet ∈ (step hashing db input).1.packets, db.packets.get? packet.id = none →
      packet.messageDeliveryId.isSome →
      ∃ d m sender partNumber partText, ForwardsUpload hashing
        (history ++ [(input, (step hashing db input).2)]) (step hashing db input).1 packet d m
        sender partNumber partText := by
  have hok := preparationOk_of_reachable ⟨history, run⟩
  refine ⟨?_, fun d hd => formatDeliveryPart_of_mem hok hd,
    fun r hr => formatReceiptPush_of_mem hok hr, fun settings now connectionGeneration => ?_,
    fun input packet hpacket hnew hdelivery => forwardsUpload_of_step run hpacket hnew hdelivery⟩
  · intro settings inboxRow contact text parsed isPasswordAvailable salt now db' rowProcessing
      hparse hserved replyKey
    obtain ⟨replies, hbuilt, hall⟩ := buildQueuedReplies_isOk
      (isSendable_of_classifyAndServe hparse hserved) contact replyKey
    refine ⟨replies, hbuilt, fun reply hreply => ⟨(hall reply hreply).1, ?_⟩⟩
    intro later contactId sentAt connectionGeneration
    exact prepareReplyPacket_isOk (hall reply hreply).2 later contactId reply.replyKey sentAt
      connectionGeneration
  · obtain ⟨db', result, hprepared, -⟩ := prepareNextPacket_isOk hok settings now
      connectionGeneration
    exact ⟨db', result, hprepared⟩

end Run

/-- Alice's part is prepared for bob's device and parses back to what she sent. -/
theorem forwarding_byte_exact_sampleMessage :
    let input : Input := ⟨sampleSettings, .prepareNextPacket 1 (sampleTime 8)⟩
    (step sampleHashing (sampleDb sampleMessage) input).1.packets.rows.map OutboundPacket.text =
        ["HT1 m alice 7 1/1 hi".toList] ∧
      ∀ packet ∈ (step sampleHashing (sampleDb sampleMessage) input).1.packets,
        ∃ d m sender partNumber partText, ForwardsUpload sampleHashing
          (sampleHistory sampleMessage ++
            [(input, (step sampleHashing (sampleDb sampleMessage) input).2)])
          (step sampleHashing (sampleDb sampleMessage) input).1 packet d m sender partNumber
          partText := by
  have hstored : (sampleDb sampleMessage).packets.rows = [] := by decide +kernel
  have hparts : ∀ packet ∈ (step sampleHashing (sampleDb sampleMessage)
      ⟨sampleSettings, .prepareNextPacket 1 (sampleTime 8)⟩).1.packets.rows,
      packet.messageDeliveryId.isSome = true := by decide +kernel
  refine ⟨by decide +kernel, fun packet hpacket => ?_⟩
  refine (forwarding_byte_exact (run_sampleDb sampleMessage)).2.2.2.2 _ packet hpacket ?_
    (hparts packet hpacket)
  rw [Table.get?_eq_none]
  intro stored hmem
  rw [← Table.mem_rows, hstored] at hmem
  cases hmem

end HoptalkRelay
