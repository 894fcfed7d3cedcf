/-
**Formatter and parser are inverse.**

A message is formatted exactly when its values pass the checks of its fields and the text may be
sent, and then its text is its type letter and its fields behind the prefix.  The grammar derives
that text with the message it came from, a refresh count clamped; and a derived text is the text
of its message.  So what is formatted is parsed back, and what is parsed is formatted back.

Main definitions:

* `HoptalkRelay.ProtocolMessage.messageType`, `HoptalkRelay.ProtocolMessage.fields` — the letter
  and the fields of a message;
* `HoptalkRelay.IsFormattable`, `HoptalkRelay.IsSendable` — what the formatters check;
* `HoptalkRelay.ProtocolMessage.shown` — the message with its refresh count clamped.

Main results:

* `HoptalkRelay.formatProtocolMessage_eq_ok` — what is formatted, and to what text;
* `HoptalkRelay.protocolDm_of_isFormattable`, `HoptalkRelay.eq_messageText_of_protocolDm` — the
  text of a message in the grammar;
* `HoptalkRelay.format_parse_inverse` — **formatter and parser are inverse**.
-/

import HoptalkRelay.Protocol.Classification

set_option relaxedAutoImplicit false
set_option autoImplicit false

namespace HoptalkRelay

open Formats

theorem bind_eq_ok {ε α β : Type} {x : Except ε α} {f : α → Except ε β} {b : β} :
    (x >>= f) = .ok b ↔ ∃ a, x = .ok a ∧ f a = .ok b := by
  cases x with
  | error e => simp [bind, Except.bind]
  | ok a => simp [bind, Except.bind]

/-! ### The text of a message -/

namespace ProtocolMessage

/-- The type letter. -/
def messageType : ProtocolMessage → Char
  | accountRequest _ => 'A'
  | queryRequest _ => 'Q'
  | messagePartRequest _ => 'M'
  | deliveryAcknowledgement _ => 'K'
  | readRequest _ => 'R'
  | receiptAcknowledgement _ => 'C'
  | refreshRequest _ => 'F'
  | accountReply _ => 'a'
  | queryReply _ _ => 'q'
  | sendStatusReply _ _ _ => 'k'
  | deliveryPart _ _ _ _ _ => 'm'
  | readReply _ _ => 'r'
  | receiptPush _ _ _ => 's'
  | refreshReply _ _ => 'f'
  | errorReply _ _ _ => 'e'

/-- The fields, in order. -/
def fields : ProtocolMessage → List Text
  | accountRequest request => [request.username, request.password]
  | queryRequest request => [request.username]
  | messagePartRequest request =>
      [request.recipientUsername, decimal request.messageId,
        decimal request.partNumber ++ '/' :: decimal request.partCount, request.partText]
  | deliveryAcknowledgement acknowledgement =>
      [acknowledgement.senderUsername, decimal acknowledgement.messageId,
        acknowledgement.receivedSet]
  | readRequest request => [request.senderUsername, decimal request.messageId]
  | receiptAcknowledgement acknowledgement =>
      [acknowledgement.recipientUsername, decimal acknowledgement.messageId,
        convertReceiptLevelToField acknowledgement.receiptLevel]
  | refreshRequest request => [request.refreshTarget]
  | accountReply username => [username]
  | queryReply username userExists => [username, if userExists then ['1'] else ['0']]
  | sendStatusReply recipientUsername messageId receivedSet =>
      [recipientUsername, decimal messageId, receivedSet]
  | deliveryPart senderUsername messageId partNumber partCount partText =>
      [senderUsername, decimal messageId, decimal partNumber ++ '/' :: decimal partCount, partText]
  | readReply senderUsername messageId => [senderUsername, decimal messageId]
  | receiptPush recipientUsername messageId receiptLevel =>
      [recipientUsername, decimal messageId, convertReceiptLevelToField receiptLevel]
  | refreshReply refreshTarget messageCount => [refreshTarget, decimal messageCount.toNat]
  | errorReply errorCode requestType errorReference =>
      [errorCode, requestType] ++ errorReference.toList

/-- The message with a refresh count above 9999 sent as 9999. -/
def shown : ProtocolMessage → ProtocolMessage
  | refreshReply refreshTarget messageCount =>
      refreshReply refreshTarget (min messageCount refreshReplyMaximumMessageCount)
  | message => message

end ProtocolMessage

/-- The prefix, the type letter and the fields. -/
def messageText (message : ProtocolMessage) : Text :=
  'H' :: 'T' :: '1' :: Grammar.sp :: bodyText message.messageType message.fields

/-! ### What is formatted -/

/-- What may go to the node as one direct message. -/
structure IsSendable (text : Text) : Prop where
  noNul : '\x00' ∉ text
  bytes : countUtf8Bytes text ≤ directMessageMaximumBytes

def IsMessageId (messageId : ℕ) : Prop :=
  messageIdMinimum ≤ messageId ∧ messageId ≤ messageIdMaximum

/-- The values of a message pass the checks of its formatter. -/
def IsFormattable (normalizePassword : Text → Text) : ProtocolMessage → Prop
  | .accountRequest request =>
      isValidPassword (normalizePassword request.password) = true ∧
        isValidUsername request.username = true
  | .queryRequest request => isValidUsername request.username = true
  | .messagePartRequest request =>
      isValidUsername request.recipientUsername = true ∧ IsMessageId request.messageId ∧
        isValidPartNumbering request.partNumber request.partCount = true ∧
        isValidPartText request.partText = true
  | .deliveryAcknowledgement acknowledgement =>
      isValidUsername acknowledgement.senderUsername = true ∧
        IsMessageId acknowledgement.messageId ∧
        isReceivedSetField acknowledgement.receivedSet = true
  | .readRequest request =>
      isValidUsername request.senderUsername = true ∧ IsMessageId request.messageId
  | .receiptAcknowledgement acknowledgement =>
      isValidUsername acknowledgement.recipientUsername = true ∧
        IsMessageId acknowledgement.messageId
  | .refreshRequest request => isRefreshTargetField request.refreshTarget = true
  | .accountReply username => isValidUsername username = true
  | .queryReply username _ => isValidUsername username = true
  | .sendStatusReply recipientUsername messageId receivedSet =>
      isValidUsername recipientUsername = true ∧ IsMessageId messageId ∧
        isReceivedSetField receivedSet = true
  | .deliveryPart senderUsername messageId partNumber partCount partText =>
      isValidUsername senderUsername = true ∧ IsMessageId messageId ∧
        isValidPartNumbering partNumber partCount = true ∧ isValidPartText partText = true
  | .readReply senderUsername messageId =>
      isValidUsername senderUsername = true ∧ IsMessageId messageId
  | .receiptPush recipientUsername messageId _ =>
      isValidUsername recipientUsername = true ∧ IsMessageId messageId
  | .refreshReply refreshTarget messageCount =>
      0 ≤ messageCount ∧ isRefreshTargetField refreshTarget = true
  | .errorReply errorCode requestType errorReference =>
      isErrorCodeField errorCode = true ∧ isRequestTypeField requestType = true ∧
        ∀ reference, errorReference = some reference → isErrorReferenceField reference = true

theorem convertUsernameToField_eq_ok {username field : Text} :
    convertUsernameToField username = .ok field ↔
      isValidUsername username = true ∧ username = field := by
  unfold convertUsernameToField
  split <;> simp_all

theorem convertMessageIdToField_eq_ok {messageId : ℕ} {field : Text} :
    convertMessageIdToField messageId = .ok field ↔
      IsMessageId messageId ∧ decimal messageId = field := by
  unfold convertMessageIdToField IsMessageId
  split <;> simp_all

theorem convertPartNumberingToField_eq_ok {partNumber partCount : ℕ} {field : Text} :
    convertPartNumberingToField partNumber partCount = .ok field ↔
      isValidPartNumbering partNumber partCount = true ∧
        decimal partNumber ++ '/' :: decimal partCount = field := by
  unfold convertPartNumberingToField
  split <;> simp_all

theorem convertPartTextToField_eq_ok {partText field : Text} :
    convertPartTextToField partText = .ok field ↔
      isValidPartText partText = true ∧ partText = field := by
  unfold convertPartTextToField
  split <;> simp_all

theorem convertReceivedSetToField_eq_ok {receivedSet field : Text} :
    convertReceivedSetToField receivedSet = .ok field ↔
      isReceivedSetField receivedSet = true ∧ receivedSet = field := by
  unfold convertReceivedSetToField
  split <;> simp_all

theorem convertRefreshTargetToField_eq_ok {refreshTarget field : Text} :
    convertRefreshTargetToField refreshTarget = .ok field ↔
      isRefreshTargetField refreshTarget = true ∧ refreshTarget = field := by
  unfold convertRefreshTargetToField
  split <;> simp_all

/-- **The finished text** is the prefix, the letter and the fields, when it may be sent. -/
theorem buildDirectMessageText_eq_ok {letter : Char} {fields : List Text} {text : Text}
    (hfields : fields ≠ []) :
    buildDirectMessageText letter fields = .ok text ↔
      'H' :: 'T' :: '1' :: Grammar.sp :: bodyText letter fields = text ∧ IsSendable text := by
  have hjoin : protocolPrefix ++ [' '].intercalate ([letter] :: fields) =
      'H' :: 'T' :: '1' :: Grammar.sp :: bodyText letter fields := by
    have hcons := join_cons Grammar.sp [letter] hfields
    have hsame : [' '].intercalate ([letter] :: fields) = join Grammar.sp ([letter] :: fields) := rfl
    rw [hsame, hcons]
    rfl
  unfold buildDirectMessageText
  dsimp only
  rw [hjoin]
  generalize 'H' :: 'T' :: '1' :: Grammar.sp :: bodyText letter fields = built at hjoin ⊢
  have hprefix : protocolPrefix.isPrefixOf built = true := by
    rw [← hjoin]
    exact List.isPrefixOf_iff_prefix.mpr (List.prefix_append _ _)
  rw [bind_eq_ok]
  unfold ensureDirectMessageTextIsSendable
  rw [if_neg (not_not.mpr hprefix)]
  constructor
  · rintro ⟨_, hsendable, hok⟩
    obtain rfl := Except.ok.inj hok
    refine ⟨rfl, ?_⟩
    split at hsendable
    · simp at hsendable
    · rename_i hnul
      split at hsendable
      · simp at hsendable
      · rename_i hbytes
        exact ⟨fun hmem => hnul (List.contains_iff_mem.mpr hmem), Nat.le_of_not_lt hbytes⟩
  · rintro ⟨rfl, hnul, hbytes⟩
    refine ⟨(), ?_, rfl⟩
    rw [if_neg (fun hmem => hnul (List.contains_iff_mem.mp hmem)), if_neg (Nat.not_lt.mpr hbytes)]

/-- **What is formatted, and to what text.** -/
theorem formatProtocolMessage_eq_ok {normalizePassword : Text → Text} {message : ProtocolMessage}
    {text : Text} :
    formatProtocolMessage normalizePassword message = .ok text ↔
      IsFormattable normalizePassword message ∧ messageText message.shown = text ∧
        IsSendable text := by
  cases message with
  | accountRequest request =>
      unfold formatProtocolMessage formatAccountRequest
      dsimp only
      split
      · rename_i hpassword
        simp [IsFormattable, hpassword]
      · rename_i hpassword
        rw [not_not] at hpassword
        simp [bind_eq_ok, convertUsernameToField_eq_ok, buildDirectMessageText_eq_ok, and_assoc,
          IsFormattable, hpassword, messageText, ProtocolMessage.shown,
          ProtocolMessage.messageType, ProtocolMessage.fields]
  | refreshReply refreshTarget messageCount =>
      have hshown : (min messageCount refreshReplyMaximumMessageCount).toNat =
          min messageCount.toNat refreshReplyMaximumMessageCount := by omega
      unfold formatProtocolMessage formatRefreshReply
      dsimp only
      split
      · rename_i hnegative
        simp [IsFormattable, hnegative]
      · rename_i hnegative
        rw [not_lt] at hnegative
        simp [bind_eq_ok, convertRefreshTargetToField_eq_ok, buildDirectMessageText_eq_ok,
          and_assoc, IsFormattable, hnegative, messageText, ProtocolMessage.shown,
          ProtocolMessage.messageType, ProtocolMessage.fields, hshown]
  | errorReply errorCode requestType errorReference =>
      unfold formatProtocolMessage formatErrorReply
      dsimp only
      split
      · rename_i hcode
        simp [IsFormattable, hcode]
      · rename_i hcode
        split
        · rename_i htype
          simp [IsFormattable, htype]
        · rename_i htype
          rw [not_not] at hcode htype
          cases errorReference with
          | none =>
              simp [buildDirectMessageText_eq_ok, IsFormattable, hcode, htype, messageText,
                ProtocolMessage.shown, ProtocolMessage.messageType, ProtocolMessage.fields]
          | some errorReference =>
              by_cases hreference : isErrorReferenceField errorReference = true
              · simp [buildDirectMessageText_eq_ok, IsFormattable, hcode, htype, hreference,
                  messageText, ProtocolMessage.shown, ProtocolMessage.messageType,
                  ProtocolMessage.fields]
              · simp [IsFormattable, hreference]
  | _ =>
      simp only [formatProtocolMessage, formatQueryRequest, formatMessagePartRequest,
        formatDeliveryAcknowledgement, formatReadRequest, formatReceiptAcknowledgement,
        formatRefreshRequest, formatAccountReply, formatQueryReply, formatSendStatusReply,
        formatDeliveryPart, formatReadReply, formatReceiptPush, bind_eq_ok,
        convertUsernameToField_eq_ok, convertMessageIdToField_eq_ok,
        convertPartNumberingToField_eq_ok, convertPartTextToField_eq_ok,
        convertReceivedSetToField_eq_ok, convertRefreshTargetToField_eq_ok]
      simp [IsFormattable, messageText, ProtocolMessage.shown, ProtocolMessage.messageType,
        ProtocolMessage.fields, buildDirectMessageText_eq_ok, and_assoc]

/-! ### The text of a message in the grammar -/

theorem denoted_decimal (n : ℕ) : Grammar.denoted (decimal n) = n := by
  rw [denoted_eq, numberOf_decimal]

theorem decimal_denoted {n : ℕ} {field : Text} (h : Grammar.Number n field) :
    decimal (Grammar.denoted field) = field := by
  rw [denoted_eq, decimal_numberOf (number_iff.1 h)]

theorem messageId_decimal {messageId : ℕ} (h : IsMessageId messageId) :
    Grammar.MessageId (decimal messageId) := by
  obtain ⟨hmin, hmax⟩ := h
  unfold messageIdMinimum at hmin
  unfold messageIdMaximum at hmax
  exact messageId_iff.2 (isNumberField_decimal (by omega) (by decide)
    (by simp only [messageIdMaximumDigits]; omega))

theorem partNumber_decimal {n : ℕ} (hpos : 1 ≤ n) (hmax : n ≤ maximumPartCount) :
    Grammar.Number 1 (decimal n) := by
  unfold maximumPartCount at hmax
  exact number_iff.2 (isNumberField_decimal (by omega) (by decide) (by omega))

/-- The two numbers of a valid part numbering are printed as the grammar has them. -/
theorem part_decimal {partNumber partCount : ℕ}
    (h : isValidPartNumbering partNumber partCount = true) :
    Grammar.PartNumber (decimal partNumber) ∧ Grammar.PartCount (decimal partCount) := by
  simp only [isValidPartNumbering, Bool.and_eq_true, decide_eq_true_eq] at h
  obtain ⟨⟨hpos, hle⟩, hmax⟩ := h
  exact ⟨partNumber_decimal hpos (hle.trans hmax), partNumber_decimal (hpos.trans hle) hmax⟩

theorem level_field (level : ReceiptLevel) :
    Grammar.Level (convertReceiptLevelToField level) level := by
  cases level
  · exact .delivered
  · exact .read

theorem existence_field (userExists : Bool) :
    Grammar.Existence (if userExists then ['1'] else ['0']) userExists := by
  cases userExists
  · exact .missing
  · exact .exists

theorem messageCount_decimal {n : ℕ} (hmax : n ≤ refreshReplyMaximumMessageCount) :
    Grammar.MessageCount (decimal n) := by
  unfold refreshReplyMaximumMessageCount at hmax
  rcases Nat.eq_zero_or_pos n with rfl | hpos
  · exact .zero
  · exact .positive (number_iff.2 (isNumberField_decimal hpos (by decide) (by omega)))

/-- The characters of a text without NUL are those of a tail. -/
theorem tail_of_subset {tail text : Text} (hnul : '\x00' ∉ text) (h : ∀ c ∈ tail, c ∈ text) :
    Grammar.Tail tail := by
  refine star_iff.2 fun c hc => tailCharacter_iff.2 ?_
  rintro rfl
  exact hnul (h _ hc)

/-- A valid part text has no NUL. -/
theorem tail_of_isValidPartText {partText : Text} (h : isValidPartText partText = true) :
    Grammar.Tail partText := by
  simp only [isValidPartText, Bool.and_eq_true, List.all_eq_true] at h
  refine star_iff.2 fun c hc => tailCharacter_iff.2 ?_
  rintro rfl
  exact absurd (h.1.1 _ hc) (by decide)

/-- **The text of a formattable message is derived with that message.** -/
theorem protocolDm_of_isFormattable {normalizePassword : Text → Text} {message : ProtocolMessage}
    (h : IsFormattable normalizePassword message) (hnul : '\x00' ∉ messageText message.shown) :
    Grammar.ProtocolDm (messageText message.shown) message.shown := by
  unfold messageText at hnul ⊢
  cases message with
  | accountRequest request =>
      have htail : Grammar.Tail request.password := by
        refine tail_of_subset hnul ?_
        intro c hc
        change c ∈ 'H' :: 'T' :: '1' :: Grammar.sp ::
          bodyText 'A' [request.username, request.password]
        rw [bodyText_two]
        simp [hc]
      have hbody := Grammar.ClientBody.accountRequest (username_iff.2 h.2) htail
      rw [← bodyText_two] at hbody
      exact .client hbody
  | queryRequest request =>
      have hbody := Grammar.ClientBody.queryRequest (username_iff.2 h)
      rw [← bodyText_one] at hbody
      exact .client hbody
  | messagePartRequest request =>
      obtain ⟨husername, hid, hpart, htext⟩ := h
      have hbody := Grammar.ClientBody.messagePartRequest (username_iff.2 husername)
        (messageId_decimal hid) (part_decimal hpart).1 (part_decimal hpart).2
        (tail_of_isValidPartText htext)
      simp only [denoted_decimal, ← bodyText_part] at hbody
      exact .client hbody
  | deliveryAcknowledgement acknowledgement =>
      obtain ⟨husername, hid, hset⟩ := h
      have hbody := Grammar.ClientBody.deliveryAcknowledgement (username_iff.2 husername)
        (messageId_decimal hid) (receivedSet_iff.2 hset)
      rw [denoted_decimal, ← bodyText_three] at hbody
      exact .client hbody
  | readRequest request =>
      have hbody := Grammar.ClientBody.readRequest (username_iff.2 h.1) (messageId_decimal h.2)
      rw [denoted_decimal, ← bodyText_two] at hbody
      exact .client hbody
  | receiptAcknowledgement acknowledgement =>
      have hbody := Grammar.ClientBody.receiptAcknowledgement (username_iff.2 h.1)
        (messageId_decimal h.2) (level_field acknowledgement.receiptLevel)
      rw [denoted_decimal, ← bodyText_three] at hbody
      exact .client hbody
  | refreshRequest request =>
      have hbody := Grammar.ClientBody.refreshRequest (refreshTarget_iff.2 h)
      rw [← bodyText_one] at hbody
      exact .client hbody
  | accountReply username =>
      have hbody := Grammar.ServerBody.accountReply (username_iff.2 h)
      rw [← bodyText_one] at hbody
      exact .server hbody
  | queryReply username userExists =>
      have hbody := Grammar.ServerBody.queryReply (username_iff.2 h) (existence_field userExists)
      rw [← bodyText_two] at hbody
      exact .server hbody
  | sendStatusReply recipientUsername messageId receivedSet =>
      obtain ⟨husername, hid, hset⟩ := h
      have hbody := Grammar.ServerBody.sendStatusReply (username_iff.2 husername)
        (messageId_decimal hid) (receivedSet_iff.2 hset)
      rw [denoted_decimal, ← bodyText_three] at hbody
      exact .server hbody
  | deliveryPart senderUsername messageId partNumber partCount partText =>
      obtain ⟨husername, hid, hpart, htext⟩ := h
      have hbody := Grammar.ServerBody.deliveryPart (username_iff.2 husername)
        (messageId_decimal hid) (part_decimal hpart).1 (part_decimal hpart).2
        (tail_of_isValidPartText htext)
      simp only [denoted_decimal, ← bodyText_part] at hbody
      exact .server hbody
  | readReply senderUsername messageId =>
      have hbody := Grammar.ServerBody.readReply (username_iff.2 h.1) (messageId_decimal h.2)
      rw [denoted_decimal, ← bodyText_two] at hbody
      exact .server hbody
  | receiptPush recipientUsername messageId receiptLevel =>
      have hbody := Grammar.ServerBody.receiptPush (username_iff.2 h.1)
        (messageId_decimal h.2) (level_field receiptLevel)
      rw [denoted_decimal, ← bodyText_three] at hbody
      exact .server hbody
  | refreshReply refreshTarget messageCount =>
      obtain ⟨hpositive, htarget⟩ := h
      have hcount : (((min messageCount refreshReplyMaximumMessageCount).toNat : ℕ) : ℤ) =
          min messageCount refreshReplyMaximumMessageCount := by omega
      have hbody := Grammar.ServerBody.refreshReply (refreshTarget_iff.2 htarget)
        (@messageCount_decimal (min messageCount refreshReplyMaximumMessageCount).toNat (by omega))
      rw [denoted_decimal, hcount, ← bodyText_two] at hbody
      exact .server hbody
  | errorReply errorCode requestType errorReference =>
      obtain ⟨hcode, htype, hreference⟩ := h
      cases errorReference with
      | none =>
          have hbody := Grammar.ServerBody.errorReply (errorCode_iff.2 hcode)
            (requestType_iff.2 htype)
          rw [← bodyText_two] at hbody
          exact .server hbody
      | some reference =>
          have hbody := Grammar.ServerBody.errorReplyWithReference (errorCode_iff.2 hcode)
            (requestType_iff.2 htype) (errorReference_iff.2 (hreference reference rfl))
          rw [← bodyText_three] at hbody
          exact .server hbody

/-- A part field is printed as it was read. -/
theorem part_denoted {partNumber partCount : Text} (hnumber : Grammar.PartNumber partNumber)
    (hcount : Grammar.PartCount partCount) :
    decimal (Grammar.denoted partNumber) ++ '/' :: decimal (Grammar.denoted partCount) =
      partNumber ++ '/' :: partCount := by
  rw [decimal_denoted hnumber, decimal_denoted hcount]

theorem convertReceiptLevelToField_of_level {field : Text} {level : ReceiptLevel}
    (h : Grammar.Level field level) : convertReceiptLevelToField level = field := by
  cases h <;> rfl

theorem eq_bodyText_of_clientBody {body : Text} {message : ProtocolMessage}
    (h : Grammar.ClientBody body message) : body = bodyText message.messageType message.fields := by
  cases h with
  | accountRequest => exact (bodyText_two _ _ _).symm
  | queryRequest => exact (bodyText_one _ _).symm
  | messagePartRequest _ hid hnumber hcount =>
      change _ = bodyText 'M' [_, decimal _, decimal _ ++ '/' :: decimal _, _]
      rw [decimal_denoted hid, part_denoted hnumber hcount, bodyText_part]
  | deliveryAcknowledgement _ hid =>
      change _ = bodyText 'K' [_, decimal _, _]
      rw [decimal_denoted hid, bodyText_three]
  | readRequest _ hid =>
      change _ = bodyText 'R' [_, decimal _]
      rw [decimal_denoted hid, bodyText_two]
  | receiptAcknowledgement _ hid hlevel =>
      change _ = bodyText 'C' [_, decimal _, convertReceiptLevelToField _]
      rw [decimal_denoted hid, convertReceiptLevelToField_of_level hlevel, bodyText_three]
  | refreshRequest => exact (bodyText_one _ _).symm

theorem eq_bodyText_of_serverBody {body : Text} {message : ProtocolMessage}
    (h : Grammar.ServerBody body message) : body = bodyText message.messageType message.fields := by
  cases h with
  | accountReply => exact (bodyText_one _ _).symm
  | queryReply _ hexistence => cases hexistence <;> exact (bodyText_two _ _ _).symm
  | sendStatusReply _ hid =>
      change _ = bodyText 'k' [_, decimal _, _]
      rw [decimal_denoted hid, bodyText_three]
  | deliveryPart _ hid hnumber hcount =>
      change _ = bodyText 'm' [_, decimal _, decimal _ ++ '/' :: decimal _, _]
      rw [decimal_denoted hid, part_denoted hnumber hcount, bodyText_part]
  | readReply _ hid =>
      change _ = bodyText 'r' [_, decimal _]
      rw [decimal_denoted hid, bodyText_two]
  | receiptPush _ hid hlevel =>
      change _ = bodyText 's' [_, decimal _, convertReceiptLevelToField _]
      rw [decimal_denoted hid, convertReceiptLevelToField_of_level hlevel, bodyText_three]
  | @refreshReply _ messageCount _ hcount =>
      have hprinted : decimal (Grammar.denoted messageCount) = messageCount := by
        cases hcount with
        | zero => rfl
        | positive hnumber => exact decimal_denoted hnumber
      change _ = bodyText 'f' [_, decimal (Int.toNat _)]
      rw [Int.toNat_natCast, hprinted, bodyText_two]
  | errorReply => exact (bodyText_two _ _ _).symm
  | errorReplyWithReference => exact (bodyText_three _ _ _ _).symm

/-- **A derived text is the text of its message.** -/
theorem eq_messageText_of_protocolDm {text : Text} {message : ProtocolMessage}
    (h : Grammar.ProtocolDm text message) : text = messageText message := by
  cases h with
  | client hbody => rw [messageText, ← eq_bodyText_of_clientBody hbody]
  | server hbody => rw [messageText, ← eq_bodyText_of_serverBody hbody]

/-- A derived refresh count is at most 9999. -/
theorem shown_of_protocolDm {text : Text} {message : ProtocolMessage}
    (h : Grammar.ProtocolDm text message) : message.shown = message := by
  cases h with
  | client hbody => cases hbody <;> rfl
  | server hbody =>
      cases hbody with
      | @refreshReply _ messageCount _ hcount =>
          have hmax : Grammar.denoted messageCount ≤ refreshReplyMaximumMessageCount := by
            rw [refreshReplyMaximumMessageCount]
            cases hcount with
            | zero => decide
            | positive hnumber =>
                have := numberOf_lt (by decide) (number_iff.1 hnumber)
                rw [denoted_eq]
                omega
          have hmin : min (Grammar.denoted messageCount : ℤ) refreshReplyMaximumMessageCount =
              Grammar.denoted messageCount := by omega
          exact congrArg (ProtocolMessage.refreshReply _) hmin
      | _ => rfl

/-- **Formatter and parser are inverse.**  A message that is formatted is parsed back, a refresh
reply with its count clamped; and a message that was parsed from a text, when it is formatted, has
exactly that text. -/
theorem format_parse_inverse (normalizePassword : Text → Text) :
    (∀ message text, formatProtocolMessage normalizePassword message = .ok text →
      parseDirectMessageText (plainText text) = some (.message message.shown)) ∧
    (∀ received message text, parseDirectMessageText received = some (.message message) →
      formatProtocolMessage normalizePassword message = .ok text →
      plainText text = received) := by
  constructor
  · intro message text h
    obtain ⟨hformattable, rfl, hsendable⟩ := formatProtocolMessage_eq_ok.1 h
    exact parse_eq_message_iff.2
      ⟨_, rfl, protocolDm_of_isFormattable hformattable hsendable.noNul⟩
  · intro received message text hparse hformat
    obtain ⟨derived, rfl, hderived⟩ := parse_eq_message_iff.1 hparse
    obtain ⟨-, rfl, -⟩ := formatProtocolMessage_eq_ok.1 hformat
    rw [shown_of_protocolDm hderived, ← eq_messageText_of_protocolDm hderived]

/-- A part text with spaces at both ends and inside. -/
def sampleSpacedPart : ProtocolMessage :=
  .messagePartRequest
    { recipientUsername := "Bob".toList, messageId := 1790294400123456, partNumber := 2,
      partCount := 10, partText := "  two  words ".toList }

/-- The part is formatted, parsed back and formatted back. -/
theorem format_parse_inverse_sampleSpacedPart :
    parseDirectMessageText (plainText "HT1 M Bob 1790294400123456 2/10   two  words ".toList) =
        some (.message sampleSpacedPart) ∧
      plainText "HT1 M Bob 1790294400123456 2/10   two  words ".toList =
        plainText "HT1 M Bob 1790294400123456 2/10   two  words ".toList :=
  ⟨(format_parse_inverse id).1 sampleSpacedPart _ (by decide +kernel),
    (format_parse_inverse id).2 _ sampleSpacedPart _ (by decide +kernel) (by decide +kernel)⟩

end HoptalkRelay
