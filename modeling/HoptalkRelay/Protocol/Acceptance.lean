/-
**The parser accepts exactly the grammar.**

Letter by letter, the fields a layout admits are a body the grammar derives, with the message the
layout builds from them.  So the messages of the parser are the derivations of the grammar, and
every other text is sorted out by its first characters alone.

Main results:

* `HoptalkRelay.body_of_admits`, `HoptalkRelay.admits_of_clientBody`,
  `HoptalkRelay.admits_of_serverBody` — layouts and bodies;
* `HoptalkRelay.parse_eq_message_iff` — **the messages of the parser are the derivations**.
-/

import HoptalkRelay.Protocol.LayoutFields

set_option relaxedAutoImplicit false
set_option autoImplicit false

namespace HoptalkRelay

open Formats

/-! ### Header fields of a known number -/

theorem headersMatch_one {a : HeaderField} {texts : List Text} (h : HeadersMatch [a] texts) :
    ∃ x, texts = [x] ∧ a.matchesGrammar x = true := by
  cases h with
  | cons hx hrest =>
      cases hrest
      exact ⟨_, rfl, hx⟩

theorem headersMatch_two {a b : HeaderField} {texts : List Text} (h : HeadersMatch [a, b] texts) :
    ∃ x y, texts = [x, y] ∧ a.matchesGrammar x = true ∧ b.matchesGrammar y = true := by
  cases h with
  | cons hx hrest =>
      obtain ⟨y, rfl, hy⟩ := headersMatch_one hrest
      exact ⟨_, y, rfl, hx, hy⟩

theorem headersMatch_three {a b c : HeaderField} {texts : List Text}
    (h : HeadersMatch [a, b, c] texts) :
    ∃ x y z, texts = [x, y, z] ∧ a.matchesGrammar x = true ∧ b.matchesGrammar y = true ∧
      c.matchesGrammar z = true := by
  cases h with
  | cons hx hrest =>
      obtain ⟨y, z, rfl, hy, hz⟩ := headersMatch_two hrest
      exact ⟨_, y, z, rfl, hx, hy, hz⟩

theorem headers_of_admits {messageLayout : MessageLayout} {fields : List Text}
    (h : messageLayout.Admits fields) (htail : messageLayout.hasTail = false) :
    HeadersMatch messageLayout.headerFields fields := by
  cases h with
  | noTail _ hheader => exact hheader
  | tail hhas _ _ =>
      rw [htail] at hhas
      exact absurd hhas (by decide)

theorem headers_and_tail_of_admits {messageLayout : MessageLayout} {fields : List Text}
    (h : messageLayout.Admits fields) (htail : messageLayout.hasTail = true) :
    ∃ texts tail, fields = texts ++ [tail] ∧ HeadersMatch messageLayout.headerFields texts ∧
      isTailField tail = true := by
  cases h with
  | noTail hno _ =>
      rw [htail] at hno
      exact absurd hno (by decide)
  | tail _ hheader hfield => exact ⟨_, _, rfl, hheader, hfield⟩

theorem level_of_receiptLevelOfField {field : Text} {level : ReceiptLevel}
    (h : receiptLevelOfField field = some level) : Grammar.Level field level := by
  unfold receiptLevelOfField at h
  split at h
  · rename_i hfield
    obtain rfl := Option.some.inj h
    rw [hfield]
    exact .delivered
  · split at h
    · rename_i hfield
      obtain rfl := Option.some.inj h
      rw [hfield]
      exact .read
    · exact absurd h (by simp)

/-! ### Layouts and bodies -/

/-- The body of a message: its letter and its fields. -/
def bodyText (letter : Char) (fields : List Text) : Text :=
  letter :: Grammar.sp :: join Grammar.sp fields

theorem bodyText_one (letter : Char) (a : Text) :
    bodyText letter [a] = letter :: Grammar.sp :: a := by
  rw [bodyText, join_singleton]

theorem bodyText_two (letter : Char) (a b : Text) :
    bodyText letter [a, b] = letter :: Grammar.sp :: a ++ Grammar.sp :: b := by
  rw [bodyText, join_cons_cons, join_singleton]
  rfl

theorem bodyText_three (letter : Char) (a b c : Text) :
    bodyText letter [a, b, c] =
      letter :: Grammar.sp :: a ++ Grammar.sp :: b ++ Grammar.sp :: c := by
  simp [bodyText, join_cons_cons]

theorem bodyText_four (letter : Char) (a b c d : Text) :
    bodyText letter [a, b, c, d] =
      letter :: Grammar.sp :: a ++ Grammar.sp :: b ++ Grammar.sp :: c ++ Grammar.sp :: d := by
  simp [bodyText, join_cons_cons]

/-- A body with a part field, part number and part count apart. -/
theorem bodyText_part (letter : Char) (a b partNumber partCount d : Text) :
    bodyText letter [a, b, partNumber ++ '/' :: partCount, d] =
      letter :: Grammar.sp :: a ++ Grammar.sp :: b ++ Grammar.sp :: partNumber ++
        '/' :: partCount ++ Grammar.sp :: d := by
  simp [bodyText_four]

/-- **The fields a layout admits are a body of the grammar**, with the message built from them. -/
theorem body_of_admits {letter : Char} {messageLayout : MessageLayout} {fields : List Text}
    {message : ProtocolMessage} (hlayout : messageLayoutsByTypeLetter letter = some messageLayout)
    (hadmits : messageLayout.Admits fields)
    (hbuild : messageLayout.buildMessage fields = some message) :
    Grammar.ClientBody (bodyText letter fields) message ∨
      Grammar.ServerBody (bodyText letter fields) message := by
  unfold messageLayoutsByTypeLetter at hlayout
  split at hlayout
  case h_15 => exact absurd hlayout (by simp)
  all_goals obtain rfl := Option.some.inj hlayout
  case h_1 =>
    obtain ⟨_, password, rfl, hheader, hpassword⟩ := headers_and_tail_of_admits hadmits rfl
    obtain ⟨username, rfl, husername⟩ := headersMatch_one hheader
    obtain rfl := Option.some.inj hbuild
    rw [List.singleton_append, bodyText_two]
    exact .inl (.accountRequest (username_iff.2 husername) (tail_iff.2 hpassword))
  case h_2 =>
    obtain ⟨username, rfl, husername⟩ := headersMatch_one (headers_of_admits hadmits rfl)
    obtain rfl := Option.some.inj hbuild
    rw [bodyText_one]
    exact .inl (.queryRequest (username_iff.2 husername))
  case h_3 =>
    obtain ⟨_, partText, rfl, hheader, htext⟩ := headers_and_tail_of_admits hadmits rfl
    obtain ⟨username, messageId, part, rfl, husername, hid, hpart⟩ := headersMatch_three hheader
    obtain ⟨⟨number, count⟩, hread, hmessage⟩ := Option.bind_eq_some_iff.mp hbuild
    obtain ⟨partNumber, partCount, rfl, hnumber, hcount, rfl, rfl⟩ :=
      readPartField_eq_some.1 hread
    obtain rfl := Option.some.inj hmessage
    rw [← denoted_eq, ← denoted_eq, ← denoted_eq]
    simp only [List.cons_append, List.nil_append]
    rw [bodyText_part]
    exact .inl (.messagePartRequest (username_iff.2 husername) (messageId_iff.2 hid)
      (number_iff.2 hnumber) (number_iff.2 hcount) (tail_iff.2 htext))
  case h_4 =>
    obtain ⟨username, messageId, receivedSet, rfl, husername, hid, hset⟩ :=
      headersMatch_three (headers_of_admits hadmits rfl)
    obtain rfl := Option.some.inj hbuild
    rw [← denoted_eq, bodyText_three]
    exact .inl (.deliveryAcknowledgement (username_iff.2 husername) (messageId_iff.2 hid)
      (receivedSet_iff.2 hset))
  case h_5 =>
    obtain ⟨username, messageId, rfl, husername, hid⟩ :=
      headersMatch_two (headers_of_admits hadmits rfl)
    obtain rfl := Option.some.inj hbuild
    rw [← denoted_eq, bodyText_two]
    exact .inl (.readRequest (username_iff.2 husername) (messageId_iff.2 hid))
  case h_6 =>
    obtain ⟨username, messageId, receiptLevel, rfl, husername, hid, -⟩ :=
      headersMatch_three (headers_of_admits hadmits rfl)
    obtain ⟨level, hlevel, hmessage⟩ := Option.bind_eq_some_iff.mp hbuild
    obtain rfl := Option.some.inj hmessage
    rw [← denoted_eq, bodyText_three]
    exact .inl (.receiptAcknowledgement (username_iff.2 husername) (messageId_iff.2 hid)
      (level_of_receiptLevelOfField hlevel))
  case h_7 =>
    obtain ⟨refreshTarget, rfl, htarget⟩ := headersMatch_one (headers_of_admits hadmits rfl)
    obtain rfl := Option.some.inj hbuild
    rw [bodyText_one]
    exact .inl (.refreshRequest (refreshTarget_iff.2 htarget))
  case h_8 =>
    obtain ⟨username, rfl, husername⟩ := headersMatch_one (headers_of_admits hadmits rfl)
    obtain rfl := Option.some.inj hbuild
    rw [bodyText_one]
    exact .inr (.accountReply (username_iff.2 husername))
  case h_9 =>
    obtain ⟨username, existence, rfl, husername, hexistence⟩ :=
      headersMatch_two (headers_of_admits hadmits rfl)
    obtain rfl := Option.some.inj hbuild
    rw [bodyText_two]
    refine .inr (.queryReply (username_iff.2 husername) ?_)
    rcases Bool.or_eq_true_iff.mp hexistence with h | h <;> rw [beq_iff_eq.mp h]
    · exact .missing
    · exact .exists
  case h_10 =>
    obtain ⟨username, messageId, receivedSet, rfl, husername, hid, hset⟩ :=
      headersMatch_three (headers_of_admits hadmits rfl)
    obtain rfl := Option.some.inj hbuild
    rw [← denoted_eq, bodyText_three]
    exact .inr (.sendStatusReply (username_iff.2 husername) (messageId_iff.2 hid)
      (receivedSet_iff.2 hset))
  case h_11 =>
    obtain ⟨_, partText, rfl, hheader, htext⟩ := headers_and_tail_of_admits hadmits rfl
    obtain ⟨username, messageId, part, rfl, husername, hid, hpart⟩ := headersMatch_three hheader
    obtain ⟨⟨number, count⟩, hread, hmessage⟩ := Option.bind_eq_some_iff.mp hbuild
    obtain ⟨partNumber, partCount, rfl, hnumber, hcount, rfl, rfl⟩ :=
      readPartField_eq_some.1 hread
    obtain rfl := Option.some.inj hmessage
    rw [← denoted_eq, ← denoted_eq, ← denoted_eq]
    simp only [List.cons_append, List.nil_append]
    rw [bodyText_part]
    exact .inr (.deliveryPart (username_iff.2 husername) (messageId_iff.2 hid)
      (number_iff.2 hnumber) (number_iff.2 hcount) (tail_iff.2 htext))
  case h_12 =>
    obtain ⟨username, messageId, rfl, husername, hid⟩ :=
      headersMatch_two (headers_of_admits hadmits rfl)
    obtain rfl := Option.some.inj hbuild
    rw [← denoted_eq, bodyText_two]
    exact .inr (.readReply (username_iff.2 husername) (messageId_iff.2 hid))
  case h_13 =>
    obtain ⟨username, messageId, receiptLevel, rfl, husername, hid, -⟩ :=
      headersMatch_three (headers_of_admits hadmits rfl)
    obtain ⟨level, hlevel, hmessage⟩ := Option.bind_eq_some_iff.mp hbuild
    obtain rfl := Option.some.inj hmessage
    rw [← denoted_eq, bodyText_three]
    exact .inr (.receiptPush (username_iff.2 husername) (messageId_iff.2 hid)
      (level_of_receiptLevelOfField hlevel))
  case h_14 =>
    obtain ⟨refreshTarget, messageCount, rfl, htarget, hcount⟩ :=
      headersMatch_two (headers_of_admits hadmits rfl)
    obtain rfl := Option.some.inj hbuild
    rw [← denoted_eq, bodyText_two]
    exact .inr (.refreshReply (refreshTarget_iff.2 htarget) (messageCount_iff.2 hcount))

/-- What a layout is given to parse a body: its letter, and fields it admits. -/
structure IsLayoutBody (body : Text) (message : ProtocolMessage) (letter : Char)
    (messageLayout : MessageLayout) (fields : List Text) : Prop where
  layout : messageLayoutsByTypeLetter letter = some messageLayout
  admits : messageLayout.Admits fields
  text : body = bodyText letter fields
  build : messageLayout.buildMessage fields = some message

theorem headersMatch_cons {a : HeaderField} {hs : List HeaderField} {x : Text} {xs : List Text}
    (hx : a.matchesGrammar x = true) (hxs : HeadersMatch hs xs) : HeadersMatch (a :: hs) (x :: xs) :=
  List.Forall₂.cons hx hxs

theorem readPartField_of_part {partNumber partCount : Text}
    (hnumber : Grammar.PartNumber partNumber) (hcount : Grammar.PartCount partCount) :
    readPartField (partNumber ++ '/' :: partCount) =
      some (Grammar.denoted partNumber, Grammar.denoted partCount) :=
  readPartField_eq_some.2 ⟨partNumber, partCount, rfl, number_iff.1 hnumber,
    number_iff.1 hcount, denoted_eq _, denoted_eq _⟩

theorem isPartField_of_part {partNumber partCount : Text}
    (hnumber : Grammar.PartNumber partNumber) (hcount : Grammar.PartCount partCount) :
    isPartField (partNumber ++ '/' :: partCount) = true :=
  isPartField_iff.2 ⟨partNumber, partCount, rfl, number_iff.1 hnumber, number_iff.1 hcount⟩

theorem receiptLevelField_of_level {field : Text} {level : ReceiptLevel} (h : Grammar.Level field level) :
    isReceiptLevelField field = true ∧ receiptLevelOfField field = some level := by
  cases h <;> exact ⟨rfl, rfl⟩

/-- A body of a client is one a layout takes. -/
theorem admits_of_clientBody {body : Text} {message : ProtocolMessage}
    (h : Grammar.ClientBody body message) :
    ∃ letter messageLayout fields, IsLayoutBody body message letter messageLayout fields := by
  cases h with
  | @accountRequest username password husername hpassword =>
      refine ⟨'A', _, [username] ++ [password], rfl, .tail rfl ?_ (tail_iff.1 hpassword), ?_, rfl⟩
      · exact headersMatch_cons (username_iff.1 husername) .nil
      · exact (bodyText_two 'A' username password).symm
  | @queryRequest username husername =>
      refine ⟨'Q', _, [username], rfl, .noTail rfl ?_, (bodyText_one 'Q' username).symm, rfl⟩
      exact headersMatch_cons (username_iff.1 husername) .nil
  | @messagePartRequest username messageId partNumber partCount partText husername hid hnumber
      hcount htext =>
      refine ⟨'M', _, [username, messageId, partNumber ++ '/' :: partCount] ++ [partText], rfl,
        .tail rfl ?_ (tail_iff.1 htext), ?_, ?_⟩
      · exact headersMatch_cons (username_iff.1 husername)
          (headersMatch_cons (messageId_iff.1 hid)
            (headersMatch_cons (isPartField_of_part hnumber hcount) .nil))
      · exact (bodyText_part 'M' username messageId partNumber partCount partText).symm
      · simp [buildMessagePartRequest, readPartField_of_part hnumber hcount, denoted_eq]
  | @deliveryAcknowledgement username messageId receivedSet husername hid hset =>
      refine ⟨'K', _, [username, messageId, receivedSet], rfl, .noTail rfl ?_,
        (bodyText_three 'K' username messageId receivedSet).symm, ?_⟩
      · exact headersMatch_cons (username_iff.1 husername)
          (headersMatch_cons (messageId_iff.1 hid)
            (headersMatch_cons (receivedSet_iff.1 hset) .nil))
      · rw [denoted_eq]
        rfl
  | @readRequest username messageId husername hid =>
      refine ⟨'R', _, [username, messageId], rfl, .noTail rfl ?_,
        (bodyText_two 'R' username messageId).symm, ?_⟩
      · exact headersMatch_cons (username_iff.1 husername)
          (headersMatch_cons (messageId_iff.1 hid) .nil)
      · rw [denoted_eq]
        rfl
  | @receiptAcknowledgement username messageId receiptLevel level husername hid hlevel =>
      refine ⟨'C', _, [username, messageId, receiptLevel], rfl, .noTail rfl ?_,
        (bodyText_three 'C' username messageId receiptLevel).symm, ?_⟩
      · exact headersMatch_cons (username_iff.1 husername)
          (headersMatch_cons (messageId_iff.1 hid)
            (headersMatch_cons (receiptLevelField_of_level hlevel).1 .nil))
      · simp [buildReceiptAcknowledgement, (receiptLevelField_of_level hlevel).2, denoted_eq]
  | @refreshRequest refreshTarget htarget =>
      refine ⟨'F', _, [refreshTarget], rfl, .noTail rfl ?_,
        (bodyText_one 'F' refreshTarget).symm, rfl⟩
      exact headersMatch_cons (refreshTarget_iff.1 htarget) .nil

/-- The body of an error reply, whose fields have no layout. -/
inductive IsErrorBody : Text → ProtocolMessage → Prop
  | withoutReference {errorCode requestType : Text} (hcode : isErrorCodeField errorCode = true)
      (htype : isRequestTypeField requestType = true) :
      IsErrorBody (bodyText 'e' [errorCode, requestType]) (.errorReply errorCode requestType none)
  | withReference {errorCode requestType errorReference : Text}
      (hcode : isErrorCodeField errorCode = true) (htype : isRequestTypeField requestType = true)
      (hreference : isErrorReferenceField errorReference = true) :
      IsErrorBody (bodyText 'e' [errorCode, requestType, errorReference])
        (.errorReply errorCode requestType (some errorReference))

/-- A body of a server is one a layout takes, or that of an error reply. -/
theorem admits_of_serverBody {body : Text} {message : ProtocolMessage}
    (h : Grammar.ServerBody body message) :
    (∃ letter messageLayout fields, IsLayoutBody body message letter messageLayout fields) ∨
      IsErrorBody body message := by
  cases h with
  | @accountReply username husername =>
      refine .inl ⟨'a', _, [username], rfl, .noTail rfl ?_, (bodyText_one 'a' username).symm, rfl⟩
      exact headersMatch_cons (username_iff.1 husername) .nil
  | @queryReply username existence userExists husername hexistence =>
      refine .inl ⟨'q', _, [username, existence], rfl, .noTail rfl ?_,
        (bodyText_two 'q' username existence).symm, ?_⟩
      · refine headersMatch_cons (username_iff.1 husername) (headersMatch_cons ?_ .nil)
        cases hexistence <;> rfl
      · cases hexistence <;> rfl
  | @sendStatusReply username messageId receivedSet husername hid hset =>
      refine .inl ⟨'k', _, [username, messageId, receivedSet], rfl, .noTail rfl ?_,
        (bodyText_three 'k' username messageId receivedSet).symm, ?_⟩
      · exact headersMatch_cons (username_iff.1 husername)
          (headersMatch_cons (messageId_iff.1 hid)
            (headersMatch_cons (receivedSet_iff.1 hset) .nil))
      · rw [denoted_eq]
        rfl
  | @deliveryPart username messageId partNumber partCount partText husername hid hnumber hcount
      htext =>
      refine .inl ⟨'m', _, [username, messageId, partNumber ++ '/' :: partCount] ++ [partText], rfl,
        .tail rfl ?_ (tail_iff.1 htext), ?_, ?_⟩
      · exact headersMatch_cons (username_iff.1 husername)
          (headersMatch_cons (messageId_iff.1 hid)
            (headersMatch_cons (isPartField_of_part hnumber hcount) .nil))
      · exact (bodyText_part 'm' username messageId partNumber partCount partText).symm
      · simp [buildDeliveryPart, readPartField_of_part hnumber hcount, denoted_eq]
  | @readReply username messageId husername hid =>
      refine .inl ⟨'r', _, [username, messageId], rfl, .noTail rfl ?_,
        (bodyText_two 'r' username messageId).symm, ?_⟩
      · exact headersMatch_cons (username_iff.1 husername)
          (headersMatch_cons (messageId_iff.1 hid) .nil)
      · rw [denoted_eq]
        rfl
  | @receiptPush username messageId receiptLevel level husername hid hlevel =>
      refine .inl ⟨'s', _, [username, messageId, receiptLevel], rfl, .noTail rfl ?_,
        (bodyText_three 's' username messageId receiptLevel).symm, ?_⟩
      · exact headersMatch_cons (username_iff.1 husername)
          (headersMatch_cons (messageId_iff.1 hid)
            (headersMatch_cons (receiptLevelField_of_level hlevel).1 .nil))
      · simp [buildReceiptPush, (receiptLevelField_of_level hlevel).2, denoted_eq]
  | @refreshReply refreshTarget messageCount htarget hcount =>
      refine .inl ⟨'f', _, [refreshTarget, messageCount], rfl, .noTail rfl ?_,
        (bodyText_two 'f' refreshTarget messageCount).symm, ?_⟩
      · exact headersMatch_cons (refreshTarget_iff.1 htarget)
          (headersMatch_cons (messageCount_iff.1 hcount) .nil)
      · rw [denoted_eq]
        rfl
  | @errorReply errorCode requestType hcode htype =>
      rw [← bodyText_two]
      exact .inr (.withoutReference (errorCode_iff.1 hcode) (requestType_iff.1 htype))
  | @errorReplyWithReference errorCode requestType errorReference hcode htype hreference =>
      rw [← bodyText_three]
      exact .inr (.withReference (errorCode_iff.1 hcode) (requestType_iff.1 htype)
        (errorReference_iff.1 hreference))

theorem serverBody_of_isErrorBody {body : Text} {message : ProtocolMessage}
    (h : IsErrorBody body message) : Grammar.ServerBody body message := by
  cases h with
  | withoutReference hcode htype =>
      rw [bodyText_two]
      exact .errorReply (errorCode_iff.2 hcode) (requestType_iff.2 htype)
  | withReference hcode htype hreference =>
      rw [bodyText_three]
      exact .errorReplyWithReference (errorCode_iff.2 hcode) (requestType_iff.2 htype)
        (errorReference_iff.2 hreference)

/-! ### Error replies -/

/-- The pieces of a reference hold no separator one by one, but joined they may. -/
theorem splitOn_errorFields {errorCode requestType : Text}
    (hcode : isErrorCodeField errorCode = true) (htype : isRequestTypeField requestType = true)
    (rest : PlainText) :
    (plainText errorCode ++ separator :: (plainText requestType ++ separator :: rest)).splitOn
        separator =
      plainText errorCode :: plainText requestType :: rest.splitOn separator := by
  rw [List.splitOn_append_cons_self_of_not_mem
      (separator_not_mem_plainText (separator_not_mem_errorCode hcode)),
    List.splitOn_append_cons_self_of_not_mem
      (separator_not_mem_plainText (separator_not_mem_requestType htype))]

/-- A reference has one or two pieces. -/
theorem length_splitOn_errorReference {errorReference : Text}
    (h : isErrorReferenceField errorReference = true) :
    (errorReference.splitOn fieldSeparator).length ≤ 2 := by
  unfold isErrorReferenceField at h
  split at h
  · rename_i hsplit
    simp [hsplit]
  · rename_i hsplit
    simp [hsplit]
  · exact absurd h (by simp)

theorem splitOn_plainText (text : Text) :
    (plainText text).splitOn separator = (text.splitOn fieldSeparator).map plainText := by
  have hnot : ∀ piece ∈ (text.splitOn fieldSeparator).map plainText, separator ∉ piece := by
    intro piece hpiece
    obtain ⟨field, hfield, rfl⟩ := List.mem_map.mp hpiece
    exact separator_not_mem_plainText (not_mem_of_mem_splitOn hfield)
  have hjoin := @splitOn_join _ _ separator _ hnot (by simp)
  rwa [← plainText_join, join_splitOn] at hjoin

/-- The pieces of a text without lone surrogates joined again, when it was not cut. -/
theorem join_map_plainText_eq {fieldsText : PlainText} {pieces : List PlainText}
    (h : fieldsText.splitOn separator = pieces) : fieldsText = join separator pieces := by
  rw [← h, join_splitOn]

/-- **What an error reply is parsed from.** -/
theorem parseErrorReplyFields_eq_message {fieldsText : PlainText} {message : ProtocolMessage} :
    parseErrorReplyFields fieldsText = .message message ↔
      ∃ body, IsErrorBody body message ∧
        .scalar 'e' :: separator :: fieldsText = plainText body := by
  constructor
  · intro h
    unfold parseErrorReplyFields at h
    split at h
    · rename_i errorCode requestType referenceFields hsplit
      have hjoin := join_map_plainText_eq hsplit
      split at h
      · simp at h
      · split at h
        · rename_i code type hcode htype
          obtain ⟨rfl, hvalidCode⟩ := fieldText?_eq_some.1 hcode
          obtain ⟨rfl, hvalidType⟩ := fieldText?_eq_some.1 htype
          split at h
          · rename_i hnil
            cases h
            rw [readErrorCode_eq]
            refine ⟨_, .withoutReference hvalidCode hvalidType, ?_⟩
            rw [hjoin, hnil, bodyText, join_cons_cons, join_cons_cons]
            simp [separator, sp_eq]
          · rename_i hne
            split at h
            · rename_i reference hreference
              obtain ⟨hreference, hvalid⟩ := fieldText?_eq_some.1 hreference
              cases h
              rw [readErrorCode_eq]
              refine ⟨_, .withReference hvalidCode hvalidType hvalid, ?_⟩
              rw [hjoin, join_cons_cons, join_cons _ _ hne, hreference, bodyText, join_cons_cons,
                join_cons_cons]
              simp [separator, sp_eq]
            · simp at h
        · simp at h
    · simp at h
  · rintro ⟨body, hbody, htext⟩
    cases hbody with
    | @withoutReference errorCode requestType hcode htype =>
        have hfields : fieldsText = join separator [plainText errorCode, plainText requestType] := by
          rw [bodyText, join_cons_cons, join_singleton] at htext
          simpa [separator, sp_eq, join_cons_cons] using htext
        have hsplit : fieldsText.splitOn separator =
            [plainText errorCode, plainText requestType] := by
          rw [hfields]
          refine splitOn_join ?_ (by simp)
          simp only [List.mem_cons, List.not_mem_nil, or_false, forall_eq_or_imp, forall_eq]
          exact ⟨separator_not_mem_plainText (separator_not_mem_errorCode hcode),
            separator_not_mem_plainText (separator_not_mem_requestType htype)⟩
        simp [parseErrorReplyFields, hsplit, hcode, htype]
    | @withReference errorCode requestType errorReference hcode htype hreference =>
        have hfields : fieldsText = plainText errorCode ++ separator ::
            (plainText requestType ++ separator :: plainText errorReference) := by
          rw [bodyText, join_cons_cons, join_cons_cons, join_singleton] at htext
          simpa [separator, sp_eq] using htext
        have hjoin : join separator ((errorReference.splitOn fieldSeparator).map plainText) =
            plainText errorReference := by
          rw [← plainText_join, join_splitOn]
        have hlength : ¬ 2 < ((errorReference.splitOn fieldSeparator).map plainText).length := by
          have := length_splitOn_errorReference hreference
          rw [List.length_map]
          omega
        have hne : (errorReference.splitOn fieldSeparator).map plainText ≠ [] := by simp
        unfold parseErrorReplyFields
        rw [hfields, splitOn_errorFields hcode htype, splitOn_plainText]
        dsimp only
        rw [if_neg hlength, fieldText?_plainText, fieldText?_plainText, if_pos hcode,
          if_pos htype]
        dsimp only
        rw [if_neg hne, hjoin, fieldText?_plainText, if_pos hreference, readErrorCode_eq]

/-! ### Bodies and texts -/

theorem isAlpha_of_letter {letter : Char} {messageLayout : MessageLayout}
    (h : messageLayoutsByTypeLetter letter = some messageLayout) :
    letter.isAlpha = true ∧ letter ≠ 'e' := by
  unfold messageLayoutsByTypeLetter at h
  split at h
  case h_15 => exact absurd h (by simp)
  all_goals decide

/-- A letter with a layout and a space: the layout parses the rest. -/
theorem parseVersionOneMessageBody_of_layout {letter : Char} {messageLayout : MessageLayout}
    (h : messageLayoutsByTypeLetter letter = some messageLayout) (fieldsText : PlainText) :
    parseVersionOneMessageBody (.scalar letter :: separator :: fieldsText) =
      parseFieldsByLayout letter fieldsText messageLayout := by
  obtain ⟨halpha, hne⟩ := isAlpha_of_letter h
  unfold parseVersionOneMessageBody
  dsimp only
  rw [if_neg (not_not.mpr halpha), if_neg hne, h]
  rfl

/-- **The messages of a body** are those the grammar derives. -/
theorem parseVersionOneMessageBody_eq_message {messageBody : PlainText}
    {message : ProtocolMessage} :
    parseVersionOneMessageBody messageBody = some (.message message) ↔
      ∃ body, messageBody = plainText body ∧
        (Grammar.ClientBody body message ∨ Grammar.ServerBody body message) := by
  have hlayoutBody : ∀ {body : Text} {letter : Char} {messageLayout : MessageLayout}
      {fields : List Text}, IsLayoutBody body message letter messageLayout fields →
      parseVersionOneMessageBody (plainText body) = some (.message message) := by
    intro body letter messageLayout fields h
    rw [h.text]
    refine (parseVersionOneMessageBody_of_layout h.layout _).trans ?_
    exact (parseFieldsByLayout_eq_message (isClosed_of_letter h.layout)).mpr
      ⟨fields, h.admits, rfl, h.build⟩
  constructor
  · intro h
    unfold parseVersionOneMessageBody at h
    split at h
    · rename_i letter rest
      split at h
      · simp at h
      · split at h
        · rename_i hletter
          subst hletter
          split at h
          · rename_i fieldsText
            obtain ⟨body, hbody, htext⟩ :=
              parseErrorReplyFields_eq_message.1 (Option.some.inj h)
            exact ⟨body, htext, .inr (serverBody_of_isErrorBody hbody)⟩
          · simp at h
        · split at h
          · simp at h
          · rename_i messageLayout hlayout
            split at h
            · rename_i fieldsText
              obtain ⟨fields, hadmits, rfl, hbuild⟩ :=
                (parseFieldsByLayout_eq_message (isClosed_of_letter hlayout)).mp h
              exact ⟨bodyText letter fields, rfl, body_of_admits hlayout hadmits hbuild⟩
            · simp at h
    · simp at h
  · rintro ⟨body, rfl, hclient | hserver⟩
    · obtain ⟨letter, messageLayout, fields, h⟩ := admits_of_clientBody hclient
      exact hlayoutBody h
    · rcases admits_of_serverBody hserver with ⟨letter, messageLayout, fields, h⟩ | herror
      · exact hlayoutBody h
      · have hparse := fun fieldsText => @parseErrorReplyFields_eq_message fieldsText message
        cases hbody : herror with
        | withoutReference => exact congrArg some ((hparse _).mpr ⟨_, herror, rfl⟩)
        | withReference => exact congrArg some ((hparse _).mpr ⟨_, herror, rfl⟩)

end HoptalkRelay
