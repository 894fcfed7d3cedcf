/-
**The errors of a request can be sent.**

An error reply repeats fields of the text it answers.  The fields of a well-formed request passed
the checks of the grammar, and so did the fields a malformed one kept; so every error reply a text
earns, and every one a service answers for a request, passes the checks of its formatter.

Main definitions:

* `HoptalkRelay.AnswerableRequest.IsWellFormed` — what the grammar checked.

Main results:

* `HoptalkRelay.isWellFormed_of_parse` — a parsed request is well formed;
* `HoptalkRelay.isFormattable_buildRequestErrorReply` — the errors of the services;
* `HoptalkRelay.isFormattable_of_buildGrammarErrorReply` — **the errors of the texts**.
-/

import HoptalkRelay.Protocol.ErrorReplies
import HoptalkRelay.Protocol.MessageSizes

set_option relaxedAutoImplicit false
set_option autoImplicit false

namespace HoptalkRelay

open Formats

/-! ### Well-formed requests -/

/-- The grammar checked the peer and the id. -/
def AnswerableRequest.IsWellFormed : AnswerableRequest → Prop
  | account request => isValidUsername request.username = true
  | query request => isValidUsername request.username = true
  | messagePart request =>
      isValidUsername request.recipientUsername = true ∧ IsMessageId request.messageId
  | read request => isValidUsername request.senderUsername = true ∧ IsMessageId request.messageId
  | refresh request => isRefreshTargetField request.refreshTarget = true

theorem isMessageId_denoted {field : Text} (h : Grammar.MessageId field) :
    IsMessageId (Grammar.denoted field) := by
  have hnumber := messageId_iff.1 h
  rw [denoted_eq]
  constructor
  · exact numberOf_pos hnumber
  · have hlt := numberOf_lt (by decide) hnumber
    simp only [messageIdMaximumDigits] at hlt
    unfold messageIdMaximum
    omega

/-- **A parsed request is well formed.** -/
theorem isWellFormed_of_parse {text : PlainText} {message : ProtocolMessage}
    {request : AnswerableRequest} (h : parseDirectMessageText text = some (.message message))
    (hrequest : answerableRequest? message = some request) : request.IsWellFormed := by
  obtain ⟨derived, -, hderived⟩ := parse_eq_message_iff.1 h
  cases hderived with
  | server hbody => cases hbody <;> simp [answerableRequest?] at hrequest
  | client hbody =>
      cases hbody with
      | accountRequest husername =>
          obtain rfl := Option.some.inj hrequest
          exact username_iff.1 husername
      | queryRequest husername =>
          obtain rfl := Option.some.inj hrequest
          exact username_iff.1 husername
      | messagePartRequest husername hid =>
          obtain rfl := Option.some.inj hrequest
          exact ⟨username_iff.1 husername, isMessageId_denoted hid⟩
      | readRequest husername hid =>
          obtain rfl := Option.some.inj hrequest
          exact ⟨username_iff.1 husername, isMessageId_denoted hid⟩
      | refreshRequest htarget =>
          obtain rfl := Option.some.inj hrequest
          exact refreshTarget_iff.1 htarget
      | deliveryAcknowledgement | receiptAcknowledgement =>
          simp [answerableRequest?] at hrequest

/-! ### The errors of the services -/

theorem isErrorCodeField_text (errorCode : ErrorCode) : isErrorCodeField errorCode.text = true := by
  cases errorCode <;> rfl

theorem isErrorReferenceField_username {username : Text} (h : isValidUsername username = true) :
    isErrorReferenceField username = true :=
  errorReference_iff.1 (.refreshTarget (.username (username_iff.2 h)))

/-- A reference to a message. -/
theorem isErrorReferenceField_message {username : Text} {messageId : ℕ}
    (h : isValidUsername username = true) (hid : IsMessageId messageId) :
    isErrorReferenceField (username ++ ' ' :: decimal messageId) = true :=
  errorReference_iff.1 (.message (username_iff.2 h) (messageId_decimal hid))

/-- The reference of a well-formed request. -/
theorem isErrorReferenceField_errorReference {request : AnswerableRequest}
    (h : request.IsWellFormed) : isErrorReferenceField request.errorReference = true := by
  cases request with
  | account request => exact isErrorReferenceField_username h
  | query request => exact isErrorReferenceField_username h
  | messagePart request => exact isErrorReferenceField_message h.1 h.2
  | read request => exact isErrorReferenceField_message h.1 h.2
  | refresh request => exact errorReference_iff.1 (.refreshTarget (refreshTarget_iff.2 h))

theorem isRequestTypeField_messageType (request : AnswerableRequest) :
    isRequestTypeField [request.messageType] = true := by
  cases request <;> rfl

/-- **The errors of the services can be sent.** -/
theorem isFormattable_buildRequestErrorReply (errorCode : ErrorCode) {request : AnswerableRequest}
    (h : request.IsWellFormed) :
    IsFormattable id (buildRequestErrorReply errorCode request).toProtocolMessage := by
  refine ⟨isErrorCodeField_text errorCode, isRequestTypeField_messageType request, ?_⟩
  rintro reference ⟨⟩
  exact isErrorReferenceField_errorReference h

/-! ### The errors of the texts -/

theorem isUpperCaseTypeLetter_iff {character : PlainText} :
    isUpperCaseTypeLetter character = true ↔
      ∃ c, character = [.scalar c] ∧ Grammar.UpperCaseLetter c := by
  unfold isUpperCaseTypeLetter
  split
  · rename_i c
    rw [Bool.and_eq_true, decide_eq_true_eq, decide_eq_true_eq]
    constructor
    · intro h
      exact ⟨c, rfl, h⟩
    · rintro ⟨c', heq, h⟩
      cases heq
      exact h
  · rename_i hno
    constructor
    · intro h
      exact absurd h (by simp)
    · rintro ⟨c, rfl, -⟩
      exact absurd rfl (hno c)

/-- The request type of a syntax error is the letter behind `HT1 `, or `?` without one. -/
theorem requestType_of_syntaxError {messageBody : PlainText} {requestType : Char}
    {kept : List Text}
    (h : parseVersionOneMessageBody messageBody = some (.protocolSyntaxError requestType kept)) :
    (∃ rest, messageBody = .scalar requestType :: rest ∧ requestType.isAlpha = true) ∨
      requestType = '?' ∧ ¬ ∃ letter rest, messageBody = .scalar letter :: rest ∧
        (Grammar.UpperCaseLetter letter ∨ Grammar.LowerCaseLetter letter) := by
  unfold parseVersionOneMessageBody at h
  split at h
  · rename_i letter rest
    split at h
    · rename_i halpha
      obtain ⟨rfl, -⟩ : '?' = requestType ∧ [] = kept := by simpa using h
      refine .inr ⟨rfl, ?_⟩
      rintro ⟨letter', rest', heq, hletter⟩
      cases heq
      exact halpha (isAlpha_iff.2 hletter)
    · rename_i halpha
      rw [not_not] at halpha
      have hsame : letter = requestType := by
        split at h
        · rename_i hletter
          split at h
          · rename_i fieldsText
            rcases parseErrorReplyFields_cases fieldsText with ⟨message, hm⟩ | hm
            · simp [hm] at h
            · rw [hm] at h
              rw [hletter]
              exact (ParsedDirectMessage.protocolSyntaxError.inj (Option.some.inj h)).1
          · exact (ParsedDirectMessage.protocolSyntaxError.inj (Option.some.inj h)).1
        · split at h
          · simp at h
          · rename_i hlayout
            split at h
            · rename_i fieldsText
              rcases parseFieldsByLayout_cases hlayout fieldsText with ⟨message, hm⟩ | ⟨_, hk, -⟩
              · simp [hm] at h
              · rw [hk] at h
                exact (ParsedDirectMessage.protocolSyntaxError.inj (Option.some.inj h)).1
            · exact (ParsedDirectMessage.protocolSyntaxError.inj (Option.some.inj h)).1
      subst hsame
      exact .inl ⟨rest, rfl, halpha⟩
  · rename_i hno
    obtain ⟨rfl, -⟩ : '?' = requestType ∧ [] = kept := by simpa using h
    refine .inr ⟨rfl, ?_⟩
    rintro ⟨letter, rest, rfl, -⟩
    exact hno letter rest rfl

theorem traffic_of_parse_syntaxError {text : PlainText} {requestType : Char} {kept : List Text}
    (h : parseDirectMessageText text = some (.protocolSyntaxError requestType kept)) :
    ∃ messageBody, Grammar.Traffic text ['1'] messageBody ∧
      parseVersionOneMessageBody messageBody = some (.protocolSyntaxError requestType kept) := by
  obtain ⟨⟨messageBody, htraffic, -⟩, -⟩ :=
    (parse_syntaxError_iff text).mp ⟨requestType, kept, h⟩
  refine ⟨messageBody, htraffic, ?_⟩
  rw [parse_of_traffic htraffic] at h
  exact (if_neg (by simp [protocolVersion])).symm.trans h

/-- The fields a request kept passed the checks of as many correlation fields. -/
theorem derives_of_correlationFields {header : List Grammar.HeaderRule} {fields : List PlainText}
    {k : ℕ} (hmatch : Grammar.PrefixMatches header fields k) {kept : List Text}
    (hkept : kept.map plainText = Grammar.correlationFields header fields k) :
    ∃ rules, rules <+: header.filter Grammar.HeaderRule.isCorrelation ∧
      List.Forall₂ Grammar.HeaderRule.Derives rules kept := by
  induction k generalizing header fields kept with
  | zero =>
      obtain rfl : kept = [] := by simpa [Grammar.correlationFields] using hkept
      exact ⟨[], List.nil_prefix, .nil⟩
  | succ k ih =>
      obtain ⟨rule, field, hrule, hfield, -⟩ := hmatch 0 (by omega)
      cases header with
      | nil => simp at hrule
      | cons rule' header =>
          cases fields with
          | nil => simp at hfield
          | cons field' fields =>
              obtain ⟨⟨text, rfl, hderives⟩, hrest⟩ := Grammar.prefixMatches_succ.1 hmatch
              rw [Grammar.correlationFields_succ] at hkept
              cases hcorrelation : rule'.isCorrelation with
              | false =>
                  rw [hcorrelation] at hkept
                  rw [List.filter_cons_of_neg (by simp [hcorrelation])]
                  exact ih hrest hkept
              | true =>
                  rw [hcorrelation, if_pos rfl, List.singleton_append] at hkept
                  cases kept with
                  | nil => simp at hkept
                  | cons first kept =>
                      obtain ⟨hfirst, htail⟩ := List.cons.inj hkept
                      obtain rfl := plainText_injective hfirst
                      obtain ⟨rules, hrules, hall⟩ := ih hrest htail
                      rw [List.filter_cons_of_pos hcorrelation]
                      exact ⟨rule' :: rules, (List.prefix_cons_inj rule').mpr hrules,
                        .cons hderives hall⟩

/-- A list that is as long as the one it is a prefix of. -/
theorem forall₂_of_prefix_of_length {α β : Type} {R : α → β → Prop} {rules full : List α}
    {kept : List β} (hinit : rules <+: full) (h : List.Forall₂ R rules kept)
    (hlength : full.length ≤ kept.length) : List.Forall₂ R full kept := by
  have heq : rules = full := hinit.eq_of_length_le (h.length_eq ▸ hlength)
  exact heq ▸ h

/-- The reference of a malformed request. -/
theorem isErrorReferenceField_of_syntaxError {requestType : Char} {rest : PlainText}
    {kept : List Text} {reference : Text}
    (hbody : parseVersionOneMessageBody (.scalar requestType :: rest) =
      some (.protocolSyntaxError requestType kept))
    (h : buildSyntaxErrorReference requestType kept = some reference) :
    isErrorReferenceField reference = true := by
  unfold buildSyntaxErrorReference at h
  cases hcount : correlationFieldCountsByRequestType requestType with
  | none => simp [hcount] at h
  | some requiredFieldCount =>
      simp only [hcount] at h
      split at h
      · simp at h
      rename_i hlength
      rw [not_lt] at hlength
      obtain rfl := Option.some.inj h
      unfold correlationFieldCountsByRequestType at hcount
      split at hcount
      case h_6 => exact absurd hcount (by simp)
      all_goals
        obtain rfl := Option.some.inj hcount
        obtain ⟨-, k, hlongest, hkept⟩ := correlationFields_of_syntaxError rfl hbody
        obtain ⟨rules, hrules, hall⟩ := derives_of_correlationFields hlongest.matching hkept
        have hfull := forall₂_of_prefix_of_length hrules hall hlength
      case h_1 | h_2 =>
        obtain ⟨field, rest', hfield, hrest, rfl⟩ := List.forall₂_cons_left_iff.mp hfull
        obtain rfl := List.forall₂_nil_left_iff.mp hrest
        rw [List.take_of_length_le (by simp), join_singleton]
        cases hfield with
        | username hname => exact isErrorReferenceField_username (username_iff.1 hname)
      case h_3 | h_4 =>
        obtain ⟨name, rest', hname, hrest, rfl⟩ := List.forall₂_cons_left_iff.mp hfull
        obtain ⟨messageId, rest'', hid, hnil, rfl⟩ := List.forall₂_cons_left_iff.mp hrest
        obtain rfl := List.forall₂_nil_left_iff.mp hnil
        rw [List.take_of_length_le (by simp), join_cons_cons, join_singleton]
        cases hname with
        | username hname =>
            cases hid with
            | messageId hid => exact errorReference_iff.1 (.message hname hid)
      case h_5 =>
        obtain ⟨target, rest', htarget, hrest, rfl⟩ := List.forall₂_cons_left_iff.mp hfull
        obtain rfl := List.forall₂_nil_left_iff.mp hrest
        rw [List.take_of_length_le (by simp), join_singleton]
        cases htarget with
        | refreshTarget htarget => exact errorReference_iff.1 (.refreshTarget htarget)

/-- **The errors of the texts can be sent.** -/
theorem isFormattable_of_buildGrammarErrorReply {text : PlainText} {parsed : ParsedDirectMessage}
    {errorReply : ErrorReply} (hparse : parseDirectMessageText text = some parsed)
    (h : buildGrammarErrorReply parsed = some errorReply) :
    IsFormattable id (ServerMessage.errorReply errorReply).toProtocolMessage := by
  cases parsed with
  | message message => simp [buildGrammarErrorReply] at h
  | otherText other => simp [buildGrammarErrorReply] at h
  | unsupportedVersion version nextCharacter =>
      obtain ⟨messageBody, htraffic, -, -⟩ := parse_eq_unsupportedVersion_iff.1 hparse
      unfold buildGrammarErrorReply buildVersionErrorReply at h
      dsimp only at h
      split at h
      · simp at h
      · obtain rfl := Option.some.inj h
        refine ⟨isErrorCodeField_text _, rfl, ?_⟩
        rintro reference ⟨⟩
        cases htraffic with
        | mk _ hversion => exact errorReference_iff.1 (.versionNumber hversion)
  | unknownMessageType letter =>
      unfold buildGrammarErrorReply buildUnsupportedTypeErrorReply at h
      dsimp only at h
      split at h
      · simp at h
      · rename_i hupper
        rw [not_not] at hupper
        obtain rfl := Option.some.inj h
        refine ⟨isErrorCodeField_text _, ?_, by simp⟩
        obtain ⟨c, hc, hletter⟩ := isUpperCaseTypeLetter_iff.1 hupper
        obtain rfl : letter = c := by simpa using hc
        exact requestType_iff.1 (.letter hletter)
  | protocolSyntaxError requestType kept =>
      obtain ⟨messageBody, htraffic, hbody⟩ := traffic_of_parse_syntaxError hparse
      unfold buildGrammarErrorReply buildSyntaxErrorReply at h
      dsimp only at h
      split at h
      · simp at h
      · rename_i hanswered
        obtain rfl := Option.some.inj h
        rcases requestType_of_syntaxError hbody with ⟨rest, rfl, halpha⟩ | ⟨rfl, -⟩
        · refine ⟨isErrorCodeField_text _, ?_, fun reference hreference =>
            isErrorReferenceField_of_syntaxError hbody hreference⟩
          have hrequest : requestType ∈ requestTypes ∨ requestType = unknownRequestType := by
            by_contra hneither
            exact hanswered (not_or.mp hneither)
          rcases hrequest with hmem | rfl
          · simp only [requestTypes, List.mem_cons, List.not_mem_nil, or_false] at hmem
            rcases hmem with rfl | rfl | rfl | rfl | rfl <;> rfl
          · rfl
        · refine ⟨isErrorCodeField_text _, rfl, ?_⟩
          intro reference hreference
          exact absurd hreference (by simp [buildSyntaxErrorReference,
            correlationFieldCountsByRequestType])

end HoptalkRelay
