/-
**Every text is sorted out as the protocol says.**

A text that is no message is sorted out by its first characters, and a malformed request keeps the
usernames, message ids and refresh targets of the header fields that matched before the first one
that did not.

Main results:

* `HoptalkRelay.matchProtocolTraffic_iff` — protocol traffic;
* `HoptalkRelay.checkHeaderFields_longest` — the loop keeps the fields of the longest match;
* `HoptalkRelay.parse_total` — no string makes the parser raise;
* `HoptalkRelay.parse_accepts_grammar` — **the parser accepts exactly the grammar, and sorts out
  every other text**.
-/

import HoptalkRelay.Protocol.Acceptance

set_option relaxedAutoImplicit false
set_option autoImplicit false

namespace HoptalkRelay

open Formats

/-! ### Protocol traffic -/

theorem takeWhile_digits {version : Text} (h : ∀ c ∈ version, c.isDigit = true)
    (rest : PlainText) :
    (plainText version ++ separator :: rest).takeWhile isDigitCodePoint = plainText version ∧
      (plainText version ++ separator :: rest).dropWhile isDigitCodePoint = separator :: rest := by
  have hall : ∀ c ∈ plainText version, isDigitCodePoint c = true := by
    intro c hc
    obtain ⟨d, hd, rfl⟩ := List.mem_map.mp hc
    exact h d hd
  constructor
  · rw [List.takeWhile_append_of_pos hall, List.takeWhile_cons_of_neg (by decide),
      List.append_nil]
  · rw [List.dropWhile_append_of_pos hall, List.dropWhile_cons_of_neg (by decide)]

/-- **Protocol traffic** is `HT`, one to three digits and a space. -/
theorem matchProtocolTraffic_iff {text : PlainText} {version : Text} {messageBody : PlainText} :
    matchProtocolTraffic text = some (version, messageBody) ↔
      Grammar.Traffic text version messageBody := by
  constructor
  · intro h
    unfold matchProtocolTraffic at h
    split at h
    · rename_i rest
      split at h
      · rename_i found body hfound hdrop
        obtain ⟨rfl, rfl⟩ := Prod.mk.inj (Option.some.inj h)
        obtain ⟨htake, hversion⟩ := fieldText?_eq_some.1 hfound
        have hrest := @List.takeWhile_append_dropWhile _ isDigitCodePoint rest
        rw [htake, hdrop] at hrest
        have htraffic := Grammar.Traffic.mk body (versionNumber_iff.2 hversion)
        rw [← hrest]
        simpa [sp_eq, fieldSeparator] using htraffic
      · exact absurd h (by simp)
    · exact absurd h (by simp)
  · intro h
    cases h with
    | mk rest hversion =>
        have hvalid := versionNumber_iff.1 hversion
        have hdigits : ∀ c ∈ version, c.isDigit = true := by
          rw [isVersionNumberField, Bool.and_eq_true, List.all_eq_true] at hvalid
          exact hvalid.2
        obtain ⟨htake, hdrop⟩ := takeWhile_digits hdigits messageBody
        have htext : plainText ('H' :: 'T' :: version ++ [Grammar.sp]) ++ messageBody =
            .scalar 'H' :: .scalar 'T' :: (plainText version ++ separator :: messageBody) := by
          simp [separator, sp_eq]
        rw [htext]
        simp only [matchProtocolTraffic, htake, hdrop, fieldText?_plainText, if_pos hvalid]
        rfl

/-! ### The fields a malformed request keeps -/

/-- The check of a header field. -/
def Grammar.HeaderRule.headerField : Grammar.HeaderRule → HeaderField
  | .username => usernameField
  | .refreshTarget => refreshTargetField
  | .messageId => messageIdField
  | .part => partField
  | .receivedSet => receivedSetField
  | .receiptLevel => receiptLevelField

theorem derives_iff {rule : Grammar.HeaderRule} {field : Text} :
    rule.Derives field ↔ rule.headerField.matchesGrammar field = true := by
  constructor
  · intro h
    cases h with
    | username h => exact username_iff.1 h
    | refreshTarget h => exact refreshTarget_iff.1 h
    | messageId h => exact messageId_iff.1 h
    | part hnumber hcount => exact isPartField_of_part hnumber hcount
    | receivedSet h => exact receivedSet_iff.1 h
    | receiptLevel h => exact (receiptLevelField_of_level h).1
  · intro h
    cases rule with
    | username => exact .username (username_iff.2 h)
    | refreshTarget => exact .refreshTarget (refreshTarget_iff.2 h)
    | messageId => exact .messageId (messageId_iff.2 h)
    | part =>
        obtain ⟨partNumber, partCount, rfl, hnumber, hcount⟩ := isPartField_iff.1 h
        exact .part (number_iff.2 hnumber) (number_iff.2 hcount)
    | receivedSet => exact .receivedSet (receivedSet_iff.2 h)
    | receiptLevel =>
        rcases Bool.or_eq_true_iff.mp h with h | h <;> rw [beq_iff_eq.mp h]
        · exact .receiptLevel .delivered
        · exact .receiptLevel .read

theorem derivesPlain_iff {rule : Grammar.HeaderRule} {field : PlainText} :
    rule.DerivesPlain field ↔
      ∃ text, fieldText? rule.headerField.matchesGrammar field = some text := by
  constructor
  · rintro ⟨text, hfield, h⟩
    exact ⟨text, fieldText?_eq_some.2 ⟨hfield, derives_iff.1 h⟩⟩
  · rintro ⟨text, h⟩
    obtain ⟨hfield, h⟩ := fieldText?_eq_some.1 h
    exact ⟨text, hfield, derives_iff.2 h⟩

theorem isCorrelation_eq (rule : Grammar.HeaderRule) :
    rule.headerField.isCorrelationField = rule.isCorrelation := by
  cases rule <;> rfl

namespace Grammar

theorem prefixMatches_zero (header : List HeaderRule) (fields : List PlainText) :
    PrefixMatches header fields 0 := by
  intro i hi
  omega

theorem prefixMatches_succ {rule : HeaderRule} {header : List HeaderRule} {field : PlainText}
    {fields : List PlainText} {k : ℕ} :
    PrefixMatches (rule :: header) (field :: fields) (k + 1) ↔
      rule.DerivesPlain field ∧ PrefixMatches header fields k := by
  constructor
  · intro h
    constructor
    · obtain ⟨rule', field', hrule, hfield, hderives⟩ := h 0 (by omega)
      obtain rfl := Option.some.inj hrule
      obtain rfl := Option.some.inj hfield
      exact hderives
    · intro i hi
      exact h (i + 1) (by omega)
  · rintro ⟨hderives, hrest⟩ i hi
    cases i with
    | zero => exact ⟨rule, field, rfl, rfl, hderives⟩
    | succ i => exact hrest i (by omega)

/-- Nothing matches beyond the first field when that one does not. -/
theorem isLongestMatch_zero {header : List HeaderRule} {fields : List PlainText}
    (h : ∀ rule field, header[0]? = some rule → fields[0]? = some field →
      ¬ rule.DerivesPlain field) : IsLongestMatch header fields 0 where
  matching := prefixMatches_zero header fields
  longest := by
    intro j hj
    by_contra hpos
    obtain ⟨rule, field, hrule, hfield, hderives⟩ := hj 0 (by omega)
    exact h rule field hrule hfield hderives

theorem isLongestMatch_succ {rule : HeaderRule} {header : List HeaderRule} {field : PlainText}
    {fields : List PlainText} {k : ℕ} (hderives : rule.DerivesPlain field)
    (h : IsLongestMatch header fields k) :
    IsLongestMatch (rule :: header) (field :: fields) (k + 1) where
  matching := prefixMatches_succ.2 ⟨hderives, h.matching⟩
  longest := by
    intro j hj
    cases j with
    | zero => omega
    | succ j =>
        have := h.longest j (prefixMatches_succ.1 hj).2
        omega

theorem correlationFields_succ (rule : HeaderRule) (header : List HeaderRule) (field : PlainText)
    (fields : List PlainText) (k : ℕ) :
    correlationFields (rule :: header) (field :: fields) (k + 1) =
      (if rule.isCorrelation then [field] else []) ++ correlationFields header fields k := by
  unfold correlationFields
  rw [List.zip_cons_cons, List.take_succ_cons, List.filterMap_cons]
  cases rule.isCorrelation <;> rfl

end Grammar

/-- **The loop keeps the correlation fields of the longest match**, whether it ends well or not. -/
theorem checkHeaderFields_longest (header : List Grammar.HeaderRule)
    (fieldValues : List PlainText) (before : List Text) :
    ∃ k kept, Grammar.IsLongestMatch header fieldValues k ∧
      kept.map plainText = Grammar.correlationFields header fieldValues k ∧
      (checkHeaderFields (header.map Grammar.HeaderRule.headerField) fieldValues before =
          .ok (before ++ kept) ∨
        checkHeaderFields (header.map Grammar.HeaderRule.headerField) fieldValues before =
          .error (before ++ kept)) := by
  induction header generalizing fieldValues before with
  | nil =>
      refine ⟨0, [], Grammar.isLongestMatch_zero (by simp), rfl, .inl ?_⟩
      simp [checkHeaderFields]
  | cons rule header ih =>
      cases fieldValues with
      | nil =>
          refine ⟨0, [], Grammar.isLongestMatch_zero (by simp), rfl, .inl ?_⟩
          simp [checkHeaderFields]
      | cons field fieldValues =>
          rw [List.map_cons, checkHeaderFields]
          cases htext : fieldText? rule.headerField.matchesGrammar field with
          | none =>
              refine ⟨0, [], Grammar.isLongestMatch_zero ?_, rfl, .inr (by simp)⟩
              intro rule' field' hrule hfield hderives
              obtain rfl := Option.some.inj hrule
              obtain rfl := Option.some.inj hfield
              obtain ⟨text, h⟩ := derivesPlain_iff.1 hderives
              rw [htext] at h
              exact absurd h (by simp)
          | some text =>
              dsimp only
              obtain ⟨k, kept, hlongest, hkept, hloop⟩ := ih fieldValues
                (if rule.headerField.isCorrelationField then before ++ [text] else before)
              have hderives := derivesPlain_iff.2 ⟨text, htext⟩
              have hfield := (fieldText?_eq_some.1 htext).1
              rw [isCorrelation_eq] at hloop ⊢
              cases hcorrelation : rule.isCorrelation with
              | true =>
                  rw [hcorrelation] at hloop
                  refine ⟨k + 1, text :: kept, Grammar.isLongestMatch_succ hderives hlongest, ?_, ?_⟩
                  · rw [List.map_cons, hkept, Grammar.correlationFields_succ, hcorrelation, hfield]
                    rfl
                  · simpa using hloop
              | false =>
                  rw [hcorrelation] at hloop
                  refine ⟨k + 1, kept, Grammar.isLongestMatch_succ hderives hlongest, ?_, ?_⟩
                  · rw [hkept, Grammar.correlationFields_succ, hcorrelation]
                    rfl
                  · simpa using hloop

/-! ### What every text is parsed as -/

/-- The fields a layout admits build a message. -/
theorem build_of_admits {letter : Char} {messageLayout : MessageLayout} {fields : List Text}
    (hlayout : messageLayoutsByTypeLetter letter = some messageLayout)
    (hadmits : messageLayout.Admits fields) :
    ∃ message, messageLayout.buildMessage fields = some message := by
  have hpart : ∀ {field : Text}, isPartField field = true →
      ∃ numbers, readPartField field = some numbers := fun h => Option.isSome_iff_exists.mp h
  have hlevel : ∀ {field : Text}, isReceiptLevelField field = true →
      ∃ level, receiptLevelOfField field = some level := by
    intro field h
    rcases Bool.or_eq_true_iff.mp h with h | h <;> rw [beq_iff_eq.mp h]
    · exact ⟨.delivered, rfl⟩
    · exact ⟨.read, rfl⟩
  unfold messageLayoutsByTypeLetter at hlayout
  split at hlayout
  case h_15 => exact absurd hlayout (by simp)
  all_goals obtain rfl := Option.some.inj hlayout
  case h_1 =>
    obtain ⟨_, password, rfl, hheader, -⟩ := headers_and_tail_of_admits hadmits rfl
    obtain ⟨username, rfl, -⟩ := headersMatch_one hheader
    exact ⟨_, rfl⟩
  case h_3 | h_11 =>
    obtain ⟨_, partText, rfl, hheader, -⟩ := headers_and_tail_of_admits hadmits rfl
    obtain ⟨username, messageId, part, rfl, -, -, h⟩ := headersMatch_three hheader
    obtain ⟨numbers, hnumbers⟩ := hpart h
    exact ⟨_, Option.bind_eq_some_iff.mpr ⟨numbers, hnumbers, rfl⟩⟩
  case h_6 | h_13 =>
    obtain ⟨username, messageId, receiptLevel, rfl, -, -, h⟩ :=
      headersMatch_three (headers_of_admits hadmits rfl)
    obtain ⟨level, hread⟩ := hlevel h
    exact ⟨_, Option.bind_eq_some_iff.mpr ⟨level, hread, rfl⟩⟩
  case h_2 | h_7 | h_8 =>
    obtain ⟨field, rfl, -⟩ := headersMatch_one (headers_of_admits hadmits rfl)
    exact ⟨_, rfl⟩
  case h_5 | h_9 | h_12 | h_14 =>
    obtain ⟨first, second, rfl, -, -⟩ := headersMatch_two (headers_of_admits hadmits rfl)
    exact ⟨_, rfl⟩
  case h_4 | h_10 =>
    obtain ⟨first, second, third, rfl, -, -, -⟩ :=
      headersMatch_three (headers_of_admits hadmits rfl)
    exact ⟨_, rfl⟩

/-- A layout parses a text to a message, or to a syntax error of its letter with the fields the
loop kept. -/
theorem parseFieldsByLayout_cases {letter : Char} {messageLayout : MessageLayout}
    (hlayout : messageLayoutsByTypeLetter letter = some messageLayout) (fieldsText : PlainText) :
    (∃ message, parseFieldsByLayout letter fieldsText messageLayout = some (.message message)) ∨
      ∃ kept, parseFieldsByLayout letter fieldsText messageLayout =
          some (.protocolSyntaxError letter kept) ∧
        (checkHeaderFields messageLayout.headerFields
            (messageLayout.splitFields fieldsText) [] = .ok kept ∨
          checkHeaderFields messageLayout.headerFields
            (messageLayout.splitFields fieldsText) [] = .error kept) := by
  unfold parseFieldsByLayout
  dsimp only
  cases hcheck : checkHeaderFields messageLayout.headerFields
      (messageLayout.splitFields fieldsText) [] with
  | error kept => exact .inr ⟨kept, rfl, .inr rfl⟩
  | ok kept =>
      dsimp only
      split
      · exact .inr ⟨kept, rfl, .inl rfl⟩
      · rename_i hcount
        rw [ne_eq, Decidable.not_not] at hcount
        split
        · exact .inr ⟨kept, rfl, .inl rfl⟩
        · rename_i htail
          obtain ⟨fields, hvalues, hadmits⟩ := admits_of_checks hcheck hcount htail
          obtain ⟨message, hbuild⟩ := build_of_admits hlayout hadmits
          refine .inl ⟨message, ?_⟩
          rw [mapM_scalarValues?_eq_some.2 hvalues, Option.bind_some, hbuild, Option.map_some]

theorem parseErrorReplyFields_cases (fieldsText : PlainText) :
    (∃ message, parseErrorReplyFields fieldsText = .message message) ∨
      parseErrorReplyFields fieldsText = .protocolSyntaxError 'e' [] := by
  unfold parseErrorReplyFields
  repeat' split
  all_goals first
    | exact .inr rfl
    | exact .inl ⟨_, rfl⟩

theorem isAlpha_iff {c : Char} :
    c.isAlpha = true ↔ Grammar.UpperCaseLetter c ∨ Grammar.LowerCaseLetter c := by
  unfold Char.isAlpha
  rw [Bool.or_eq_true, upperCaseLetter_iff, lowerCaseLetter_iff]

/-- The letters without a layout are those of no type, and that of the error reply. -/
theorem messageLayoutsByTypeLetter_eq_none {letter : Char} :
    messageLayoutsByTypeLetter letter = none ↔ letter ∉ Grammar.typeLetters ∨ letter = 'e' := by
  constructor
  · intro h
    by_cases he : letter = 'e'
    · exact .inr he
    · refine .inl fun hmem => ?_
      simp only [Grammar.typeLetters, List.mem_cons, List.not_mem_nil, or_false] at hmem
      rcases hmem with rfl | rfl | rfl | rfl | rfl | rfl | rfl | rfl | rfl | rfl | rfl | rfl |
          rfl | rfl | rfl
      all_goals first
        | exact absurd rfl he
        | exact absurd h (by simp [messageLayoutsByTypeLetter])
  · rintro (h | rfl)
    · unfold messageLayoutsByTypeLetter
      split
      case h_15 => rfl
      all_goals exact absurd (by decide) h
    · rfl

/-- What follows `HT1 ` is a message, an unknown letter or a syntax error. -/
theorem parseVersionOneMessageBody_cases (messageBody : PlainText) :
    (∃ message, parseVersionOneMessageBody messageBody = some (.message message)) ∨
      (∃ letter, parseVersionOneMessageBody messageBody = some (.unknownMessageType letter)) ∨
      ∃ requestType kept, parseVersionOneMessageBody messageBody =
        some (.protocolSyntaxError requestType kept) := by
  unfold parseVersionOneMessageBody
  split
  · split
    · exact .inr (.inr ⟨_, _, rfl⟩)
    · split
      · split
        · rename_i fieldsText
          rcases parseErrorReplyFields_cases fieldsText with ⟨message, h⟩ | h
          · exact .inl ⟨message, congrArg some h⟩
          · exact .inr (.inr ⟨_, _, congrArg some h⟩)
        · exact .inr (.inr ⟨_, _, rfl⟩)
      · split
        · exact .inr (.inl ⟨_, rfl⟩)
        · rename_i hlayout
          split
          · rename_i fieldsText
            rcases parseFieldsByLayout_cases hlayout fieldsText with h | ⟨kept, h, -⟩
            · exact .inl h
            · exact .inr (.inr ⟨_, kept, h⟩)
          · exact .inr (.inr ⟨_, _, rfl⟩)
  · exact .inr (.inr ⟨_, _, rfl⟩)

/-- The unknown letters. -/
theorem parseVersionOneMessageBody_eq_unknown {messageBody : PlainText} {letter : Char} :
    parseVersionOneMessageBody messageBody = some (.unknownMessageType letter) ↔
      ∃ rest, messageBody = .scalar letter :: rest ∧ letter.isAlpha = true ∧
        letter ∉ Grammar.typeLetters := by
  constructor
  · intro h
    unfold parseVersionOneMessageBody at h
    split at h
    · rename_i found rest
      split at h
      · simp at h
      · rename_i halpha
        rw [not_not] at halpha
        split at h
        · split at h
          · rename_i fieldsText
            rcases parseErrorReplyFields_cases fieldsText with ⟨message, herror⟩ | herror
            · simp [herror] at h
            · simp [herror] at h
          · simp at h
        · rename_i hne
          split at h
          · rename_i hnone
            obtain rfl : found = letter := by simpa using h
            refine ⟨rest, rfl, halpha, ?_⟩
            rcases messageLayoutsByTypeLetter_eq_none.1 hnone with hnot | he
            · exact hnot
            · exact absurd he hne
          · rename_i hlayout
            split at h
            · rename_i fieldsText
              rcases parseFieldsByLayout_cases hlayout fieldsText with ⟨message, hm⟩ | ⟨kept, hk, -⟩
              · simp [hm] at h
              · simp [hk] at h
            · simp at h
    · simp at h
  · rintro ⟨rest, rfl, halpha, hnot⟩
    have hne : letter ≠ 'e' := by
      rintro rfl
      exact hnot (by decide)
    unfold parseVersionOneMessageBody
    dsimp only
    rw [if_neg (not_not.mpr halpha), if_neg hne,
      messageLayoutsByTypeLetter_eq_none.2 (.inl hnot)]

/-! ### The fields a request keeps -/

/-- The loop looks at no more fields than there are header fields. -/
theorem checkHeaderFields_take (headerFields : List HeaderField) (fieldValues : List PlainText)
    (before : List Text) :
    checkHeaderFields headerFields (fieldValues.take headerFields.length) before =
      checkHeaderFields headerFields fieldValues before := by
  induction headerFields generalizing fieldValues before with
  | nil => simp [checkHeaderFields]
  | cons headerField headerFields ih =>
      cases fieldValues with
      | nil => rfl
      | cons fieldValue fieldValues =>
          rw [List.length_cons, List.take_succ_cons, checkHeaderFields, checkHeaderFields]
          split
          · rfl
          · exact ih _ _

theorem take_splitFields (messageLayout : MessageLayout) (fieldsText : PlainText) :
    (messageLayout.splitFields fieldsText).take messageLayout.headerFields.length =
      (fieldsText.splitOn separator).take messageLayout.headerFields.length := by
  unfold MessageLayout.splitFields
  split
  · exact take_splitAtMost _ _
  · rfl

/-- The layout of a request has the header of the grammar. -/
theorem layout_of_requestHeader {letter : Char} {header : List Grammar.HeaderRule}
    (h : Grammar.requestHeader letter = some header) :
    ∃ messageLayout, messageLayoutsByTypeLetter letter = some messageLayout ∧
      messageLayout.headerFields = header.map Grammar.HeaderRule.headerField := by
  unfold Grammar.requestHeader at h
  split at h
  case h_8 => exact absurd h (by simp)
  all_goals
    obtain rfl := Option.some.inj h
    exact ⟨_, rfl, rfl⟩

/-- **A malformed request keeps the correlation fields of its longest match.** -/
theorem correlationFields_of_syntaxError {letter requestType : Char}
    {header : List Grammar.HeaderRule} {rest : PlainText} {kept : List Text}
    (hheader : Grammar.requestHeader letter = some header)
    (h : parseVersionOneMessageBody (.scalar letter :: rest) =
      some (.protocolSyntaxError requestType kept)) :
    requestType = letter ∧
      ∃ k, Grammar.IsLongestMatch header (Grammar.fieldsBehind rest) k ∧
        kept.map plainText =
          Grammar.correlationFields header (Grammar.fieldsBehind rest) k := by
  obtain ⟨messageLayout, hlayout, hfields⟩ := layout_of_requestHeader hheader
  obtain ⟨halpha, hne⟩ := isAlpha_of_letter hlayout
  unfold parseVersionOneMessageBody at h
  dsimp only at h
  rw [if_neg (not_not.mpr halpha), if_neg hne, hlayout] at h
  dsimp only at h
  split at h
  · rename_i fieldsText
    rcases parseFieldsByLayout_cases hlayout fieldsText with ⟨message, hm⟩ | ⟨kept', hk, hloop⟩
    · rw [hm] at h
      simp at h
    · obtain ⟨rfl, rfl⟩ : letter = requestType ∧ kept' = kept := by
        rw [hk] at h
        simpa using h
      refine ⟨rfl, ?_⟩
      obtain ⟨k, found, hlongest, hfound, hchecked⟩ :=
        checkHeaderFields_longest header (fieldsText.splitOn separator) []
      have hsame : checkHeaderFields messageLayout.headerFields
          (messageLayout.splitFields fieldsText) [] =
          checkHeaderFields (header.map Grammar.HeaderRule.headerField)
            (fieldsText.splitOn separator) [] := by
        rw [← checkHeaderFields_take, take_splitFields, checkHeaderFields_take, hfields]
      rw [hsame] at hloop
      obtain rfl : kept' = found := by
        rcases hloop with hloop | hloop <;> rcases hchecked with hc | hc <;> rw [hloop] at hc
        · exact Except.ok.inj hc
        · exact absurd hc (by simp)
        · exact absurd hc (by simp)
        · exact Except.error.inj hc
      exact ⟨k, hlongest, hfound⟩
  · rename_i hspace
    obtain ⟨rfl, rfl⟩ : letter = requestType ∧ [] = kept := by simpa using h
    refine ⟨rfl, 0, ?_, rfl⟩
    have hnone : Grammar.fieldsBehind rest = [] := by
      unfold Grammar.fieldsBehind
      split
      · rename_i fieldsText
        exact absurd rfl (hspace fieldsText)
      · rfl
    rw [hnone]
    exact Grammar.isLongestMatch_zero (by simp)

/-! ### The parser and the grammar -/

/-- What follows the match of protocol traffic is parsed, or the version is refused. -/
theorem parse_of_traffic {text : PlainText} {version : Text} {messageBody : PlainText}
    (h : Grammar.Traffic text version messageBody) :
    parseDirectMessageText text =
      if version ≠ protocolVersion then
        some (.unsupportedVersion version (messageBody.take 1))
      else parseVersionOneMessageBody messageBody := by
  rw [parseDirectMessageText, matchProtocolTraffic_iff.2 h]

theorem parse_of_no_traffic {text : PlainText}
    (h : ¬ ∃ version messageBody, Grammar.Traffic text version messageBody) :
    parseDirectMessageText text = some (.otherText text) := by
  have hnone : matchProtocolTraffic text = none := by
    cases hmatch : matchProtocolTraffic text with
    | none => rfl
    | some p => exact absurd ⟨p.1, p.2, matchProtocolTraffic_iff.1 hmatch⟩ h
  rw [parseDirectMessageText, hnone]

/-- The version and the body of a text are its own. -/
theorem traffic_unique {text : PlainText} {version version' : Text}
    {messageBody messageBody' : PlainText} (h : Grammar.Traffic text version messageBody)
    (h' : Grammar.Traffic text version' messageBody') :
    version' = version ∧ messageBody' = messageBody := by
  have heq := matchProtocolTraffic_iff.2 h
  rw [matchProtocolTraffic_iff.2 h'] at heq
  exact Prod.mk.inj (Option.some.inj heq)

/-- Version 1 and a body. -/
theorem traffic_one (messageBody : PlainText) :
    Grammar.Traffic (plainText ['H', 'T', '1', Grammar.sp] ++ messageBody) protocolVersion
      messageBody :=
  @Grammar.Traffic.mk protocolVersion messageBody (versionNumber_iff.2 rfl)

/-- Version 1 is the only text of traffic with that version. -/
theorem eq_of_traffic_one {text messageBody : PlainText}
    (h : Grammar.Traffic text protocolVersion messageBody) :
    text = plainText ['H', 'T', '1', Grammar.sp] ++ messageBody := by
  cases h with
  | mk _ _ => rfl

/-- **The messages of the parser are the derivations of the grammar.** -/
theorem parse_eq_message_iff {text : PlainText} {message : ProtocolMessage} :
    parseDirectMessageText text = some (.message message) ↔
      ∃ derived, text = plainText derived ∧ Grammar.ProtocolDm derived message := by
  constructor
  · intro h
    by_cases htraffic : ∃ version messageBody, Grammar.Traffic text version messageBody
    · obtain ⟨version, messageBody, htraffic⟩ := htraffic
      rw [parse_of_traffic htraffic] at h
      split at h
      · simp at h
      · rename_i hversion
        rw [ne_eq, Decidable.not_not] at hversion
        subst hversion
        obtain ⟨body, rfl, hbody⟩ := parseVersionOneMessageBody_eq_message.1 h
        rw [eq_of_traffic_one htraffic, ← plainText_append]
        refine ⟨_, rfl, ?_⟩
        rcases hbody with hbody | hbody
        · exact .client hbody
        · exact .server hbody
    · rw [parse_of_no_traffic htraffic] at h
      simp at h
  · rintro ⟨derived, rfl, hderived⟩
    have hparse : ∀ {body : Text},
        (Grammar.ClientBody body message ∨ Grammar.ServerBody body message) →
        parseDirectMessageText (plainText ('H' :: 'T' :: '1' :: Grammar.sp :: body)) =
          some (.message message) := by
      intro body hbody
      have htraffic := parse_of_traffic (traffic_one (plainText body))
      rw [if_neg (by simp), parseVersionOneMessageBody_eq_message.2 ⟨body, rfl, hbody⟩]
        at htraffic
      exact htraffic
    cases hderived with
    | client hbody => exact hparse (.inl hbody)
    | server hbody => exact hparse (.inr hbody)

/-- No string makes the parser raise. -/
theorem parse_total (text : PlainText) : ∃ parsed, parseDirectMessageText text = some parsed := by
  by_cases htraffic : ∃ version messageBody, Grammar.Traffic text version messageBody
  · obtain ⟨version, messageBody, htraffic⟩ := htraffic
    rw [parse_of_traffic htraffic]
    split
    · exact ⟨_, rfl⟩
    · rcases parseVersionOneMessageBody_cases messageBody with ⟨_, h⟩ | ⟨_, h⟩ | ⟨_, _, h⟩ <;>
        exact ⟨_, h⟩
  · exact ⟨_, parse_of_no_traffic htraffic⟩

theorem parse_eq_otherText_iff {text other : PlainText} :
    parseDirectMessageText text = some (.otherText other) ↔
      other = text ∧ ¬ ∃ version messageBody, Grammar.Traffic text version messageBody := by
  constructor
  · intro h
    by_cases htraffic : ∃ version messageBody, Grammar.Traffic text version messageBody
    · obtain ⟨version, messageBody, htraffic⟩ := htraffic
      rw [parse_of_traffic htraffic] at h
      split at h
      · simp at h
      · rcases parseVersionOneMessageBody_cases messageBody with ⟨_, hb⟩ | ⟨_, hb⟩ | ⟨_, _, hb⟩ <;>
          simp [hb] at h
    · rw [parse_of_no_traffic htraffic] at h
      exact ⟨by simpa using h.symm, htraffic⟩
  · rintro ⟨rfl, htraffic⟩
    exact parse_of_no_traffic htraffic

theorem parse_eq_unsupportedVersion_iff {text : PlainText} {version : Text}
    {nextCharacter : PlainText} :
    parseDirectMessageText text = some (.unsupportedVersion version nextCharacter) ↔
      ∃ messageBody, Grammar.Traffic text version messageBody ∧ version ≠ protocolVersion ∧
        nextCharacter = messageBody.take 1 := by
  constructor
  · intro h
    by_cases htraffic : ∃ version messageBody, Grammar.Traffic text version messageBody
    · obtain ⟨found, messageBody, htraffic⟩ := htraffic
      rw [parse_of_traffic htraffic] at h
      split at h
      · rename_i hversion
        obtain ⟨rfl, hnext⟩ : found = version ∧ messageBody.take 1 = nextCharacter := by
          simpa using h
        exact ⟨messageBody, htraffic, hversion, hnext.symm⟩
      · rcases parseVersionOneMessageBody_cases messageBody with ⟨_, hb⟩ | ⟨_, hb⟩ | ⟨_, _, hb⟩ <;>
          simp [hb] at h
    · rw [parse_of_no_traffic htraffic] at h
      simp at h
  · rintro ⟨messageBody, htraffic, hversion, rfl⟩
    rw [parse_of_traffic htraffic, if_pos hversion]

theorem parse_eq_unknownMessageType_iff {text : PlainText} {letter : Char} :
    parseDirectMessageText text = some (.unknownMessageType letter) ↔
      ∃ rest, Grammar.Traffic text protocolVersion (.scalar letter :: rest) ∧
        (Grammar.UpperCaseLetter letter ∨ Grammar.LowerCaseLetter letter) ∧
        letter ∉ Grammar.typeLetters := by
  constructor
  · intro h
    by_cases htraffic : ∃ version messageBody, Grammar.Traffic text version messageBody
    · obtain ⟨version, messageBody, htraffic⟩ := htraffic
      rw [parse_of_traffic htraffic] at h
      split at h
      · simp at h
      · rename_i hversion
        rw [ne_eq, Decidable.not_not] at hversion
        subst hversion
        obtain ⟨rest, rfl, halpha, hnot⟩ := parseVersionOneMessageBody_eq_unknown.1 h
        exact ⟨rest, htraffic, isAlpha_iff.1 halpha, hnot⟩
    · rw [parse_of_no_traffic htraffic] at h
      simp at h
  · rintro ⟨rest, htraffic, halpha, hnot⟩
    rw [parse_of_traffic htraffic, if_neg (by simp)]
    exact parseVersionOneMessageBody_eq_unknown.2 ⟨rest, rfl, isAlpha_iff.2 halpha, hnot⟩

/-- A text of version 1 breaks the grammar when the grammar does not derive it and its letter is
not unknown. -/
theorem parse_syntaxError_iff (text : PlainText) :
    (∃ requestType kept,
        parseDirectMessageText text = some (.protocolSyntaxError requestType kept)) ↔
      (∃ messageBody, Grammar.Traffic text ['1'] messageBody ∧
        ¬ ∃ letter rest, messageBody = .scalar letter :: rest ∧
          (Grammar.UpperCaseLetter letter ∨ Grammar.LowerCaseLetter letter) ∧
          letter ∉ Grammar.typeLetters) ∧
      ¬ ∃ derived message, text = plainText derived ∧ Grammar.ProtocolDm derived message := by
  constructor
  · rintro ⟨requestType, kept, h⟩
    refine ⟨?_, ?_⟩
    · by_cases htraffic : ∃ version messageBody, Grammar.Traffic text version messageBody
      · obtain ⟨version, messageBody, htraffic⟩ := htraffic
        by_cases hversion : version = protocolVersion
        · subst hversion
          refine ⟨messageBody, htraffic, ?_⟩
          rintro ⟨letter, rest, rfl, halpha, hnot⟩
          rw [parse_eq_unknownMessageType_iff.2 ⟨rest, htraffic, halpha, hnot⟩] at h
          simp at h
        · rw [parse_of_traffic htraffic, if_pos hversion] at h
          simp at h
      · rw [parse_of_no_traffic htraffic] at h
        simp at h
    · rintro ⟨derived, message, hderived⟩
      rw [parse_eq_message_iff.2 ⟨derived, hderived⟩] at h
      simp at h
  · rintro ⟨⟨messageBody, htraffic, hknown⟩, hnone⟩
    have hparse : parseDirectMessageText text = parseVersionOneMessageBody messageBody := by
      rw [parse_of_traffic htraffic]
      exact if_neg (by simp [protocolVersion])
    rw [hparse]
    rcases parseVersionOneMessageBody_cases messageBody with ⟨message, hb⟩ | ⟨letter, hb⟩ | h
    · rw [← hparse] at hb
      obtain ⟨derived, hderived⟩ := parse_eq_message_iff.1 hb
      exact absurd ⟨derived, message, hderived⟩ hnone
    · obtain ⟨rest, rfl, halpha, hnot⟩ := parseVersionOneMessageBody_eq_unknown.1 hb
      exact absurd ⟨letter, rest, rfl, isAlpha_iff.1 halpha, hnot⟩ hknown
    · exact h

/-- **The parser accepts exactly the grammar, and sorts out every other text.**  A text is parsed
to a message exactly when the grammar derives it, and then to the message of the derivation.  It
is other text exactly when it does not start as protocol traffic; it is of another version exactly
when its digits are not `1`; its type is unknown exactly when its version is 1 and the next
character is a letter of no type; and it breaks the grammar in every other case.  A malformed
request or acknowledgement keeps the usernames, message ids and refresh targets of the longest
prefix of its header fields that all match. -/
theorem parse_accepts_grammar (text : PlainText) :
    (∀ message, parseDirectMessageText text = some (.message message) ↔
      ∃ derived, text = plainText derived ∧ Grammar.ProtocolDm derived message) ∧
    (∀ other, parseDirectMessageText text = some (.otherText other) ↔
      other = text ∧ ¬ ∃ version messageBody, Grammar.Traffic text version messageBody) ∧
    (∀ version nextCharacter,
      parseDirectMessageText text = some (.unsupportedVersion version nextCharacter) ↔
        ∃ messageBody, Grammar.Traffic text version messageBody ∧ version ≠ ['1'] ∧
          nextCharacter = messageBody.take 1) ∧
    (∀ letter, parseDirectMessageText text = some (.unknownMessageType letter) ↔
      ∃ rest, Grammar.Traffic text ['1'] (.scalar letter :: rest) ∧
        (Grammar.UpperCaseLetter letter ∨ Grammar.LowerCaseLetter letter) ∧
        letter ∉ Grammar.typeLetters) ∧
    ((∃ requestType kept,
        parseDirectMessageText text = some (.protocolSyntaxError requestType kept)) ↔
      (∃ messageBody, Grammar.Traffic text ['1'] messageBody ∧
        ¬ ∃ letter rest, messageBody = .scalar letter :: rest ∧
          (Grammar.UpperCaseLetter letter ∨ Grammar.LowerCaseLetter letter) ∧
          letter ∉ Grammar.typeLetters) ∧
      ¬ ∃ derived message, text = plainText derived ∧ Grammar.ProtocolDm derived message) ∧
    (∀ letter header rest requestType kept, Grammar.requestHeader letter = some header →
      Grammar.Traffic text ['1'] (.scalar letter :: rest) →
      parseDirectMessageText text = some (.protocolSyntaxError requestType kept) →
      requestType = letter ∧
        ∃ k, Grammar.IsLongestMatch header (Grammar.fieldsBehind rest) k ∧
          kept.map plainText = Grammar.correlationFields header (Grammar.fieldsBehind rest) k) := by
  refine ⟨fun _ => parse_eq_message_iff, fun _ => parse_eq_otherText_iff,
    fun _ _ => parse_eq_unsupportedVersion_iff, fun _ => parse_eq_unknownMessageType_iff,
    parse_syntaxError_iff text, ?_⟩
  intro letter header rest requestType kept hheader htraffic h
  have hparse : parseDirectMessageText text =
      parseVersionOneMessageBody (.scalar letter :: rest) := by
    rw [parse_of_traffic htraffic]
    exact if_neg (by simp [protocolVersion])
  rw [hparse] at h
  exact correlationFields_of_syntaxError hheader h

/-- `HT1 M Bob 05 1/2 x`: the message id has a leading zero. -/
def sampleLeadingZero : Text := "HT1 M Bob 05 1/2 x".toList

/-- The error for a leading zero repeats the recipient alone. -/
theorem parse_accepts_grammar_sampleLeadingZero :
    ∃ k, Grammar.IsLongestMatch [.username, .messageId, .part]
        (Grammar.fieldsBehind (plainText " Bob 05 1/2 x".toList)) k ∧
      [plainText "Bob".toList] = Grammar.correlationFields [.username, .messageId, .part]
        (Grammar.fieldsBehind (plainText " Bob 05 1/2 x".toList)) k :=
  ((parse_accepts_grammar (plainText sampleLeadingZero)).2.2.2.2.2 'M'
    [.username, .messageId, .part] (plainText " Bob 05 1/2 x".toList) 'M' ["Bob".toList] rfl
    (traffic_one (plainText "M Bob 05 1/2 x".toList)) (by decide +kernel)).2

end HoptalkRelay
