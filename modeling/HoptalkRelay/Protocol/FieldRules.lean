/-
**The checks of the fields are the rules of the grammar.**

One equivalence per field: what the check of the parser and the formatters accepts is what the
rule of the grammar derives.

Main results:

* `HoptalkRelay.username_iff`, `HoptalkRelay.number_iff`, `HoptalkRelay.errorReference_iff`, … —
  one per field;
* `HoptalkRelay.readPartField_eq_some` — the part field, with the numbers it is read as.
-/

import HoptalkRelay.Protocol.FieldGrammar
import HoptalkRelay.Protocol.Grammar

set_option relaxedAutoImplicit false
set_option autoImplicit false

namespace HoptalkRelay

open Formats

/-! ### Characters -/

theorem digit_iff {c : Char} : Grammar.Digit c ↔ c.isDigit = true := by
  unfold Char.isDigit
  rw [Bool.and_eq_true, decide_eq_true_eq, decide_eq_true_eq]
  rfl

theorem upperCaseLetter_iff {c : Char} : Grammar.UpperCaseLetter c ↔ c.isUpper = true := by
  unfold Char.isUpper
  rw [decide_eq_true_eq]
  rfl

theorem lowerCaseLetter_iff {c : Char} : Grammar.LowerCaseLetter c ↔ c.isLower = true := by
  unfold Char.isLower
  rw [Bool.and_eq_true, decide_eq_true_eq, decide_eq_true_eq]
  rfl

theorem nonzeroDigit_iff {c : Char} : Grammar.NonzeroDigit c ↔ isNonzeroDigit c = true := by
  rw [isNonzeroDigit, Bool.and_eq_true, ← digit_iff, bne_iff_ne]
  unfold Grammar.NonzeroDigit Grammar.Digit
  have hzero : c ≠ '0' ↔ c.toNat ≠ 0x30 := by
    refine not_congr ⟨fun h => by rw [h]; rfl, fun h => ?_⟩
    exact Char.toNat_inj.mp h
  rw [hzero]
  omega

theorem usernameCharacter_iff {c : Char} :
    Grammar.UsernameCharacter c ↔ c.isAlphanum = true := by
  unfold Grammar.UsernameCharacter Char.isAlphanum Char.isAlpha
  rw [Bool.or_eq_true, Bool.or_eq_true, upperCaseLetter_iff, lowerCaseLetter_iff, digit_iff,
    or_assoc]

theorem tailCharacter_iff {c : Char} : Grammar.TailCharacter c ↔ c ≠ '\x00' := by
  have hnul : c ≠ '\x00' ↔ c.toNat ≠ 0 := by
    refine not_congr ⟨fun h => by rw [h]; rfl, fun h => ?_⟩
    exact Char.toNat_inj.mp h
  have hvalid : c.toNat < 0xd800 ∨ 0xdfff < c.toNat ∧ c.toNat < 0x110000 := c.valid
  rw [hnul, Grammar.TailCharacter]
  omega

theorem sp_eq : Grammar.sp = fieldSeparator := rfl

/-! ### Fields -/

theorem username_iff {field : Text} : Grammar.Username field ↔ isValidUsername field = true := by
  rw [Grammar.Username, repetition_iff, isValidUsername]
  simp only [Bool.and_eq_true, decide_eq_true_eq, List.all_eq_true, usernameCharacter_iff]
  exact and_assoc.symm

theorem refreshTarget_iff {field : Text} :
    Grammar.RefreshTarget field ↔ isRefreshTargetField field = true := by
  rw [isRefreshTargetField, Bool.or_eq_true, beq_iff_eq]
  constructor
  · intro h
    cases h with
    | username h => exact .inr (username_iff.1 h)
    | everyConversation => exact .inl rfl
  · rintro (rfl | h)
    · exact .everyConversation
    · exact .username (username_iff.2 h)

theorem number_iff {n : ℕ} {field : Text} :
    Grammar.Number n field ↔ isNumberField (n + 1) field = true := by
  rw [isNumberField_iff, Nat.add_sub_cancel]
  constructor
  · intro h
    cases h with
    | @mk first rest hfirst hrest =>
        obtain ⟨-, hlength, hall⟩ := repetition_iff.1 hrest
        exact ⟨first, rest, rfl, nonzeroDigit_iff.1 hfirst, hlength,
          fun c hc => digit_iff.1 (hall c hc)⟩
  · rintro ⟨first, rest, rfl, hfirst, hlength, hall⟩
    exact .mk (nonzeroDigit_iff.2 hfirst)
      (repetition_iff.2 ⟨by omega, hlength, fun c hc => digit_iff.2 (hall c hc)⟩)

theorem messageId_iff {field : Text} : Grammar.MessageId field ↔ isMessageIdField field = true :=
  number_iff

/-- The number a field denotes is the number it is read as. -/
theorem denoted_eq (field : Text) : Grammar.denoted field = numberOf field :=
  Nat.ofDigitChars_eq_foldl.symm

theorem receivedSet_iff {field : Text} :
    Grammar.ReceivedSet field ↔ isReceivedSetField field = true := by
  rw [Grammar.ReceivedSet, repetition_iff, isReceivedSetField]
  simp only [Bool.and_eq_true, decide_eq_true_eq, List.all_eq_true, Bool.or_eq_true, beq_iff_eq]
  exact and_assoc.symm

theorem messageCount_iff {field : Text} :
    Grammar.MessageCount field ↔ isMessageCountField field = true := by
  rw [isMessageCountField, Bool.or_eq_true, beq_iff_eq]
  constructor
  · intro h
    cases h with
    | zero => exact .inl rfl
    | positive h => exact .inr (number_iff.1 h)
  · rintro (rfl | h)
    · exact .zero
    · exact .positive (number_iff.2 h)

theorem errorCode_iff {field : Text} :
    Grammar.ErrorCode field ↔ isErrorCodeField field = true := by
  rw [Grammar.ErrorCode, repetition_iff, isErrorCodeField]
  simp only [Bool.and_eq_true, decide_eq_true_eq, List.all_eq_true, Bool.or_eq_true, beq_iff_eq,
    upperCaseLetter_iff]
  exact and_assoc.symm

theorem requestType_iff {field : Text} :
    Grammar.RequestType field ↔ isRequestTypeField field = true := by
  constructor
  · intro h
    cases h with
    | letter h => exact Bool.or_eq_true_iff.mpr (.inl (upperCaseLetter_iff.1 h))
    | unknown => rfl
  · intro h
    match field, h with
    | [c], h =>
        rcases Bool.or_eq_true_iff.mp h with hupper | hunknown
        · exact .letter (upperCaseLetter_iff.2 hupper)
        · obtain rfl := beq_iff_eq.mp hunknown
          exact .unknown

theorem versionNumber_iff {field : Text} :
    Grammar.VersionNumber field ↔ isVersionNumberField field = true := by
  rw [Grammar.VersionNumber, repetition_iff, isVersionNumberField]
  simp only [Bool.and_eq_true, decide_eq_true_eq, List.all_eq_true, digit_iff]
  exact and_assoc.symm

theorem tail_iff {field : Text} : Grammar.Tail field ↔ isTailField field = true := by
  rw [Grammar.Tail, star_iff, isTailField]
  simp only [List.all_eq_true, bne_iff_ne, tailCharacter_iff]

/-! ### Fields without a separator -/

theorem not_mem_of_isDigit {c : Char} (hc : c.isDigit = false) {field : Text}
    (h : ∀ d ∈ field, d.isDigit = true) : c ∉ field := by
  intro hmem
  rw [h c hmem] at hc
  exact absurd hc (by decide)

theorem separator_not_mem_username {field : Text} (h : isValidUsername field = true) :
    fieldSeparator ∉ field := by
  rw [isValidUsername, Bool.and_eq_true, List.all_eq_true] at h
  exact fun hmem => absurd (h.2 _ hmem) (by decide)

theorem separator_not_mem_number {maximumDigits : ℕ} {field : Text}
    (h : isNumberField maximumDigits field = true) : fieldSeparator ∉ field :=
  not_mem_of_isDigit rfl (isDigit_of_mem_numberField h)

theorem separator_not_mem_refreshTarget {field : Text} (h : isRefreshTargetField field = true) :
    fieldSeparator ∉ field := by
  rw [isRefreshTargetField, Bool.or_eq_true, beq_iff_eq] at h
  rcases h with rfl | h
  · decide
  · exact separator_not_mem_username h

theorem separator_not_mem_receivedSet {field : Text} (h : isReceivedSetField field = true) :
    fieldSeparator ∉ field := by
  rw [isReceivedSetField, Bool.and_eq_true, List.all_eq_true] at h
  exact fun hmem => absurd (h.2 _ hmem) (by decide)

theorem separator_not_mem_errorCode {field : Text} (h : isErrorCodeField field = true) :
    fieldSeparator ∉ field := by
  rw [isErrorCodeField, Bool.and_eq_true, List.all_eq_true] at h
  exact fun hmem => absurd (h.2 _ hmem) (by decide)

theorem separator_not_mem_versionNumber {field : Text} (h : isVersionNumberField field = true) :
    fieldSeparator ∉ field := by
  rw [isVersionNumberField, Bool.and_eq_true, List.all_eq_true] at h
  exact fun hmem => absurd (h.2 _ hmem) (by decide)

theorem separator_not_mem_requestType {field : Text} (h : isRequestTypeField field = true) :
    fieldSeparator ∉ field := by
  match field, h with
  | [c], h =>
      intro hmem
      obtain rfl := List.mem_singleton.mp hmem
      exact absurd h (by decide)

/-! ### Parts and references -/

/-- **The part field**, with the numbers it is read as. -/
theorem readPartField_eq_some {field : Text} {number count : ℕ} :
    readPartField field = some (number, count) ↔
      ∃ partNumber partCount, field = partNumber ++ '/' :: partCount ∧
        isNumberField 2 partNumber = true ∧ isNumberField 2 partCount = true ∧
        number = numberOf partNumber ∧ count = numberOf partCount := by
  constructor
  · intro h
    unfold readPartField at h
    split at h
    · rename_i partNumber partCount hsplit
      split at h
      · rename_i hfields
        rw [Bool.and_eq_true] at hfields
        obtain ⟨rfl, rfl⟩ := Prod.mk.inj (Option.some.inj h)
        refine ⟨partNumber, partCount, ?_, hfields.1, hfields.2, rfl, rfl⟩
        have hjoin := @join_splitOn _ _ partFieldSeparator field
        rw [hsplit, join_cons_cons, join_singleton] at hjoin
        exact hjoin.symm
      · exact absurd h (by simp)
    · exact absurd h (by simp)
  · rintro ⟨partNumber, partCount, rfl, hnumber, hcount, rfl, rfl⟩
    have hsplit : (partNumber ++ '/' :: partCount).splitOn partFieldSeparator =
        [partNumber, partCount] := by
      have hsep : ∀ {digits : Text}, isNumberField 2 digits = true →
          partFieldSeparator ∉ digits := fun h =>
        not_mem_of_isDigit rfl (isDigit_of_mem_numberField h)
      rw [show '/' = partFieldSeparator from rfl,
        List.splitOn_append_cons_self_of_not_mem (hsep hnumber),
        List.splitOn_eq_singleton (hsep hcount)]
    rw [readPartField, hsplit]
    simp [hnumber, hcount]

theorem isPartField_iff {field : Text} :
    isPartField field = true ↔
      ∃ partNumber partCount, field = partNumber ++ '/' :: partCount ∧
        isNumberField 2 partNumber = true ∧ isNumberField 2 partCount = true := by
  rw [isPartField, Option.isSome_iff_exists]
  constructor
  · rintro ⟨⟨number, count⟩, h⟩
    obtain ⟨partNumber, partCount, hfield, hnumber, hcount, -, -⟩ := readPartField_eq_some.1 h
    exact ⟨partNumber, partCount, hfield, hnumber, hcount⟩
  · rintro ⟨partNumber, partCount, hfield, hnumber, hcount⟩
    exact ⟨(numberOf partNumber, numberOf partCount),
      readPartField_eq_some.2 ⟨partNumber, partCount, hfield, hnumber, hcount, rfl, rfl⟩⟩

theorem separator_not_mem_part {field : Text} (h : isPartField field = true) :
    fieldSeparator ∉ field := by
  obtain ⟨partNumber, partCount, rfl, hnumber, hcount⟩ := isPartField_iff.1 h
  intro hmem
  rcases List.mem_append.mp hmem with hmem | hmem
  · exact separator_not_mem_number hnumber hmem
  · rcases List.mem_cons.mp hmem with heq | hmem
    · exact absurd heq (by decide)
    · exact separator_not_mem_number hcount hmem

/-- **The reference of an error**: a user with a message id, a refresh target or a version. -/
theorem errorReference_iff {field : Text} :
    Grammar.ErrorReference field ↔ isErrorReferenceField field = true := by
  constructor
  · intro h
    cases h with
    | @message username messageId husername hid =>
        rw [username_iff] at husername
        rw [messageId_iff] at hid
        have hsplit : (username ++ Grammar.sp :: messageId).splitOn fieldSeparator =
            [username, messageId] := by
          rw [sp_eq, List.splitOn_append_cons_self_of_not_mem (separator_not_mem_username husername),
            List.splitOn_eq_singleton (separator_not_mem_number hid)]
        rw [isErrorReferenceField, hsplit]
        simp [husername, hid]
    | refreshTarget h =>
        rw [refreshTarget_iff] at h
        rw [isErrorReferenceField, List.splitOn_eq_singleton (separator_not_mem_refreshTarget h)]
        simp [h]
    | versionNumber h =>
        rw [versionNumber_iff] at h
        rw [isErrorReferenceField, List.splitOn_eq_singleton (separator_not_mem_versionNumber h)]
        simp [h]
  · intro h
    unfold isErrorReferenceField at h
    have hjoin := @join_splitOn _ _ fieldSeparator field
    split at h
    · rename_i username messageId hsplit
      rw [Bool.and_eq_true] at h
      rw [hsplit, join_cons_cons, join_singleton] at hjoin
      rw [← hjoin, ← sp_eq]
      exact .message (username_iff.2 h.1) (messageId_iff.2 h.2)
    · rename_i singleField hsplit
      rw [hsplit, join_singleton] at hjoin
      subst hjoin
      rcases Bool.or_eq_true_iff.mp h with h | h
      · exact .refreshTarget (refreshTarget_iff.2 h)
      · exact .versionNumber (versionNumber_iff.2 h)
    · exact absurd h (by simp)

end HoptalkRelay
