/-
**The shape of every field.**

The checks of `protocol/field_grammar.py`, which the parser and the formatters share.  They are
the grammar only; the value rules have error codes of their own.  A regular expression of the
source is matched against the whole field and names ASCII characters only.

Main definitions:

* `HoptalkRelay.isMessageIdField`, `HoptalkRelay.isPartField`, … — one check per field;
* `HoptalkRelay.numberOf`, `HoptalkRelay.readPartField` — the numbers of a field;
* `HoptalkRelay.fieldText?` — the text of a field of any string.

Main results:

* `HoptalkRelay.decimal_numberOf` — a number without leading zero is printed as it was read.
-/

import Mathlib.Data.List.Induction
import Mathlib.Tactic.IntervalCases
import HoptalkRelay.Formats.Fields
import HoptalkRelay.Protocol.ReceivedSets

set_option relaxedAutoImplicit false
set_option autoImplicit false

namespace HoptalkRelay

open Formats

def fieldSeparator : Char := ' '

def partFieldSeparator : Char := '/'

def isNonzeroDigit (c : Char) : Bool := c.isDigit && c != '0'

def messageIdMaximumDigits : ℕ := 16

/-- `[1-9][0-9]{0,n-1}` -/
def isNumberField (maximumDigits : ℕ) : Text → Bool
  | [] => false
  | first :: rest =>
      isNonzeroDigit first && rest.length ≤ maximumDigits - 1 && rest.all Char.isDigit

/-- `[1-9][0-9]{0,15}` -/
def isMessageIdField (field : Text) : Bool := isNumberField messageIdMaximumDigits field

/-- The number of a field of digits. -/
def numberOf (digits : Text) : ℕ := Nat.ofDigitChars 10 digits 0

/-- Return the part number and the part count of a part field, `[1-9][0-9]?/[1-9][0-9]?`; the
range 1 to 10 is a value rule. -/
def readPartField (field : Text) : Option (ℕ × ℕ) :=
  match field.splitOn partFieldSeparator with
  | [partNumber, partCount] =>
      if isNumberField 2 partNumber && isNumberField 2 partCount then
        some (numberOf partNumber, numberOf partCount)
      else none
  | _ => none

def isPartField (field : Text) : Bool := (readPartField field).isSome

/-- `[DR]` -/
def isReceiptLevelField (field : Text) : Bool := field == ['D'] || field == ['R']

/-- `[01]` -/
def isExistenceField (field : Text) : Bool := field == ['0'] || field == ['1']

/-- `0|[1-9][0-9]{0,3}` -/
def isMessageCountField (field : Text) : Bool := field == ['0'] || isNumberField 4 field

def isRefreshTargetField (field : Text) : Bool := field == ['*'] || isValidUsername field

def errorCodeMaximumLength : ℕ := 16

/-- `[A-Z_]{1,16}` -/
def isErrorCodeField (field : Text) : Bool :=
  1 ≤ field.length && field.length ≤ errorCodeMaximumLength &&
    field.all fun c => c.isUpper || c == '_'

/-- `[A-Z?]` -/
def isRequestTypeField : Text → Bool
  | [c] => c.isUpper || c == '?'
  | _ => false

def versionNumberMaximumDigits : ℕ := 3

/-- `[0-9]{1,3}` -/
def isVersionNumberField (field : Text) : Bool :=
  1 ≤ field.length && field.length ≤ versionNumberMaximumDigits && field.all Char.isDigit

/-- One of `<username> <message id>`, `<username>`, `*` or a version number. -/
def isErrorReferenceField (errorReference : Text) : Bool :=
  match errorReference.splitOn fieldSeparator with
  | [username, messageId] => isValidUsername username && isMessageIdField messageId
  | [singleField] => isRefreshTargetField singleField || isVersionNumberField singleField
  | _ => false

/-- A password or part text: any Unicode scalar values except NUL, spaces included, possibly
empty. -/
def isTailField (tail : Text) : Bool := tail.all fun c => c != '\x00'

/-- The text of a field that matches; a field with a lone surrogate matches nothing. -/
def fieldText? (matchesGrammar : Text → Bool) (field : PlainText) : Option Text :=
  (scalarValues? field).filter matchesGrammar

@[simp] theorem fieldText?_eq_some {matchesGrammar : Text → Bool} {field : PlainText}
    {text : Text} :
    fieldText? matchesGrammar field = some text ↔
      field = plainText text ∧ matchesGrammar text = true := by
  rw [fieldText?, Option.filter_eq_some_iff, scalarValues?_eq_some]

@[simp] theorem fieldText?_plainText {matchesGrammar : Text → Bool} {text : Text} :
    fieldText? matchesGrammar (plainText text) =
      if matchesGrammar text then some text else none := by
  rw [fieldText?, scalarValues?_plainText, Option.filter_some]

/-! ### Numbers -/

theorem isDigit_of_isNonzeroDigit {c : Char} (h : isNonzeroDigit c = true) : c.isDigit = true := by
  rw [isNonzeroDigit, Bool.and_eq_true] at h
  exact h.1

theorem isNumberField_iff {maximumDigits : ℕ} {field : Text} :
    isNumberField maximumDigits field = true ↔
      ∃ first rest, field = first :: rest ∧ isNonzeroDigit first = true ∧
        rest.length ≤ maximumDigits - 1 ∧ ∀ c ∈ rest, c.isDigit = true := by
  cases field with
  | nil => simp [isNumberField]
  | cons first rest =>
      simp only [isNumberField, Bool.and_eq_true, decide_eq_true_eq, List.all_eq_true]
      constructor
      · rintro ⟨⟨hfirst, hlength⟩, hrest⟩
        exact ⟨first, rest, rfl, hfirst, hlength, hrest⟩
      · rintro ⟨first', rest', heq, hfirst, hlength, hrest⟩
        obtain ⟨rfl, rfl⟩ := List.cons.inj heq
        exact ⟨⟨hfirst, hlength⟩, hrest⟩

theorem isDigit_of_mem_numberField {maximumDigits : ℕ} {field : Text}
    (h : isNumberField maximumDigits field = true) : ∀ c ∈ field, c.isDigit = true := by
  obtain ⟨first, rest, rfl, hfirst, -, hrest⟩ := isNumberField_iff.1 h
  exact List.forall_mem_cons.mpr ⟨isDigit_of_isNonzeroDigit hfirst, hrest⟩

@[simp] theorem numberOf_decimal (n : ℕ) : numberOf (decimal n) = n :=
  Nat.ofDigitChars_ten_toDigits

theorem isDigit_of_mem_decimal {n : ℕ} {c : Char} (h : c ∈ decimal n) : c.isDigit = true :=
  Nat.isDigit_of_mem_toDigits (by omega) (by omega) h

/-- A digit is printed from its value. -/
theorem digitChar_toNat {c : Char} (h : c.isDigit = true) :
    Nat.digitChar (c.toNat - '0'.toNat) = c := by
  simp only [Char.isDigit, Bool.and_eq_true, decide_eq_true_eq] at h
  have hlo : 48 ≤ c.toNat := h.1
  have hhi : c.toNat ≤ 57 := h.2
  have hc : c = Char.ofNat c.toNat := (Char.ofNat_toNat c).symm
  generalize c.toNat = n at hlo hhi hc
  subst hc
  interval_cases n <;> rfl

theorem digit_value_lt {c : Char} (h : c.isDigit = true) : c.toNat - '0'.toNat < 10 := by
  simp only [Char.isDigit, Bool.and_eq_true, decide_eq_true_eq] at h
  have hhi : c.toNat ≤ 57 := h.2
  have hzero : '0'.toNat = 48 := rfl
  omega

theorem digit_value_pos {c : Char} (h : isNonzeroDigit c = true) : 0 < c.toNat - '0'.toNat := by
  rcases Nat.eq_zero_or_pos (c.toNat - '0'.toNat) with hzero | hpos
  · have hc := digitChar_toNat (isDigit_of_isNonzeroDigit h)
    rw [hzero] at hc
    subst hc
    exact absurd h (by decide)
  · exact hpos

/-- One more digit is ten times the number and the digit. -/
theorem numberOf_concat (field : Text) (c : Char) :
    numberOf (field ++ [c]) = 10 * numberOf field + (c.toNat - '0'.toNat) := by
  rw [numberOf, Nat.ofDigitChars_append, Nat.ofDigitChars_cons, Nat.ofDigitChars_nil]
  rfl

theorem decimal_concat {n d : ℕ} (hn : 0 < n) (hd : d < 10) :
    decimal (10 * n + d) = decimal n ++ [d.digitChar] := by
  unfold decimal
  rw [← Nat.toDigits_append_toDigits (by omega) hn hd, Nat.toDigits_of_lt_base hd]

/-- **A number without leading zero is printed as it was read.** -/
theorem decimal_numberOf {maximumDigits : ℕ} {field : Text}
    (h : isNumberField maximumDigits field = true) : decimal (numberOf field) = field := by
  obtain ⟨first, rest, rfl, hfirst, -, hrest⟩ := isNumberField_iff.1 h
  have hdigit := isDigit_of_isNonzeroDigit hfirst
  suffices hboth : 0 < numberOf (first :: rest) ∧ decimal (numberOf (first :: rest)) = first :: rest
    from hboth.2
  -- the digits are read from the left, so the induction takes the last one off
  clear h
  induction rest using List.reverseRecOn with
  | nil =>
      have hvalue : numberOf [first] = first.toNat - '0'.toNat := by
        rw [numberOf, Nat.ofDigitChars_cons, Nat.ofDigitChars_nil, Nat.mul_zero, Nat.zero_add]
      rw [hvalue]
      refine ⟨digit_value_pos hfirst, ?_⟩
      rw [decimal, Nat.toDigits_of_lt_base (digit_value_lt hdigit), digitChar_toNat hdigit]
  | append_singleton rest c ih =>
      have hc : c.isDigit = true := hrest c (by simp)
      obtain ⟨hpos, hprinted⟩ := ih fun d hd => hrest d (by simp [hd])
      rw [← List.cons_append, numberOf_concat]
      refine ⟨by omega, ?_⟩
      rw [decimal_concat hpos (digit_value_lt hc), hprinted, digitChar_toNat hc]

theorem exists_nonzeroDigit_decimal {n : ℕ} (hn : 0 < n) :
    ∃ first rest, decimal n = first :: rest ∧ isNonzeroDigit first = true := by
  induction n using Nat.strongRecOn with
  | _ n ih =>
      rcases Nat.lt_or_ge n 10 with hlt | hge
      · refine ⟨n.digitChar, [], Nat.toDigits_of_lt_base hlt, ?_⟩
        interval_cases n <;> rfl
      · obtain ⟨first, rest, heq, hfirst⟩ := ih (n / 10) (by omega) (by omega)
        refine ⟨first, rest ++ [(n % 10).digitChar], ?_, hfirst⟩
        have hprinted := @decimal_concat (n / 10) (n % 10) (by omega) (by omega)
        rw [Nat.div_add_mod, heq] at hprinted
        exact hprinted

/-- A positive number of few digits is printed as a number field. -/
theorem isNumberField_decimal {n maximumDigits : ℕ} (hn : 0 < n) (hdigits : 0 < maximumDigits)
    (hlt : n < 10 ^ maximumDigits) : isNumberField maximumDigits (decimal n) = true := by
  obtain ⟨first, rest, heq, hfirst⟩ := exists_nonzeroDigit_decimal hn
  have hlength : (decimal n).length ≤ maximumDigits :=
    (Nat.length_toDigits_le_iff (by omega) hdigits).mpr hlt
  rw [heq, List.length_cons] at hlength
  refine isNumberField_iff.2 ⟨first, rest, heq, hfirst, by omega, ?_⟩
  intro c hc
  exact @isDigit_of_mem_decimal n c (by rw [heq]; exact List.mem_cons_of_mem _ hc)

theorem numberOf_pos {maximumDigits : ℕ} {field : Text}
    (h : isNumberField maximumDigits field = true) : 0 < numberOf field := by
  rcases Nat.eq_zero_or_pos (numberOf field) with hzero | hpos
  · have hprinted := decimal_numberOf h
    rw [hzero] at hprinted
    subst hprinted
    exact absurd h (by simp [isNumberField, decimal, Nat.toDigits_of_lt_base, isNonzeroDigit])
  · exact hpos

theorem numberOf_lt {maximumDigits : ℕ} {field : Text} (hdigits : 0 < maximumDigits)
    (h : isNumberField maximumDigits field = true) : numberOf field < 10 ^ maximumDigits := by
  obtain ⟨first, rest, heq, -, hlength, -⟩ := isNumberField_iff.1 h
  refine (@Nat.length_toDigits_le_iff 10 _ _ (by omega) hdigits).mp ?_
  have hprinted : Nat.toDigits 10 (numberOf field) = field := decimal_numberOf h
  rw [hprinted, heq, List.length_cons]
  omega

end HoptalkRelay
