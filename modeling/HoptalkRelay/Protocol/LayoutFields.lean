/-
**What a layout parses.**

A layout admits a list of fields when its header fields match them in order and the tail, if it
has one, comes last.  The fields of a text are found again after joining, since a header field
that matches holds no separator; so a layout parses a text exactly when the text is the join of
fields it admits.

Main definitions:

* `HoptalkRelay.MessageLayout.Admits` — the fields of a layout.

Main results:

* `HoptalkRelay.headersMatch_of_checkHeaderFields`,
  `HoptalkRelay.checkHeaderFields_of_headersMatch` — the loop over the header fields;
* `HoptalkRelay.splitFields_join` — the fields come apart as they were joined;
* `HoptalkRelay.parseFieldsByLayout_eq_message` — **what a layout parses**.
-/

import Mathlib.Data.List.Forall2
import HoptalkRelay.Protocol.FieldRules
import HoptalkRelay.Protocol.Parsing

set_option relaxedAutoImplicit false
set_option autoImplicit false

namespace HoptalkRelay

open Formats

/-! ### Fields that match -/

/-- A field that matches holds no separator. -/
def HeaderField.IsClosed (headerField : HeaderField) : Prop :=
  ∀ field, headerField.matchesGrammar field = true → fieldSeparator ∉ field

theorem usernameField_isClosed : usernameField.IsClosed :=
  fun _ h => separator_not_mem_username h

theorem messageIdField_isClosed : messageIdField.IsClosed :=
  fun _ h => separator_not_mem_number h

theorem refreshTargetField_isClosed : refreshTargetField.IsClosed :=
  fun _ h => separator_not_mem_refreshTarget h

theorem partField_isClosed : partField.IsClosed := fun _ h => separator_not_mem_part h

theorem receivedSetField_isClosed : receivedSetField.IsClosed :=
  fun _ h => separator_not_mem_receivedSet h

theorem receiptLevelField_isClosed : receiptLevelField.IsClosed := by
  intro field h
  rcases Bool.or_eq_true_iff.mp h with h | h <;> rw [beq_iff_eq.mp h] <;> decide

theorem existenceField_isClosed : existenceField.IsClosed := by
  intro field h
  rcases Bool.or_eq_true_iff.mp h with h | h <;> rw [beq_iff_eq.mp h] <;> decide

theorem messageCountField_isClosed : messageCountField.IsClosed := by
  intro field h
  rcases Bool.or_eq_true_iff.mp h with h | h
  · rw [beq_iff_eq.mp h]
    decide
  · exact separator_not_mem_number h

/-- Header fields and the texts they match, in order. -/
abbrev HeadersMatch (headerFields : List HeaderField) (texts : List Text) : Prop :=
  List.Forall₂ (fun headerField text => headerField.matchesGrammar text = true) headerFields texts

/-- The fields a layout takes: its header fields, and the tail if it has one. -/
inductive MessageLayout.Admits (messageLayout : MessageLayout) : List Text → Prop
  | noTail {texts : List Text} (htail : messageLayout.hasTail = false)
      (hheader : HeadersMatch messageLayout.headerFields texts) : Admits messageLayout texts
  | tail {texts : List Text} {tail : Text} (htail : messageLayout.hasTail = true)
      (hheader : HeadersMatch messageLayout.headerFields texts)
      (hfield : isTailField tail = true) : Admits messageLayout (texts ++ [tail])

/-- A layout has a header field, and none of them matches a text with a separator. -/
structure MessageLayout.IsClosed (messageLayout : MessageLayout) : Prop where
  nonempty : messageLayout.headerFields ≠ []
  closed : ∀ headerField ∈ messageLayout.headerFields, headerField.IsClosed

/-- Every layout of the protocol is closed. -/
theorem isClosed_of_letter {letter : Char} {messageLayout : MessageLayout}
    (h : messageLayoutsByTypeLetter letter = some messageLayout) : messageLayout.IsClosed := by
  unfold messageLayoutsByTypeLetter at h
  split at h
  case h_15 => exact absurd h (by simp)
  all_goals
    obtain rfl := Option.some.inj h
    refine ⟨by simp, ?_⟩
    simp [usernameField_isClosed, messageIdField_isClosed, refreshTargetField_isClosed,
      partField_isClosed, receivedSetField_isClosed, receiptLevelField_isClosed,
      existenceField_isClosed, messageCountField_isClosed]

theorem separator_not_mem_of_headersMatch {headerFields : List HeaderField} {texts : List Text}
    (hclosed : ∀ headerField ∈ headerFields, headerField.IsClosed)
    (h : HeadersMatch headerFields texts) : ∀ text ∈ texts, fieldSeparator ∉ text := by
  induction h with
  | nil => simp
  | cons hmatch _ ih =>
      obtain ⟨hhead, hrest⟩ := List.forall_mem_cons.mp hclosed
      exact List.forall_mem_cons.mpr ⟨hhead _ hmatch, ih hrest⟩

theorem separator_not_mem_plainText {text : Text} (h : fieldSeparator ∉ text) :
    separator ∉ plainText text := by
  intro hmem
  obtain ⟨c, hc, heq⟩ := List.mem_map.mp hmem
  cases heq
  exact h hc

theorem plainText_join (fields : List Text) :
    plainText (join fieldSeparator fields) = join separator (fields.map plainText) :=
  map_join fieldSeparator CodePoint.scalar fields

/-! ### The loop over the header fields -/

/-- The loop ends well only when every header field matched. -/
theorem headersMatch_of_checkHeaderFields {headerFields : List HeaderField}
    {fieldValues : List PlainText} {before after : List Text}
    (h : checkHeaderFields headerFields fieldValues before = .ok after)
    (hlength : headerFields.length ≤ fieldValues.length) :
    ∃ texts rest, fieldValues = texts.map plainText ++ rest ∧ HeadersMatch headerFields texts := by
  induction headerFields generalizing fieldValues before with
  | nil => exact ⟨[], fieldValues, rfl, List.Forall₂.nil⟩
  | cons headerField headerFields ih =>
      cases fieldValues with
      | nil => simp at hlength
      | cons fieldValue fieldValues =>
          unfold checkHeaderFields at h
          cases hfield : fieldText? headerField.matchesGrammar fieldValue with
          | none => simp [hfield] at h
          | some text =>
              simp only [hfield] at h
              obtain ⟨rfl, hmatch⟩ := fieldText?_eq_some.1 hfield
              obtain ⟨texts, rest, rfl, hheaders⟩ := ih h (by simpa using hlength)
              exact ⟨text :: texts, rest, by simp, List.Forall₂.cons hmatch hheaders⟩

/-- Header fields that match pass the loop. -/
theorem checkHeaderFields_of_headersMatch {headerFields : List HeaderField} {texts : List Text}
    (h : HeadersMatch headerFields texts) (rest : List PlainText) (before : List Text) :
    ∃ after, checkHeaderFields headerFields (texts.map plainText ++ rest) before = .ok after := by
  induction h generalizing before with
  | nil => exact ⟨before, by simp [checkHeaderFields]⟩
  | @cons headerField text headerFields texts hmatch _ ih =>
      obtain ⟨after, hafter⟩ := ih
        (if headerField.isCorrelationField then before ++ [text] else before)
      refine ⟨after, ?_⟩
      rw [List.map_cons, List.cons_append, checkHeaderFields, fieldText?_plainText, if_pos hmatch]
      exact hafter

/-! ### What a layout parses -/

theorem mapM_scalarValues?_eq_some {fieldValues : List PlainText} {texts : List Text} :
    fieldValues.mapM scalarValues? = some texts ↔ fieldValues = texts.map plainText := by
  induction fieldValues generalizing texts with
  | nil => cases texts <;> simp
  | cons fieldValue fieldValues ih =>
      rw [List.mapM_cons]
      constructor
      · intro h
        obtain ⟨text, htext, h⟩ := Option.bind_eq_some_iff.mp h
        obtain ⟨rest, hrest, h⟩ := Option.bind_eq_some_iff.mp h
        obtain rfl := Option.some.inj h
        rw [scalarValues?_eq_some.1 htext, ih.mp hrest, List.map_cons]
      · intro h
        cases texts with
        | nil => simp at h
        | cons text texts =>
            obtain ⟨hhead, htail⟩ := List.cons.inj h
            rw [scalarValues?_eq_some.2 hhead, ih.mpr htail]
            rfl

/-- The pieces of a text joined again. -/
theorem join_splitFields (messageLayout : MessageLayout) (fieldsText : PlainText) :
    join separator (messageLayout.splitFields fieldsText) = fieldsText := by
  unfold MessageLayout.splitFields
  split
  · exact join_splitAtMost _ _
  · exact join_splitOn _

/-- The fields a layout admits come apart as they were joined. -/
theorem splitFields_join {messageLayout : MessageLayout} (hclosed : messageLayout.IsClosed)
    {fields : List Text} (h : messageLayout.Admits fields) :
    messageLayout.splitFields (plainText (join fieldSeparator fields)) =
      fields.map plainText := by
  rw [plainText_join]
  cases h with
  | noTail htail hheader =>
      rw [MessageLayout.splitFields, htail]
      refine splitOn_join ?_ ?_
      · intro piece hpiece
        obtain ⟨text, htext, rfl⟩ := List.mem_map.mp hpiece
        exact separator_not_mem_plainText
          (separator_not_mem_of_headersMatch hclosed.closed hheader text htext)
      · intro hnil
        have hlength := hheader.length_eq
        rw [List.map_eq_nil_iff.mp hnil] at hlength
        exact hclosed.nonempty (List.length_eq_zero_iff.mp hlength)
  | @tail texts tail htail hheader _ =>
      have hlength : messageLayout.headerFields.length = (texts.map plainText).length := by
        rw [List.length_map]
        exact hheader.length_eq
      rw [MessageLayout.splitFields, htail, if_pos rfl, hlength, List.map_append, List.map_singleton]
      refine splitAtMost_join ?_ _
      intro piece hpiece
      obtain ⟨text, htext, rfl⟩ := List.mem_map.mp hpiece
      exact separator_not_mem_plainText
        (separator_not_mem_of_headersMatch hclosed.closed hheader text htext)

theorem length_of_admits {messageLayout : MessageLayout} {fields : List Text}
    (h : messageLayout.Admits fields) : fields.length = messageLayout.expectedFieldCount := by
  cases h with
  | noTail htail hheader =>
      rw [MessageLayout.expectedFieldCount, htail]
      exact hheader.length_eq.symm
  | tail htail hheader _ =>
      rw [MessageLayout.expectedFieldCount, htail, List.length_append, List.length_singleton,
        hheader.length_eq]
      rfl

/-- Field values that pass every check are fields the layout admits. -/
theorem admits_of_checks {messageLayout : MessageLayout} {fieldValues : List PlainText}
    {correlationFields : List Text}
    (hcheck : checkHeaderFields messageLayout.headerFields fieldValues [] = .ok correlationFields)
    (hcount : fieldValues.length = messageLayout.expectedFieldCount)
    (htail : ¬ (messageLayout.hasTail = true ∧
      fieldValues.getLast?.bind (fieldText? isTailField) = none)) :
    ∃ fields, fieldValues = fields.map plainText ∧ messageLayout.Admits fields := by
  obtain ⟨texts, rest, rfl, hheaders⟩ :=
    headersMatch_of_checkHeaderFields hcheck (by
      rw [hcount, MessageLayout.expectedFieldCount]
      split <;> omega)
  rw [List.length_append, List.length_map, ← hheaders.length_eq] at hcount
  by_cases hhas : messageLayout.hasTail = true
  · -- one more field than header fields: the tail
    rw [MessageLayout.expectedFieldCount, if_pos hhas] at hcount
    obtain ⟨last, rfl⟩ := List.length_eq_one_iff.mp (show rest.length = 1 by omega)
    rw [List.getLast?_concat, Option.bind_some] at htail
    cases hlast : fieldText? isTailField last with
    | none => exact absurd ⟨hhas, hlast⟩ htail
    | some tail =>
        obtain ⟨rfl, hfield⟩ := fieldText?_eq_some.1 hlast
        refine ⟨texts ++ [tail], ?_, .tail hhas hheaders hfield⟩
        rw [List.map_append, List.map_singleton]
  · rw [MessageLayout.expectedFieldCount, if_neg hhas] at hcount
    obtain rfl := List.length_eq_zero_iff.mp (show rest.length = 0 by omega)
    exact ⟨texts, List.append_nil _, .noTail (Bool.not_eq_true _ ▸ hhas) hheaders⟩

/-- **What a layout parses**: the join of fields it admits. -/
theorem parseFieldsByLayout_eq_message {letter : Char} {fieldsText : PlainText}
    {messageLayout : MessageLayout} (hclosed : messageLayout.IsClosed)
    {message : ProtocolMessage} :
    parseFieldsByLayout letter fieldsText messageLayout = some (.message message) ↔
      ∃ fields, messageLayout.Admits fields ∧
        fieldsText = plainText (join fieldSeparator fields) ∧
        messageLayout.buildMessage fields = some message := by
  constructor
  · intro h
    unfold parseFieldsByLayout at h
    dsimp only at h
    cases hcheck : checkHeaderFields messageLayout.headerFields
        (messageLayout.splitFields fieldsText) [] with
    | error => simp [hcheck] at h
    | ok correlationFields =>
        simp only [hcheck] at h
        split at h
        · simp at h
        · rename_i hcount
          rw [ne_eq, Decidable.not_not] at hcount
          split at h
          · simp at h
          · rename_i htail
            obtain ⟨fields, hvalues, hadmits⟩ := admits_of_checks hcheck hcount htail
            obtain ⟨message', hbuild, hmessage⟩ := Option.map_eq_some_iff.mp h
            cases hmessage
            rw [mapM_scalarValues?_eq_some.2 hvalues, Option.bind_some] at hbuild
            refine ⟨fields, hadmits, ?_, hbuild⟩
            rw [plainText_join, ← hvalues, join_splitFields]
  · rintro ⟨fields, hadmits, rfl, hbuild⟩
    have hsplit := splitFields_join hclosed hadmits
    have hlength := length_of_admits hadmits
    have hcheck : ∃ correlationFields, checkHeaderFields messageLayout.headerFields
        (fields.map plainText) [] = .ok correlationFields := by
      cases hadmits with
      | @noTail texts _ hheader =>
          have hloop := checkHeaderFields_of_headersMatch hheader [] []
          rwa [List.append_nil] at hloop
      | @tail texts tail _ hheader _ =>
          rw [List.map_append]
          exact checkHeaderFields_of_headersMatch hheader _ []
    obtain ⟨correlationFields, hcheck⟩ := hcheck
    have htail : ¬ (messageLayout.hasTail = true ∧
        ((fields.map plainText).getLast?.bind (fieldText? isTailField)) = none) := by
      rintro ⟨hhas, hnone⟩
      cases hadmits with
      | noTail htail => rw [htail] at hhas; exact absurd hhas (by decide)
      | tail _ _ hfield =>
          rw [List.map_append, List.map_singleton, List.getLast?_concat, Option.bind_some,
            fieldText?_plainText, if_pos hfield] at hnone
          exact absurd hnone (by simp)
    unfold parseFieldsByLayout
    dsimp only
    rw [hsplit, hcheck]
    dsimp only
    rw [if_neg (by rw [List.length_map, hlength]; simp), if_neg htail,
      mapM_scalarValues?_eq_some.2 rfl, Option.bind_some, hbuild, Option.map_some]

end HoptalkRelay
