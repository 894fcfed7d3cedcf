/-
**Every message of the relay fits into one direct message.**

The limit of 150 bytes is checked on the finished text alone.  Its fields have limits of their
own, checked when they are read or stored; here they are added up, and a message of the relay whose
fields pass their checks is never too long.  The longest one is a delivery part with two names and
ids of full length: it has exactly 150 bytes.

Main definitions:

* `HoptalkRelay.Fits` — no NUL, and at most so many bytes;
* `HoptalkRelay.ProtocolMessage.IsServerMessage` — the messages the relay sends.

Main results:

* `HoptalkRelay.fits_messageText` — a text from the limits of its fields;
* `HoptalkRelay.isSendable_of_isFormattable` — **every message of the relay fits**;
* `HoptalkRelay.formatProtocolMessage_of_isFormattable` — so formatting it never fails.
-/

import HoptalkRelay.Protocol.RoundTrip

set_option relaxedAutoImplicit false
set_option autoImplicit false

namespace HoptalkRelay

open Formats

/-! ### Limits -/

/-- No NUL, and at most so many bytes. -/
structure Fits (maximumBytes : ℕ) (text : Text) : Prop where
  noNul : '\x00' ∉ text
  bytes : countUtf8Bytes text ≤ maximumBytes

/-- The characters of one byte that are no NUL. -/
def IsPlainAscii (c : Char) : Prop := 0 < c.toNat ∧ c.toNat < 128

instance (c : Char) : Decidable (IsPlainAscii c) :=
  inferInstanceAs (Decidable (0 < c.toNat ∧ c.toNat < 128))

theorem IsPlainAscii.utf8Size {c : Char} (h : IsPlainAscii c) : c.utf8Size = 1 := by
  rw [Char.utf8Size_eq_one_iff]
  have hlt : c.val.toNat < 128 := h.2
  exact UInt32.le_iff_toNat_le.mpr (by simpa using Nat.le_of_lt_succ hlt)

theorem IsPlainAscii.ne_nul {c : Char} (h : IsPlainAscii c) : '\x00' ≠ c := by
  rintro rfl
  exact absurd h.1 (by decide)

namespace Fits

variable {m n : ℕ} {text other : Text}

theorem mono (h : Fits m text) (hle : m ≤ n) : Fits n text := ⟨h.noNul, h.bytes.trans hle⟩

theorem nil : Fits 0 [] := ⟨by simp, by simp [countUtf8Bytes]⟩

theorem append (h : Fits m text) (h' : Fits n other) : Fits (m + n) (text ++ other) := by
  constructor
  · rw [List.mem_append]
    rintro (hmem | hmem)
    · exact h.noNul hmem
    · exact h'.noNul hmem
  · rw [countUtf8Bytes_append]
    exact Nat.add_le_add h.bytes h'.bytes

theorem cons {c : Char} (hc : IsPlainAscii c) (h : Fits n text) : Fits (n + 1) (c :: text) := by
  constructor
  · rw [List.mem_cons]
    rintro (heq | hmem)
    · exact hc.ne_nul heq
    · exact h.noNul hmem
  · have hbytes := h.bytes
    have hsize := hc.utf8Size
    simp only [countUtf8Bytes, List.map_cons, List.sum_cons] at hbytes ⊢
    omega

/-- A text of plain ASCII has as many bytes as characters. -/
theorem of_ascii (hascii : ∀ c ∈ text, IsPlainAscii c) (hlength : text.length ≤ n) :
    Fits n text := by
  induction text generalizing n with
  | nil => exact nil.mono (Nat.zero_le n)
  | cons c text ih =>
      obtain ⟨hc, hrest⟩ := List.forall_mem_cons.mp hascii
      rw [List.length_cons] at hlength
      cases n with
      | zero => omega
      | succ n => exact cons hc (ih hrest (by omega))

theorem of_repetition {P : Char → Prop} {lo : ℕ} (h : Repetition P lo n text)
    (hP : ∀ c, P c → IsPlainAscii c) : Fits n text := by
  obtain ⟨-, hlength, hall⟩ := repetition_iff.1 h
  exact of_ascii (fun c hc => hP c (hall c hc)) hlength

end Fits

/-! ### The limits of the fields -/

theorem isPlainAscii_digit {c : Char} (h : Grammar.Digit c) : IsPlainAscii c := by
  obtain ⟨hlo, hhi⟩ := h
  unfold IsPlainAscii
  omega

theorem isPlainAscii_upper {c : Char} (h : Grammar.UpperCaseLetter c) : IsPlainAscii c := by
  obtain ⟨hlo, hhi⟩ := h
  unfold IsPlainAscii
  omega

theorem isPlainAscii_lower {c : Char} (h : Grammar.LowerCaseLetter c) : IsPlainAscii c := by
  obtain ⟨hlo, hhi⟩ := h
  unfold IsPlainAscii
  omega

theorem fits_username {username : Text} (h : isValidUsername username = true) :
    Fits 16 username := by
  refine Fits.of_repetition (username_iff.2 h) fun c hc => ?_
  rcases hc with hc | hc | hc
  · exact isPlainAscii_upper hc
  · exact isPlainAscii_lower hc
  · exact isPlainAscii_digit hc

theorem fits_refreshTarget {target : Text} (h : isRefreshTargetField target = true) :
    Fits 16 target := by
  cases refreshTarget_iff.2 h with
  | username h => exact fits_username (username_iff.1 h)
  | everyConversation => exact (Fits.cons (by decide) Fits.nil).mono (by decide)

theorem fits_number {n : ℕ} {field : Text} (h : Grammar.Number n field) : Fits (n + 1) field := by
  cases h with
  | mk hfirst hrest =>
      refine (Fits.of_repetition hrest fun c hc => isPlainAscii_digit hc).cons ?_
      obtain ⟨hlo, hhi⟩ := hfirst
      unfold IsPlainAscii
      omega

theorem fits_messageId {messageId : ℕ} (h : IsMessageId messageId) :
    Fits 16 (decimal messageId) :=
  fits_number (messageId_decimal h)

theorem fits_part {partNumber partCount : ℕ}
    (h : isValidPartNumbering partNumber partCount = true) :
    Fits 5 (decimal partNumber ++ '/' :: decimal partCount) := by
  obtain ⟨hnumber, hcount⟩ := part_decimal h
  exact (fits_number hnumber).append ((fits_number hcount).cons (by decide))

theorem fits_receivedSet {receivedSet : Text} (h : isReceivedSetField receivedSet = true) :
    Fits 10 receivedSet := by
  refine Fits.of_repetition (receivedSet_iff.2 h) fun c hc => ?_
  rcases hc with rfl | rfl <;> decide

theorem fits_messageCount {n : ℕ} (h : n ≤ refreshReplyMaximumMessageCount) :
    Fits 4 (decimal n) := by
  have hcount := messageCount_decimal h
  generalize decimal n = field at hcount
  cases hcount with
  | zero => exact (Fits.cons (by decide) Fits.nil).mono (by decide)
  | positive hnumber => exact fits_number hnumber

theorem fits_level (level : ReceiptLevel) : Fits 1 (convertReceiptLevelToField level) := by
  cases level <;> exact Fits.cons (by decide) Fits.nil

theorem fits_errorCode {errorCode : Text} (h : isErrorCodeField errorCode = true) :
    Fits 16 errorCode := by
  refine Fits.of_repetition (errorCode_iff.2 h) fun c hc => ?_
  rcases hc with hc | rfl
  · exact isPlainAscii_upper hc
  · decide

theorem fits_requestType {requestType : Text} (h : isRequestTypeField requestType = true) :
    Fits 1 requestType := by
  cases requestType_iff.2 h with
  | letter hupper => exact Fits.cons (isPlainAscii_upper hupper) Fits.nil
  | unknown => exact Fits.cons (by decide) Fits.nil

theorem fits_errorReference {reference : Text} (h : isErrorReferenceField reference = true) :
    Fits 33 reference := by
  cases errorReference_iff.2 h with
  | message husername hid =>
      exact (fits_username (username_iff.1 husername)).append
        ((fits_number hid).cons (by decide))
  | refreshTarget h => exact (fits_refreshTarget (refreshTarget_iff.1 h)).mono (by decide)
  | versionNumber h =>
      exact (Fits.of_repetition h fun c hc => isPlainAscii_digit hc).mono (by decide)

theorem fits_partText {partText : Text} (h : isValidPartText partText = true) :
    Fits 104 partText := by
  simp only [isValidPartText, Bool.and_eq_true, decide_eq_true_eq, List.all_eq_true] at h
  obtain ⟨⟨hall, -⟩, hbytes⟩ := h
  exact ⟨fun hmem => absurd (hall _ hmem) (by decide), hbytes⟩

/-! ### The limit of a text -/

theorem fits_join {piece : Text} {pieces : List Text} {bound : ℕ} {bounds : List ℕ}
    (hpiece : Fits bound piece) (hpieces : List.Forall₂ Fits bounds pieces) :
    Fits (bound + (bounds.map (· + 1)).sum) (join Grammar.sp (piece :: pieces)) := by
  induction hpieces generalizing piece bound with
  | nil =>
      rw [join_singleton]
      exact hpiece
  | @cons next nextPiece bounds pieces hnext _ ih =>
      rw [join_cons_cons]
      refine (hpiece.append ((ih hnext).cons (by decide))).mono ?_
      rw [List.map_cons, List.sum_cons]
      omega

theorem isPlainAscii_messageType (message : ProtocolMessage) :
    IsPlainAscii message.messageType := by
  unfold IsPlainAscii
  cases message <;> simp [ProtocolMessage.messageType]

/-- The limit of a text: six characters before its fields, and one between two of them. -/
theorem fits_messageText {message : ProtocolMessage} {field : Text} {fields : List Text}
    {bound : ℕ} {bounds : List ℕ} (heq : message.fields = field :: fields) (hfield : Fits bound field)
    (hfields : List.Forall₂ Fits bounds fields)
    (hle : 6 + bound + (bounds.map (· + 1)).sum ≤ directMessageMaximumBytes) :
    IsSendable (messageText message) := by
  have hbody : Fits (bound + (bounds.map (· + 1)).sum + 6) (messageText message) := by
    rw [messageText, bodyText, heq]
    exact ((((((fits_join hfield hfields).cons (by decide)).cons
      (isPlainAscii_messageType message)).cons (by decide)).cons
      (by decide)).cons (by decide)).cons (by decide)
  exact ⟨hbody.noNul, hbody.bytes.trans (by omega)⟩

/-! ### The messages of the relay -/

/-- A message the relay sends: it has a lower-case letter. -/
def ProtocolMessage.IsServerMessage (message : ProtocolMessage) : Prop :=
  message.messageType ∈ ['a', 'q', 'k', 'm', 'r', 's', 'f', 'e']

theorem isServerMessage_toProtocolMessage (reply : ServerMessage) :
    reply.toProtocolMessage.IsServerMessage := by
  cases reply <;>
    simp [ServerMessage.toProtocolMessage, ProtocolMessage.IsServerMessage,
      ProtocolMessage.messageType]

theorem messageType_shown (message : ProtocolMessage) :
    message.shown.messageType = message.messageType := by
  cases message <;> rfl

/-- **Every message of the relay whose fields pass their checks fits.** -/
theorem isSendable_of_isFormattable {normalizePassword : Text → Text} {message : ProtocolMessage}
    (hserver : message.IsServerMessage) (h : IsFormattable normalizePassword message) :
    IsSendable (messageText message.shown) := by
  cases message with
  | accountReply username =>
      exact fits_messageText rfl (fits_username h) .nil (by decide)
  | queryReply username userExists =>
      have hexistence : Fits 1 (if userExists then ['1'] else ['0']) := by
        cases userExists <;> exact Fits.cons (by decide) Fits.nil
      exact fits_messageText rfl (fits_username h) (.cons hexistence .nil) (by decide)
  | sendStatusReply recipientUsername messageId receivedSet =>
      exact fits_messageText rfl (fits_username h.1)
        (.cons (fits_messageId h.2.1) (.cons (fits_receivedSet h.2.2) .nil)) (by decide)
  | deliveryPart senderUsername messageId partNumber partCount partText =>
      exact fits_messageText rfl (fits_username h.1)
        (.cons (fits_messageId h.2.1)
          (.cons (fits_part h.2.2.1) (.cons (fits_partText h.2.2.2) .nil))) (by decide)
  | readReply senderUsername messageId =>
      exact fits_messageText rfl (fits_username h.1)
        (.cons (fits_messageId h.2) .nil) (by decide)
  | receiptPush recipientUsername messageId receiptLevel =>
      exact fits_messageText rfl (fits_username h.1)
        (.cons (fits_messageId h.2) (.cons (fits_level receiptLevel) .nil)) (by decide)
  | refreshReply refreshTarget messageCount =>
      have hclamped := min_le_right messageCount (refreshReplyMaximumMessageCount : ℤ)
      have hcount : (min messageCount refreshReplyMaximumMessageCount).toNat ≤
          refreshReplyMaximumMessageCount := by omega
      exact fits_messageText rfl (fits_refreshTarget h.2)
        (.cons (fits_messageCount hcount) .nil) (by decide)
  | errorReply errorCode requestType errorReference =>
      obtain ⟨hcode, htype, hreference⟩ := h
      cases errorReference with
      | none =>
          exact fits_messageText rfl (fits_errorCode hcode)
            (.cons (fits_requestType htype) .nil) (by decide)
      | some reference =>
          exact fits_messageText rfl (fits_errorCode hcode)
            (.cons (fits_requestType htype)
              (.cons (fits_errorReference (hreference reference rfl)) .nil)) (by decide)
  | _ =>
      exact absurd hserver (by simp [ProtocolMessage.IsServerMessage, ProtocolMessage.messageType])

/-- A sendable text of a message may go to the node. -/
theorem ensureDirectMessageTextIsSendable_messageText {message : ProtocolMessage}
    (h : IsSendable (messageText message)) :
    ensureDirectMessageTextIsSendable (messageText message) = .ok () := by
  have hprefix : protocolPrefix.isPrefixOf (messageText message) = true :=
    List.isPrefixOf_iff_prefix.mpr ⟨bodyText message.messageType message.fields, rfl⟩
  unfold ensureDirectMessageTextIsSendable
  rw [if_neg (not_not.mpr hprefix), if_neg fun hmem => h.noNul (List.contains_iff_mem.mp hmem),
    if_neg (Nat.not_lt.mpr h.bytes)]

/-- **Formatting a message of the relay never fails**, and gives at most 150 bytes. -/
theorem formatProtocolMessage_of_isFormattable {normalizePassword : Text → Text}
    {message : ProtocolMessage} (hserver : message.IsServerMessage)
    (h : IsFormattable normalizePassword message) :
    formatProtocolMessage normalizePassword message = .ok (messageText message.shown) ∧
      countUtf8Bytes (messageText message.shown) ≤ directMessageMaximumBytes :=
  have hsendable := isSendable_of_isFormattable hserver h
  ⟨formatProtocolMessage_eq_ok.2 ⟨h, rfl, hsendable⟩, hsendable.bytes⟩

end HoptalkRelay
