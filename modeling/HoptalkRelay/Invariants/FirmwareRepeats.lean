/-
**Firmware-level repeats.**

A frame of a known contact repeats a row of the same contact, timestamp and stored text that was
received less than a day before.  The inbox looks for that row by the time of recording, while rows
carry the time of receipt, so the two agree unless a row's day ends while the frame waits.

Main definitions:

* `HoptalkRelay.HasRepeatKey` — a row that a frame may repeat;
* `HoptalkRelay.IsTimelyHistory`, `HoptalkRelay.HasNoCollision` — the sequences of frames;
* `HoptalkRelay.IsCountedByReceipt` — the frame is counted exactly as a repeat of the last day;
* `HoptalkRelay.IsRecordedInTime` — no day ends while the frame waits.

Main results:

* `HoptalkRelay.recordInboundFrame_outcome` — what recording a frame does;
* `HoptalkRelay.isCountedByReceipt_iff` — one frame;
* `HoptalkRelay.firmware_repeats_counted_iff` — **exactly when repeats are counted as they should**;
* `HoptalkRelay.firmware_repeat_missed_sampleDelay` — a repeat that is recorded late.
-/

import HoptalkRelay.InboundRecording
import HoptalkRelay.Protocol.RoundTrip

set_option relaxedAutoImplicit false
set_option autoImplicit false

namespace HoptalkRelay

open Relational Transition

/-! ### What recording a frame does -/

/-- The contact a frame is from. -/
def senderIdOf (contacts : Table Contact) (frame : ReceivedDirectMessageFrame) : Option ℕ :=
  (contacts.first? (hasPublicKeyPrefix frame.senderPublicKeyPrefix)).map Contact.id

/-- Recording that a contact was heard leaves its key as it is. -/
theorem senderIdOf_findSender (contacts : Table Contact) (frame : ReceivedDirectMessageFrame) :
    (findSenderAndRecordItWasHeard contacts frame.senderPublicKeyPrefix
      frame.receivedAt).2.map Contact.id = senderIdOf contacts frame := by
  let heard (contact : Contact) : Contact :=
    if hasPublicKeyPrefix frame.senderPublicKeyPrefix contact then
      { contact with lastHeardAt := some frame.receivedAt } else contact
  have hkey : ∀ contact, hasPublicKeyPrefix frame.senderPublicKeyPrefix (heard contact) =
      hasPublicKeyPrefix frame.senderPublicKeyPrefix contact := by
    intro contact
    simp only [heard]
    split <;> rfl
  have hid : ∀ contact, (heard contact).id = contact.id := by
    intro contact
    simp only [heard]
    split <;> rfl
  have hfound : (findSenderAndRecordItWasHeard contacts frame.senderPublicKeyPrefix
      frame.receivedAt).2 =
        (contacts.rows.find? (hasPublicKeyPrefix frame.senderPublicKeyPrefix)).map heard := by
    have hfind : (contacts.rows.map heard).find?
        (hasPublicKeyPrefix frame.senderPublicKeyPrefix) =
          (contacts.rows.find? (hasPublicKeyPrefix frame.senderPublicKeyPrefix ∘ heard)).map
            heard := List.find?_map
    rw [show hasPublicKeyPrefix frame.senderPublicKeyPrefix ∘ heard =
      hasPublicKeyPrefix frame.senderPublicKeyPrefix from funext hkey] at hfind
    exact hfind
  rw [hfound, senderIdOf, Table.first?, Option.map_map]
  congr 1
  funext contact
  exact hid contact

/-- A frame is given up, counted on the row it repeats, or recorded as a new row. -/
inductive RecordingOutcome (sha256 : Text → Text) (names : ℕ → Text) (state : RelayDb)
    (frame : ReceivedDirectMessageFrame) (now : Time) :
    RelayDb → Option RecordedInboundFrame → Prop
  | failed (h : calculateTextSha256 sha256 (redactStoredText frame.text) = .error .unicodeEncode) :
      RecordingOutcome sha256 names state frame now state none
  | repeated {db : Db} {contactId : ℕ} {textSha256 : Text} {row : InboundDirectMessage}
      {arrivedByFlood : Bool}
      (hsender : senderIdOf state.db.contacts frame = some contactId)
      (hhash : calculateTextSha256 sha256 (redactStoredText frame.text) = .ok textSha256)
      (hrow : row ∈ state.inbox)
      (hrepeated : isRepeatedByFrame contactId frame textSha256 now row = true) :
      RecordingOutcome sha256 names state frame now
        ⟨db, state.inbox.put (repeatedRow frame.receivedAt row)⟩
        (some ⟨row.id, some contactId, true, arrivedByFlood⟩)
  | recorded {db : Db} {contact : Option Contact} {textSha256 : Text} {arrivedByFlood : Bool}
      (hsender : senderIdOf state.db.contacts frame = contact.map Contact.id)
      (hhash : calculateTextSha256 sha256 (redactStoredText frame.text) = .ok textSha256)
      (hnew : ∀ contactId, contact.map Contact.id = some contactId →
        ∀ row ∈ state.inbox, isRepeatedByFrame contactId frame textSha256 now row = false) :
      RecordingOutcome sha256 names state frame now
        ⟨db, state.inbox.insert (inboundRowOfFrame names contact frame textSha256)
          (key_inboundRowOfFrame names contact frame textSha256)⟩
        (some ⟨state.inbox.nextKey, contact.map Contact.id, false, arrivedByFlood⟩)

section Outcome

variable {sha256 : Text → Text} {names : ℕ → Text}

theorem recordInboundFrame_outcome (state : RelayDb)
    (input : ReceivedDirectMessageFrame × Time) :
    RecordingOutcome sha256 names state input.1 input.2
      (recordInboundFrame sha256 names state input).1
      (recordInboundFrame sha256 names state input).2 := by
  obtain ⟨frame, now⟩ := input
  have hsender := senderIdOf_findSender state.db.contacts frame
  unfold recordInboundFrame recordInboundFrameInTransaction
  dsimp only
  generalize findSenderAndRecordItWasHeard state.db.contacts frame.senderPublicKeyPrefix
    frame.receivedAt = heard at hsender ⊢
  obtain ⟨contacts, contact⟩ := heard
  dsimp only at hsender ⊢
  cases hhash : calculateTextSha256 sha256 (redactStoredText frame.text) with
  | error reason =>
      cases reason
      exact .failed hhash
  | ok textSha256 =>
      simp only [bind, Except.bind, pure, Except.pure]
      cases contact with
      | none => exact .recorded hsender.symm hhash fun contactId hsome => by cases hsome
      | some contact =>
          have hcount : (some contact).bind (fun contact =>
              countFirmwareRepeat state.inbox contact.id frame textSha256 now) =
                countFirmwareRepeat state.inbox contact.id frame textSha256 now := rfl
          simp only [Option.bind] at hcount ⊢
          cases hfirst : state.inbox.first?
              (isRepeatedByFrame contact.id frame textSha256 now) with
          | none =>
              have hnone : countFirmwareRepeat state.inbox contact.id frame textSha256 now =
                  none := by rw [countFirmwareRepeat, hfirst]
              rw [hnone]
              refine .recorded hsender.symm hhash fun contactId hsome row hrow => ?_
              obtain rfl := Option.some.inj hsome
              exact Table.first?_eq_none.1 hfirst row hrow
          | some row =>
              obtain ⟨hrow, hrepeated⟩ := Table.first?_eq_some hfirst
              have hput : state.inbox.updateWhere (fun other => other.id = row.id)
                  (repeatedRow frame.receivedAt) (fun _ _ => rfl) =
                    state.inbox.put (repeatedRow frame.receivedAt row) := by
                refine Table.updateWhere_eq_put hrow (by simp) fun other hother hid => ?_
                exact Table.eq_of_key_eq hother hrow (of_decide_eq_true hid)
              have hsome : countFirmwareRepeat state.inbox contact.id frame textSha256 now =
                  some (state.inbox.put (repeatedRow frame.receivedAt row), row.id) := by
                rw [countFirmwareRepeat, hfirst]
                dsimp only
                rw [hput]
              rw [hsome]
              exact .repeated hsender.symm hhash hrow hrepeated

end Outcome

/-! ### The rows of a frame's key -/

/-- The row is of the same contact, timestamp and stored text. -/
def HasRepeatKey (contactId : ℕ) (frame : ReceivedDirectMessageFrame)
    (row : InboundDirectMessage) : Bool :=
  row.contactId = some contactId && row.senderTimestamp = frame.senderTimestamp &&
    row.text = redactStoredText frame.text

/-- The newest row a frame may repeat. -/
def newestRowOfKey (inbox : Table InboundDirectMessage) (contactId : ℕ)
    (frame : ReceivedDirectMessageFrame) : Option InboundDirectMessage :=
  (inbox.filter (HasRepeatKey contactId frame)).getLast?

/-- No stored text has the hash of the frame's text without being that text. -/
def HasNoCollision (sha256 : Text → Text) (state : RelayDb)
    (input : ReceivedDirectMessageFrame × Time) : Prop :=
  ∀ row ∈ state.inbox.rows,
    calculateTextSha256 sha256 (redactStoredText input.1.text) = .ok row.textSha256 →
      row.text = redactStoredText input.1.text

/-- **What a repeat should be**: a row with the frame's key was received less than a day before the
frame was. -/
def IsCountedByReceipt (sha256 : Text → Text) (names : ℕ → Text) (state : RelayDb)
    (input : ReceivedDirectMessageFrame × Time) : Prop :=
  ∀ recorded ∈ (recordInboundFrame sha256 names state input).2,
    ∀ contactId ∈ recorded.contactId, recorded.isFirmwareRepeat = true ↔
      ∃ row ∈ state.inbox.rows, HasRepeatKey contactId input.1 row = true ∧
        input.1.receivedAt < row.receivedAt + firmwareRepeatWindow

/-- The day of the newest row with the frame's key does not end while the frame waits for its
recording, and not at the moment of both. -/
def IsRecordedInTime (state : RelayDb) (input : ReceivedDirectMessageFrame × Time) : Prop :=
  ∀ contactId ∈ senderIdOf state.db.contacts input.1,
    ∀ row ∈ newestRowOfKey state.inbox contactId input.1,
      ¬ (input.1.receivedAt < row.receivedAt + firmwareRepeatWindow ∧
        row.receivedAt + firmwareRepeatWindow < input.2) ∧
      ¬ (row.receivedAt + firmwareRepeatWindow = input.1.receivedAt ∧
        input.2 = input.1.receivedAt)

section Decidable

variable (sha256 : Text → Text) (names : ℕ → Text) (state : RelayDb)
  (input : ReceivedDirectMessageFrame × Time)

instance : Decidable (HasNoCollision sha256 state input) := by
  unfold HasNoCollision
  infer_instance

instance : Decidable (IsCountedByReceipt sha256 names state input) := by
  unfold IsCountedByReceipt
  infer_instance

instance : Decidable (IsRecordedInTime state input) := by
  unfold IsRecordedInTime
  infer_instance

end Decidable

/-- Times do not go back, and no frame is recorded before it is received. -/
def IsTimelyHistory
    (history : List ((ReceivedDirectMessageFrame × Time) × Option RecordedInboundFrame)) : Prop :=
  (history.map fun e => e.1.1.receivedAt).Pairwise (· ≤ ·) ∧
    (history.map fun e => e.1.2).Pairwise (· ≤ ·) ∧
    ∀ e ∈ history, e.1.1.receivedAt ≤ e.1.2

instance (history : List ((ReceivedDirectMessageFrame × Time) × Option RecordedInboundFrame)) :
    Decidable (IsTimelyHistory history) := by
  unfold IsTimelyHistory
  infer_instance

/-- What recording keeps: rows carry the hash of their text and come in the order of receipt, and
were received as frames of the history. -/
structure InboxOk (sha256 : Text → Text) (inbox : Table InboundDirectMessage)
    (receipts : List Time) : Prop where
  hashed : ∀ row ∈ inbox, calculateTextSha256 sha256 row.text = .ok row.textSha256
  ordered : inbox.rows.Pairwise fun a b => a.receivedAt ≤ b.receivedAt
  receipts : ∀ row ∈ inbox, row.receivedAt ∈ receipts

section Frames

variable {sha256 : Text → Text} {names : ℕ → Text} {state state' : RelayDb}
  {input : ReceivedDirectMessageFrame × Time} {result : Option RecordedInboundFrame}
  {receipts : List Time}

/-- The rows after a frame was recorded. -/
theorem mem_insert_inboundRow {contact : Option Contact} {frame : ReceivedDirectMessageFrame}
    {textSha256 : Text} {row : InboundDirectMessage} :
    row ∈ state.inbox.insert (inboundRowOfFrame names contact frame textSha256)
        (key_inboundRowOfFrame names contact frame textSha256) ↔
      row ∈ state.inbox ∨
        row = inboundRowOfFrame names contact frame textSha256 state.inbox.nextKey :=
  Table.mem_insert

/-- A counted repeat leaves every row the frame it was. -/
theorem exists_of_mem_put_repeatedRow {receivedAt : Time} {row other : InboundDirectMessage}
    (hrow : row ∈ state.inbox) (h : other ∈ state.inbox.put (repeatedRow receivedAt row)) :
    ∃ before ∈ state.inbox, other.id = before.id ∧ other.contactId = before.contactId ∧
      other.senderTimestamp = before.senderTimestamp ∧ other.text = before.text ∧
      other.textSha256 = before.textSha256 ∧ other.receivedAt = before.receivedAt := by
  have hsame : key (repeatedRow receivedAt row) = key row := rfl
  rcases (Table.mem_put_iff hrow hsame).mp h with rfl | ⟨hold, -⟩
  · exact ⟨row, hrow, rfl, rfl, rfl, rfl, rfl, rfl⟩
  · exact ⟨other, hold, rfl, rfl, rfl, rfl, rfl, rfl⟩

/-- A frame is recorded: the frames come in the order of receipt. -/
theorem InboxOk.record (hok : InboxOk sha256 state.inbox receipts)
    (hlater : ∀ receipt ∈ receipts, receipt ≤ input.1.receivedAt)
    (h : RecordingOutcome sha256 names state input.1 input.2 state' result) :
    InboxOk sha256 state'.inbox (receipts ++ [input.1.receivedAt]) := by
  have hkept : ∀ row ∈ state.inbox, row.receivedAt ∈ receipts ++ [input.1.receivedAt] :=
    fun row hrow => List.mem_append_left _ (hok.receipts row hrow)
  cases h with
  | failed => exact ⟨hok.hashed, hok.ordered, hkept⟩
  | @repeated db contactId textSha256 row arrivedByFlood hsender hhash hrow hrepeated =>
      refine ⟨fun other hother => ?_, ?_, fun other hother => ?_⟩
      · obtain ⟨before, hbefore, -, -, -, htext, hsha, -⟩ :=
          exists_of_mem_put_repeatedRow hrow hother
        rw [htext, hsha]
        exact hok.hashed before hbefore
      · have hsame : ∀ other ∈ state.inbox.rows,
            (if decide (key other = key (repeatedRow input.1.receivedAt row)) = true then
              repeatedRow input.1.receivedAt row else other).receivedAt = other.receivedAt := by
          intro other hother
          split
          · rename_i hkey
            rw [Table.eq_of_key_eq hother hrow (of_decide_eq_true hkey)]
            rfl
          · rfl
        refine List.pairwise_map.mpr (hok.ordered.imp_of_mem fun {a b} ha hb hle => ?_)
        rwa [hsame a ha, hsame b hb]
      · obtain ⟨before, hbefore, -, -, -, -, -, hreceived⟩ :=
          exists_of_mem_put_repeatedRow hrow hother
        rw [hreceived]
        exact hkept before hbefore
  | @recorded db contact textSha256 arrivedByFlood hsender hhash hnew =>
      refine ⟨fun row hrow => ?_, ?_, fun row hrow => ?_⟩
      · rcases mem_insert_inboundRow.1 hrow with hold | rfl
        · exact hok.hashed row hold
        · exact hhash
      · refine List.pairwise_append.mpr ⟨hok.ordered, List.pairwise_singleton _ _, ?_⟩
        intro row hrow new hnew
        rw [List.mem_singleton.mp hnew]
        exact hlater _ (hok.receipts row hrow)
      · rcases mem_insert_inboundRow.1 hrow with hold | rfl
        · exact hkept row hold
        · exact List.mem_append_right _ (List.mem_singleton.mpr rfl)

/-- The search by hash finds the rows with the frame's key whose day is not over yet. -/
theorem isRepeatedByFrame_iff (hok : InboxOk sha256 state.inbox receipts)
    (hcollision : HasNoCollision sha256 state input) {textSha256 : Text}
    (hhash : calculateTextSha256 sha256 (redactStoredText input.1.text) = .ok textSha256)
    {row : InboundDirectMessage} (hrow : row ∈ state.inbox) (contactId : ℕ) :
    isRepeatedByFrame contactId input.1 textSha256 input.2 row = true ↔
      HasRepeatKey contactId input.1 row = true ∧
        input.2 ≤ row.receivedAt + firmwareRepeatWindow := by
  have htext : row.textSha256 = textSha256 ↔ row.text = redactStoredText input.1.text := by
    constructor
    · rintro rfl
      exact hcollision row hrow hhash
    · intro heq
      have hown := hok.hashed row hrow
      rw [heq, hhash] at hown
      exact (Except.ok.inj hown).symm
  simp only [isRepeatedByFrame, HasRepeatKey, Bool.and_eq_true, decide_eq_true_eq, htext,
    sub_le_iff_le_add]

/-- The newest row of a key was received last. -/
theorem receivedAt_le_newest (hok : InboxOk sha256 state.inbox receipts) {contactId : ℕ}
    {frame : ReceivedDirectMessageFrame} {newest row : InboundDirectMessage}
    (hnewest : newestRowOfKey state.inbox contactId frame = some newest)
    (hrow : row ∈ state.inbox) (hkey : HasRepeatKey contactId frame row = true) :
    row.receivedAt ≤ newest.receivedAt := by
  obtain ⟨front, hfront⟩ := List.getLast?_eq_some_iff.mp hnewest
  have hordered : (front ++ [newest]).Pairwise fun a b => a.receivedAt ≤ b.receivedAt := by
    rw [← hfront]
    exact hok.ordered.sublist List.filter_sublist
  have hmem : row ∈ front ++ [newest] := by
    rw [← hfront]
    exact Table.mem_filter.2 ⟨hrow, hkey⟩
  rcases List.mem_append.mp hmem with hearlier | hlast
  · exact (List.pairwise_append.mp hordered).2.2 row hearlier newest (List.mem_singleton.mpr rfl)
  · rw [List.mem_singleton.mp hlast]

theorem newestRowOfKey_spec {contactId : ℕ} {frame : ReceivedDirectMessageFrame}
    {newest : InboundDirectMessage}
    (hnewest : newestRowOfKey state.inbox contactId frame = some newest) :
    newest ∈ state.inbox ∧ HasRepeatKey contactId frame newest = true :=
  Table.mem_filter.1 (List.mem_of_getLast? hnewest)

/-- A bound on the time of receipt holds of some row of the key exactly when it does of the
newest. -/
theorem exists_row_iff_newest (hok : InboxOk sha256 state.inbox receipts) (contactId : ℕ)
    (frame : ReceivedDirectMessageFrame) (P : Time → Prop)
    (hmono : ∀ a b, a ≤ b → P a → P b) :
    (∃ row ∈ state.inbox, HasRepeatKey contactId frame row = true ∧ P row.receivedAt) ↔
      ∃ newest, newestRowOfKey state.inbox contactId frame = some newest ∧
        P newest.receivedAt := by
  constructor
  · rintro ⟨row, hrow, hkey, hP⟩
    cases hnewest : newestRowOfKey state.inbox contactId frame with
    | none =>
        have hempty := List.getLast?_eq_none_iff.mp hnewest
        have hmem := Table.mem_filter.2 ⟨hrow, hkey⟩
        rw [hempty] at hmem
        cases hmem
    | some newest =>
        exact ⟨newest, rfl, hmono _ _ (receivedAt_le_newest hok hnewest hrow hkey) hP⟩
  · rintro ⟨newest, hnewest, hP⟩
    obtain ⟨hmem, hkey⟩ := newestRowOfKey_spec hnewest
    exact ⟨newest, hmem, hkey, hP⟩

/-- What was decided about a frame of a known contact. -/
theorem isFirmwareRepeat_iff (hok : InboxOk sha256 state.inbox receipts)
    (hcollision : HasNoCollision sha256 state input)
    {recorded : RecordedInboundFrame}
    (h : RecordingOutcome sha256 names state input.1 input.2 state' (some recorded))
    {contactId : ℕ} (hcontact : recorded.contactId = some contactId) :
    senderIdOf state.db.contacts input.1 = some contactId ∧
      (recorded.isFirmwareRepeat = true ↔
        ∃ row ∈ state.inbox, HasRepeatKey contactId input.1 row = true ∧
          input.2 ≤ row.receivedAt + firmwareRepeatWindow) := by
  cases h with
  | repeated hsender hhash hrow hrepeated =>
      obtain rfl := Option.some.inj hcontact
      refine ⟨hsender, fun _ => ⟨_, hrow, ?_⟩, fun _ => rfl⟩
      exact (isRepeatedByFrame_iff hok hcollision hhash hrow _).mp hrepeated
  | recorded hsender hhash hnew =>
      refine ⟨hsender.trans hcontact, fun hrepeat => (by cases hrepeat), ?_⟩
      rintro ⟨row, hrow, hkey, hopen⟩
      have hfound := (isRepeatedByFrame_iff hok hcollision hhash hrow contactId).mpr ⟨hkey, hopen⟩
      rw [hnew contactId hcontact row hrow] at hfound
      cases hfound

/-- A row with the frame's key is a frame that can be recorded. -/
theorem exists_recorded_of_newest (hok : InboxOk sha256 state.inbox receipts)
    {contactId : ℕ} {newest : InboundDirectMessage}
    (hsender : senderIdOf state.db.contacts input.1 = some contactId)
    (hnewest : newestRowOfKey state.inbox contactId input.1 = some newest)
    (h : RecordingOutcome sha256 names state input.1 input.2 state' result) :
    ∃ recorded, result = some recorded ∧ recorded.contactId = some contactId := by
  obtain ⟨hmem, hkey⟩ := newestRowOfKey_spec hnewest
  rw [HasRepeatKey, Bool.and_eq_true, decide_eq_true_eq] at hkey
  cases h with
  | failed hfailed =>
      have hown := hok.hashed newest hmem
      rw [hkey.2, hfailed] at hown
      cases hown
  | repeated hown => exact ⟨_, rfl, hown.symm.trans hsender⟩
  | recorded hown => exact ⟨_, rfl, hown.symm.trans hsender⟩

/-- The two comparisons with the end of a day agree unless the day ends in between. -/
theorem le_iff_lt_iff {received recorded ends : ℤ} (h : received ≤ recorded) :
    (recorded ≤ ends ↔ received < ends) ↔
      ¬ (received < ends ∧ ends < recorded) ∧ ¬ (ends = received ∧ recorded = received) := by
  omega

/-- **One frame** is counted as it should be exactly when it is recorded in time. -/
theorem isCountedByReceipt_iff (hok : InboxOk sha256 state.inbox receipts)
    (hcollision : HasNoCollision sha256 state input)
    (htimely : input.1.receivedAt ≤ input.2) :
    IsCountedByReceipt sha256 names state input ↔ IsRecordedInTime state input := by
  have houtcome := @recordInboundFrame_outcome sha256 names state input
  have hopen := fun contactId => exists_row_iff_newest hok contactId input.1
    (fun receivedAt => input.2 ≤ receivedAt + firmwareRepeatWindow)
    fun a b hle h => h.trans (Int.add_le_add_right hle _)
  have hrecent := fun contactId => exists_row_iff_newest hok contactId input.1
    (fun receivedAt => input.1.receivedAt < receivedAt + firmwareRepeatWindow)
    fun a b hle h => h.trans_le (Int.add_le_add_right hle _)
  constructor
  · intro hcounted contactId hsender newest hnewest
    obtain ⟨recorded, hresult, hcontact⟩ :=
      exists_recorded_of_newest hok hsender hnewest houtcome
    rw [hresult] at houtcome
    obtain ⟨-, hdecided⟩ := isFirmwareRepeat_iff hok hcollision houtcome hcontact
    have hboth := (hopen contactId).symm.trans (hdecided.symm.trans
      ((hcounted recorded hresult contactId hcontact).trans (hrecent contactId)))
    rw [Option.mem_def] at hnewest
    simp only [hnewest, Option.some_inj, exists_eq_left'] at hboth
    exact (le_iff_lt_iff htimely).mp hboth
  · intro hintime recorded hresult contactId hcontact
    rw [Option.mem_def] at hresult
    rw [hresult] at houtcome
    obtain ⟨hsender, hdecided⟩ := isFirmwareRepeat_iff hok hcollision houtcome hcontact
    refine hdecided.trans ((hopen contactId).trans (Iff.trans ?_ (hrecent contactId).symm))
    refine exists_congr fun newest => and_congr_right fun hnewest => ?_
    exact (le_iff_lt_iff htimely).mpr (hintime contactId hsender newest hnewest)

/-- Two rows of one contact, timestamp and text were received at least a day apart. -/
def RepeatsFarApart (inbox : Table InboundDirectMessage) : Prop :=
  ∀ a ∈ inbox, ∀ b ∈ inbox, ∀ contactId, a.id < b.id → a.contactId = some contactId →
    b.contactId = some contactId → a.senderTimestamp = b.senderTimestamp → a.text = b.text →
      a.receivedAt + firmwareRepeatWindow ≤ b.receivedAt

/-- A frame that is counted as it should be leaves the rows far apart. -/
theorem RepeatsFarApart.record (hfar : RepeatsFarApart state.inbox)
    (hcounted : IsCountedByReceipt sha256 names state input)
    (hresult : (recordInboundFrame sha256 names state input).2 = result)
    (h : RecordingOutcome sha256 names state input.1 input.2 state' result) :
    RepeatsFarApart state'.inbox := by
  cases h with
  | failed => exact hfar
  | repeated hsender hhash hrow hrepeated =>
      intro a ha b hb contactId hlt hcontact hcontact' htimestamp htext
      obtain ⟨a', ha', hid, hown, hstamp, hsame, -, hreceived⟩ :=
        exists_of_mem_put_repeatedRow hrow ha
      obtain ⟨b', hb', hid', hown', hstamp', hsame', -, hreceived'⟩ :=
        exists_of_mem_put_repeatedRow hrow hb
      rw [hreceived, hreceived']
      exact hfar a' ha' b' hb' contactId (hid ▸ hid' ▸ hlt) (hown ▸ hcontact) (hown' ▸ hcontact')
        (hstamp ▸ hstamp' ▸ htimestamp) (hsame ▸ hsame' ▸ htext)
  | recorded hsender hhash hnew =>
      intro a ha b hb contactId hlt hcontact hcontact' htimestamp htext
      rcases mem_insert_inboundRow.1 ha with hold | rfl
      · rcases mem_insert_inboundRow.1 hb with hold' | rfl
        · exact hfar a hold b hold' contactId hlt hcontact hcontact' htimestamp htext
        · -- a recent row of the key would have been counted
          have hdecided := hcounted _ hresult contactId hcontact'
          by_contra hnear
          refine absurd (hdecided.mpr ⟨a, hold, ?_, not_le.mp hnear⟩) (by simp)
          rw [HasRepeatKey, Bool.and_eq_true, Bool.and_eq_true, decide_eq_true_eq,
            decide_eq_true_eq, decide_eq_true_eq]
          exact ⟨⟨hcontact, htimestamp⟩, htext⟩
      · rcases mem_insert_inboundRow.1 hb with hold' | rfl
        · exact absurd (state.inbox.below b hold') (not_lt.mpr hlt.le)
        · exact absurd hlt (lt_irrefl _)

/-- The rows of a contact, and the repeats they counted. -/
def countedFrames (inbox : Table InboundDirectMessage) (contactId : ℕ) : ℕ :=
  inbox.count (fun row => row.contactId = some contactId) +
    ((inbox.filter fun row => row.contactId = some contactId).map
      InboundDirectMessage.duplicateCount).sum

/-- Every frame that is recorded is counted once, for the contact it is from. -/
theorem countedFrames_record (contactId : ℕ)
    (h : RecordingOutcome sha256 names state input.1 input.2 state' result) :
    countedFrames state'.inbox contactId = countedFrames state.inbox contactId +
      if result.any (fun recorded => recorded.contactId = some contactId) then 1 else 0 := by
  simp only [countedFrames, Table.count_add_sum_filter]
  cases h with
  | failed => simp
  | @repeated db sender textSha256 row arrivedByFlood hsender hhash hrow hrepeated =>
      have hput := Table.total_put (r := repeatedRow input.1.receivedAt row)
        (fun row => if decide (row.contactId = some contactId) = true then
          1 + row.duplicateCount else 0) hrow rfl
      have hcontact : row.contactId = some sender := by
        simp only [isRepeatedByFrame, Bool.and_eq_true, decide_eq_true_eq] at hrepeated
        exact hrepeated.1.1.1
      simp only [repeatedRow, hcontact, Option.any_some] at hput ⊢
      split at hput
      · rename_i hown
        rw [if_pos hown]
        omega
      · rename_i hother
        rw [if_neg hother]
        omega
  | recorded hsender hhash hnew =>
      dsimp only
      rw [Table.total_insert]
      simp [inboundRowOfFrame]

end Frames

/-! ### Runs -/

/-- The inbox before the first frame. -/
def emptyInbox (db : Db) : RelayDb := ⟨db, .empty⟩

/-- A timely history without its last frame, which was received last. -/
theorem IsTimelyHistory.snoc
    {history : List ((ReceivedDirectMessageFrame × Time) × Option RecordedInboundFrame)}
    {e : (ReceivedDirectMessageFrame × Time) × Option RecordedInboundFrame}
    (h : IsTimelyHistory (history ++ [e])) :
    IsTimelyHistory history ∧
      (∀ receipt ∈ history.map (fun e => e.1.1.receivedAt), receipt ≤ e.1.1.receivedAt) ∧
      e.1.1.receivedAt ≤ e.1.2 := by
  obtain ⟨hreceived, hrecorded, hbefore⟩ := h
  rw [List.map_append] at hreceived hrecorded
  obtain ⟨hreceived, -, hlast⟩ := List.pairwise_append.mp hreceived
  refine ⟨⟨hreceived, (List.pairwise_append.mp hrecorded).1, fun other hother => ?_⟩,
    fun receipt hreceipt => ?_, ?_⟩
  · exact hbefore other (List.mem_append_left _ hother)
  · exact hlast receipt hreceipt _ (List.mem_singleton.mpr rfl)
  · exact hbefore e (List.mem_append_right _ (List.mem_singleton.mpr rfl))

section Runs

variable {sha256 : Text → Text} {names : ℕ → Text} {db : Db} {s : RelayDb}
  {history : List ((ReceivedDirectMessageFrame × Time) × Option RecordedInboundFrame)}

theorem inboxOk_of_run
    (run : (inboundRecorder sha256 names (emptyInbox db)).Run (emptyInbox db) history s)
    (htimely : IsTimelyHistory history) :
    InboxOk sha256 s.inbox (history.map fun e => e.1.1.receivedAt) := by
  have hall := run.invariant (P := fun before reached => IsTimelyHistory before →
    InboxOk sha256 reached.inbox (before.map fun e => e.1.1.receivedAt))
    (fun _ => ⟨by simp [emptyInbox], List.Pairwise.nil, by simp [emptyInbox]⟩) ?_
  · exact hall htimely
  intro before reached input _ _ hok hall
  obtain ⟨hbefore, hlater, -⟩ := hall.snoc
  rw [List.map_append]
  exact (hok hbefore).record hlater (recordInboundFrame_outcome reached input)

/-- **Exactly when repeats are counted as they should.**  In every run whose times do not go back
and whose texts' hashes do not collide, every frame of a known contact is counted as a repeat
exactly when a row with its contact, timestamp and stored text was received less than a day before
it, if and only if no day of such a row ends while a frame waits for its recording.  Then two such
rows are at least a day apart.  In every case the rows of a contact and the repeats they counted
are its recorded frames. -/
theorem firmware_repeats_counted_iff
    (run : (inboundRecorder sha256 names (emptyInbox db)).Run (emptyInbox db) history s)
    (htimely : IsTimelyHistory history)
    (hcollision : Machine.Run.Always (inboundRecorder sha256 names (emptyInbox db))
      (HasNoCollision sha256) (emptyInbox db) history) :
    (Machine.Run.Always (inboundRecorder sha256 names (emptyInbox db))
        (IsCountedByReceipt sha256 names) (emptyInbox db) history ↔
      Machine.Run.Always (inboundRecorder sha256 names (emptyInbox db)) IsRecordedInTime
        (emptyInbox db) history) ∧
    (Machine.Run.Always (inboundRecorder sha256 names (emptyInbox db)) IsRecordedInTime
        (emptyInbox db) history → RepeatsFarApart s.inbox) ∧
    ∀ contactId, countedFrames s.inbox contactId =
      history.countP fun e => e.2.any fun recorded => recorded.contactId = some contactId := by
  refine ⟨?_, fun hintime => ?_, fun contactId => ?_⟩
  · have hall := run.invariant (P := fun before _ => IsTimelyHistory before →
      Machine.Run.Always (inboundRecorder sha256 names (emptyInbox db))
        (HasNoCollision sha256) (emptyInbox db) before →
      (Machine.Run.Always (inboundRecorder sha256 names (emptyInbox db))
          (IsCountedByReceipt sha256 names) (emptyInbox db) before ↔
        Machine.Run.Always (inboundRecorder sha256 names (emptyInbox db)) IsRecordedInTime
          (emptyInbox db) before)) (fun _ _ => Iff.rfl) ?_
    · exact hall htimely hcollision
    intro before reached input run' _ ih htimely hcollision
    obtain ⟨hbefore, -, hwaited⟩ := htimely.snoc
    obtain ⟨hearlier, hnow⟩ := (Machine.Run.always_snoc run' _).mp hcollision
    rw [Machine.Run.always_snoc run', Machine.Run.always_snoc run', ih hbefore hearlier]
    exact and_congr_right fun _ =>
      isCountedByReceipt_iff (inboxOk_of_run run' hbefore) hnow hwaited
  · have hall := run.invariant (P := fun before reached => IsTimelyHistory before →
      Machine.Run.Always (inboundRecorder sha256 names (emptyInbox db))
        (HasNoCollision sha256) (emptyInbox db) before →
      Machine.Run.Always (inboundRecorder sha256 names (emptyInbox db)) IsRecordedInTime
        (emptyInbox db) before → RepeatsFarApart reached.inbox)
      (fun _ _ _ a ha => by cases ha) ?_
    · exact hall htimely hcollision hintime
    intro before reached input run' _ hfar htimely hcollision hintime
    obtain ⟨hbefore, -, hwaited⟩ := htimely.snoc
    obtain ⟨hearlier, hnow⟩ := (Machine.Run.always_snoc run' _).mp hcollision
    obtain ⟨hpast, hlast⟩ := (Machine.Run.always_snoc run' _).mp hintime
    have hcounted : IsCountedByReceipt sha256 names reached input :=
      (isCountedByReceipt_iff (inboxOk_of_run run' hbefore) hnow hwaited).mpr hlast
    exact (hfar hbefore hearlier hpast).record hcounted rfl
      (recordInboundFrame_outcome reached input)
  · refine run.invariant (P := fun before reached => countedFrames reached.inbox contactId =
      before.countP fun e => e.2.any fun recorded => recorded.contactId = some contactId) rfl ?_
    intro before reached input _ _ ih
    have hone := countedFrames_record contactId
      (@recordInboundFrame_outcome sha256 names reached input)
    rw [ih] at hone
    rw [List.countP_append, List.countP_singleton]
    exact hone

end Runs

/-! ### A repeat that is recorded late -/

/-- One contact. -/
def sampleContacts : Db :=
  { Db.empty with
    contacts := Table.empty.insert fun id => { id, publicKey := ['a'], addedAt := 0 } }

/-- The contact's query, received at this time. -/
def sampleFrame (receivedAt : Time) : ReceivedDirectMessageFrame where
  senderPublicKeyPrefix := ['a']
  senderTimestamp := 1790000500
  text := plainText "HT1 Q bob".toList
  textType := 0
  pathLength := 255
  signalToNoiseRatio := none
  receivedAt

/-- The query at these times of receipt and recording, hashed as it is. -/
def sampleRecordings (times : List (Time × Time)) :
    List ((ReceivedDirectMessageFrame × Time) × Option RecordedInboundFrame) × RelayDb :=
  (inboundRecorder id (fun _ => []) (emptyInbox sampleContacts)).exec (emptyInbox sampleContacts)
    (times.map fun time => (sampleFrame time.1, time.2))

theorem run_sampleRecordings (times : List (Time × Time)) :
    (inboundRecorder id (fun _ => []) (emptyInbox sampleContacts)).Run (emptyInbox sampleContacts)
      (sampleRecordings times).1 (sampleRecordings times).2 :=
  (inboundRecorder id (fun _ => []) (emptyInbox sampleContacts)).run_exec _ _

/-- The firmware repeats the query a second before its day is over, and the first attempt to record
the repeat fails; the next one comes two seconds later. -/
def sampleDelay : List (Time × Time) :=
  [(0, 0), (firmwareRepeatWindow - 1000000, firmwareRepeatWindow + 1000000)]

/-- **A repeat is recorded as a new row**, less than a day after the row it repeats. -/
theorem firmware_repeat_missed_sampleDelay :
    ¬ ∀ (sha256 : Text → Text) (names : ℕ → Text) (db : Db)
        (history : List ((ReceivedDirectMessageFrame × Time) × Option RecordedInboundFrame))
        (s : RelayDb),
        (inboundRecorder sha256 names (emptyInbox db)).Run (emptyInbox db) history s →
        IsTimelyHistory history →
        Machine.Run.Always (inboundRecorder sha256 names (emptyInbox db))
          (HasNoCollision sha256) (emptyInbox db) history →
        Machine.Run.Always (inboundRecorder sha256 names (emptyInbox db))
          (IsCountedByReceipt sha256 names) (emptyInbox db) history := by
  intro hcounted
  have hall := hcounted id (fun _ => []) sampleContacts _ _ (run_sampleRecordings sampleDelay)
    (by decide +kernel) (by decide +kernel)
  revert hall
  decide +kernel

/-- The repeat is recorded at once. -/
def sampleNoDelay : List (Time × Time) :=
  [(0, 0), (firmwareRepeatWindow - 1000000, firmwareRepeatWindow - 1000000)]

theorem firmware_repeats_counted_iff_sampleNoDelay :
    Machine.Run.Always (inboundRecorder id (fun _ => []) (emptyInbox sampleContacts))
        (IsCountedByReceipt id fun _ => []) (emptyInbox sampleContacts)
        (sampleRecordings sampleNoDelay).1 ∧
      countedFrames (sampleRecordings sampleNoDelay).2.inbox 1 = 2 := by
  have hall := firmware_repeats_counted_iff (run_sampleRecordings sampleNoDelay)
    (by decide +kernel) (by decide +kernel)
  exact ⟨hall.1.mpr (by decide +kernel), (hall.2.2 1).trans (by decide +kernel)⟩

end HoptalkRelay
