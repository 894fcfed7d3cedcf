/-
**The rows that wait to be processed.**

What the calls of the recorder and of the processor do to the keys of the rows that are still
`received`, however they end.

Main definitions:

* `HoptalkRelay.IsWaiting` — a row still `received`;
* `HoptalkRelay.RecordingEffect`, `HoptalkRelay.ProcessingEffect` — what a call does.

Main results:

* `HoptalkRelay.recordingCall_effect` — **a recording inserts at most one row, above all others**;
* `HoptalkRelay.processingCall_effect` — **a row that was processed no longer waits**;
* `HoptalkRelay.isPass_findUnprocessedInboxRowIds` — the rows found are the least that wait.
-/

import HoptalkRelay.Batching.Passes
import HoptalkRelay.ReceivingRelay
import HoptalkRelay.Invariants.FirmwareRepeats

set_option relaxedAutoImplicit false
set_option autoImplicit false

namespace HoptalkRelay

open Relational Transition Batching

/-- The row is still `received`. -/
def IsWaiting (inbox : Table InboundDirectMessage) (inboxRowId : ℕ) : Prop :=
  ∃ row ∈ inbox, row.id = inboxRowId ∧ isReceived row = true

section Inbox

variable {inbox : Table InboundDirectMessage} {inboxRowId k : ℕ}

theorem IsWaiting.lt_nextKey (h : IsWaiting inbox k) : k < inbox.nextKey := by
  obtain ⟨row, hrow, rfl, -⟩ := h
  exact inbox.below row hrow

theorem isReceivedRow_iff {row : InboundDirectMessage} :
    isReceivedRow inboxRowId row = true ↔ row.id = inboxRowId ∧ isReceived row = true := by
  simp [isReceivedRow, isReceived]

theorem any_isReceivedRow : inbox.any (isReceivedRow k) = true ↔ IsWaiting inbox k := by
  simp only [Table.any_eq_true, isReceivedRow_iff, IsWaiting]

/-- An update that keeps every row's state keeps the rows that wait. -/
theorem isWaiting_updateWhere {p : InboundDirectMessage → Bool}
    {f : InboundDirectMessage → InboundDirectMessage}
    {h : ∀ row, p row = true → key (f row) = key row}
    (hstate : ∀ row, (f row).processingState = row.processingState) :
    IsWaiting (inbox.updateWhere p f h) k ↔ IsWaiting inbox k := by
  have hkeep : ∀ row, p row = true → (f row).id = row.id := h
  constructor
  · rintro ⟨row, hrow, rfl, hreceived⟩
    obtain ⟨old, hold, rfl⟩ := Table.mem_updateWhere.1 hrow
    refine ⟨old, hold, ?_, ?_⟩
    · split
      · next hp => exact (hkeep old hp).symm
      · rfl
    · revert hreceived
      split <;> simp [isReceived, hstate]
  · rintro ⟨row, hrow, rfl, hreceived⟩
    refine ⟨_, Table.mem_updateWhere.2 ⟨row, hrow, rfl⟩, ?_, ?_⟩
    · split
      · next hp => exact hkeep row hp
      · rfl
    · split <;> simpa [isReceived, hstate] using hreceived

/-- An update of the one row that takes it out of its state. -/
theorem isWaiting_leave {f : InboundDirectMessage → InboundDirectMessage}
    {h : ∀ row, isReceivedRow inboxRowId row = true → key (f row) = key row}
    (hstate : ∀ row, (f row).processingState ≠ .received) :
    IsWaiting (inbox.updateWhere (isReceivedRow inboxRowId) f h) k ↔
      IsWaiting inbox k ∧ k ≠ inboxRowId := by
  constructor
  · rintro ⟨row, hrow, rfl, hreceived⟩
    obtain ⟨old, hold, rfl⟩ := Table.mem_updateWhere.1 hrow
    split at hreceived
    · exact absurd (of_decide_eq_true hreceived) (hstate old)
    · next hp =>
        rw [if_neg hp]
        refine ⟨⟨old, hold, rfl, hreceived⟩, fun hid => hp (isReceivedRow_iff.2 ⟨hid, hreceived⟩)⟩
  · rintro ⟨⟨row, hrow, rfl, hreceived⟩, hne⟩
    have hp : ¬ isReceivedRow inboxRowId row = true := fun hp => hne (isReceivedRow_iff.1 hp).1
    exact ⟨row, Table.mem_updateWhere.2 ⟨row, hrow, if_neg hp⟩, rfl, hreceived⟩

/-- A new row waits. -/
theorem isWaiting_insert {mk : ℕ → InboundDirectMessage} {h : ∀ i, key (mk i) = i}
    (hreceived : isReceived (mk inbox.nextKey) = true) :
    IsWaiting (inbox.insert mk h) k ↔ IsWaiting inbox k ∨ k = inbox.nextKey := by
  constructor
  · rintro ⟨row, hrow, rfl, hwaits⟩
    rcases Table.mem_insert.1 hrow with hrow | rfl
    · exact Or.inl ⟨row, hrow, rfl, hwaits⟩
    · exact Or.inr (h inbox.nextKey)
  · rintro (⟨row, hrow, rfl, hwaits⟩ | rfl)
    · exact ⟨row, Table.mem_insert.2 (Or.inl hrow), rfl, hwaits⟩
    · exact ⟨_, Table.mem_insert.2 (Or.inr rfl), h inbox.nextKey, hreceived⟩

/-- **The rows found are the least that wait.** -/
theorem isPass_findUnprocessedInboxRowIds (limit : ℕ) :
    IsPass (IsWaiting inbox) (findUnprocessedInboxRowIds inbox limit) := by
  refine IsPass.of_take ?_ (fun k => ?_) limit
  · exact List.pairwise_map.2 (inbox.pairwise_filter isReceived)
  · simp only [IsWaiting, List.mem_map, Table.mem_filter]
    constructor
    · rintro ⟨row, hrow, hid, hreceived⟩
      exact ⟨row, ⟨hrow, hreceived⟩, hid⟩
    · rintro ⟨row, ⟨hrow, hreceived⟩, hid⟩
      exact ⟨row, hrow, hid, hreceived⟩

/-- A pass that is not full holds every row that waits. -/
theorem mem_findUnprocessedInboxRowIds {limit : ℕ}
    (hfull : (findUnprocessedInboxRowIds inbox limit).length ≠ limit) (hk : IsWaiting inbox k) :
    k ∈ findUnprocessedInboxRowIds inbox limit := by
  obtain ⟨row, hrow, rfl, hreceived⟩ := hk
  unfold findUnprocessedInboxRowIds at hfull ⊢
  rw [List.length_take] at hfull
  rw [List.take_of_length_le (by omega)]
  exact List.mem_map.2 ⟨row, Table.mem_filter.2 ⟨hrow, hreceived⟩, rfl⟩

end Inbox

/-! ### Other transactions -/

theorem LeavesReceivedRows.isWaiting_iff {t u : Table InboundDirectMessage}
    (h : LeavesReceivedRows t u) (k : ℕ) : IsWaiting u k ↔ IsWaiting t k := by
  constructor
  · rintro ⟨row, hrow, rfl, hreceived⟩
    obtain ⟨old, hold, hid, hreceived⟩ := h.2.1 row hrow hreceived
    exact ⟨old, hold, hid, hreceived⟩
  · rintro ⟨old, hold, rfl, hreceived⟩
    obtain ⟨row, hrow, hid, hreceived⟩ := h.2.2 old hold hreceived
    exact ⟨row, hrow, hid, hreceived⟩

/-! ### Recording -/

/-- What a recording does to the rows that wait; nothing is known of its result when it raised. -/
inductive RecordingEffect (t u : Table InboundDirectMessage) :
    Option RecordedInboundFrame → Prop
  | kept {recordedFrame : Option RecordedInboundFrame} (hkey : u.nextKey = t.nextKey)
      (hwaiting : ∀ k, IsWaiting u k ↔ IsWaiting t k)
      (hrepeat : ∀ recorded ∈ recordedFrame, recorded.isFirmwareRepeat = true) :
      RecordingEffect t u recordedFrame
  | inserted {recordedFrame : Option RecordedInboundFrame} (hkey : u.nextKey = t.nextKey + 1)
      (hwaiting : ∀ k, IsWaiting u k ↔ IsWaiting t k ∨ k = t.nextKey)
      (hnew : ∀ recorded ∈ recordedFrame,
        recorded.isFirmwareRepeat = false ∧ recorded.inboxRowId = t.nextKey) :
      RecordingEffect t u recordedFrame

/-- A caller that learns less. -/
theorem RecordingEffect.raise {t u : Table InboundDirectMessage}
    {recordedFrame : Option RecordedInboundFrame} (h : RecordingEffect t u recordedFrame) :
    RecordingEffect t u none := by
  cases h with
  | kept hkey hwaiting hrepeat => exact .kept hkey hwaiting (by simp)
  | inserted hkey hwaiting hnew => exact .inserted hkey hwaiting (by simp)

section Recording

variable (sha256 : Text → Text) (names : ℕ → Text)

theorem recordInboundFrame_effect (state : RelayDb)
    (input : ReceivedDirectMessageFrame × Time) :
    RecordingEffect state.inbox (recordInboundFrame sha256 names state input).1.inbox
      (recordInboundFrame sha256 names state input).2 := by
  have houtcome := @recordInboundFrame_outcome sha256 names state input
  generalize recordInboundFrame sha256 names state input = outcome at houtcome ⊢
  obtain ⟨state', recordedFrame⟩ := outcome
  dsimp only at houtcome ⊢
  cases houtcome with
  | failed hhash => exact .kept rfl (fun k => Iff.rfl) (by simp)
  | repeated hsender hhash hrow hrepeated =>
      refine .kept (Table.nextKey_put ..) (fun k => ?_) (by simp)
      rename_i db contactId textSha256 row arrivedByFlood
      have hput : state.inbox.put (repeatedRow input.1.receivedAt row) =
          state.inbox.updateWhere (fun other => other.id = row.id)
            (repeatedRow input.1.receivedAt) (fun _ _ => rfl) := by
        refine (Table.updateWhere_eq_put hrow (by simp) fun other hother hid => ?_).symm
        exact Table.eq_of_key_eq hother hrow (of_decide_eq_true hid)
      dsimp only
      rw [hput]
      exact isWaiting_updateWhere fun _ => rfl
  | recorded hsender hhash hnew =>
      refine .inserted rfl (fun k => ?_) (by simp)
      dsimp only
      exact isWaiting_insert rfl

/-- **A recording inserts at most one row, above all others**, however it ends. -/
theorem recordingCall_effect (state : RelayDb) (frame : ReceivedDirectMessageFrame) (now : Time)
    (callEnd : CallEnd) :
    RecordingEffect state.inbox (recordingCall sha256 names state frame now callEnd).1.inbox
      (recordingCall sha256 names state frame now callEnd).2 := by
  cases callEnd with
  | completes => exact recordInboundFrame_effect sha256 names state (frame, now)
  | raises committed =>
      cases committed with
      | true => exact (recordInboundFrame_effect sha256 names state (frame, now)).raise
      | false => exact .kept rfl (fun k => Iff.rfl) (by simp [recordingCall])

end Recording

/-! ### Processing -/

/-- What processing a row that waits does; nothing is known when it raised. -/
structure ProcessingEffect (inboxRowId : ℕ) (t u : Table InboundDirectMessage)
    (processingResult : Option InboundProcessingResult) : Prop where
  nextKey : u.nextKey = t.nextKey
  waiting : (∀ k, IsWaiting u k ↔ IsWaiting t k ∧ k ≠ inboxRowId) ∨
    processingResult = none ∧ ∀ k, IsWaiting u k ↔ IsWaiting t k
  result : ∀ result ∈ processingResult,
    result.inboxRowId = inboxRowId ∧ result.wasAlreadyProcessed = false

section Processing

variable {hashing : PasswordHashing} {settings : RelaySettings} {state state' : RelayDb}
  {inboxRowId : ℕ} {salt : Text} {now : Time} {originalText : Option PlainText}
  {result : InboundProcessingResult}

theorem processInTransaction_effect
    (h : processInTransaction hashing settings state inboxRowId salt now originalText =
      .ok (state', result)) :
    ProcessingEffect inboxRowId state.inbox state'.inbox (some result) := by
  unfold processInTransaction at h
  split at h
  · cases h
  split at h
  · cases h
  dsimp only at h
  split at h
  · cases h
  simp only [bind, Except.bind] at h
  split at h
  · cases h
  split at h
  · cases h
  split at h
  · cases h
  next inbox hinbox =>
    obtain ⟨rfl, rfl⟩ := Prod.mk.inj (Except.ok.inj h)
    unfold markInboxRowProcessed at hinbox
    split at hinbox
    · cases hinbox
    · obtain rfl := Except.ok.inj hinbox
      refine ⟨rfl, Or.inl fun k => ?_, by simp⟩
      dsimp only
      exact isWaiting_leave fun row => by simp [processedRow]

/-- A row that waits is not reported as processed before. -/
theorem processInTransaction_ne_alreadyProcessed (hwaiting : IsWaiting state.inbox inboxRowId) :
    processInTransaction hashing settings state inboxRowId salt now originalText ≠
      .error .alreadyProcessed := by
  obtain ⟨row, hrow, hid, hreceived⟩ := hwaiting
  have hget : state.inbox.get? inboxRowId = some row := Table.get?_eq_some.2 ⟨hrow, hid⟩
  have hstate : row.processingState = .received := of_decide_eq_true hreceived
  have hlift : ∀ {α : Type} (x : Except ServiceError α),
      liftServiceError x ≠ .error .alreadyProcessed := by
    intro α x
    cases x <;> simp [liftServiceError]
  intro h
  unfold processInTransaction at h
  simp only [hget, hstate, ne_eq, not_true_eq_false, if_false] at h
  split at h
  · cases h
  simp only [bind, Except.bind] at h
  split at h
  · next _ _ hserve => exact hlift _ (hserve.trans (by cases h; rfl))
  split at h
  · next _ _ hreplies => exact hlift _ (hreplies.trans (by cases h; rfl))
  split at h
  · next _ _ hmark =>
      unfold markInboxRowProcessed at hmark
      split at hmark
      · next hnone =>
          have hmem : row ∈ state.inbox.filter (isReceivedRow inboxRowId) :=
            Table.mem_filter.2 ⟨hrow, isReceivedRow_iff.2 ⟨hid, hreceived⟩⟩
          rw [hnone] at hmem
          cases hmem
      · cases hmark
  · cases h

theorem failingCall_effect (state : RelayDb) (inboxRowId : ℕ) (now : Time) (markEnd : CallEnd) :
    ProcessingEffect inboxRowId state.inbox (failingCall state inboxRowId now markEnd).1.inbox
      (failingCall state inboxRowId now markEnd).2 := by
  have hmark : ∀ k, IsWaiting (markInboxRowFailed state.inbox inboxRowId now) k ↔
      IsWaiting state.inbox k ∧ k ≠ inboxRowId :=
    fun k => isWaiting_leave fun row => by simp [failedRow]
  cases markEnd with
  | completes => exact ⟨rfl, Or.inl hmark, by simp [failingCall]⟩
  | raises committed =>
      cases committed with
      | true => exact ⟨rfl, Or.inl hmark, by simp [failingCall]⟩
      | false => exact ⟨rfl, Or.inr ⟨rfl, fun k => Iff.rfl⟩, by simp [failingCall]⟩

/-- **A row that was processed no longer waits**, however the call ends; a call that raised may
have left it. -/
theorem processingCall_effect (hashing : PasswordHashing) (settings : RelaySettings)
    (state : RelayDb) (inboxRowId : ℕ) (salt : Text) (now : Time)
    (originalText : Option PlainText) (transactionEnd markEnd : CallEnd)
    (hwaiting : IsWaiting state.inbox inboxRowId) :
    ProcessingEffect inboxRowId state.inbox
      (processingCall hashing settings state inboxRowId salt now originalText transactionEnd
        markEnd).1.inbox
      (processingCall hashing settings state inboxRowId salt now originalText transactionEnd
        markEnd).2 := by
  unfold processingCall
  split
  · next hok => exact processInTransaction_effect hok
  · next hdone => exact absurd hdone (processInTransaction_ne_alreadyProcessed hwaiting)
  · next state' result hok =>
      -- the transaction committed, so there is nothing left to mark
      have heffect := processInTransaction_effect hok
      have hfail := failingCall_effect state' inboxRowId now markEnd
      have hleft : ∀ k, IsWaiting state'.inbox k ↔ IsWaiting state.inbox k ∧ k ≠ inboxRowId :=
        heffect.waiting.resolve_right fun h => by cases h.1
      refine ⟨hfail.nextKey.trans heffect.nextKey, Or.inl fun k => ?_, hfail.result⟩
      rcases hfail.waiting with hiff | ⟨-, hiff⟩
      · rw [hiff, hleft, and_assoc, and_self]
      · rw [hiff, hleft]
  · exact failingCall_effect state inboxRowId now markEnd

end Processing

end HoptalkRelay
