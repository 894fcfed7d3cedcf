/-
**Passwords never reach the inbox.**

What the inbox stores of a sign-in request, and so the row, its hash and the decision about a
repeat, does not depend on the password.  Every other text is stored as it is.  The password is
taken from the received text when the row is processed; without it nothing is checked.

Main definitions:

* `HoptalkRelay.IsBeforePassword` — what a sign-in request has before its password;
* `HoptalkRelay.SameButPassword` — two frames that differ only in the password.

Main results:

* `HoptalkRelay.matchAccountRequestWithPassword_iff` — the regular expression, as a grammar;
* `HoptalkRelay.passwords_never_stored` — **the two-run statement, and what is done without the
  password**.
-/

import HoptalkRelay.InboundRecording
import HoptalkRelay.Invariants.Answers

set_option relaxedAutoImplicit false
set_option autoImplicit false

namespace HoptalkRelay

open Formats Relational Transition

/-! ### The texts with a password -/

/-- `HT`, one to three digits, ` A ` and a first token without spaces. -/
def IsBeforePassword (beforePassword : PlainText) : Prop :=
  ∃ version token, Grammar.VersionNumber version ∧ separator ∉ token ∧
    beforePassword = plainText ("HT".toList ++ version ++ " A ".toList) ++ token

section Texts

variable {text beforePassword tail : PlainText}

theorem traffic_of_beforePassword {version : Text} {token : PlainText}
    (hversion : Grammar.VersionNumber version) (tail : PlainText) :
    Grammar.Traffic (plainText ("HT".toList ++ version ++ " A ".toList) ++ token ++
        separator :: tail) version
      (.scalar 'A' :: separator :: (token ++ separator :: tail)) := by
  have htraffic := Grammar.Traffic.mk
    (.scalar 'A' :: separator :: (token ++ separator :: tail)) hversion
  simpa [separator, sp_eq, fieldSeparator] using htraffic

/-- **The match**: everything before the space behind the first token. -/
theorem matchAccountRequestWithPassword_iff :
    matchAccountRequestWithPassword text = some beforePassword ↔
      IsBeforePassword beforePassword ∧ ∃ tail, text = beforePassword ++ separator :: tail := by
  constructor
  · intro h
    unfold matchAccountRequestWithPassword at h
    split at h
    · rename_i version fields hmatch
      split at h
      · rename_i c rest hdrop
        obtain rfl := Option.some.inj h
        have htraffic := matchProtocolTraffic_iff.1 hmatch
        have hc : c = separator := by
          have hhead := List.head?_dropWhile_not (· ≠ separator) fields
          rw [hdrop] at hhead
          simpa using hhead
        subst hc
        have hfields := @List.takeWhile_append_dropWhile _ (· ≠ separator) fields
        rw [hdrop] at hfields
        refine ⟨⟨version, fields.takeWhile (· ≠ separator), ?_, fun hmem => ?_, rfl⟩, rest, ?_⟩
        · cases htraffic with
          | mk _ hversion => exact hversion
        · simpa using List.mem_takeWhile_imp hmem
        · cases htraffic with
          | mk _ _ =>
              rw [List.append_assoc, hfields]
              simp [sp_eq, fieldSeparator]
      · exact absurd h (by simp)
    · exact absurd h (by simp)
  · rintro ⟨⟨version, token, hversion, htoken, rfl⟩, tail, rfl⟩
    have hbefore : ∀ c ∈ token, decide (c ≠ separator) = true := by
      intro c hc
      refine decide_eq_true fun heq => htoken ?_
      rwa [← heq]
    have htake : (token ++ separator :: tail).takeWhile (· ≠ separator) = token := by
      rw [List.takeWhile_append_of_pos hbefore, List.takeWhile_cons_of_neg (by simp),
        List.append_nil]
    have hdrop : (token ++ separator :: tail).dropWhile (· ≠ separator) = separator :: tail := by
      rw [List.dropWhile_append_of_pos hbefore, List.dropWhile_cons_of_neg (by simp)]
    unfold matchAccountRequestWithPassword
    rw [matchProtocolTraffic_iff.2 (traffic_of_beforePassword hversion tail)]
    simp only [separator, fieldSeparator] at htake hdrop ⊢
    rw [htake, hdrop]

theorem carriesAccountRequestPassword_iff :
    carriesAccountRequestPassword text = true ↔
      ∃ beforePassword tail, IsBeforePassword beforePassword ∧
        text = beforePassword ++ separator :: tail := by
  unfold carriesAccountRequestPassword
  rw [Option.isSome_iff_exists]
  constructor
  · rintro ⟨beforePassword, h⟩
    obtain ⟨hbefore, tail, htext⟩ := matchAccountRequestWithPassword_iff.1 h
    exact ⟨beforePassword, tail, hbefore, htext⟩
  · rintro ⟨beforePassword, tail, hbefore, htext⟩
    exact ⟨beforePassword, matchAccountRequestWithPassword_iff.2 ⟨hbefore, tail, htext⟩⟩

/-! ### What is stored -/

/-- The placeholder takes the place of everything behind the first token. -/
theorem redactStoredText_of_beforePassword (h : IsBeforePassword beforePassword)
    (tail : PlainText) :
    redactStoredText (beforePassword ++ separator :: tail) =
      beforePassword ++ separator :: plainText redactedPassword := by
  unfold redactStoredText
  rw [matchAccountRequestWithPassword_iff.2 ⟨h, tail, rfl⟩]

/-- Every other text is stored as it is. -/
theorem redactStoredText_of_not_carries (h : carriesAccountRequestPassword text = false) :
    redactStoredText text = text := by
  unfold carriesAccountRequestPassword at h
  rw [Option.isSome_eq_false_iff, Option.isNone_iff_eq_none] at h
  rw [redactStoredText, h]

/-- What is stored carries a password field exactly when what was received did. -/
theorem carriesAccountRequestPassword_redactStoredText (text : PlainText) :
    carriesAccountRequestPassword (redactStoredText text) =
      carriesAccountRequestPassword text := by
  cases h : carriesAccountRequestPassword text with
  | false => rw [redactStoredText_of_not_carries h, h]
  | true =>
      obtain ⟨beforePassword, tail, hbefore, rfl⟩ := carriesAccountRequestPassword_iff.1 h
      rw [redactStoredText_of_beforePassword hbefore]
      exact carriesAccountRequestPassword_iff.2 ⟨beforePassword, _, hbefore, rfl⟩

theorem redactStoredText_idempotent (text : PlainText) :
    redactStoredText (redactStoredText text) = redactStoredText text := by
  cases h : carriesAccountRequestPassword text with
  | false => rw [redactStoredText_of_not_carries h, redactStoredText_of_not_carries h]
  | true =>
      obtain ⟨beforePassword, tail, hbefore, rfl⟩ := carriesAccountRequestPassword_iff.1 h
      rw [redactStoredText_of_beforePassword hbefore, redactStoredText_of_beforePassword hbefore]

/-- The text of a sign-in request, up to its password. -/
theorem text_of_accountRequest {username password : Text}
    (h : parseDirectMessageText text = some (.message (.accountRequest ⟨username, password⟩))) :
    IsBeforePassword (plainText ("HT1 A ".toList ++ username)) ∧
      text = plainText ("HT1 A ".toList ++ username) ++ separator :: plainText password := by
  obtain ⟨derived, rfl, hderived⟩ := parse_eq_message_iff.1 h
  cases hderived with
  | client hbody =>
      cases hbody with
      | accountRequest husername hpassword =>
          refine ⟨⟨['1'], plainText username, versionNumber_iff.2 rfl, fun hmem => ?_, ?_⟩, ?_⟩
          · obtain ⟨c, hc, heq⟩ := List.mem_map.mp hmem
            obtain rfl := CodePoint.scalar.inj heq
            have hvalid := username_iff.1 husername
            exact absurd (List.all_eq_true.mp
              (Bool.and_eq_true_iff.1 hvalid).2 _ hc) (by decide)
          · simp
          · simp [separator, sp_eq, fieldSeparator]
  | server hbody => cases hbody

/-- A message part is no sign-in request. -/
theorem not_carries_of_messagePart {part : MessagePartRequest}
    (h : parseDirectMessageText text = some (.message (.messagePartRequest part))) :
    carriesAccountRequestPassword text = false := by
  by_contra hcarries
  rw [Bool.not_eq_false] at hcarries
  obtain ⟨beforePassword, hmatch⟩ := Option.isSome_iff_exists.mp hcarries
  obtain ⟨version, rest, htraffic⟩ := traffic_of_matchAccountRequest hmatch
  obtain ⟨rest', hown⟩ := traffic_of_parse_message h
  obtain ⟨-, hbody⟩ := traffic_unique htraffic hown
  have hletter := CodePoint.scalar.inj (List.cons.inj hbody).1
  exact absurd hletter (by simp [ProtocolMessage.messageType])

end Texts

/-! ### What is recorded -/

/-- The frames are equal, or differ only in the password of a sign-in request. -/
def SameButPassword (frame frame' : ReceivedDirectMessageFrame) : Prop :=
  frame' = { frame with text := frame'.text } ∧
    (frame'.text = frame.text ∨
      ∃ beforePassword tail tail', IsBeforePassword beforePassword ∧
        frame.text = beforePassword ++ separator :: tail ∧
        frame'.text = beforePassword ++ separator :: tail')

section Recording

variable {sha256 : Text → Text} {names : ℕ → Text}

theorem SameButPassword.redactStoredText {frame frame' : ReceivedDirectMessageFrame}
    (h : SameButPassword frame frame') :
    redactStoredText frame'.text = redactStoredText frame.text := by
  rcases h.2 with heq | ⟨beforePassword, tail, tail', hbefore, htext, htext'⟩
  · rw [heq]
  · rw [htext, htext', redactStoredText_of_beforePassword hbefore,
      redactStoredText_of_beforePassword hbefore]

/-- Recording reads nothing of a text but what is stored of it. -/
theorem recordInboundFrameInTransaction_congr (state : RelayDb)
    {frame frame' : ReceivedDirectMessageFrame} (h : SameButPassword frame frame') (now : Time) :
    recordInboundFrameInTransaction sha256 names state frame' now =
      recordInboundFrameInTransaction sha256 names state frame now := by
  have hstored := h.redactStoredText
  obtain ⟨heq, -⟩ := h
  rw [heq] at hstored ⊢
  dsimp only at hstored
  have hrow : ∀ contact textSha256,
      inboundRowOfFrame names contact { frame with text := frame'.text } textSha256 =
        inboundRowOfFrame names contact frame textSha256 := by
    intro contact textSha256
    funext id
    unfold inboundRowOfFrame
    rw [hstored]
  have hcount : ∀ contactId textSha256,
      countFirmwareRepeat state.inbox contactId { frame with text := frame'.text } textSha256 now =
        countFirmwareRepeat state.inbox contactId frame textSha256 now := fun _ _ => rfl
  unfold recordInboundFrameInTransaction
  simp only [hstored, hrow, hcount]

/-- **Two runs that differ only in passwords** end in the same state and return the same. -/
theorem exec_congr_of_sameButPassword (state : RelayDb)
    {inputs inputs' : List (ReceivedDirectMessageFrame × Time)}
    (h : List.Forall₂ (fun a b => SameButPassword a.1 b.1 ∧ b.2 = a.2) inputs inputs') :
    ((inboundRecorder sha256 names state).exec state inputs').2 =
        ((inboundRecorder sha256 names state).exec state inputs).2 ∧
      ((inboundRecorder sha256 names state).exec state inputs').1.map Prod.snd =
        ((inboundRecorder sha256 names state).exec state inputs).1.map Prod.snd := by
  refine Machine.exec_congr _ (fun s a b hsame => ?_) h state
  simp only [inboundRecorder, recordInboundFrame, hsame.2,
    recordInboundFrameInTransaction_congr s hsame.1 a.2]

end Recording

/-! ### Processing without the password -/

section Processing

variable {hashing : PasswordHashing} {settings : RelaySettings} {state : RelayDb} {inboxRowId : ℕ}
  {salt : Text} {now : Time} {text storedText : PlainText} {originalText : Option PlainText}

/-- **The received text is what is processed**, with its password. -/
theorem chooseTextToProcess_redactStoredText (text : PlainText) :
    chooseTextToProcess (redactStoredText text) (some text) = (text, true) := by
  unfold chooseTextToProcess
  rw [carriesAccountRequestPassword_redactStoredText]
  cases h : carriesAccountRequestPassword text with
  | false =>
      rw [if_pos (by simp), redactStoredText_of_not_carries h]
  | true =>
      rw [if_neg (by simp)]
      dsimp only
      rw [if_pos rfl]

/-- Without the received text the password is not available. -/
theorem chooseTextToProcess_unmatched (h : carriesAccountRequestPassword storedText = true)
    (hunmatched : ∀ original, originalText = some original →
      redactStoredText original ≠ storedText) :
    chooseTextToProcess storedText originalText = (storedText, false) := by
  unfold chooseTextToProcess
  rw [if_neg (not_not.mpr h)]
  cases originalText with
  | none => rfl
  | some original => exact if_neg (hunmatched original rfl)

/-- A text with a password is of another version, malformed, or a sign-in request. -/
theorem parse_of_carries (h : carriesAccountRequestPassword text = true) :
    (∃ version nextCharacter,
        parseDirectMessageText text = some (.unsupportedVersion version nextCharacter)) ∨
      (∃ requestType kept,
        parseDirectMessageText text = some (.protocolSyntaxError requestType kept)) ∨
      ∃ request, parseDirectMessageText text = some (.message (.accountRequest request)) := by
  obtain ⟨beforePassword, tail, ⟨version, token, hversion, -, rfl⟩, rfl⟩ :=
    carriesAccountRequestPassword_iff.1 h
  have htraffic := @traffic_of_beforePassword version token hversion tail
  rw [parse_of_traffic htraffic]
  split
  · exact Or.inl ⟨_, _, rfl⟩
  · rename_i hone
    have hlayout : messageLayoutsByTypeLetter 'A' =
        some ⟨[usernameField], true, buildAccountRequest⟩ := rfl
    rw [parseVersionOneMessageBody_of_layout hlayout]
    rcases parseFieldsByLayout_cases hlayout (token ++ separator :: tail) with
      ⟨message, hmessage⟩ | ⟨kept, hkept, -⟩
    · refine Or.inr (Or.inr ?_)
      have hparse : parseDirectMessageText (plainText ("HT".toList ++ version ++ " A ".toList) ++
          token ++ separator :: tail) = some (.message message) := by
        rw [parse_of_traffic htraffic, if_neg hone, parseVersionOneMessageBody_of_layout hlayout,
          hmessage]
      obtain ⟨rest, hown⟩ := traffic_of_parse_message hparse
      obtain ⟨-, hbody⟩ := traffic_unique htraffic hown
      have hletter : message.messageType = 'A' := CodePoint.scalar.inj (List.cons.inj hbody).1
      cases message with
      | accountRequest request => exact ⟨request, hmessage⟩
      | _ => exact absurd hletter (by simp [ProtocolMessage.messageType])
    · exact Or.inr (Or.inl ⟨_, kept, hkept⟩)

/-- Serving a text with a password that is not available touches nothing, whatever the passwords
and their hashes. -/
theorem classifyAndServe_unavailable (h : carriesAccountRequestPassword text = true)
    {parsed : ParsedDirectMessage} (hparse : parseDirectMessageText text = some parsed) (db : Db)
    (row : InboundDirectMessage) (contact : Option Contact) (now : Time) :
    ∃ rowProcessing, ∀ hashing settings salt,
      classifyAndServe hashing settings db row contact parsed false salt now =
        .ok (db, rowProcessing) := by
  unfold classifyAndServe
  cases contact with
  | none => exact ⟨_, fun _ _ _ => rfl⟩
  | some contact =>
      dsimp only
      by_cases htype : row.textType = plainTextType
      · simp only [ne_eq, htype, not_true_eq_false, if_false]
        rcases parse_of_carries h with ⟨_, _, hother⟩ | ⟨_, _, hmalformed⟩ | ⟨request, hrequest⟩
        · obtain rfl := Option.some.inj (hparse.symm.trans hother)
          exact ⟨_, fun _ _ _ => rfl⟩
        · obtain rfl := Option.some.inj (hparse.symm.trans hmalformed)
          exact ⟨_, fun _ _ _ => rfl⟩
        · obtain rfl := Option.some.inj (hparse.symm.trans hrequest)
          exact ⟨_, fun _ _ _ => rfl⟩
      · simp only [ne_eq, htype, not_false_eq_true, if_true]
        exact ⟨_, fun _ _ _ => rfl⟩

/-- **Without the password nothing is created or checked**: the tables of the engine stay as they
are, and nothing depends on how passwords are hashed. -/
theorem processInTransaction_unavailable {row : InboundDirectMessage}
    (hrow : state.inbox.get? inboxRowId = some row)
    (h : carriesAccountRequestPassword row.text = true)
    (hunmatched : ∀ original, originalText = some original →
      redactStoredText original ≠ row.text) :
    (∀ hashing' salt', processInTransaction hashing' settings state inboxRowId salt' now
        originalText =
      processInTransaction hashing settings state inboxRowId salt now originalText) ∧
    ∀ state' result, processInTransaction hashing settings state inboxRowId salt now originalText =
      .ok (state', result) → state'.db = state.db := by
  have hchosen := chooseTextToProcess_unmatched h hunmatched
  obtain ⟨parsed, hparse⟩ := parse_total row.text
  obtain ⟨rowProcessing, hserve⟩ := classifyAndServe_unavailable h hparse state.db row
    (row.contactId.bind state.db.contacts.get?) now
  constructor
  · intro hashing' salt'
    unfold processInTransaction
    simp only [hrow, hchosen, hparse, hserve]
  · intro state' result hprocess
    obtain ⟨row', parsed', rowProcessing', hrow', hparse', hserve', -⟩ :=
      processInTransaction_cases hprocess
    obtain rfl := Option.some.inj (hrow.symm.trans hrow')
    rw [hchosen] at hparse' hserve'
    obtain rfl := Option.some.inj (hparse.symm.trans hparse')
    rw [hserve] at hserve'
    exact (Prod.mk.inj (Except.ok.inj hserve')).1.symm

end Processing

/-! ### The main theorem -/

/-- **Passwords never reach the inbox.**  Two sign-in requests that differ only in the password are
stored alike, and so is every text of their shape; recording frames that differ only so gives equal
states and equal decisions.  What is stored is stored as it is again; a text without the shape, a
message part among them, is stored as it came.  The received text is what is processed; without it
the password is not available, no table of the engine changes, and nothing depends on how passwords
are hashed. -/
theorem passwords_never_stored (sha256 : Text → Text) (names : ℕ → Text) :
    (∀ text text' username password password',
      parseDirectMessageText text = some (.message (.accountRequest ⟨username, password⟩)) →
      parseDirectMessageText text' = some (.message (.accountRequest ⟨username, password'⟩)) →
      redactStoredText text' = redactStoredText text ∧
        ∀ frame : ReceivedDirectMessageFrame,
          SameButPassword { frame with text } { frame with text := text' }) ∧
    (∀ beforePassword tail tail', IsBeforePassword beforePassword →
      redactStoredText (beforePassword ++ separator :: tail') =
        redactStoredText (beforePassword ++ separator :: tail)) ∧
    (∀ (state : RelayDb) (inputs inputs' : List (ReceivedDirectMessageFrame × Time)),
      List.Forall₂ (fun a b => SameButPassword a.1 b.1 ∧ b.2 = a.2) inputs inputs' →
      ((inboundRecorder sha256 names state).exec state inputs').2 =
          ((inboundRecorder sha256 names state).exec state inputs).2 ∧
        ((inboundRecorder sha256 names state).exec state inputs').1.map Prod.snd =
          ((inboundRecorder sha256 names state).exec state inputs).1.map Prod.snd) ∧
    (∀ text, redactStoredText (redactStoredText text) = redactStoredText text) ∧
    (∀ text, (¬ ∃ beforePassword tail, IsBeforePassword beforePassword ∧
        text = beforePassword ++ separator :: tail) → redactStoredText text = text) ∧
    (∀ text part, parseDirectMessageText text = some (.message (.messagePartRequest part)) →
      redactStoredText text = text) ∧
    (∀ text, chooseTextToProcess (redactStoredText text) (some text) = (text, true)) ∧
    ∀ beforePassword tail originalText, IsBeforePassword beforePassword →
      (∀ original, originalText = some original →
        redactStoredText original ≠ beforePassword ++ separator :: tail) →
      (chooseTextToProcess (beforePassword ++ separator :: tail) originalText).2 = false ∧
        ∀ hashing settings (state : RelayDb) inboxRowId salt now row,
          state.inbox.get? inboxRowId = some row →
          row.text = beforePassword ++ separator :: tail →
          (∀ hashing' salt', processInTransaction hashing' settings state inboxRowId salt' now
              originalText =
            processInTransaction hashing settings state inboxRowId salt now originalText) ∧
          ∀ state' result, processInTransaction hashing settings state inboxRowId salt now
            originalText = .ok (state', result) → state'.db = state.db := by
  refine ⟨fun text text' username password password' hparse hparse' => ?_,
    fun beforePassword tail tail' hbefore => ?_,
    fun state inputs inputs' h => exec_congr_of_sameButPassword state h,
    redactStoredText_idempotent, fun text hshape => ?_,
    fun text part hparse => redactStoredText_of_not_carries (not_carries_of_messagePart hparse),
    chooseTextToProcess_redactStoredText,
    fun beforePassword tail originalText hbefore hunmatched => ⟨?_, ?_⟩⟩
  · obtain ⟨hbefore, htext⟩ := text_of_accountRequest hparse
    obtain ⟨-, htext'⟩ := text_of_accountRequest hparse'
    refine ⟨?_, fun frame => ⟨rfl, Or.inr ⟨_, _, _, hbefore, htext, htext'⟩⟩⟩
    rw [htext, htext', redactStoredText_of_beforePassword hbefore,
      redactStoredText_of_beforePassword hbefore]
  · rw [redactStoredText_of_beforePassword hbefore, redactStoredText_of_beforePassword hbefore]
  · refine redactStoredText_of_not_carries ?_
    rw [← Bool.not_eq_true, carriesAccountRequestPassword_iff]
    exact hshape
  · have hcarries := carriesAccountRequestPassword_iff.2 ⟨_, tail, hbefore, rfl⟩
    rw [chooseTextToProcess_unmatched hcarries hunmatched]
  · intro hashing settings state inboxRowId salt now row hrow htext
    rw [← htext] at hunmatched
    have hcarries : carriesAccountRequestPassword row.text = true := by
      rw [htext]
      exact carriesAccountRequestPassword_iff.2 ⟨_, tail, hbefore, rfl⟩
    exact processInTransaction_unavailable hrow hcarries hunmatched

/-- A sign-in request with this password. -/
def sampleSignInText (password : Text) : PlainText :=
  plainText ("HT1 A bob ".toList ++ password)

/-- Two passwords leave the same row, and the stored row is not processed after a restart. -/
theorem passwords_never_stored_sampleSignInText :
    redactStoredText (sampleSignInText "hunter2-hunter2".toList) =
        redactStoredText (sampleSignInText "correct horse".toList) ∧
      (chooseTextToProcess (redactStoredText (sampleSignInText "correct horse".toList)) none).2 =
        false := by
  have hall := passwords_never_stored id fun _ => []
  refine ⟨(hall.1 _ _ "bob".toList _ _
    (by decide +kernel : parseDirectMessageText (sampleSignInText "correct horse".toList) =
      some (.message (.accountRequest ⟨"bob".toList, "correct horse".toList⟩)))
    (by decide +kernel : parseDirectMessageText (sampleSignInText "hunter2-hunter2".toList) =
      some (.message (.accountRequest ⟨"bob".toList, "hunter2-hunter2".toList⟩)))).1, ?_⟩
  have hbefore : IsBeforePassword (plainText "HT1 A bob".toList) :=
    ⟨['1'], plainText "bob".toList, versionNumber_iff.2 rfl, by decide, by decide⟩
  exact (hall.2.2.2.2.2.2.2 _ (plainText redactedPassword) none hbefore
    fun original hnone => by cases hnone).1

end HoptalkRelay
