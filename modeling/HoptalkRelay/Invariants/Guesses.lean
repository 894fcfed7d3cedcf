/-
**Wrong passwords of a device.**

The counter of wrong passwords and its window belong to the device and are shared by all accounts
it tries.  A right password for an existing account clears them, so a device with an account of its
own can go on guessing the password of another one as fast as it likes.  A new account clears
nothing, and without right passwords the throttle holds: fewer than two limits in any fifteen
minutes, and one limit in the fifteen minutes after a first wrong password.

Main definitions:

* `HoptalkRelay.deviceFailures` — the counter of a device;
* `HoptalkRelay.answersWrongPassword`, `HoptalkRelay.sendsRightPassword` — wrong and right
  passwords for some of the accounts;
* `HoptalkRelay.IsGuessing`, `HoptalkRelay.guessesInWindow` — a device that tries an account, and
  its wrong passwords within 15 minutes of the first one.

Main results:

* `HoptalkRelay.attempt_accountRequest` — an `A` request is an attempt of the throttle;
* `HoptalkRelay.wrong_passwords_limited` — **the throttle holds without right passwords**.
-/

import HoptalkRelay.Throttling.Window
import HoptalkRelay.Transactions.Steps

set_option relaxedAutoImplicit false
set_option autoImplicit false

namespace HoptalkRelay

open Relational Transition Throttling

/-! ### The counter of a device -/

/-- The counter in a contact's row. -/
def failureCount (c : Contact) : FailureCount Time :=
  ⟨c.failedSignInCount, c.failedSignInWindowStartedAt⟩

/-- The counter of a device; one that does not exist counts nothing. -/
def deviceFailures (db : Db) (deviceId : ℕ) : FailureCount Time :=
  ((db.contacts.get? deviceId).map failureCount).getD .cleared

theorem failureCount_windowCheckedContact (c : Contact) (now : Time) :
    failureCount (windowCheckedContact c now) =
      (failureCount c).checked signInFailureWindow now := by
  unfold windowCheckedContact FailureCount.checked
  rw [show (failureCount c).isOver signInFailureWindow now = isFailureWindowOver c now from rfl]
  split <;> rfl

section Requests

variable {db db' : Db} {deviceId : ℕ}

theorem deviceFailures_of_get? {c : Contact} (hc : db.contacts.get? deviceId = some c) :
    deviceFailures db deviceId = failureCount c := by
  simp [deviceFailures, hc]

theorem deviceFailures_putContact {c c' : Contact} (hc : db.contacts.get? deviceId = some c)
    (hid : c'.id = c.id) : deviceFailures (db.putContact c') deviceId = failureCount c' := by
  refine deviceFailures_of_get? ?_
  have hkey : key c' = deviceId := by
    rw [key_contact, hid]
    exact Table.key_of_get? hc
  rw [← hkey]
  exact Table.get?_key (Table.mem_put_self (Table.mem_of_get? hc) hid)

/-- Moving a device to a user leaves the counters. -/
theorem deviceFailures_setDeviceUser (device : Contact) (userId : ℕ) (now : Time) :
    deviceFailures (setDeviceUser db device userId now) deviceId = deviceFailures db deviceId := by
  have hrow : ((setDeviceUser db device userId now).contacts.get? deviceId).map failureCount =
      (db.contacts.get? deviceId).map failureCount := by
    unfold setDeviceUser
    rw [Table.get?_updateWhere, Option.map_map]
    refine Option.map_congr fun c _ => ?_
    rw [Function.comp_apply]
    split <;> rfl
  rw [deviceFailures, deviceFailures, hrow]

theorem deviceFailures_linkDevice {device : Contact} {user : User} {now : Time} {summary : Text}
    (h : linkDevice db device user now = .ok (db', summary)) :
    deviceFailures db' deviceId = deviceFailures db deviceId := by
  unfold linkDevice at h
  split at h
  · obtain ⟨rfl, -⟩ := Prod.mk.injEq .. ▸ Except.ok.inj h
    rfl
  split at h
  · obtain ⟨rfl, -⟩ := Prod.mk.injEq .. ▸ Except.ok.inj h
    exact deviceFailures_setDeviceUser device user.id now
  split at h
  · simp at h
  · obtain ⟨rfl, -⟩ := Prod.mk.injEq .. ▸ Except.ok.inj h
    rw [deviceFailures, contacts_relinkDevice]
    exact deviceFailures_setDeviceUser device user.id now

end Requests

/-! ### Passwords for some of the accounts -/

/-- The request was answered `WRONG_PASSWORD`, for one of these accounts. -/
def answersWrongPassword (accounts : Text → Bool) (entry : Input × Outcome) : Bool :=
  match entry.1.event, entry.2 with
  | .account _ request _ _, .answered reply =>
      accounts (normalizeUsernameForLookup request.username) &&
        reply = buildRequestErrorReply .wrongPassword (.account request)
  | _, _ => false

/-- The request has the right password of an existing one of these accounts. -/
def sendsRightPassword (hashing : PasswordHashing) (accounts : Text → Bool) (db : Db)
    (input : Input) : Bool :=
  match input.event with
  | .account _ request _ _ =>
      accounts (normalizeUsernameForLookup request.username) &&
        (db.userByLookup (normalizeUsernameForLookup request.username)).any fun user =>
          hashing.checkPassword (hashing.normalizePassword request.password) user.passwordHash
  | _ => false

/-- The request is answered as a sign-in to an existing account. -/
def signsIn (hashing : PasswordHashing) (db : Db) (input : Input) : Bool :=
  match input.event, (step hashing db input).2 with
  | .account _ request _ _, .answered (.accountReply _) =>
      (db.userByLookup (normalizeUsernameForLookup request.username)).isSome
  | _, _ => false

def isAccountRequestOf (deviceId : ℕ) (input : Input) : Bool :=
  match input.event with
  | .account requester _ _ _ => requester = deviceId
  | _ => false

theorem isAccountRequestOf_iff {deviceId : ℕ} {input : Input} :
    isAccountRequestOf deviceId input = true ↔
      ∃ request salt now, input.event = .account deviceId request salt now := by
  unfold isAccountRequestOf
  split
  · next requester request salt now hevent =>
      constructor
      · intro h
        obtain rfl : requester = deviceId := by simpa using h
        exact ⟨request, salt, now, hevent⟩
      · rintro ⟨request', salt', now', hevent'⟩
        rw [hevent] at hevent'
        simpa using (Event.account.inj hevent').1
  · next hother =>
      refine iff_of_false (by simp) ?_
      rintro ⟨request, salt, now, hevent⟩
      exact hother _ _ _ _ hevent

section Attempt

variable {hashing : PasswordHashing} {db : Db} {input : Input} {deviceId : ℕ}

/-- An answer to an `A` request, as an attempt. -/
theorem AccountAnswer.attempt {request : AccountRequest} {now : Time} {db' : Db}
    {reply : ServerMessage} (h : AccountAnswer hashing db deviceId request now db' reply) :
    ∃ ending, Attempt signInFailuresBeforeRateLimit signInFailureWindow
        (deviceFailures db deviceId) now (deviceFailures db' deviceId) ending ∧
      (ending = .succeeded →
        (db.userByLookup (normalizeUsernameForLookup request.username)).any (fun user =>
          hashing.checkPassword (hashing.normalizePassword request.password)
            user.passwordHash) = true ∧ ∃ username, reply = .accountReply username) ∧
      (ending ≠ .succeeded → ending =
        if reply = buildRequestErrorReply .wrongPassword (.account request) then .counted
        else .refused) := by
  cases h with
  | passwordInvalid => exact ⟨.refused, .refused, by simp, fun _ => rfl⟩
  | created _ _ _ hlink =>
      rw [deviceFailures_linkDevice hlink]
      exact ⟨.refused, .refused, by simp, fun _ => rfl⟩
  | @rateLimited device _ hdevice _ hcount =>
      rw [deviceFailures_putContact hdevice (id_windowCheckedContact device now),
        windowCheckedContact_of_rateLimited hcount, ← deviceFailures_of_get? hdevice]
      exact ⟨.refused, .refused, by simp, fun _ => by simp [buildRequestErrorReply]⟩
  | @wrongPassword device _ hdevice _ hcount =>
      refine ⟨.counted, ?_, by simp, fun _ => by simp⟩
      have hid : (failedContact (windowCheckedContact device now) now).id = device.id :=
        id_windowCheckedContact device now
      rw [deviceFailures_putContact hdevice hid, deviceFailures_of_get? hdevice,
        show failureCount (failedContact (windowCheckedContact device now) now) =
          (failureCount (windowCheckedContact device now)).failed now from rfl,
        failureCount_windowCheckedContact]
      refine .counted ?_
      rw [← failureCount_windowCheckedContact]
      exact hcount
  | @signedIn device user _ _ hdevice huser _ hpassword hlink =>
      refine ⟨.succeeded, ?_, fun _ => ⟨by simp [huser, hpassword], _, rfl⟩,
        fun h => absurd rfl h⟩
      have hid : (clearedContact (windowCheckedContact device now)).id = device.id :=
        id_windowCheckedContact device now
      rw [deviceFailures_linkDevice hlink, deviceFailures_putContact hdevice hid,
        show failureCount (clearedContact (windowCheckedContact device now)) = .cleared from rfl]
      exact .succeeded

/-- **An `A` request is an attempt of the throttle**: it counts exactly when it is answered
`WRONG_PASSWORD`, and succeeds only with the right password of an existing account, as a
sign-in. -/
theorem attempt_accountRequest {request : AccountRequest} {salt : Text} {now : Time}
    (hevent : input.event = .account deviceId request salt now) :
    ∃ ending, Attempt signInFailuresBeforeRateLimit signInFailureWindow
        (deviceFailures db deviceId) now (deviceFailures (step hashing db input).1 deviceId) ending ∧
      (ending = .succeeded → sendsRightPassword hashing (fun _ => true) db input = true ∧
        signsIn hashing db input = true) ∧
      (ending ≠ .succeeded → ending =
        if answersWrongPassword (fun _ => true) (input, (step hashing db input).2) then .counted
        else .refused) := by
  simp only [answersWrongPassword, sendsRightPassword, signsIn, hevent, step]
  cases hcommit : registerOrSignIn hashing db deviceId request salt now with
  | error serviceError => exact ⟨.refused, .refused, by simp, fun _ => rfl⟩
  | ok committed =>
      obtain ⟨ending, hattempt, hsucceeded, hending⟩ := (registerOrSignIn_ok hcommit).attempt
      refine ⟨ending, hattempt, fun h => ?_, by simpa [commit] using hending⟩
      obtain ⟨hright, username, hreply⟩ := hsucceeded h
      obtain ⟨user, huser, -⟩ := (Option.any_eq_true _ _).mp hright
      exact ⟨by simpa using hright, by simp [commit, hreply, huser]⟩

/-! ### The requests of a run -/

/-- The counter of a device never passes five, whatever it sends. -/
theorem isSound_of_run {history : List (Input × Outcome)} {db' : Db}
    (run : (engine hashing).Run db history db') (hnone : deviceFailures db deviceId = .cleared)
    (hrequests : ∀ entry ∈ history, isAccountRequestOf deviceId entry.1 = true) :
    (deviceFailures db' deviceId).IsSound signInFailuresBeforeRateLimit := by
  refine run.invariant (P := fun _ db =>
    (deviceFailures db deviceId).IsSound signInFailuresBeforeRateLimit) (hnone ▸ .cleared _) ?_
  intro before db input _ hbefore hsound
  have hmem : (input, ((engine hashing).step db input).2) ∈ history := hbefore.subset (by simp)
  obtain ⟨request, salt, now, hevent⟩ := isAccountRequestOf_iff.1 (hrequests _ hmem)
  obtain ⟨ending, hattempt, -⟩ := attempt_accountRequest hevent
  exact hattempt.isSound hsound

/-- An entry of a history without right passwords, as an attempt. -/
def attemptOf (entry : Input × Outcome) : Time × Ending :=
  (entry.1.event.clock?.getD 0,
    if answersWrongPassword (fun _ => true) entry then .counted else .refused)

/-- A run without a sign-in is a sequence of attempts. -/
theorem attempts_of_run {history : List (Input × Outcome)} {db' : Db}
    (run : (engine hashing).Run db history db')
    (hrequests : ∀ entry ∈ history, isAccountRequestOf deviceId entry.1 = true)
    (hnone : Machine.Run.Always (engine hashing)
      (fun db input => sendsRightPassword hashing (fun _ => true) db input = false ∨
        signsIn hashing db input = false) db history) :
    Attempts signInFailuresBeforeRateLimit signInFailureWindow (deviceFailures db deviceId)
      (history.map attemptOf) (deviceFailures db' deviceId) := by
  induction run with
  | nil => exact .nil
  | @snoc before db₁ run input ih =>
      obtain ⟨hbefore, hnot⟩ := (Machine.Run.always_snoc run _).1 hnone
      obtain ⟨request, salt, now, hevent⟩ : ∃ request salt now,
          input.event = .account deviceId request salt now :=
        isAccountRequestOf_iff.1 (hrequests (input, ((engine hashing).step db₁ input).2) (by simp))
      obtain ⟨ending, hattempt, hsucceeded, hending⟩ :=
        @attempt_accountRequest hashing db₁ input deviceId request salt now hevent
      have hfailed : ending ≠ .succeeded := by
        intro h
        obtain ⟨hright, hsigned⟩ := hsucceeded h
        rcases hnot with hnot | hnot
        · exact absurd (hright.symm.trans hnot) (by simp)
        · exact absurd (hsigned.symm.trans hnot) (by simp)
      have hentry : attemptOf (input, ((engine hashing).step db₁ input).2) = (now, ending) := by
        refine Prod.ext ?_ (hending hfailed).symm
        show input.event.clock?.getD 0 = now
        rw [hevent, Event.clock?, Option.getD_some]
      rw [List.map_append, List.map_singleton, hentry]
      exact (ih (fun entry he => hrequests entry (List.mem_append_left _ he)) hbefore).snoc hattempt

end Attempt

/-- **The throttle holds without right passwords**: of the `A` requests of a device that starts with
no recorded failure, at most nine are answered `WRONG_PASSWORD` in a stretch of fifteen minutes in
which it sends no right password of an existing account, whatever accounts it tries and registers
and whatever it sent before; and at most five when no failure is recorded at the start of the
stretch. -/
theorem wrong_passwords_limited {hashing : PasswordHashing} {deviceId : ℕ} {db db₁ db₂ : Db}
    {before stretch : List (Input × Outcome)} {start : Time}
    (hnone : deviceFailures db deviceId = .cleared)
    (run : (engine hashing).Run db before db₁) (run' : (engine hashing).Run db₁ stretch db₂)
    (hrequests : ∀ entry ∈ before ++ stretch, isAccountRequestOf deviceId entry.1 = true)
    (hspan : ∀ entry ∈ stretch, ∀ now ∈ entry.1.event.clock?,
      start ≤ now ∧ now < start + signInFailureWindow)
    (hwrong : Machine.Run.Always (engine hashing)
      (fun db input => sendsRightPassword hashing (fun _ => true) db input = false) db₁ stretch)
    (accounts : Text → Bool) :
    stretch.countP (answersWrongPassword accounts) ≤ 9 ∧
      ((deviceFailures db₁ deviceId).count = 0 →
        stretch.countP (answersWrongPassword accounts) ≤ 5) := by
  have hsound := isSound_of_run run hnone fun entry he => hrequests entry (List.mem_append_left _ he)
  have hattempts := attempts_of_run run'
    (fun entry he => hrequests entry (List.mem_append_right _ he))
    (hwrong.imp fun _ _ h => Or.inl h)
  have hspan' : ∀ attempt ∈ stretch.map attemptOf,
      start ≤ attempt.1 ∧ attempt.1 < start + signInFailureWindow := by
    intro attempt hattempt
    obtain ⟨entry, he, rfl⟩ := List.mem_map.1 hattempt
    obtain ⟨request, salt, now, hevent⟩ :=
      isAccountRequestOf_iff.1 (hrequests entry (List.mem_append_right _ he))
    have hclock : entry.1.event.clock? = some now := by rw [hevent, Event.clock?]
    simpa [attemptOf, hclock] using hspan entry he now hclock
  have hfailed : ∀ attempt ∈ stretch.map attemptOf, attempt.2 ≠ .succeeded := by
    intro attempt hattempt
    obtain ⟨entry, -, rfl⟩ := List.mem_map.1 hattempt
    unfold attemptOf
    split <;> simp
  -- the wrong passwords for these accounts are among the counted ones
  have hle : stretch.countP (answersWrongPassword accounts) ≤
      (stretch.map attemptOf).countP fun attempt => attempt.2 = .counted := by
    rw [List.countP_map]
    refine List.countP_mono_left fun entry _ h => ?_
    have hall : answersWrongPassword (fun _ => true) entry = true := by
      unfold answersWrongPassword at h ⊢
      split at h <;> simp_all
    simp [attemptOf, hall]
  refine ⟨?_, fun hfresh => ?_⟩
  · have hlt := hattempts.countP_counted_lt hsound (by decide) hspan' hfailed
    exact hle.trans (Nat.le_of_lt_succ hlt)
  · exact hle.trans (hattempts.countP_counted_le hsound hfresh hspan' hfailed)

/-! ### Guessing with a right password in between -/

/-- A device with no recorded failure sends `A` requests only, and never the right password of the
account it tries. -/
structure IsGuessing (hashing : PasswordHashing) (db : Db) (deviceId : ℕ) (usernameLookup : Text)
    (history : List (Input × Outcome)) (db' : Db) : Prop where
  reachable : (engine hashing).Reachable db
  failures : deviceFailures db deviceId = .cleared
  account : (db.userByLookup usernameLookup).isSome
  run : (engine hashing).Run db history db'
  requests : ∀ entry ∈ history, isAccountRequestOf deviceId entry.1 = true
  neverRight : Machine.Run.Always (engine hashing)
    (fun db input => sendsRightPassword hashing (· = usernameLookup) db input = false) db history

/-- The clock readings of the wrong passwords for an account. -/
def guessTimes (usernameLookup : Text) (history : List (Input × Outcome)) : List Time :=
  (history.filter (answersWrongPassword (· = usernameLookup))).filterMap (·.1.event.clock?)

/-- The wrong passwords for an account within 15 minutes of the first one. -/
def guessesInWindow (usernameLookup : Text) (history : List (Input × Outcome)) : ℕ :=
  match guessTimes usernameLookup history with
  | [] => 0
  | first :: later =>
      (first :: later).countP fun now => first ≤ now && now < first + signInFailureWindow

/-- A wrong password for bob. -/
def sampleGuess (seconds : ℕ) : Event :=
  .account 1 ⟨bob, "not bob's".toList⟩ [] (sampleTime seconds)

/-- Alice's device guesses bob's password, with a sign-in to her own account in between. -/
def sampleOwnSignIn : List Event :=
  [sampleGuess 10, sampleGuess 11, sampleGuess 12,
    .account 1 ⟨alice, samplePassword⟩ [] (sampleTime 13),
    sampleGuess 14, sampleGuess 15, sampleGuess 16]

/-- Alice's device mistypes her password, and guesses bob's at the end of the window and at the
start of the next one. -/
def sampleTwoWindows : List Event :=
  .account 1 ⟨alice, "mistyped".toList⟩ [] (sampleTime 10) ::
    (List.replicate 4 (sampleGuess 909) ++ List.replicate 5 (sampleGuess 910))

/-- What is asked and answered after alice and bob signed in. -/
def sampleGuesses (events : List Event) : List (Input × Outcome) :=
  ((engine sampleHashing).exec (sampleDb sampleSignIns) (sampleInputs events)).1

theorem isGuessing_sampleGuesses {events : List Event}
    (hrequests : ((sampleGuesses events).all fun entry => isAccountRequestOf 1 entry.1) = true)
    (hneverRight : Machine.Run.Always (engine sampleHashing)
      (fun db input => sendsRightPassword sampleHashing (· = bob) db input = false)
      (sampleDb sampleSignIns) (sampleGuesses events)) :
    ∃ db', IsGuessing sampleHashing (sampleDb sampleSignIns) 1 bob (sampleGuesses events) db' :=
  ⟨_, reachable_sampleDb _, by decide +kernel, by decide +kernel,
    (engine sampleHashing).run_exec _ _, List.all_eq_true.1 hrequests, hneverRight⟩

/-- **A guesser resets the count** by signing in to its own account, and gets nine guesses without
it when another account started the window. -/
theorem guesses_exceed_limit_samples :
    (∃ db', IsGuessing sampleHashing (sampleDb sampleSignIns) 1 bob
        (sampleGuesses sampleOwnSignIn) db') ∧
      guessesInWindow bob (sampleGuesses sampleOwnSignIn) = 6 ∧
      (∃ db', IsGuessing sampleHashing (sampleDb sampleSignIns) 1 bob
        (sampleGuesses sampleTwoWindows) db') ∧
      guessesInWindow bob (sampleGuesses sampleTwoWindows) = 9 :=
  ⟨isGuessing_sampleGuesses (by decide +kernel) (by decide +kernel), by decide +kernel,
    isGuessing_sampleGuesses (by decide +kernel) (by decide +kernel), by decide +kernel⟩

/-- What is asked and answered after alice's device mistyped her password. -/
def sampleGuessesAfterMistyped : List (Input × Outcome) :=
  ((engine sampleHashing).exec (sampleDb (sampleSignIns ++ sampleTwoWindows.take 1))
    (sampleInputs (sampleTwoWindows.drop 1))).1

/-- Bob's password is guessed nine times in fifteen minutes, and not more. -/
theorem wrong_passwords_limited_sampleTwoWindows :
    sampleGuessesAfterMistyped.countP (answersWrongPassword (· = bob)) ≤ 9 ∧
      ((deviceFailures (sampleDb (sampleSignIns ++ sampleTwoWindows.take 1)) 1).count = 0 →
        sampleGuessesAfterMistyped.countP (answersWrongPassword (· = bob)) ≤ 5) := by
  have hrun : (engine sampleHashing).Run (sampleDb sampleSignIns)
      (sampleGuesses (sampleTwoWindows.take 1))
      (sampleDb (sampleSignIns ++ sampleTwoWindows.take 1)) := by
    have hexec := (engine sampleHashing).run_exec (sampleDb sampleSignIns)
      (sampleInputs (sampleTwoWindows.take 1))
    exact hexec
  have hspan : ∀ entry ∈ sampleGuessesAfterMistyped, ∀ now ∈ entry.1.event.clock?,
      sampleTime 909 ≤ now ∧ now < sampleTime 909 + signInFailureWindow := by
    decide +kernel
  exact wrong_passwords_limited (by decide +kernel) hrun ((engine sampleHashing).run_exec _ _)
    (List.all_eq_true.1 (by decide +kernel)) hspan (by decide +kernel) _

end HoptalkRelay
