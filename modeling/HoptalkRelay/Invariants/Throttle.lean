/-
**The sign-in throttle.**

A first wrong password opens a window of fifteen minutes.  Between two sign-ins the window counts
at most five wrong passwords; from the fifth one to its end every request with a valid password for
an existing account is answered `RATE_LIMITED`, and nothing tells a right password from a wrong
one.  At its end the count starts again from zero.  A new account leaves the count as it is.

Main definitions:

* `HoptalkRelay.OpensWindow` — a first wrong password;
* `HoptalkRelay.Db.withPasswordHashes` — the same database with other password hashes;
* `HoptalkRelay.asksForAccount` — a request with a valid password for an existing account.

Main results:

* `HoptalkRelay.failures_of_openWindow` — what an open window counted;
* `HoptalkRelay.step_rateLimited` — the answer to a device that failed five times;
* `HoptalkRelay.sign_in_throttled` — **the throttle, without an oracle**.
-/

import HoptalkRelay.Invariants.Guesses

set_option relaxedAutoImplicit false
set_option autoImplicit false

namespace HoptalkRelay

open Relational Transition Throttling

/-! ### The requests of a window -/

/-- A request with a valid password for an account that exists. -/
def asksForAccount (hashing : PasswordHashing) (db : Db) (request : AccountRequest) : Bool :=
  isValidPassword (hashing.normalizePassword request.password) &&
    (db.userByLookup (normalizeUsernameForLookup request.username)).isSome

/-- A wrong password of the device while its window counts nothing, or is over. -/
structure OpensWindow (hashing : PasswordHashing) (db : Db) (deviceId : ℕ) (input : Input)
    (startedAt : Time) : Prop where
  request : isAccountRequestOf deviceId input = true
  clock : input.event.clock? = some startedAt
  wrong : answersWrongPassword (fun _ => true) (input, (step hashing db input).2) = true
  first : (deviceFailures db deviceId).checked signInFailureWindow startedAt = .cleared

/-- The same database with other password hashes. -/
def Db.withPasswordHashes (db : Db) (hashOf : ℕ → Text) : Db :=
  { db with
    users := db.users.view (fun user => { user with passwordHash := hashOf user.id })
      fun _ => rfl }

section Windows

variable {hashing : PasswordHashing} {db db' : Db} {deviceId : ℕ} {input : Input}
  {startedAt now : Time}

/-- The accounts that exist do not depend on their passwords. -/
theorem isSome_userByLookup_withPasswordHashes (db : Db) (hashOf : ℕ → Text) (lookup : Text) :
    ((db.withPasswordHashes hashOf).userByLookup lookup).isSome =
      (db.userByLookup lookup).isSome := by
  let rehashed (user : User) : User := { user with passwordHash := hashOf user.id }
  have hfind : (db.users.rows.map rehashed).find? (fun user => user.usernameLookup = lookup) =
      (db.users.rows.find? fun user => user.usernameLookup = lookup).map rehashed :=
    List.find?_map
  have hrows : (db.withPasswordHashes hashOf).users.rows = db.users.rows.map rehashed := by
    simp [Db.withPasswordHashes, Table.view, Table.updateWhere, rehashed]
  unfold Db.userByLookup Table.first?
  rw [hrows, hfind, Option.isSome_map]

/-- The first wrong password starts the window and is counted in it. -/
theorem OpensWindow.failures (h : OpensWindow hashing db deviceId input startedAt) :
    deviceFailures (step hashing db input).1 deviceId = ⟨1, some startedAt⟩ := by
  obtain ⟨request, salt, now, hevent⟩ := isAccountRequestOf_iff.1 h.request
  obtain rfl : now = startedAt := by
    have hclock := h.clock
    rw [hevent, Event.clock?] at hclock
    exact Option.some.inj hclock
  obtain ⟨ending, hattempt, hsucceeded, hending⟩ :=
    @attempt_accountRequest hashing db input deviceId request salt now hevent
  have hfailed : ending ≠ .succeeded := by
    intro hend
    obtain ⟨-, hsigned⟩ := hsucceeded hend
    have hwrong := h.wrong
    simp only [answersWrongPassword, hevent] at hwrong
    simp only [signsIn, hevent] at hsigned
    cases houtcome : (step hashing db input).2 with
    | answered reply =>
        rw [houtcome] at hwrong hsigned
        simp only [Bool.true_and, decide_eq_true_eq] at hwrong
        rw [hwrong] at hsigned
        cases hsigned
    | _ =>
        rw [houtcome] at hwrong
        cases hwrong
  rw [hending hfailed, if_pos h.wrong] at hattempt
  generalize deviceFailures (step hashing db input).1 deviceId = after at hattempt ⊢
  cases hattempt with
  | counted =>
      rw [h.first]
      rfl

/-- **What an open window counted**: every wrong password since it was opened, at most five. -/
theorem failures_of_openWindow {stretch : List (Input × Outcome)}
    (hopened : deviceFailures db deviceId = ⟨1, some startedAt⟩)
    (run : (engine hashing).Run db stretch db')
    (hrequests : ∀ entry ∈ stretch, isAccountRequestOf deviceId entry.1 = true)
    (hnone : Machine.Run.Always (engine hashing)
      (fun db input => signsIn hashing db input = false) db stretch)
    (hopen : ∀ entry ∈ stretch, ∀ now ∈ entry.1.event.clock?,
      now < startedAt + signInFailureWindow) :
    deviceFailures db' deviceId =
        ⟨1 + stretch.countP (answersWrongPassword fun _ => true), some startedAt⟩ ∧
      1 + stretch.countP (answersWrongPassword fun _ => true) ≤
        signInFailuresBeforeRateLimit := by
  have hattempts := attempts_of_run run hrequests (hnone.imp fun _ _ h => Or.inr h)
  rw [hopened] at hattempts
  have hspan : ∀ attempt ∈ stretch.map attemptOf, attempt.1 < startedAt + signInFailureWindow := by
    intro attempt hattempt
    obtain ⟨entry, he, rfl⟩ := List.mem_map.mp hattempt
    obtain ⟨request, salt, now, hevent⟩ := isAccountRequestOf_iff.1 (hrequests entry he)
    have hclock : entry.1.event.clock? = some now := by rw [hevent, Event.clock?]
    simpa [attemptOf, hclock] using hopen entry he now hclock
  have hfailed : ∀ attempt ∈ stretch.map attemptOf, attempt.2 ≠ .succeeded := by
    intro attempt hattempt
    obtain ⟨entry, -, rfl⟩ := List.mem_map.mp hattempt
    unfold attemptOf
    split <;> simp
  have hcount : (stretch.map attemptOf).countP (fun attempt => attempt.2 = .counted) =
      stretch.countP (answersWrongPassword fun _ => true) := by
    rw [List.countP_map]
    refine List.countP_congr fun entry _ => ?_
    cases h : answersWrongPassword (fun _ => true) entry <;> simp [attemptOf, h]
  have hfailures := hattempts.of_open rfl hspan hfailed
  rw [hcount] at hfailures
  have hsound := hattempts.isSound ⟨by simp, Nat.le_of_ble_eq_true rfl⟩
  rw [hfailures] at hsound
  exact ⟨hfailures, hsound.count_le⟩

/-- A counter that counts something belongs to a contact. -/
theorem exists_contact_of_failures {count : ℕ}
    (hfailures : deviceFailures db deviceId = ⟨count, some startedAt⟩) :
    ∃ device, db.contacts.get? deviceId = some device ∧
      failureCount device = ⟨count, some startedAt⟩ := by
  unfold deviceFailures at hfailures
  cases hdevice : db.contacts.get? deviceId with
  | none =>
      rw [hdevice] at hfailures
      cases hfailures
  | some device =>
      rw [hdevice] at hfailures
      exact ⟨device, rfl, hfailures⟩

/-! ### The answers -/

/-- **A device that failed five times** is refused until the window's end: the password is not
looked at, and nothing changes. -/
theorem step_rateLimited {settings : RelaySettings} {request : AccountRequest} {salt : Text}
    (hfailures : deviceFailures db deviceId = ⟨signInFailuresBeforeRateLimit, some startedAt⟩)
    (hasks : asksForAccount hashing db request = true)
    (hnow : now < startedAt + signInFailureWindow) :
    step hashing db ⟨settings, .account deviceId request salt now⟩ =
      (db, .answered (buildRequestErrorReply .rateLimited (.account request))) := by
  obtain ⟨device, hdevice, hcounter⟩ := exists_contact_of_failures hfailures
  rw [asksForAccount, Bool.and_eq_true] at hasks
  obtain ⟨user, huser⟩ := Option.isSome_iff_exists.mp hasks.2
  have hcount : device.failedSignInCount = signInFailuresBeforeRateLimit :=
    congrArg FailureCount.count hcounter
  have hstarted : device.failedSignInWindowStartedAt = some startedAt :=
    congrArg FailureCount.startedAt hcounter
  have hrestart : restartExpiredFailureWindow db device now = (db, device) := by
    unfold restartExpiredFailureWindow
    rw [hstarted]
    exact if_neg (not_le.mpr hnow)
  have hregister : registerOrSignIn hashing db deviceId request salt now =
      signIn hashing db device user request (hashing.normalizePassword request.password) now := by
    unfold registerOrSignIn
    dsimp only
    rw [if_neg (not_not.mpr hasks.1), hdevice]
    dsimp only
    rw [huser]
  have hrefused : signIn hashing db device user request
      (hashing.normalizePassword request.password) now =
        .ok (db, ⟨buildRequestErrorReply .rateLimited (.account request),
          "rate limited: too many wrong passwords from this device".toList⟩) := by
    unfold signIn
    rw [hrestart]
    dsimp only
    rw [if_pos hcount.ge]
  simp only [step, hregister, hrefused, commit]

/-- A new account leaves the count and the window of the device. -/
theorem failures_of_newAccount {settings : RelaySettings} {request : AccountRequest} {salt : Text}
    (hnew : db.userByLookup (normalizeUsernameForLookup request.username) = none) :
    deviceFailures (step hashing db ⟨settings, .account deviceId request salt now⟩).1 deviceId =
      deviceFailures db deviceId := by
  simp only [step]
  cases hcommit : registerOrSignIn hashing db deviceId request salt now with
  | error serviceError => rfl
  | ok committed =>
      rw [commit]
      have hanswer := registerOrSignIn_ok hcommit
      generalize committed.2.reply = reply at hanswer
      generalize committed.1 = db' at hanswer ⊢
      cases hanswer with
      | passwordInvalid => rfl
      | created _ _ _ hlink =>
          rw [deviceFailures_linkDevice hlink]
          rfl
      | rateLimited _ huser => exact absurd (huser.symm.trans hnew) (by simp)
      | wrongPassword _ huser => exact absurd (huser.symm.trans hnew) (by simp)
      | signedIn _ huser => exact absurd (huser.symm.trans hnew) (by simp)

/-- **At its end the count starts again from zero**: a request is not refused, and a wrong password
is a first one. -/
theorem failures_after_window {settings : RelaySettings} {request : AccountRequest} {salt : Text}
    {count : ℕ} (hfailures : deviceFailures db deviceId = ⟨count, some startedAt⟩)
    (hnow : startedAt + signInFailureWindow ≤ now) :
    (step hashing db ⟨settings, .account deviceId request salt now⟩).2 ≠
        .answered (buildRequestErrorReply .rateLimited (.account request)) ∧
      (answersWrongPassword (fun _ => true) (⟨settings, .account deviceId request salt now⟩,
          (step hashing db ⟨settings, .account deviceId request salt now⟩).2) = true →
        OpensWindow hashing db deviceId ⟨settings, .account deviceId request salt now⟩ now ∧
        deviceFailures (step hashing db ⟨settings, .account deviceId request salt now⟩).1
          deviceId = ⟨1, some now⟩) := by
  have hcleared : (deviceFailures db deviceId).checked signInFailureWindow now = .cleared :=
    FailureCount.checked_of_over (by rw [hfailures]) hnow
  constructor
  · intro hrefused
    simp only [step] at hrefused
    cases hcommit : registerOrSignIn hashing db deviceId request salt now with
    | error serviceError =>
        rw [hcommit] at hrefused
        cases hrefused
    | ok committed =>
        rw [hcommit] at hrefused
        have hreply : committed.2.reply =
            buildRequestErrorReply .rateLimited (.account request) :=
          Outcome.answered.inj hrefused
        have hanswer := registerOrSignIn_ok hcommit
        rw [hreply] at hanswer
        generalize hr : buildRequestErrorReply .rateLimited (.account request) = reply at hanswer
        generalize committed.1 = db' at hanswer
        cases hanswer with
        | passwordInvalid => simp [buildRequestErrorReply] at hr
        | created => simp [buildRequestErrorReply] at hr
        | @rateLimited device _ hdevice _ hcount =>
            have hzero : (windowCheckedContact device now).failedSignInCount = 0 := by
              rw [deviceFailures_of_get? hdevice, ← failureCount_windowCheckedContact] at hcleared
              exact congrArg FailureCount.count hcleared
            rw [hzero] at hcount
            exact absurd hcount (by decide)
        | wrongPassword => simp [buildRequestErrorReply] at hr
        | signedIn => simp [buildRequestErrorReply] at hr
  · intro hwrong
    have hopens : OpensWindow hashing db deviceId
        ⟨settings, .account deviceId request salt now⟩ now :=
      ⟨by simp [isAccountRequestOf], rfl, hwrong, hcleared⟩
    exact ⟨hopens, hopens.failures⟩

end Windows

/-- **The throttle, without an oracle.**  In a run of `A` requests of one device, from a first
wrong password on and as long as the window it opens lasts and the device does not sign in: at most
five requests are answered `WRONG_PASSWORD`, and the device counts them; once they are five, every
request with a valid password for an existing account is answered `RATE_LIMITED` and changes
nothing, whatever the password, the hashes that are stored and the account the device is linked to.
At the window's end a request is not refused and a wrong password is a first one again; a new
account leaves the count and the window as they are. -/
theorem sign_in_throttled {hashing : PasswordHashing} {db db' : Db} {deviceId : ℕ}
    {opening : Input} {startedAt : Time} {stretch : List (Input × Outcome)}
    (hopening : OpensWindow hashing db deviceId opening startedAt)
    (run : (engine hashing).Run (step hashing db opening).1 stretch db')
    (hrequests : ∀ entry ∈ stretch, isAccountRequestOf deviceId entry.1 = true)
    (hnone : Machine.Run.Always (engine hashing)
      (fun db input => signsIn hashing db input = false) (step hashing db opening).1 stretch)
    (hopen : ∀ entry ∈ stretch, ∀ now ∈ entry.1.event.clock?,
      now < startedAt + signInFailureWindow) :
    1 + stretch.countP (answersWrongPassword fun _ => true) ≤ signInFailuresBeforeRateLimit ∧
    deviceFailures db' deviceId =
      ⟨1 + stretch.countP (answersWrongPassword fun _ => true), some startedAt⟩ ∧
    (1 + stretch.countP (answersWrongPassword fun _ => true) = signInFailuresBeforeRateLimit →
      ∀ settings request salt now, now < startedAt + signInFailureWindow →
        asksForAccount hashing db' request = true →
        step hashing db' ⟨settings, .account deviceId request salt now⟩ =
            (db', .answered (buildRequestErrorReply .rateLimited (.account request))) ∧
          ∀ hashOf settings' password' salt',
            isValidPassword (hashing.normalizePassword password') = true →
            step hashing (db'.withPasswordHashes hashOf)
                ⟨settings', .account deviceId ⟨request.username, password'⟩ salt' now⟩ =
              (db'.withPasswordHashes hashOf,
                (step hashing db' ⟨settings, .account deviceId request salt now⟩).2)) ∧
    (∀ settings request salt now, startedAt + signInFailureWindow ≤ now →
      (step hashing db' ⟨settings, .account deviceId request salt now⟩).2 ≠
          .answered (buildRequestErrorReply .rateLimited (.account request)) ∧
        (answersWrongPassword (fun _ => true) (⟨settings, .account deviceId request salt now⟩,
            (step hashing db' ⟨settings, .account deviceId request salt now⟩).2) = true →
          OpensWindow hashing db' deviceId ⟨settings, .account deviceId request salt now⟩ now ∧
          deviceFailures (step hashing db' ⟨settings, .account deviceId request salt now⟩).1
            deviceId = ⟨1, some now⟩)) ∧
    ∀ (db : Db) settings request salt now,
      db.userByLookup (normalizeUsernameForLookup request.username) = none →
      deviceFailures (step hashing db ⟨settings, .account deviceId request salt now⟩).1 deviceId =
        deviceFailures db deviceId := by
  obtain ⟨hfailures, hlimit⟩ :=
    failures_of_openWindow hopening.failures run hrequests hnone hopen
  refine ⟨hlimit, hfailures, fun hfive settings request salt now hnow hasks => ?_,
    fun settings request salt now hnow => failures_after_window hfailures hnow,
    fun db settings request salt now hnew => failures_of_newAccount hnew⟩
  rw [hfive] at hfailures
  have hrefused : ∀ settings salt, step hashing db' ⟨settings, .account deviceId request salt now⟩ =
      (db', .answered (buildRequestErrorReply .rateLimited (.account request))) :=
    fun settings salt => step_rateLimited hfailures hasks hnow
  refine ⟨hrefused settings salt, fun hashOf settings' password' salt' hvalid => ?_⟩
  have hasks' : asksForAccount hashing (db'.withPasswordHashes hashOf)
      ⟨request.username, password'⟩ = true := by
    rw [asksForAccount, Bool.and_eq_true] at hasks ⊢
    rw [isSome_userByLookup_withPasswordHashes]
    exact ⟨hvalid, hasks.2⟩
  have hfailures' : deviceFailures (db'.withPasswordHashes hashOf) deviceId =
      ⟨signInFailuresBeforeRateLimit, some startedAt⟩ := hfailures
  rw [step_rateLimited hfailures' hasks' hnow, hrefused]
  rfl

/-- Five wrong passwords for bob. -/
def sampleFiveGuesses : List Event :=
  [sampleGuess 10, sampleGuess 11, sampleGuess 12, sampleGuess 13, sampleGuess 14]

/-- After five guesses alice's own password is refused for the rest of the fifteen minutes. -/
theorem sign_in_throttled_sampleFiveGuesses :
    step sampleHashing (sampleDb (sampleSignIns ++ sampleFiveGuesses))
        ⟨sampleSettings, .account 1 ⟨alice, samplePassword⟩ [] (sampleTime 909)⟩ =
      (sampleDb (sampleSignIns ++ sampleFiveGuesses),
        .answered (buildRequestErrorReply .rateLimited (.account ⟨alice, samplePassword⟩))) := by
  have hopening : OpensWindow sampleHashing (sampleDb sampleSignIns) 1
      ⟨sampleSettings, sampleGuess 10⟩ (sampleTime 10) :=
    ⟨rfl, rfl, by decide +kernel, by decide +kernel⟩
  have hrun := (engine sampleHashing).run_exec
    (step sampleHashing (sampleDb sampleSignIns) ⟨sampleSettings, sampleGuess 10⟩).1
    (sampleInputs (sampleFiveGuesses.drop 1))
  exact ((sign_in_throttled hopening hrun (List.all_eq_true.1 (by decide +kernel))
    (by decide +kernel) (by decide +kernel)).2.2.1 (by decide +kernel) _ _ _ _ (by decide +kernel)
    (by decide +kernel)).1

end HoptalkRelay
