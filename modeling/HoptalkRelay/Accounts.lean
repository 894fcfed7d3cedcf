/-
**Sign-in, user lookup and relinking: A and Q.**

The functions of `directory/accounts.py`.  Wrong passwords are throttled per device, in a window
that starts at the first failure.

Password hashing and Unicode normalisation are library functions; they are the fields of a
structure the machine takes as a parameter.  `make_password` draws a salt, which the request
carries here.

Main definitions:

* `HoptalkRelay.PasswordHashing` — the library functions;
* `HoptalkRelay.registerOrSignIn`, `HoptalkRelay.createAccount`, `HoptalkRelay.signIn` — the `A`
  request;
* `HoptalkRelay.linkDevice`, `HoptalkRelay.relinkDevice` — the device's user;
* `HoptalkRelay.userExists` — the `Q` request.
-/

import HoptalkRelay.RefreshSessions

set_option relaxedAutoImplicit false
set_option autoImplicit false

namespace HoptalkRelay

open Relational

/-- Unicode NFC, and Django's password hashers. -/
structure PasswordHashing where
  normalizePassword : Text → Text
  /-- The hash of a password with a salt. -/
  makePassword : Text → Text → Text
  /-- Whether a password has a hash. -/
  checkPassword : Text → Text → Bool

def signInFailuresBeforeRateLimit : ℕ := 5

def signInFailureWindowMinutes : ℕ := 15

def signInFailureWindow : Duration := durationOfMinutes signInFailureWindowMinutes

structure AccountRequestOutcome where
  reply : ServerMessage
  outcomeSummary : Text
  deriving DecidableEq, Repr

/-! ### The failure window -/

def clearFailedSignIns (db : Db) (device : Contact) : Db × Contact :=
  if device.failedSignInCount = 0 ∧ device.failedSignInWindowStartedAt = none then (db, device)
  else
    ({ db with
        contacts := db.contacts.updateWhere (fun row => row.id = device.id) fun row =>
          { row with failedSignInCount := 0, failedSignInWindowStartedAt := none } },
      { device with failedSignInCount := 0, failedSignInWindowStartedAt := none })

def restartExpiredFailureWindow (db : Db) (device : Contact) (now : Time) : Db × Contact :=
  match device.failedSignInWindowStartedAt with
  | none => (db, device)
  | some windowStartedAt =>
      if windowStartedAt + signInFailureWindow ≤ now then clearFailedSignIns db device
      else (db, device)

/-- The first failure starts the window. -/
def recordFailedSignIn (db : Db) (device : Contact) (now : Time) : Db × Contact :=
  let change (row : Contact) : Contact :=
    { row with
      failedSignInCount := row.failedSignInCount + 1
      failedSignInWindowStartedAt := row.failedSignInWindowStartedAt.or (some now) }
  ({ db with contacts := db.contacts.updateWhere (fun row => row.id = device.id) change },
    change device)

/-! ### The device's user -/

def setDeviceUser (db : Db) (device : Contact) (userId : ℕ) (now : Time) : Db :=
  { db with
    contacts := db.contacts.updateWhere (fun row => row.id = device.id) fun row =>
      { row with userId := some userId, linkedAt := some now } }

/-- Cancel what the device still has of its previous user, then move it to the new one. -/
def relinkDevice (db : Db) (device : Contact) (newUser : User) (now : Time) : Db :=
  let db := cancelDeviceDeliveriesForRelink db device.id now
  let db := cancelDeviceReceiptsForRelink db device.id now
  let db := cancelDeviceRefreshSessionsForRelink db device.id now
  setDeviceUser db device newUser.id now

/-- Link, leave alone or relink the device; returns what happened. -/
def linkDevice (db : Db) (device : Contact) (user : User) (now : Time) :
    Except ServiceError (Db × Text) :=
  if device.userId = some user.id then .ok (db, "the device was already linked".toList)
  else
    match device.userId with
    | none => .ok (setDeviceUser db device user.id now, "device linked".toList)
    | some previousUserId =>
        match db.users.get? previousUserId with
        | none => .error .integrity
        | some previousUser =>
            .ok (relinkDevice db device user now,
              "device relinked from ".toList ++ previousUser.username.val)

/-! ### A -/

/-- A new username: the account is created with this password and the device is linked to it. -/
def createAccount (hashing : PasswordHashing) (db : Db) (device : Contact)
    (request : AccountRequest) (normalizedPassword salt : Text) (now : Time) :
    Except ServiceError (Db × AccountRequestOutcome) :=
  -- a refused row starts the transaction over
  if h : isValidUsername request.username = true then do
    let newUser (id : ℕ) : User :=
      { id
        username := ⟨request.username, h⟩
        passwordHash := hashing.makePassword salt normalizedPassword
        createdAt := now }
    let user := newUser db.users.nextKey
    let db := { db with users := db.users.insert newUser }
    let (db, linkSummary) ← linkDevice db device user now
    return (db,
      { reply := .accountReply user.username.val
        outcomeSummary := "account created; ".toList ++ linkSummary })
  else .error .lockedRowChanged

/-- The throttle comes before the password check, also for a device that is linked already. -/
def signIn (hashing : PasswordHashing) (db : Db) (device : Contact) (user : User)
    (request : AccountRequest) (normalizedPassword : Text) (now : Time) :
    Except ServiceError (Db × AccountRequestOutcome) :=
  match restartExpiredFailureWindow db device now with
  | (db, device) =>
      if signInFailuresBeforeRateLimit ≤ device.failedSignInCount then
        .ok (db,
          { reply := buildRequestErrorReply .rateLimited (.account request)
            outcomeSummary := "rate limited: too many wrong passwords from this device".toList })
      else if ¬ hashing.checkPassword normalizedPassword user.passwordHash then
        match recordFailedSignIn db device now with
        | (db, device) =>
            .ok (db,
              { reply := buildRequestErrorReply .wrongPassword (.account request)
                outcomeSummary := "wrong password (".toList ++ decimal device.failedSignInCount ++
                  " in the current window)".toList })
      else
        match clearFailedSignIns db device with
        | (db, device) => do
            let (db, linkSummary) ← linkDevice db device user now
            return (db,
              { reply := .accountReply user.username.val
                outcomeSummary := "signed in; ".toList ++ linkSummary })

/-- Answers `a <canonical>`, or `PASSWORD_INVALID`, `WRONG_PASSWORD` or `RATE_LIMITED`. -/
def registerOrSignIn (hashing : PasswordHashing) (db : Db) (deviceId : ℕ)
    (request : AccountRequest) (salt : Text) (now : Time) :
    Except ServiceError (Db × AccountRequestOutcome) :=
  let normalizedPassword := hashing.normalizePassword request.password
  if ¬ isValidPassword normalizedPassword then
    .ok (db,
      { reply := buildRequestErrorReply .passwordInvalid (.account request)
        outcomeSummary := "the password breaks the password rules".toList })
  else
    match db.contacts.get? deviceId with
    | none => .error .lockedRowChanged
    | some device =>
        match db.userByLookup (normalizeUsernameForLookup request.username) with
        | none => createAccount hashing db device request normalizedPassword salt now
        | some existingUser =>
            signIn hashing db device existingUser request normalizedPassword now

/-! ### Q -/

/-- Answers `q <canonical> 1`, `q <as sent> 0`, or `NOT_SIGNED_IN`. -/
def userExists (db : Db) (deviceId : ℕ) (request : QueryRequest) : ServerMessage :=
  match db.deviceUserId deviceId with
  | none => buildRequestErrorReply .notSignedIn (.query request)
  | some _ =>
      match db.userByLookup (normalizeUsernameForLookup request.username) with
      | none => .queryReply request.username false
      | some user => .queryReply user.username.val true

end HoptalkRelay
