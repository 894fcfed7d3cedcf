/-
**The transaction of `A`.**

A request with a valid password registers a new username, or signs in to an existing account.  A
sign-in first ends a failure window that is over; it is refused while five wrong passwords are
counted, counts one more, or clears the count and moves the device to the account.

Main definitions:

* `HoptalkRelay.clearedContact`, `HoptalkRelay.windowCheckedContact`,
  `HoptalkRelay.failedContact` — the failure counter of a device;
* `HoptalkRelay.AccountAnswer` — the ways a request is answered.

Main results:

* `HoptalkRelay.registerOrSignIn_ok` — **every answered request** is answered in one of them;
* `HoptalkRelay.AccountAnswer.writes` — the request as a sequence of writes.
-/

import HoptalkRelay.Transactions.Quiet

set_option relaxedAutoImplicit false
set_option autoImplicit false

namespace HoptalkRelay

open Relational

variable {input : Input} {db : Db}

/-! ### The failure counter of a device -/

/-- No wrong password is counted. -/
@[simps]
def clearedContact (c : Contact) : Contact :=
  { c with failedSignInCount := 0, failedSignInWindowStartedAt := none }

/-- The failure window is over. -/
def isFailureWindowOver (c : Contact) (now : Time) : Bool :=
  c.failedSignInWindowStartedAt.any fun startedAt => startedAt + signInFailureWindow ≤ now

/-- A window that is over is ended before the password is looked at. -/
def windowCheckedContact (c : Contact) (now : Time) : Contact :=
  if isFailureWindowOver c now then clearedContact c else c

/-- One more wrong password. -/
@[simps]
def failedContact (c : Contact) (now : Time) : Contact :=
  { c with
    failedSignInCount := c.failedSignInCount + 1
    failedSignInWindowStartedAt := c.failedSignInWindowStartedAt.or (some now) }

theorem id_windowCheckedContact (c : Contact) (now : Time) :
    (windowCheckedContact c now).id = c.id := by
  unfold windowCheckedContact
  split <;> rfl

theorem userId_windowCheckedContact (c : Contact) (now : Time) :
    (windowCheckedContact c now).userId = c.userId := by
  unfold windowCheckedContact
  split <;> rfl

/-- A window that is over is no reason to refuse a sign-in. -/
theorem windowCheckedContact_of_rateLimited {c : Contact} {now : Time}
    (hcount : signInFailuresBeforeRateLimit ≤ (windowCheckedContact c now).failedSignInCount) :
    windowCheckedContact c now = c := by
  unfold windowCheckedContact at hcount ⊢
  split
  · next hover =>
      rw [if_pos hover, clearedContact_failedSignInCount] at hcount
      exact absurd hcount (by decide)
  · rfl

section Contacts

variable {c : Contact}

/-- Updating the row of a contact by its key replaces this row. -/
theorem updateContact_of_mem (hc : c ∈ db.contacts) (f : Contact → Contact)
    (hid : ∀ row, (fun row : Contact => decide (row.id = c.id)) row = true →
      key (f row) = key row) :
    ({ db with contacts := db.contacts.updateWhere (fun row => row.id = c.id) f hid } : Db) =
      db.putContact (f c) := by
  unfold Db.putContact
  rw [Table.updateWhere_eq_put hc (by simp)
    fun row hrow h => Table.eq_of_key_eq hrow hc (by simpa using h)]

theorem putContact_self (hc : c ∈ db.contacts) : db.putContact c = db := by
  rw [Db.putContact, Table.put_self hc]

theorem clearFailedSignIns_of_mem (hc : c ∈ db.contacts) :
    clearFailedSignIns db c = (db.putContact (clearedContact c), clearedContact c) := by
  unfold clearFailedSignIns
  split
  · next hclear =>
      have hself : clearedContact c = c := by
        cases c
        simp_all [clearedContact]
      rw [hself, putContact_self hc]
  · exact congrArg (·, clearedContact c) (updateContact_of_mem hc clearedContact fun _ _ => rfl)

theorem restartExpiredFailureWindow_of_mem (hc : c ∈ db.contacts) (now : Time) :
    restartExpiredFailureWindow db c now =
      (db.putContact (windowCheckedContact c now), windowCheckedContact c now) := by
  unfold restartExpiredFailureWindow windowCheckedContact isFailureWindowOver
  cases c.failedSignInWindowStartedAt with
  | none => simp [putContact_self hc]
  | some startedAt =>
      by_cases hover : startedAt + signInFailureWindow ≤ now
      · simp [hover, clearFailedSignIns_of_mem hc]
      · simp [hover, putContact_self hc]

theorem recordFailedSignIn_of_mem (hc : c ∈ db.contacts) (now : Time) :
    recordFailedSignIn db c now = (db.putContact (failedContact c now), failedContact c now) :=
  congrArg (·, failedContact c now)
    (updateContact_of_mem hc (failedContact · now) fun _ _ => rfl)

/-- A contact is replaced quietly as long as its user stays. -/
theorem quiets_putContact {c' : Contact} (hc : c ∈ db.contacts) (hid : c'.id = c.id)
    (huser : c'.userId = c.userId) : Quiets input db (db.putContact c') := by
  have hview : ∀ k, ((db.contacts.put c').get? k).map Contact.userId =
      (db.contacts.get? k).map Contact.userId := by
    intro k
    rw [Table.get?_put]
    split
    · next hk =>
        have hfound : db.contacts.get? k = some c := by
          rw [hk, key_contact, hid]
          exact Table.get?_key hc
        simp [hfound, huser]
    · rfl
  exact Quiet.quiets (.contacts rfl hview)

end Contacts

/-! ### The answers -/

/-- The way a request of a device is answered, and the database afterwards. -/
inductive AccountAnswer (hashing : PasswordHashing) (db : Db) (deviceId : ℕ)
    (request : AccountRequest) (now : Time) : Db → ServerMessage → Prop
  | passwordInvalid
      (hpassword : ¬ isValidPassword (hashing.normalizePassword request.password)) :
      AccountAnswer hashing db deviceId request now db
        (buildRequestErrorReply .passwordInvalid (.account request))
  | created {device : Contact} {newUser : ℕ → User} {hkey : ∀ k, key (newUser k) = k} {db' : Db}
      {summary : Text} (hdevice : db.contacts.get? deviceId = some device)
      (hnew : db.userByLookup (normalizeUsernameForLookup request.username) = none)
      (husername : ∀ k, (newUser k).username.val = request.username)
      (hlink : linkDevice { db with users := db.users.insert newUser hkey } device
        (newUser db.users.nextKey) now = .ok (db', summary)) :
      AccountAnswer hashing db deviceId request now db'
        (.accountReply (newUser db.users.nextKey).username.val)
  | rateLimited {device : Contact} {user : User}
      (hdevice : db.contacts.get? deviceId = some device)
      (huser : db.userByLookup (normalizeUsernameForLookup request.username) = some user)
      (hcount : signInFailuresBeforeRateLimit ≤
        (windowCheckedContact device now).failedSignInCount) :
      AccountAnswer hashing db deviceId request now
        (db.putContact (windowCheckedContact device now))
        (buildRequestErrorReply .rateLimited (.account request))
  | wrongPassword {device : Contact} {user : User}
      (hdevice : db.contacts.get? deviceId = some device)
      (huser : db.userByLookup (normalizeUsernameForLookup request.username) = some user)
      (hcount : (windowCheckedContact device now).failedSignInCount <
        signInFailuresBeforeRateLimit)
      (hpassword : hashing.checkPassword (hashing.normalizePassword request.password)
        user.passwordHash = false) :
      AccountAnswer hashing db deviceId request now
        (db.putContact (failedContact (windowCheckedContact device now) now))
        (buildRequestErrorReply .wrongPassword (.account request))
  | signedIn {device : Contact} {user : User} {db' : Db} {summary : Text}
      (hdevice : db.contacts.get? deviceId = some device)
      (huser : db.userByLookup (normalizeUsernameForLookup request.username) = some user)
      (hcount : (windowCheckedContact device now).failedSignInCount <
        signInFailuresBeforeRateLimit)
      (hpassword : hashing.checkPassword (hashing.normalizePassword request.password)
        user.passwordHash = true)
      (hlink : linkDevice (db.putContact (clearedContact (windowCheckedContact device now)))
        (clearedContact (windowCheckedContact device now)) user now = .ok (db', summary)) :
      AccountAnswer hashing db deviceId request now db' (.accountReply user.username.val)

/-- A request for a new username that commits creates the account. -/
theorem createAccount_ok {hashing : PasswordHashing} {deviceId : ℕ} {device : Contact}
    {request : AccountRequest} {normalizedPassword salt : Text} {now : Time} {db' : Db}
    {outcome : AccountRequestOutcome} (hdevice : db.contacts.get? deviceId = some device)
    (hnew : db.userByLookup (normalizeUsernameForLookup request.username) = none)
    (h : createAccount hashing db device request normalizedPassword salt now =
      .ok (db', outcome)) :
    AccountAnswer hashing db deviceId request now db' outcome.reply := by
  unfold createAccount at h
  split at h
  · next husername =>
      simp only [bind, Except.bind, pure, Except.pure] at h
      split at h
      · simp at h
      · next linked hlink =>
          obtain ⟨rfl, rfl⟩ := Prod.mk.injEq .. ▸ Except.ok.inj h
          exact .created hdevice hnew (fun _ => rfl) hlink
  · simp at h

/-- A request for an existing username that commits is a sign-in. -/
theorem signIn_ok {hashing : PasswordHashing} {deviceId : ℕ} {device : Contact} {user : User}
    {request : AccountRequest} {now : Time} {db' : Db} {outcome : AccountRequestOutcome}
    (hdevice : db.contacts.get? deviceId = some device)
    (huser : db.userByLookup (normalizeUsernameForLookup request.username) = some user)
    (h : signIn hashing db device user request (hashing.normalizePassword request.password) now =
      .ok (db', outcome)) :
    AccountAnswer hashing db deviceId request now db' outcome.reply := by
  have hc := Table.mem_of_get? hdevice
  have hwindow : windowCheckedContact device now ∈
      (db.putContact (windowCheckedContact device now)).contacts :=
    Table.mem_put_self hc (id_windowCheckedContact device now)
  have hput : ∀ c' : Contact, c'.id = device.id →
      (db.putContact (windowCheckedContact device now)).putContact c' = db.putContact c' := by
    intro c' hid
    have hid' : key (windowCheckedContact device now) = key c' := by
      rw [key_contact, key_contact, hid, id_windowCheckedContact]
    simp [Db.putContact, Table.put_put hid']
  unfold signIn at h
  rw [restartExpiredFailureWindow_of_mem hc] at h
  dsimp only at h
  split at h
  · next hcount =>
      obtain ⟨rfl, rfl⟩ := Prod.mk.injEq .. ▸ Except.ok.inj h
      exact .rateLimited hdevice huser hcount
  · next hcount =>
      rw [recordFailedSignIn_of_mem hwindow, clearFailedSignIns_of_mem hwindow,
        hput (failedContact _ now) (id_windowCheckedContact device now),
        hput (clearedContact _) (id_windowCheckedContact device now)] at h
      dsimp only at h
      split at h
      · next hpassword =>
          obtain ⟨rfl, rfl⟩ := Prod.mk.injEq .. ▸ Except.ok.inj h
          exact .wrongPassword hdevice huser (not_le.1 hcount) (by simpa using hpassword)
      · next hpassword =>
          simp only [bind, Except.bind, pure, Except.pure] at h
          split at h
          · simp at h
          · next linked hlink =>
              obtain ⟨rfl, rfl⟩ := Prod.mk.injEq .. ▸ Except.ok.inj h
              exact .signedIn hdevice huser (not_le.1 hcount) (by simpa using hpassword) hlink

/-- **Every request that commits** is answered in one of these ways. -/
theorem registerOrSignIn_ok {hashing : PasswordHashing} {deviceId : ℕ} {request : AccountRequest}
    {salt : Text} {now : Time} {db' : Db} {outcome : AccountRequestOutcome}
    (h : registerOrSignIn hashing db deviceId request salt now = .ok (db', outcome)) :
    AccountAnswer hashing db deviceId request now db' outcome.reply := by
  unfold registerOrSignIn at h
  dsimp only at h
  split at h
  · next hpassword =>
      obtain ⟨rfl, rfl⟩ := Prod.mk.injEq .. ▸ Except.ok.inj h
      exact .passwordInvalid hpassword
  cases hdevice : db.contacts.get? deviceId with
  | none => simp [hdevice] at h
  | some device =>
      have hmem := Table.mem_of_get? hdevice
      rw [hdevice] at h
      dsimp only at h
      cases huser : db.userByLookup (normalizeUsernameForLookup request.username) with
      | none =>
          rw [huser] at h
          exact createAccount_ok hdevice huser h
      | some user =>
          rw [huser] at h
          exact signIn_ok hdevice huser h

/-! ### The answers as writes -/

/-- A device is linked, relinked or left alone. -/
theorem writes_linkDevice {device : Contact} {user : User} {now : Time} {db' : Db}
    {summary : Text} (hdevice : device ∈ db.contacts) (huser : user ∈ db.users)
    (hevent : ∃ request salt, input.event = .account device.id request salt now)
    (h : linkDevice db device user now = .ok (db', summary)) :
    Writes input (.settled, db) (.settled, db') := by
  unfold linkDevice at h
  split at h
  · obtain ⟨rfl, rfl⟩ := Prod.mk.injEq .. ▸ Except.ok.inj h
    exact .refl
  · next hother =>
      cases hprevious : device.userId with
      | none =>
          rw [hprevious] at h
          obtain ⟨rfl, rfl⟩ := Prod.mk.injEq .. ▸ Except.ok.inj h
          exact (Write.linked hdevice hprevious huser hevent).writes
      | some previousUserId =>
          rw [hprevious] at h
          dsimp only at h
          split at h
          · simp at h
          · obtain ⟨rfl, rfl⟩ := Prod.mk.injEq .. ▸ Except.ok.inj h
            exact (Write.relinked hdevice huser hother hevent).writes

/-- **A request of a device as writes.** -/
theorem AccountAnswer.writes {hashing : PasswordHashing} {deviceId : ℕ}
    {request : AccountRequest} {salt : Text} {now : Time} {db' : Db} {reply : ServerMessage}
    (h : AccountAnswer hashing db deviceId request now db' reply)
    (hevent : input.event = .account deviceId request salt now) :
    Writes input (.settled, db) (.settled, db') := by
  have hevent' : ∀ device, db.contacts.get? deviceId = some device → ∀ c : Contact,
      c.id = device.id → ∃ request salt, input.event = .account c.id request salt now := by
    intro device hdevice c hc
    have hid : device.id = deviceId := Table.key_of_get? hdevice
    exact ⟨request, salt, by rw [hevent, hc, hid]⟩
  cases h with
  | passwordInvalid => exact .refl
  | @created device newUser hkey _ _ hdevice hnew husername hlink =>
      have hfree : ∀ u ∈ db.users,
          u.usernameLookup ≠ (newUser db.users.nextKey).usernameLookup := by
        intro u hu heq
        have hlookup : u.usernameLookup = normalizeUsernameForLookup request.username := by
          rw [heq, User.usernameLookup, husername]
        exact absurd (Table.first?_eq_none.1 hnew u hu) (by simp [hlookup])
      have hmem : newUser db.users.nextKey ∈ db.users.insert newUser hkey :=
        (Table.mem_insert (h := hkey)).2 (.inr rfl)
      have hquiet : Quiet input db { db with users := db.users.insert newUser hkey } :=
        .newUser hfree
      exact (hquiet.quiets.writes .settled).trans
        (writes_linkDevice (Table.mem_of_get? hdevice) hmem (hevent' device hdevice device rfl)
          hlink)
  | @rateLimited device user hdevice =>
      exact (quiets_putContact (Table.mem_of_get? hdevice) (id_windowCheckedContact device now)
        (userId_windowCheckedContact device now)).writes .settled
  | @wrongPassword device user hdevice =>
      have hquiets : Quiets input db
          (db.putContact (failedContact (windowCheckedContact device now) now)) :=
        quiets_putContact (Table.mem_of_get? hdevice) (id_windowCheckedContact device now)
          (userId_windowCheckedContact device now)
      exact hquiets.writes .settled
  | @signedIn device user _ _ hdevice huser _ _ hlink =>
      have hc := Table.mem_of_get? hdevice
      have hquiets : Quiets input db
          (db.putContact (clearedContact (windowCheckedContact device now))) :=
        quiets_putContact hc (id_windowCheckedContact device now)
          (userId_windowCheckedContact device now)
      have hmem : clearedContact (windowCheckedContact device now) ∈
          (db.putContact (clearedContact (windowCheckedContact device now))).contacts :=
        Table.mem_put_self hc (id_windowCheckedContact device now)
      exact (hquiets.writes .settled).trans
        (writes_linkDevice hmem (userByLookup_eq_some huser).1
          (hevent' device hdevice _ (id_windowCheckedContact device now)) hlink)

end HoptalkRelay
