/-
**Texts, and the value rules of the protocol.**

A text is the list of its code points.  Python's strings are sequences of code points as well;
the only ones missing here are lone surrogates, which no text that came over UTF-8 holds, so the
surrogate checks of `protocol/text_validation.py` have nothing left to reject.  What the parser is
given may be any string, lone surrogates included: a plain text.

Main definitions:

* `HoptalkRelay.Text`, `HoptalkRelay.countUtf8Bytes`, `HoptalkRelay.decimal` — texts;
* `HoptalkRelay.PlainText`, `HoptalkRelay.plainText`, `HoptalkRelay.scalarValues?` — any string;
* `HoptalkRelay.isValidUsername`, `HoptalkRelay.normalizeUsernameForLookup` — usernames;
* `HoptalkRelay.isValidPartText`, `HoptalkRelay.isValidPassword` — part texts and passwords;
* `HoptalkRelay.Username`, `HoptalkRelay.MessageId` — the values the database constraints admit.
-/

import Mathlib.Data.Nat.Digits.Defs

set_option relaxedAutoImplicit false
set_option autoImplicit false

namespace HoptalkRelay

/-- A text: its code points in order. -/
abbrev Text := List Char

/-- The number of bytes of a text in UTF-8. -/
def countUtf8Bytes (text : Text) : ℕ := (text.map Char.utf8Size).sum

theorem countUtf8Bytes_append (text other : Text) :
    countUtf8Bytes (text ++ other) = countUtf8Bytes text + countUtf8Bytes other := by
  simp [countUtf8Bytes]

/-- The decimal digits of a number, as `str` prints them. -/
def decimal (n : ℕ) : Text := Nat.toDigits 10 n

/-! ### Any string -/

/-- A code point of a string: a Unicode scalar value, or a lone surrogate. -/
inductive CodePoint
  | scalar (c : Char)
  | surrogate (offset : Fin 0x800)
  deriving DecidableEq, Repr

/-- Any string, with the code points it came with. -/
abbrev PlainText := List CodePoint

def plainText (text : Text) : PlainText := text.map .scalar

/-- The text of a string without lone surrogates. -/
def scalarValues? : PlainText → Option Text
  | [] => some []
  | .scalar c :: rest => (scalarValues? rest).map (c :: ·)
  | .surrogate _ :: _ => none

/-- **A string without lone surrogates is a text.** -/
theorem scalarValues?_eq_some {string : PlainText} {text : Text} :
    scalarValues? string = some text ↔ string = plainText text := by
  constructor
  · intro h
    induction string generalizing text with
    | nil =>
        obtain rfl := Option.some.inj h
        rfl
    | cons c string ih =>
        cases c with
        | surrogate => simp [scalarValues?] at h
        | scalar c =>
            obtain ⟨rest, hrest, rfl⟩ := Option.map_eq_some_iff.mp h
            rw [ih hrest, plainText, plainText, List.map_cons]
  · rintro rfl
    induction text with
    | nil => rfl
    | cons c text ih =>
        have hcons : plainText (c :: text) = .scalar c :: plainText text := rfl
        rw [hcons, scalarValues?, ih, Option.map_some]

@[simp] theorem scalarValues?_plainText (text : Text) :
    scalarValues? (plainText text) = some text :=
  scalarValues?_eq_some.2 rfl

theorem plainText_injective {text other : Text} (h : plainText text = plainText other) :
    text = other := by
  have hsome := scalarValues?_plainText text
  rw [h, scalarValues?_plainText] at hsome
  exact (Option.some.inj hsome).symm

@[simp] theorem plainText_append (text other : Text) :
    plainText (text ++ other) = plainText text ++ plainText other :=
  List.map_append

@[simp] theorem plainText_cons (c : Char) (text : Text) :
    plainText (c :: text) = .scalar c :: plainText text := rfl

@[simp] theorem plainText_nil : plainText [] = [] := rfl

/-! ### Control characters and part texts -/

/-- C0 (U+0000 to U+001F), DEL (U+007F) and C1 (U+0080 to U+009F). -/
def isControlCharacter (c : Char) : Bool := c.toNat ≤ 0x1F || (0x7F ≤ c.toNat && c.toNat ≤ 0x9F)

/-- Tab, line feed, U+0020 to U+007E, and every Unicode scalar value from U+00A0 on. -/
def isAllowedPartTextCharacter (c : Char) : Bool :=
  c == '\t' || c == '\n' || !isControlCharacter c

def partTextMinimumBytes : ℕ := 1

def partTextMaximumBytes : ℕ := 104

/-- 1 to 104 bytes of UTF-8, no control character except tab and line feed. -/
def isValidPartText (partText : Text) : Bool :=
  partText.all isAllowedPartTextCharacter && partTextMinimumBytes ≤ countUtf8Bytes partText &&
    countUtf8Bytes partText ≤ partTextMaximumBytes

/-! ### Usernames -/

def usernameMinimumLength : ℕ := 3

def usernameMaximumLength : ℕ := 16

/-- 3 to 16 of `A-Z`, `a-z` and `0-9`. -/
def isValidUsername (username : Text) : Bool :=
  usernameMinimumLength ≤ username.length && username.length ≤ usernameMaximumLength &&
    username.all Char.isAlphanum

/-- The value `users.username_lookup` holds for the same username, in whatever case it was sent. -/
def normalizeUsernameForLookup (username : Text) : Text := username.map Char.toLower

/-- A username the check constraint of the users table admits. -/
abbrev Username := { username : Text // isValidUsername username = true }

/-! ### Passwords -/

def passwordMinimumCharacters : ℕ := 8

def passwordMaximumCharacters : ℕ := 64

def passwordMaximumBytes : ℕ := 64

/-- Check a password in NFC: 8 to 64 characters and at most 64 bytes of UTF-8, no control
character, and no space at the start or the end. -/
def isValidPassword (normalizedPassword : Text) : Bool :=
  !normalizedPassword.any isControlCharacter &&
    normalizedPassword.head? != some ' ' && normalizedPassword.getLast? != some ' ' &&
    passwordMinimumCharacters ≤ normalizedPassword.length &&
    normalizedPassword.length ≤ passwordMaximumCharacters &&
    countUtf8Bytes normalizedPassword ≤ passwordMaximumBytes

/-! ### Message ids -/

def messageIdMinimum : ℕ := 1

def messageIdMaximum : ℕ := 9999999999999999

/-- A client message id the check constraint of the messages table admits. -/
abbrev MessageId := { n : ℕ // messageIdMinimum ≤ n ∧ n ≤ messageIdMaximum }

end HoptalkRelay
