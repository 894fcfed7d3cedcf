/-
**Numbers and texts as octets.**

What binary formats are made of: little-endian numbers, hexadecimal digits and UTF-8.  The decoder
of UTF-8 drops the octets that belong to no character, so it never fails, and of a text that was cut
somewhere it finds the characters that are whole.

Main definitions:

* `Formats.littleEndian`, `Formats.signedLittleEndian` — numbers, and back;
* `Formats.toHex`, `Formats.ofHex?` — digits;
* `Formats.encodeUtf8`, `Formats.decodeUtf8` — texts;
* `Formats.takeOctets` — the characters that fit.

Main results:

* `Formats.littleEndian_toLittleEndian`, `Formats.signedLittleEndian_toSignedLittleEndian`;
* `Formats.ofHex?_of_toLower` — digits of either case read back;
* `Formats.decodeUtf8_encodeUtf8` — a text reads back;
* `Formats.decodeUtf8_take` — **a text that was cut reads back as its whole characters**.
-/

import Mathlib.Data.List.Basic
import Mathlib.Tactic.Ring
import Mathlib.Tactic.NormNum

set_option relaxedAutoImplicit false
set_option autoImplicit false

namespace Formats

/-! ### Little-endian numbers -/

/-- The number whose least octet comes first. -/
def littleEndian (octets : List UInt8) : ℕ :=
  octets.foldr (fun octet number => octet.toNat + 256 * number) 0

/-- As many octets of a number. -/
def toLittleEndian : ℕ → ℕ → List UInt8
  | 0, _ => []
  | count + 1, number => UInt8.ofNat number :: toLittleEndian count (number / 256)

@[simp] theorem length_toLittleEndian (count number : ℕ) :
    (toLittleEndian count number).length = count := by
  induction count generalizing number with
  | zero => rfl
  | succ count ih => rw [toLittleEndian, List.length_cons, ih]

/-- **A number reads back** from enough octets. -/
theorem littleEndian_toLittleEndian {count number : ℕ} (h : number < 256 ^ count) :
    littleEndian (toLittleEndian count number) = number := by
  induction count generalizing number with
  | zero =>
      rw [pow_zero] at h
      obtain rfl : number = 0 := by omega
      rfl
  | succ count ih =>
      have hrest : number / 256 < 256 ^ count := by
        rw [pow_succ] at h
        omega
      change (UInt8.ofNat number).toNat + 256 * littleEndian (toLittleEndian count (number / 256)) =
        number
      rw [ih hrest, UInt8.toNat_ofNat']
      omega

/-- The same octets, with the sign in the highest bit. -/
def signedLittleEndian (octets : List UInt8) : ℤ :=
  if 2 * littleEndian octets < 256 ^ octets.length then (littleEndian octets : ℤ)
  else (littleEndian octets : ℤ) - 256 ^ octets.length

def toSignedLittleEndian (count : ℕ) (number : ℤ) : List UInt8 :=
  toLittleEndian count (number % 256 ^ count).toNat

@[simp] theorem length_toSignedLittleEndian (count : ℕ) (number : ℤ) :
    (toSignedLittleEndian count number).length = count :=
  length_toLittleEndian _ _

/-- **A signed number reads back** from enough octets. -/
theorem signedLittleEndian_toSignedLittleEndian {count : ℕ} {number : ℤ}
    (hlow : -(256 ^ count) ≤ 2 * number) (hhigh : 2 * number < 256 ^ count) :
    signedLittleEndian (toSignedLittleEndian count number) = number := by
  have hpos : (0 : ℤ) < 256 ^ count := by positivity
  have hcast : ((256 ^ count : ℕ) : ℤ) = 256 ^ count := by push_cast; rfl
  have hnonneg := Int.emod_nonneg number hpos.ne'
  have hlt := Int.emod_lt_of_pos number hpos
  have hread : littleEndian (toSignedLittleEndian count number) =
      (number % 256 ^ count).toNat := littleEndian_toLittleEndian (by omega)
  rw [signedLittleEndian, hread, length_toSignedLittleEndian, Int.toNat_of_nonneg hnonneg]
  rcases le_or_gt 0 number with hsign | hsign
  · have hmod : number % 256 ^ count = number := Int.emod_eq_of_lt hsign (by omega)
    rw [hmod, if_pos (by omega)]
  · have hmod : number % 256 ^ count = number + 256 ^ count := by
      rw [← Int.add_emod_right]
      exact Int.emod_eq_of_lt (by omega) (by omega)
    rw [hmod, if_neg (by omega)]
    omega

/-! ### Hexadecimal digits -/

def hexDigits : List Char := "0123456789abcdef".toList

/-- The value of a digit of either case. -/
def hexValue? (c : Char) : Option ℕ :=
  if '0' ≤ c ∧ c ≤ '9' then some (c.toNat - '0'.toNat)
  else if 'a' ≤ c ∧ c ≤ 'f' then some (c.toNat - 'a'.toNat + 10)
  else if 'A' ≤ c ∧ c ≤ 'F' then some (c.toNat - 'A'.toNat + 10)
  else none

def octetToHex (octet : UInt8) : List Char :=
  [hexDigits.getD (octet.toNat / 16) '0', hexDigits.getD (octet.toNat % 16) '0']

/-- Two lower-case digits for each octet. -/
def toHex (octets : List UInt8) : List Char := octets.flatMap octetToHex

/-- The octets of pairs of digits. -/
def ofHex? : List Char → Option (List UInt8)
  | [] => some []
  | [_] => none
  | high :: low :: rest =>
      match hexValue? high, hexValue? low with
      | some highValue, some lowValue =>
          (ofHex? rest).map (UInt8.ofNat (16 * highValue + lowValue) :: ·)
      | _, _ => none

@[simp] theorem toHex_cons (octet : UInt8) (octets : List UInt8) :
    toHex (octet :: octets) = octetToHex octet ++ toHex octets := rfl

/-- The case of a digit does not matter. -/
theorem hexValue?_toLower (c : Char) : hexValue? c.toLower = hexValue? c := by
  by_cases hupper : 'A' ≤ c ∧ c ≤ 'Z'
  · obtain ⟨hlow, hhigh⟩ := hupper
    have hlow' : 65 ≤ c.toNat := hlow
    have hhigh' : c.toNat ≤ 90 := hhigh
    have hall : ∀ n : Fin 26, hexValue? (Char.ofNat (65 + n.val)).toLower =
        hexValue? (Char.ofNat (65 + n.val)) := by decide
    have hc := hall ⟨c.toNat - 65, by omega⟩
    rwa [Nat.add_sub_cancel' hlow', Char.ofNat_toNat] at hc
  · have hsame : c.toLower = c := by
      unfold Char.toLower
      exact dif_neg hupper
    rw [hsame]

theorem ofHex?_map_toLower (digits : List Char) :
    ofHex? (digits.map Char.toLower) = ofHex? digits := by
  induction digits using ofHex?.induct with
  | case1 => rfl
  | case2 => rfl
  | case3 high low rest highValue lowValue hhigh hlow ih =>
      simp only [List.map_cons, ofHex?, hexValue?_toLower, hhigh, hlow, ih]
  | case4 high low rest hnone =>
      simp only [List.map_cons, ofHex?, hexValue?_toLower]

theorem ofHex?_octetToHex (octet : UInt8) (rest : List Char) :
    ofHex? (octetToHex octet ++ rest) = (ofHex? rest).map (octet :: ·) := by
  have hdigit : ∀ n : Fin 16, hexValue? (hexDigits.getD n.val '0') = some n.val := by decide
  have hhigh := hdigit ⟨octet.toNat / 16, Nat.div_lt_of_lt_mul octet.toNat_lt⟩
  have hlow := hdigit ⟨octet.toNat % 16, Nat.mod_lt _ (by omega)⟩
  have hoctet : UInt8.ofNat (16 * (octet.toNat / 16) + octet.toNat % 16) = octet := by
    rw [Nat.div_add_mod, UInt8.ofNat_toNat]
  simp only [octetToHex, List.cons_append, List.nil_append, ofHex?, hhigh, hlow, hoctet]

/-- **Octets read back** from their digits. -/
theorem ofHex?_toHex (octets : List UInt8) : ofHex? (toHex octets) = some octets := by
  induction octets with
  | nil => rfl
  | cons octet octets ih => rw [toHex_cons, ofHex?_octetToHex, ih, Option.map_some]

/-- **Digits of either case** read back. -/
theorem ofHex?_of_toLower {digits : List Char} {octets : List UInt8}
    (h : digits.map Char.toLower = toHex octets) : ofHex? digits = some octets := by
  rw [← ofHex?_map_toLower, h, ofHex?_toHex]

/-! ### UTF-8 -/

def encodeUtf8 (text : List Char) : List UInt8 := text.flatMap String.utf8EncodeChar

/-- After some octets that were read already: the character that starts here, or one octet is
dropped. -/
def decodeUtf8After : ℕ → List UInt8 → List Char
  | _, [] => []
  | skipped + 1, _ :: octets => decodeUtf8After skipped octets
  | 0, octet :: octets =>
      match (octet :: octets).toByteArray.utf8DecodeChar? 0 with
      | some c => c :: decodeUtf8After (c.utf8Size - 1) octets
      | none => decodeUtf8After 0 octets

/-- The characters of the octets; octets of no character are dropped. -/
def decodeUtf8 (octets : List UInt8) : List Char := decodeUtf8After 0 octets

@[simp] theorem encodeUtf8_nil : encodeUtf8 [] = [] := rfl

@[simp] theorem encodeUtf8_cons (c : Char) (text : List Char) :
    encodeUtf8 (c :: text) = String.utf8EncodeChar c ++ encodeUtf8 text := rfl

@[simp] theorem decodeUtf8_nil : decodeUtf8 [] = [] := rfl

theorem length_encodeUtf8 (text : List Char) :
    (encodeUtf8 text).length = (text.map Char.utf8Size).sum := by
  induction text with
  | nil => rfl
  | cons c text ih =>
      rw [encodeUtf8_cons, List.length_append, ih, String.length_utf8EncodeChar, List.map_cons,
        List.sum_cons]

theorem decodeUtf8After_eq_drop (skipped : ℕ) (octets : List UInt8) :
    decodeUtf8After skipped octets = decodeUtf8 (octets.drop skipped) := by
  induction octets generalizing skipped with
  | nil => cases skipped <;> rfl
  | cons octet octets ih =>
      cases skipped with
      | zero => rfl
      | succ skipped => exact ih skipped

/-- The character that starts at the first octet is read, else that octet is dropped. -/
theorem decodeUtf8_cons (octet : UInt8) (octets : List UInt8) :
    decodeUtf8 (octet :: octets) =
      ((octet :: octets).toByteArray.utf8DecodeChar? 0).elim (decodeUtf8 octets)
        fun c => c :: decodeUtf8 (octets.drop (c.utf8Size - 1)) := by
  rw [decodeUtf8, decodeUtf8After]
  cases (octet :: octets).toByteArray.utf8DecodeChar? 0 with
  | none => rfl
  | some c => exact congrArg (c :: ·) (decodeUtf8After_eq_drop _ octets)

/-- The first octet of a character. -/
theorem utf8EncodeChar_eq_cons (c : Char) :
    ∃ octet octets, String.utf8EncodeChar c = octet :: octets ∧
      octets.length = c.utf8Size - 1 := by
  have hlength := String.length_utf8EncodeChar c
  have hpos := c.utf8Size_pos
  cases hencoded : String.utf8EncodeChar c with
  | nil =>
      rw [hencoded, List.length_nil] at hlength
      omega
  | cons octet octets =>
      rw [hencoded, List.length_cons] at hlength
      exact ⟨octet, octets, rfl, by omega⟩

/-- **A character reads back.** -/
theorem decodeUtf8_char (c : Char) (rest : List UInt8) :
    decodeUtf8 (String.utf8EncodeChar c ++ rest) = c :: decodeUtf8 rest := by
  obtain ⟨octet, octets, hencoded, hlength⟩ := utf8EncodeChar_eq_cons c
  have hdecoded : (octet :: (octets ++ rest)).toByteArray.utf8DecodeChar? 0 = some c := by
    have hchar := @ByteArray.utf8DecodeChar?_utf8EncodeChar_append rest.toByteArray c
    rwa [hencoded, ← List.toByteArray_append, List.cons_append] at hchar
  rw [hencoded, List.cons_append, decodeUtf8_cons, hdecoded, Option.elim_some, ← hlength,
    List.drop_left]

/-- **A text reads back.** -/
theorem decodeUtf8_encodeUtf8 (text : List Char) : decodeUtf8 (encodeUtf8 text) = text := by
  induction text with
  | nil => rfl
  | cons c text ih => rw [encodeUtf8_cons, decodeUtf8_char, ih]

/-- A character that is read is there. -/
theorem utf8EncodeChar_isPrefix {octets : List UInt8} {c : Char}
    (h : octets.toByteArray.utf8DecodeChar? 0 = some c) :
    String.utf8EncodeChar c <+: octets := by
  have hextract := String.toByteArray_utf8EncodeChar_of_utf8DecodeChar?_eq_some h
  have hlist := congrArg (fun bytes : ByteArray => bytes.data.toList) hextract
  simp only [List.data_toByteArray, ByteArray.data_extract, Array.toList_extract,
    List.extract_eq_take_drop, List.drop_zero] at hlist
  rw [hlist]
  exact List.take_prefix _ _

/-- A character that is read from the octets of another one starts with them and ends with them. -/
theorem utf8DecodeChar?_inside {c : Char} {before inside after : List UInt8}
    (h : String.utf8EncodeChar c = before ++ inside ++ after) (hafter : after ≠ []) :
    inside.toByteArray.utf8DecodeChar? 0 = none := by
  by_contra hsome
  obtain ⟨d, hd⟩ := Option.ne_none_iff_exists'.1 hsome
  obtain ⟨rest, hrest⟩ := utf8EncodeChar_isPrefix hd
  cases before with
  | nil =>
      have hsame : c = d := by
        have hread := decodeUtf8_char d (rest ++ after)
        rw [← List.append_assoc, hrest] at hread
        rw [List.nil_append] at h
        rw [← h, ← List.append_nil (String.utf8EncodeChar c), decodeUtf8_char] at hread
        exact (List.cons.inj hread).1
      have hlength := congrArg List.length h
      rw [← hrest, hsame] at hlength
      simp only [List.nil_append, List.length_append] at hlength
      exact hafter (List.eq_nil_of_length_eq_zero (by omega))
  | cons octet before =>
      obtain ⟨first, others, hfirst, -⟩ := utf8EncodeChar_eq_cons d
      have hinside : inside = first :: (others ++ rest) := by
        rw [← hrest, hfirst, List.cons_append]
      have hstarts := ByteArray.isUTF8FirstByte_of_isSome_utf8DecodeChar?
        (Option.isSome_of_eq_some hd)
      rw [List.getElem_toByteArray] at hstarts
      simp only [hinside, List.getElem_cons_zero] at hstarts
      have hindex : before.length + 1 < (String.utf8EncodeChar c).length := by
        rw [h, hinside]
        simp
      have hoctet : (String.utf8EncodeChar c)[before.length + 1] = first := by
        simp [h, hinside]
      rw [← hoctet, UInt8.isUTF8FirstByte_getElem_utf8EncodeChar] at hstarts
      omega

/-- The octets of a character that was cut are dropped. -/
theorem decodeUtf8_of_inside {c : Char} {before inside after : List UInt8}
    (h : String.utf8EncodeChar c = before ++ inside ++ after) (hafter : after ≠ []) :
    decodeUtf8 inside = [] := by
  induction inside generalizing before with
  | nil => rfl
  | cons octet inside ih =>
      rw [decodeUtf8_cons, utf8DecodeChar?_inside h hafter, Option.elim_none]
      refine @ih (before ++ [octet]) ?_
      rw [h]
      simp

/-- The characters that fit into so many octets. -/
def takeOctets : ℕ → List Char → List Char
  | _, [] => []
  | n, c :: text => if c.utf8Size ≤ n then c :: takeOctets (n - c.utf8Size) text else []

theorem takeOctets_nil (n : ℕ) : takeOctets n [] = [] := rfl

theorem takeOctets_cons (n : ℕ) (c : Char) (text : List Char) : takeOctets n (c :: text) =
    if c.utf8Size ≤ n then c :: takeOctets (n - c.utf8Size) text else [] := rfl

/-- **A text that was cut** reads back as its whole characters. -/
theorem decodeUtf8_take (n : ℕ) (text : List Char) :
    decodeUtf8 ((encodeUtf8 text).take n) = takeOctets n text := by
  induction text generalizing n with
  | nil => rw [encodeUtf8_nil, List.take_nil, decodeUtf8_nil, takeOctets_nil]
  | cons c text ih =>
      have hlength := String.length_utf8EncodeChar c
      rw [encodeUtf8_cons, takeOctets_cons]
      by_cases hfits : c.utf8Size ≤ n
      · rw [if_pos hfits, List.take_append, List.take_of_length_le (by omega), decodeUtf8_char,
          hlength, ih]
      · rw [if_neg hfits, List.take_append_of_le_length (by omega)]
        refine @decodeUtf8_of_inside c [] _ ((String.utf8EncodeChar c).drop n) ?_ ?_
        · rw [List.nil_append, List.take_append_drop]
        · intro hnil
          have hle := List.drop_eq_nil_iff.1 hnil
          omega

theorem takeOctets_isPrefix (n : ℕ) (text : List Char) : takeOctets n text <+: text := by
  induction text generalizing n with
  | nil => exact List.prefix_refl _
  | cons c text ih =>
      rw [takeOctets_cons]
      split
      · exact List.prefix_cons_inj c |>.2 (ih _)
      · exact List.nil_prefix

theorem length_takeOctets_le (n : ℕ) (text : List Char) :
    (encodeUtf8 (takeOctets n text)).length ≤ n := by
  induction text generalizing n with
  | nil => exact Nat.zero_le n
  | cons c text ih =>
      rw [takeOctets_cons]
      split
      · rw [encodeUtf8_cons, List.length_append, String.length_utf8EncodeChar]
        have hrest := ih (n - c.utf8Size)
        omega
      · exact Nat.zero_le n

/-- **No longer beginning of the text fits.** -/
theorem isPrefix_takeOctets {n : ℕ} {text start : List Char} (hstart : start <+: text)
    (hfits : (encodeUtf8 start).length ≤ n) : start <+: takeOctets n text := by
  induction text generalizing n start with
  | nil =>
      rw [List.prefix_nil.1 hstart]
      exact List.nil_prefix
  | cons c text ih =>
      cases start with
      | nil => exact List.nil_prefix
      | cons d start =>
          obtain ⟨rfl, hrest⟩ := List.cons_prefix_cons.1 hstart
          rw [encodeUtf8_cons, List.length_append, String.length_utf8EncodeChar] at hfits
          rw [takeOctets_cons, if_pos (by omega)]
          exact List.cons_prefix_cons.2 ⟨rfl, ih hrest (by omega)⟩

/-- A text that fits is not cut. -/
theorem takeOctets_of_le {n : ℕ} {text : List Char} (h : (encodeUtf8 text).length ≤ n) :
    takeOctets n text = text := by
  have hwhole := isPrefix_takeOctets (List.prefix_refl text) h
  exact (takeOctets_isPrefix n text).eq_of_length_le hwhole.length_le

/-- Only NUL has a zero octet. -/
theorem zero_notMem_utf8EncodeChar {c : Char} (h : c ≠ '\x00') :
    0 ∉ String.utf8EncodeChar c := by
  have hval : c.val.toNat ≠ 0 := by
    intro hzero
    exact h (Char.ext (UInt32.toNat_inj.1 hzero))
  have hnonzero : ∀ k : ℕ, k % 256 ≠ 0 → (0 : UInt8) ≠ UInt8.ofNat k := by
    intro k hk heq
    have hnat := congrArg UInt8.toNat heq
    rw [UInt8.toNat_ofNat'] at hnat
    exact hk hnat.symm
  intro hmem
  unfold String.utf8EncodeChar at hmem
  dsimp only at hmem
  split at hmem
  · rw [List.mem_singleton] at hmem
    exact hnonzero _ (by omega) hmem
  · split at hmem
    · rcases List.mem_pair.1 hmem with heq | heq <;> exact hnonzero _ (by omega) heq
    · split at hmem
      · simp only [List.mem_cons, List.not_mem_nil, or_false] at hmem
        rcases hmem with heq | heq | heq <;> exact hnonzero _ (by omega) heq
      · simp only [List.mem_cons, List.not_mem_nil, or_false] at hmem
        rcases hmem with heq | heq | heq | heq <;> exact hnonzero _ (by omega) heq

theorem zero_notMem_encodeUtf8 {text : List Char} (h : '\x00' ∉ text) : 0 ∉ encodeUtf8 text := by
  intro hmem
  obtain ⟨c, hc, hzero⟩ := List.mem_flatMap.1 hmem
  refine zero_notMem_utf8EncodeChar ?_ hzero
  rintro rfl
  exact h hc

end Formats
