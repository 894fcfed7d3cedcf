/-
**Part numbers, received-sets and part masks.**

A received-set has one character per part of a message, `1` when the part is held and `0` when it
is missing.  The database keeps the same information as a mask in which bit `n - 1` stands for
part `n`.  `calculate_all_parts_mask` and the conversions raise on a part count outside 1 to 10;
here a part count carries that range, as the check constraint of the messages table does, so there
is nothing left to raise.  A text that is no received-set is still refused by the conversion.

Main definitions:

* `HoptalkRelay.PartCount`, `HoptalkRelay.isValidPartNumbering` — part counts and part numbers;
* `HoptalkRelay.calculateAllPartsMask`, `HoptalkRelay.maskWithout` — masks;
* `HoptalkRelay.convertReceivedSetToPartsMask`, `HoptalkRelay.convertPartsMaskToReceivedSet` — the
  two conversions.
-/

import HoptalkRelay.Protocol.TextRules

set_option relaxedAutoImplicit false
set_option autoImplicit false

namespace HoptalkRelay

def maximumPartCount : ℕ := 10

/-- A part count the check constraint of the messages table admits. -/
abbrev PartCount := { n : ℕ // 1 ≤ n ∧ n ≤ maximumPartCount }

/-- Valid: `1 <= part_number <= part_count <= 10`. -/
def isValidPartNumbering (partNumber partCount : ℕ) : Bool :=
  1 ≤ partNumber && partNumber ≤ partCount && partCount ≤ maximumPartCount

/-- Every bit a mask may have: one per part of the longest message. -/
def partsMaskMaximum : ℕ := 2 ^ maximumPartCount - 1

/-- The mask of a message whose every part is held. -/
def calculateAllPartsMask (partCount : PartCount) : ℕ := 2 ^ partCount.val - 1

/-- The bits of `mask` that `removed` does not have: `mask & ~removed`. -/
def maskWithout (mask removed : ℕ) : ℕ := mask ^^^ (mask &&& removed)

/-- One to ten characters `0` and `1`. -/
def isReceivedSetField (field : Text) : Bool :=
  1 ≤ field.length && field.length ≤ maximumPartCount && field.all fun c => c == '0' || c == '1'

/-- An acknowledgement whose set has another length than its message has parts is dropped. -/
def receivedSetMatchesPartCount (receivedSet : Text) (partCount : PartCount) : Bool :=
  receivedSet.length == partCount.val

/-- The mask of the characters from position `partIndex` on. -/
def receivedSetMaskFrom (partIndex : ℕ) : Text → ℕ
  | [] => 0
  | c :: cs => (if c == '1' then 2 ^ partIndex else 0) ||| receivedSetMaskFrom (partIndex + 1) cs

/-- `none` stands for the `ValueError` of a text that is no received-set. -/
def convertReceivedSetToPartsMask (receivedSet : Text) : Option ℕ :=
  if isReceivedSetField receivedSet then some (receivedSetMaskFrom 0 receivedSet) else none

/-- One character per part, from the first part on; `none` stands for the `ValueError` of a mask
with a bit beyond the last part. -/
def convertPartsMaskToReceivedSet (partsMask : ℕ) (partCount : PartCount) : Option Text :=
  if partsMask ≤ calculateAllPartsMask partCount then
    some ((List.range partCount.val).map fun partIndex =>
      if partsMask.testBit partIndex then '1' else '0')
  else none

end HoptalkRelay
