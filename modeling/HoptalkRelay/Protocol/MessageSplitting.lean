/-
**The reference splitter.**

The functions of `protocol/message_splitting.py`.  The server never splits a text; clients do, as
section 8.1 of the protocol describes, and this is the algorithm they share.  The segmenter that
finds the grapheme clusters of a text is passed in.

Main definitions:

* `HoptalkRelay.PartPacker` — parts that are filled greedily;
* `HoptalkRelay.packUnitsIntoParts` — units into parts;
* `HoptalkRelay.splitMessageText` — **the splitter**.
-/

import HoptalkRelay.Protocol.PartMasks
import HoptalkRelay.Protocol.TextRules

set_option relaxedAutoImplicit false
set_option autoImplicit false

namespace HoptalkRelay

def longestCodePointBytes : ℕ := 4

/-- Why a text is not split. -/
inductive SplittingError
  | emptyText
  | characterNotAllowed
  | piecesDoNotJoin
  | partWithoutRoomForACodePoint
  /-- The text needs more than 10 parts of 104 bytes. -/
  | messageTooLong (messageTextBytes requiredPartCount : ℕ)
  deriving DecidableEq, Repr

/-! ### Packing -/

/-- Fills parts greedily: a unit that does not fit into the current part starts the next one. -/
structure PartPacker where
  partByteBudget : ℕ
  finishedParts : List Text := []
  currentPartUnits : List Text := []
  currentPartBytes : ℕ := 0
  deriving DecidableEq, Repr

namespace PartPacker

def finishCurrentPart (packer : PartPacker) : PartPacker :=
  { packer with
    finishedParts :=
      if packer.currentPartUnits = [] then packer.finishedParts
      else packer.finishedParts ++ [packer.currentPartUnits.flatten]
    currentPartUnits := []
    currentPartBytes := 0 }

def addUnit (packer : PartPacker) (unit : Text) : PartPacker :=
  let unitBytes := countUtf8Bytes unit
  let packer :=
    if packer.partByteBudget < packer.currentPartBytes + unitBytes then packer.finishCurrentPart
    else packer
  { packer with
    currentPartUnits := packer.currentPartUnits ++ [unit]
    currentPartBytes := packer.currentPartBytes + unitBytes }

def finish (packer : PartPacker) : List Text := packer.finishCurrentPart.finishedParts

end PartPacker

/-- Iterating a string yields its code points. -/
def codePoints (text : Text) : List Text := text.map fun codePoint => [codePoint]

/-- A unit longer than a whole part is packed code point by code point. -/
def addUnitOrCodePoints (packer : PartPacker) (unit : Text) : PartPacker :=
  if packer.partByteBudget < countUtf8Bytes unit then
    (codePoints unit).foldl PartPacker.addUnit packer
  else packer.addUnit unit

/-- Pack units greedily, cutting only a unit longer than a whole part. -/
def packUnitsIntoParts (units : List Text) (partByteBudget : ℕ) :
    Except SplittingError (List Text) :=
  if partByteBudget < longestCodePointBytes then .error .partWithoutRoomForACodePoint
  else .ok (units.foldl addUnitOrCodePoints { partByteBudget }).finish

/-! ### Splitting -/

def requireSplittableMessageText (messageText : Text) : Except SplittingError Unit :=
  if messageText = [] then .error .emptyText
  else if ¬ messageText.all isAllowedPartTextCharacter then .error .characterNotAllowed
  else .ok ()

/-- Split a text into the fewest parts, keeping grapheme clusters whole when that costs no extra
part. -/
def splitMessageText (messageText : Text) (splitIntoGraphemeClusters : Text → List Text) :
    Except SplittingError (List Text) := do
  requireSplittableMessageText messageText
  let graphemeClusters := splitIntoGraphemeClusters messageText
  if graphemeClusters.flatten ≠ messageText then throw .piecesDoNotJoin
  let codePointParts ← packUnitsIntoParts (codePoints messageText) partTextMaximumBytes
  let graphemeParts ← packUnitsIntoParts graphemeClusters partTextMaximumBytes
  let parts :=
    if graphemeParts.length = codePointParts.length then graphemeParts else codePointParts
  if maximumPartCount < parts.length then
    throw (.messageTooLong (countUtf8Bytes messageText) parts.length)
  return parts

end HoptalkRelay
