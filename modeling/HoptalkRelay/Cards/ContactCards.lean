/-
**MeshCore contact cards.**

The functions of `node/contact_cards.py` that read a pasted card: "meshcore://" followed by a signed
ADVERT packet in hex.  The verification of the Ed25519 signature is a parameter.  A read past the
end of the bytes is an error of its own here, as it is in Python, while a slice past the end is
silently short.

Main definitions:

* `HoptalkRelay.decodeCardBytes`, `HoptalkRelay.extractAdvertPayload`, `HoptalkRelay.parseAppData` —
  the layers of a card;
* `HoptalkRelay.truncateContactName` — names of at most 31 bytes;
* `HoptalkRelay.parseContactCardUri` — **the parser**.
-/

import HoptalkRelay.Formats.Octets
import HoptalkRelay.Protocol.TextRules

set_option relaxedAutoImplicit false
set_option autoImplicit false

namespace HoptalkRelay

open Formats

/-! ### The layout's numbers -/

def contactCardUriPrefix : Text := "meshcore://".toList

def contactNameMaximumBytes : ℕ := 31

def payloadTypeAdvert : ℕ := 0x04

def supportedPayloadVersion : ℕ := 0

def routeTypesWithTransportCodes : List ℕ := [0x00, 0x03]

def transportCodesSize : ℕ := 4

def maximumPathSize : ℕ := 64

/-- Path hash sizes are 1 to 3 bytes; the fourth encoding is reserved. -/
def reservedPathHashSize : ℕ := 4

def publicKeySize : ℕ := 32

def timestampSize : ℕ := 4

def signatureSize : ℕ := 64

/-- Receivers clamp app data to this size before they verify the signature. -/
def maximumAppDataSize : ℕ := 32

def signatureOffset : ℕ := publicKeySize + timestampSize

def appDataOffset : ℕ := signatureOffset + signatureSize

def flagHasLocation : ℕ := 0x10

def flagHasFeature1 : ℕ := 0x20

def flagHasFeature2 : ℕ := 0x40

def flagHasName : ℕ := 0x80

def nodeTypeMask : ℕ := 0x0F

def locationSize : ℕ := 8

def featureSize : ℕ := 2

/-! ### Strings and bytes -/

abbrev Bytes := List UInt8

/-- What reading a card may raise. -/
inductive ContactCardError
  /-- The text is not a well-formed card or its signature does not verify. -/
  | invalidContactCard (message : Text)
  /-- A byte past the end was read. -/
  | indexError
  deriving DecidableEq, Repr

def invalidContactCardError (message : String) : ContactCardError :=
  .invalidContactCard message.toList

def byteAt (bytes : Bytes) (offset : ℕ) : Except ContactCardError UInt8 :=
  match bytes[offset]? with
  | some byte => .ok byte
  | none => .error .indexError

def slice (bytes : Bytes) (start stop : ℕ) : Bytes := (bytes.drop start).take (stop - start)

/-- What `\s` matches in a string. -/
def isWhitespace (c : Char) : Bool :=
  let n := c.toNat
  (9 ≤ n && n ≤ 13) || (28 ≤ n && n ≤ 32) || n == 0x85 || n == 0xA0 || n == 0x1680 ||
    (0x2000 ≤ n && n ≤ 0x200A) || n == 0x2028 || n == 0x2029 || n == 0x202F || n == 0x205F ||
    n == 0x3000

def CodePoint.isWhitespace : CodePoint → Bool
  | .scalar c => HoptalkRelay.isWhitespace c
  | .surrogate _ => false

def removeWhitespace (string : PlainText) : PlainText :=
  string.filter fun codePoint => !codePoint.isWhitespace

/-- Beyond ASCII no lower case of a character starts with one of the letters of the card's prefix,
so ASCII letters are all that matters here. -/
def CodePoint.lower : CodePoint → CodePoint
  | .scalar c => .scalar c.toLower
  | .surrogate offset => .surrogate offset

/-! ### The layers of a card -/

structure ContactCard where
  /-- Lower-case hex of the 32-byte key. -/
  publicKey : Text
  advertTimestamp : ℕ
  nodeType : ℕ
  /-- Empty when the advert carries no name. -/
  name : Text
  latitudeMicrodegrees : ℤ
  longitudeMicrodegrees : ℤ
  /-- The card as pasted without whitespace. -/
  cardUri : PlainText
  deriving DecidableEq, Repr

structure AdvertDetails where
  nodeType : ℕ
  name : Text
  latitudeMicrodegrees : ℤ
  longitudeMicrodegrees : ℤ
  deriving DecidableEq, Repr

def decodeCardBytes (normalizedCardUri : PlainText) : Except ContactCardError Bytes :=
  if ¬ (plainText contactCardUriPrefix).isPrefixOf (normalizedCardUri.map CodePoint.lower) then
    .error (invalidContactCardError "A contact card starts with meshcore://.")
  else
    let cardHex := normalizedCardUri.drop contactCardUriPrefix.length
    match (scalarValues? cardHex).bind ofHex? with
    | none => .error
        (invalidContactCardError "The text after meshcore:// must be hexadecimal digits.")
    | some cardBytes =>
        if cardBytes = [] then .error (invalidContactCardError "The card is empty.")
        else .ok cardBytes

def extractAdvertPayload (cardBytes : Bytes) : Except ContactCardError Bytes := do
  let header ← byteAt cardBytes 0
  let routeType := header.toNat &&& 0x03
  let payloadType := header.toNat >>> 2 &&& 0x0F
  let payloadVersion := header.toNat >>> 6
  if payloadType ≠ payloadTypeAdvert then
    throw (.invalidContactCard ("This is a MeshCore packet of type ".toList ++
      decimal payloadType ++ ", not an advert.".toList))
  if payloadVersion ≠ supportedPayloadVersion then
    throw (.invalidContactCard ("Adverts of payload version ".toList ++ decimal payloadVersion ++
      " are not supported.".toList))
  let offset := if routeType ∈ routeTypesWithTransportCodes then 1 + transportCodesSize else 1
  if cardBytes.length ≤ offset then
    throw (invalidContactCardError "The card ends before its path length.")
  let encodedPathLength ← byteAt cardBytes offset
  let pathHashSize := (encodedPathLength.toNat >>> 6) + 1
  let pathHashCount := encodedPathLength.toNat &&& 0x3F
  let pathSize := pathHashSize * pathHashCount
  if pathHashSize = reservedPathHashSize ∨ maximumPathSize < pathSize then
    throw (invalidContactCardError "The card's path length is not valid.")
  let advertPayload := cardBytes.drop (offset + 1 + pathSize)
  if advertPayload.length < appDataOffset + 1 then
    throw (invalidContactCardError "The card is too short to hold a signed advert.")
  return advertPayload

/-- `verifies key fields signature` is false where the library raises ValueError. -/
def verifyAdvertSignature (verifies : Bytes → Bytes → Bytes → Bool)
    (publicKey signedFields signature : Bytes) : Except ContactCardError Unit :=
  if verifies publicKey (publicKey ++ signedFields) signature then .ok ()
  else .error (invalidContactCardError
    "The card's signature does not verify: it was changed or copied incompletely.")

/-- At most 31 bytes of UTF-8, cut at a character boundary. -/
def truncateContactName (name : Text) : Text :=
  decodeUtf8 ((encodeUtf8 name).take contactNameMaximumBytes)

def hasFlag (flags flag : ℕ) : Bool := flags &&& flag ≠ 0

def parseAppData (appData : Bytes) : Except ContactCardError AdvertDetails := do
  let flags := (← byteAt appData 0).toNat
  let afterFlags := 1
  if hasFlag flags flagHasLocation ∧ appData.length < afterFlags + locationSize then
    throw (invalidContactCardError "The card announces a location but does not hold one.")
  let (latitudeMicrodegrees, longitudeMicrodegrees, afterLocation) :=
    if hasFlag flags flagHasLocation then
      (signedLittleEndian (slice appData afterFlags (afterFlags + 4)),
        signedLittleEndian (slice appData (afterFlags + 4) (afterFlags + 8)),
        afterFlags + locationSize)
    else (0, 0, afterFlags)
  let afterFeature1 :=
    if hasFlag flags flagHasFeature1 then afterLocation + featureSize else afterLocation
  let afterFeature2 :=
    if hasFlag flags flagHasFeature2 then afterFeature1 + featureSize else afterFeature1
  -- bytes that are not valid UTF-8 are dropped, as the companion library does
  let name :=
    if hasFlag flags flagHasName then
      decodeUtf8 ((appData.drop afterFeature2).takeWhile (· ≠ 0))
    else []
  return { nodeType := flags &&& nodeTypeMask
           name := truncateContactName name
           latitudeMicrodegrees
           longitudeMicrodegrees }

/-- Decode the card and verify its signature. -/
def parseContactCardUri (verifies : Bytes → Bytes → Bytes → Bool) (contactCardUri : PlainText) :
    Except ContactCardError ContactCard := do
  let normalizedCardUri := removeWhitespace contactCardUri
  let cardBytes ← decodeCardBytes normalizedCardUri
  let advertPayload ← extractAdvertPayload cardBytes
  let publicKey := slice advertPayload 0 publicKeySize
  let timestampBytes := slice advertPayload publicKeySize signatureOffset
  let signature := slice advertPayload signatureOffset appDataOffset
  let appData := slice advertPayload appDataOffset (appDataOffset + maximumAppDataSize)
  verifyAdvertSignature verifies publicKey (timestampBytes ++ appData) signature
  let advertDetails ← parseAppData appData
  return { publicKey := toHex publicKey
           advertTimestamp := littleEndian timestampBytes
           nodeType := advertDetails.nodeType
           name := advertDetails.name
           latitudeMicrodegrees := advertDetails.latitudeMicrodegrees
           longitudeMicrodegrees := advertDetails.longitudeMicrodegrees
           cardUri := normalizedCardUri }

end HoptalkRelay
