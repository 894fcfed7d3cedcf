/-
**The contact card parser inverts the card layout.**

A card of the layout has a header byte, transport codes for two of the four route types, a path, and
the signed advert: key, timestamp, signature and at most 32 bytes of app data, which start with the
flags of what they hold.  Written as hex after the prefix it parses back to its fields, and any
other string ends in the parser's own error.

Main definitions:

* `HoptalkRelay.AdvertAppData`, `HoptalkRelay.CardLayout` — cards that are well formed;
* `HoptalkRelay.CardLayout.encode` — their bytes;
* `HoptalkRelay.SpellsCard` — the strings that spell some bytes as a card.

Main results:

* `HoptalkRelay.parseAppData_encode`, `HoptalkRelay.extractAdvertPayload_encode`,
  `HoptalkRelay.decodeCardBytes_of_spells` — each layer is inverted;
* `HoptalkRelay.parse_contact_card_uri_correct` — **the parser is total, and inverts the layout**.
-/

import HoptalkRelay.Cards.ContactCards
import Mathlib.Data.List.TakeWhile

set_option relaxedAutoImplicit false
set_option autoImplicit false

namespace HoptalkRelay

open Formats

/-! ### The layout -/

/-- App data: flags, and the fields they announce. -/
structure AdvertAppData where
  nodeType : Fin 16
  /-- Latitude and longitude. -/
  location : Option (Int32 × Int32)
  feature1 : Option (UInt8 × UInt8)
  feature2 : Option (UInt8 × UInt8)
  name : Option Text
  noNul : ∀ text, name = some text → '\x00' ∉ text

namespace AdvertAppData

def flags (appData : AdvertAppData) : ℕ :=
  appData.nodeType + (if appData.location.isSome then flagHasLocation else 0) +
    (if appData.feature1.isSome then flagHasFeature1 else 0) +
    (if appData.feature2.isSome then flagHasFeature2 else 0) +
    (if appData.name.isSome then flagHasName else 0)

def encodeLocation : Option (Int32 × Int32) → Bytes
  | none => []
  | some (latitude, longitude) =>
      toSignedLittleEndian 4 latitude.toInt ++ toSignedLittleEndian 4 longitude.toInt

def encodeFeature : Option (UInt8 × UInt8) → Bytes
  | none => []
  | some (low, high) => [low, high]

def encode (appData : AdvertAppData) : Bytes :=
  UInt8.ofNat appData.flags :: (encodeLocation appData.location ++
    (encodeFeature appData.feature1 ++ (encodeFeature appData.feature2 ++
      encodeUtf8 (appData.name.getD []))))

def details (appData : AdvertAppData) : AdvertDetails :=
  { nodeType := appData.nodeType
    name := appData.name.getD []
    latitudeMicrodegrees := (appData.location.map fun location => location.1.toInt).getD 0
    longitudeMicrodegrees := (appData.location.map fun location => location.2.toInt).getD 0 }

end AdvertAppData

/-- A card of an advert of version 0. -/
structure CardLayout where
  routeType : Fin 4
  /-- Part of the card for the two transport route types. -/
  transportCodes : Vector UInt8 4
  pathHashSize : ℕ
  pathHashSize_pos : 1 ≤ pathHashSize
  pathHashSize_le : pathHashSize ≤ 3
  pathHashCount : Fin 64
  path : Bytes
  path_length : path.length = pathHashSize * pathHashCount
  path_fits : path.length ≤ maximumPathSize
  publicKey : Vector UInt8 32
  advertTimestamp : UInt32
  signature : Vector UInt8 64
  appData : AdvertAppData
  appData_fits : appData.encode.length ≤ maximumAppDataSize

namespace CardLayout

def header (layout : CardLayout) : UInt8 :=
  UInt8.ofNat (layout.routeType + 4 * payloadTypeAdvert)

def encodedTransportCodes (layout : CardLayout) : Bytes :=
  if layout.routeType.val ∈ routeTypesWithTransportCodes then layout.transportCodes.toList else []

def encodedPathLength (layout : CardLayout) : UInt8 :=
  UInt8.ofNat (64 * (layout.pathHashSize - 1) + layout.pathHashCount)

def timestampBytes (layout : CardLayout) : Bytes := toLittleEndian 4 layout.advertTimestamp.toNat

/-- The signed advert. -/
def advertPayload (layout : CardLayout) : Bytes :=
  layout.publicKey.toList ++
    (layout.timestampBytes ++ (layout.signature.toList ++ layout.appData.encode))

def encode (layout : CardLayout) : Bytes :=
  layout.header :: (layout.encodedTransportCodes ++
    layout.encodedPathLength :: (layout.path ++ layout.advertPayload))

/-- The card, however it was spelled. -/
def card (layout : CardLayout) (cardUri : PlainText) : ContactCard :=
  { publicKey := toHex layout.publicKey.toList
    advertTimestamp := layout.advertTimestamp.toNat
    nodeType := layout.appData.details.nodeType
    name := layout.appData.details.name
    latitudeMicrodegrees := layout.appData.details.latitudeMicrodegrees
    longitudeMicrodegrees := layout.appData.details.longitudeMicrodegrees
    cardUri }

end CardLayout

/-- The prefix and the bytes in hex, in any letter case and with whitespace anywhere. -/
def SpellsCard (contactCardUri : PlainText) (cardBytes : Bytes) : Prop :=
  (removeWhitespace contactCardUri).map CodePoint.lower =
    plainText (contactCardUriPrefix ++ toHex cardBytes)

instance (contactCardUri : PlainText) (cardBytes : Bytes) :
    Decidable (SpellsCard contactCardUri cardBytes) :=
  inferInstanceAs (Decidable (_ = _))

/-! ### Slices -/

theorem byteAt_append {first second : Bytes} {byte : UInt8} {offset : ℕ}
    (h : first.length = offset) : byteAt (first ++ byte :: second) offset = .ok byte := by
  subst h
  simp [byteAt]

theorem slice_append {first middle last : Bytes} {start stop : ℕ} (hfirst : first.length = start)
    (hmiddle : start + middle.length = stop) :
    slice (first ++ (middle ++ last)) start stop = middle := by
  subst hfirst hmiddle
  rw [slice, List.drop_left, Nat.add_sub_cancel_left, List.take_left]

/-- A slice that ends past the end. -/
theorem slice_of_le {first last : Bytes} {start stop : ℕ} (hfirst : first.length = start)
    (hstop : start + last.length ≤ stop) : slice (first ++ last) start stop = last := by
  subst hfirst
  rw [slice, List.drop_left, List.take_of_length_le (by omega)]

/-! ### App data -/

section AppData

variable (appData : AdvertAppData)

theorem flags_bits (nodeType : Fin 16) (location feature1 feature2 name : Bool) :
    let flags := nodeType.val + (if location then flagHasLocation else 0) +
      (if feature1 then flagHasFeature1 else 0) + (if feature2 then flagHasFeature2 else 0) +
      (if name then flagHasName else 0)
    flags < 256 ∧ hasFlag flags flagHasLocation = location ∧
      hasFlag flags flagHasFeature1 = feature1 ∧ hasFlag flags flagHasFeature2 = feature2 ∧
      hasFlag flags flagHasName = name ∧ flags &&& nodeTypeMask = nodeType.val := by
  revert nodeType location feature1 feature2 name
  decide +kernel

theorem length_encodeLocation (location : Option (Int32 × Int32)) :
    (AdvertAppData.encodeLocation location).length =
      if location.isSome then locationSize else 0 := by
  rcases location with _ | ⟨latitude, longitude⟩
  · rfl
  · simp [AdvertAppData.encodeLocation, locationSize]

theorem length_encodeFeature (feature : Option (UInt8 × UInt8)) :
    (AdvertAppData.encodeFeature feature).length = if feature.isSome then featureSize else 0 := by
  rcases feature with _ | ⟨low, high⟩ <;> rfl

theorem signedLittleEndian_int32 (number : Int32) :
    signedLittleEndian (toSignedLittleEndian 4 number.toInt) = number.toInt := by
  have hlow := Int32.le_toInt number
  have hhigh := Int32.toInt_lt number
  refine signedLittleEndian_toSignedLittleEndian ?_ ?_ <;> norm_num at * <;> omega

/-- The name is all of the app data after the other fields. -/
theorem decodeUtf8_name :
    decodeUtf8 ((encodeUtf8 (appData.name.getD [])).takeWhile (· ≠ 0)) =
      appData.name.getD [] := by
  have hzero : 0 ∉ encodeUtf8 (appData.name.getD []) := by
    refine zero_notMem_encodeUtf8 ?_
    cases hname : appData.name with
    | none => exact List.not_mem_nil
    | some text => exact appData.noNul text hname
  have hall := List.takeWhile_eq_self_iff.2 fun octet (hoctet : octet ∈ encodeUtf8 _) =>
    (decide_eq_true fun heq => hzero (heq ▸ hoctet) : decide (octet ≠ 0) = true)
  rw [hall, decodeUtf8_encodeUtf8]

/-- What comes before the name. -/
theorem drop_encode :
    appData.encode.drop (1 + (if appData.location.isSome then locationSize else 0) +
      (if appData.feature1.isSome then featureSize else 0) +
      (if appData.feature2.isSome then featureSize else 0)) =
        encodeUtf8 (appData.name.getD []) := by
  rw [← length_encodeLocation, ← length_encodeFeature, ← length_encodeFeature,
    AdvertAppData.encode]
  rw [← List.drop_drop, ← List.drop_drop, ← List.drop_drop, List.drop_one, List.tail_cons,
    List.drop_left, List.drop_left, List.drop_left]

/-- A name in the app data is never too long. -/
theorem truncateContactName_of_fits (hfits : appData.encode.length ≤ maximumAppDataSize) :
    truncateContactName (appData.name.getD []) = appData.name.getD [] := by
  have hlength : (encodeUtf8 (appData.name.getD [])).length ≤ contactNameMaximumBytes := by
    have hdrop := congrArg List.length (drop_encode appData)
    rw [List.length_drop] at hdrop
    have hmaximum : maximumAppDataSize = contactNameMaximumBytes + 1 := rfl
    omega
  rw [truncateContactName, decodeUtf8_take, takeOctets_of_le hlength]

/-- A location that is announced is there, and what it announces reads back. -/
theorem slices_encode :
    (if appData.location.isSome = true then
        (signedLittleEndian (slice appData.encode 1 (1 + 4)),
          signedLittleEndian (slice appData.encode (1 + 4) (1 + 8)), 1 + locationSize)
      else (0, 0, 1)) =
      (appData.details.latitudeMicrodegrees, appData.details.longitudeMicrodegrees,
        1 + if appData.location.isSome then locationSize else 0) := by
  cases hlocation : appData.location with
  | none => simp [AdvertAppData.details, hlocation]
  | some location =>
      obtain ⟨latitude, longitude⟩ := location
      have hencode : appData.encode = [UInt8.ofNat appData.flags] ++
          (toSignedLittleEndian 4 latitude.toInt ++ (toSignedLittleEndian 4 longitude.toInt ++
            (AdvertAppData.encodeFeature appData.feature1 ++
              (AdvertAppData.encodeFeature appData.feature2 ++
                encodeUtf8 (appData.name.getD []))))) := by
        simp [AdvertAppData.encode, AdvertAppData.encodeLocation, hlocation]
      have hlatitude : slice appData.encode 1 (1 + 4) = toSignedLittleEndian 4 latitude.toInt := by
        rw [hencode]
        exact slice_append rfl (by rw [length_toSignedLittleEndian])
      have hlongitude : slice appData.encode (1 + 4) (1 + 8) =
          toSignedLittleEndian 4 longitude.toInt := by
        rw [hencode, ← List.append_assoc]
        refine slice_append ?_ (by rw [length_toSignedLittleEndian])
        rw [List.length_append, length_toSignedLittleEndian, List.length_singleton]
      rw [hlatitude, hlongitude, signedLittleEndian_int32, signedLittleEndian_int32]
      simp [AdvertAppData.details, hlocation]

/-- **App data reads back.** -/
theorem parseAppData_encode (hfits : appData.encode.length ≤ maximumAppDataSize) :
    parseAppData appData.encode = .ok appData.details := by
  obtain ⟨hlt, hlocation, hfeature1, hfeature2, hname, htype⟩ := flags_bits appData.nodeType
    appData.location.isSome appData.feature1.isSome appData.feature2.isSome appData.name.isSome
  have hflags : (UInt8.ofNat appData.flags).toNat = appData.flags := by
    rw [UInt8.toNat_ofNat']
    exact Nat.mod_eq_of_lt hlt
  have hbyte : byteAt appData.encode 0 = .ok (UInt8.ofNat appData.flags) := rfl
  change hasFlag appData.flags flagHasLocation = _ at hlocation
  change hasFlag appData.flags flagHasFeature1 = _ at hfeature1
  change hasFlag appData.flags flagHasFeature2 = _ at hfeature2
  change hasFlag appData.flags flagHasName = _ at hname
  change appData.flags &&& nodeTypeMask = _ at htype
  have hholds : ¬ (appData.location.isSome = true ∧ appData.encode.length < 1 + locationSize) := by
    rintro ⟨hsome, hshort⟩
    rw [AdvertAppData.encode, List.length_cons, List.length_append, length_encodeLocation,
      if_pos hsome] at hshort
    omega
  have hoffset : ∀ start : ℕ,
      (if appData.feature2.isSome = true then
          (if appData.feature1.isSome = true then start + featureSize else start) + featureSize
        else if appData.feature1.isSome = true then start + featureSize else start) =
      start + (if appData.feature1.isSome then featureSize else 0) +
        (if appData.feature2.isSome then featureSize else 0) := by
    intro start
    split <;> split <;> rfl
  have hnamed : (if appData.name.isSome = true then appData.name.getD [] else []) =
      appData.name.getD [] := by
    cases appData.name <;> rfl
  unfold parseAppData
  rw [hbyte]
  simp only [bind, Except.bind, hflags, hlocation, hfeature1, hfeature2, hname, htype]
  rw [if_neg hholds]
  simp only [slices_encode, hoffset, drop_encode, decodeUtf8_name, hnamed,
    truncateContactName_of_fits appData hfits]
  rfl

end AppData

/-! ### The packet around the advert -/

section Packet

variable (layout : CardLayout)

theorem header_bits (routeType : Fin 4) :
    let header := (UInt8.ofNat (routeType.val + 4 * payloadTypeAdvert)).toNat
    header &&& 0x03 = routeType.val ∧ header >>> 2 &&& 0x0F = payloadTypeAdvert ∧
      header >>> 6 = supportedPayloadVersion := by
  revert routeType
  decide

theorem pathLength_bits (hashSizeLessOne : Fin 3) (hashCount : Fin 64) :
    let encoded := (UInt8.ofNat (64 * hashSizeLessOne.val + hashCount.val)).toNat
    encoded >>> 6 = hashSizeLessOne.val ∧ encoded &&& 0x3F = hashCount.val := by
  revert hashSizeLessOne hashCount
  decide +kernel

theorem length_encodedTransportCodes :
    1 + layout.encodedTransportCodes.length =
      if layout.routeType.val ∈ routeTypesWithTransportCodes then 1 + transportCodesSize
      else 1 := by
  unfold CardLayout.encodedTransportCodes
  split
  · rw [Vector.length_toList]
    rfl
  · rfl

theorem length_advertPayload :
    layout.advertPayload.length = appDataOffset + layout.appData.encode.length := by
  simp only [CardLayout.advertPayload, CardLayout.timestampBytes, List.length_append,
    Vector.length_toList, length_toLittleEndian]
  change 32 + (4 + (64 + layout.appData.encode.length)) = 100 + layout.appData.encode.length
  omega

/-- **The advert is found** behind any route type and path. -/
theorem extractAdvertPayload_encode :
    extractAdvertPayload layout.encode = .ok layout.advertPayload := by
  obtain ⟨hroute, htype, hversion⟩ := header_bits layout.routeType
  have hsize := layout.pathHashSize_pos
  have hsize' := layout.pathHashSize_le
  obtain ⟨hhashSize, hhashCount⟩ :=
    pathLength_bits ⟨layout.pathHashSize - 1, by omega⟩ layout.pathHashCount
  change layout.header.toNat &&& 0x03 = _ at hroute
  change layout.header.toNat >>> 2 &&& 0x0F = _ at htype
  change layout.header.toNat >>> 6 = _ at hversion
  change layout.encodedPathLength.toNat >>> 6 = layout.pathHashSize - 1 at hhashSize
  change layout.encodedPathLength.toNat &&& 0x3F = _ at hhashCount
  have hheader : byteAt layout.encode 0 = .ok layout.header := rfl
  have hparts : layout.encode = (layout.header :: layout.encodedTransportCodes) ++
      layout.encodedPathLength :: (layout.path ++ layout.advertPayload) := by
    rw [CardLayout.encode, List.cons_append]
  have hlength : (layout.header :: layout.encodedTransportCodes).length =
      1 + layout.encodedTransportCodes.length := by
    rw [List.length_cons, Nat.add_comm]
  have hpathLength : byteAt layout.encode (1 + layout.encodedTransportCodes.length) =
      .ok layout.encodedPathLength := by
    rw [hparts]
    exact byteAt_append hlength
  have hlong : ¬ layout.encode.length ≤ 1 + layout.encodedTransportCodes.length := by
    rw [hparts, List.length_append, hlength, List.length_cons]
    omega
  have hhash : layout.pathHashSize - 1 + 1 = layout.pathHashSize := by omega
  have hpath : ¬ (layout.pathHashSize = reservedPathHashSize ∨
      maximumPathSize < layout.pathHashSize * layout.pathHashCount) := by
    have hfits := layout.path_fits
    rw [layout.path_length] at hfits
    rintro (hreserved | hover)
    · rw [hreserved] at hsize'
      exact absurd hsize' (by decide)
    · omega
  have hdrop : layout.encode.drop (1 + layout.encodedTransportCodes.length + 1 +
      layout.pathHashSize * layout.pathHashCount) = layout.advertPayload := by
    rw [hparts, ← layout.path_length, Nat.add_assoc, Nat.add_comm 1 layout.path.length,
      ← List.drop_drop, ← hlength, List.drop_left, List.drop_succ_cons, List.drop_left]
  have hpayload : ¬ layout.advertPayload.length < appDataOffset + 1 := by
    rw [length_advertPayload, AdvertAppData.encode, List.length_cons]
    omega
  unfold extractAdvertPayload
  rw [hheader]
  simp only [bind, Except.bind, hroute, htype, hversion, ne_eq, not_true_eq_false, if_false,
    ← length_encodedTransportCodes, if_neg hlong, hpathLength, hhashSize, hhashCount, hhash,
    if_neg hpath, hdrop, if_neg hpayload]
  rfl

end Packet

/-! ### The spelling -/

section Spelling

variable {codePoint : CodePoint} {string : PlainText} {text : Text}

theorem lower_eq_scalar {c : Char} (h : codePoint.lower = .scalar c) :
    ∃ d, codePoint = .scalar d ∧ d.toLower = c := by
  cases codePoint with
  | scalar d => exact ⟨d, rfl, CodePoint.scalar.inj h⟩
  | surrogate => cases h

/-- Only a text has a text as its lower case. -/
theorem map_lower_eq_plainText (h : string.map CodePoint.lower = plainText text) :
    ∃ spelled, string = plainText spelled ∧ spelled.map Char.toLower = text := by
  induction string generalizing text with
  | nil =>
      cases text with
      | nil => exact ⟨[], rfl, rfl⟩
      | cons c text => cases h
  | cons codePoint string ih =>
      cases text with
      | nil => cases h
      | cons c text =>
          rw [List.map_cons, plainText_cons] at h
          obtain ⟨hfirst, hrest⟩ := List.cons.inj h
          obtain ⟨d, rfl, rfl⟩ := lower_eq_scalar hfirst
          obtain ⟨spelled, rfl, rfl⟩ := ih hrest
          exact ⟨d :: spelled, rfl, rfl⟩

/-- **The bytes of a card** are read from any spelling. -/
theorem decodeCardBytes_of_spells {contactCardUri : PlainText} {cardBytes : Bytes}
    (h : SpellsCard contactCardUri cardBytes) (hcard : cardBytes ≠ []) :
    decodeCardBytes (removeWhitespace contactCardUri) = .ok cardBytes := by
  have hstart : (plainText contactCardUriPrefix).isPrefixOf
      ((removeWhitespace contactCardUri).map CodePoint.lower) = true := by
    rw [h, plainText_append, List.isPrefixOf_iff_prefix]
    exact List.prefix_append _ _
  obtain ⟨spelled, hspelled, hlower⟩ := map_lower_eq_plainText h
  have hdigits : (spelled.drop contactCardUriPrefix.length).map Char.toLower =
      toHex cardBytes := by
    rw [List.map_drop, hlower, List.drop_left]
  have hhex : (scalarValues? ((removeWhitespace contactCardUri).drop
      contactCardUriPrefix.length)).bind ofHex? = some cardBytes := by
    have hdrop : (plainText spelled).drop contactCardUriPrefix.length =
        plainText (spelled.drop contactCardUriPrefix.length) := (List.map_drop ..).symm
    rw [hspelled, hdrop, scalarValues?_plainText, Option.bind_some, ofHex?_of_toLower hdigits]
  unfold decodeCardBytes
  rw [if_neg (not_not.2 hstart)]
  dsimp only
  rw [hhex]
  exact if_neg hcard

end Spelling

/-! ### Totality -/

section Totality

/-- No byte past the end is read. -/
def ReadsInside {α : Type} (result : Except ContactCardError α) : Prop :=
  result ≠ .error .indexError

theorem byteAt_of_lt {bytes : Bytes} {offset : ℕ} (h : offset < bytes.length) :
    ∃ byte, byteAt bytes offset = .ok byte :=
  ⟨bytes[offset], by rw [byteAt, List.getElem?_eq_getElem h]⟩

theorem decodeCardBytes_spec (normalizedCardUri : PlainText) :
    ReadsInside (decodeCardBytes normalizedCardUri) ∧
      ∀ cardBytes, decodeCardBytes normalizedCardUri = .ok cardBytes → 0 < cardBytes.length := by
  unfold decodeCardBytes
  split
  · exact ⟨fun h => by simp [invalidContactCardError] at h, fun _ h => by cases h⟩
  · dsimp only
    split
    · exact ⟨fun h => by simp [invalidContactCardError] at h, fun _ h => by cases h⟩
    · next bytes _ =>
        split
        · exact ⟨fun h => by simp [invalidContactCardError] at h, fun _ h => by cases h⟩
        · next hnonempty =>
            refine ⟨(fun h => by cases h), fun cardBytes h => ?_⟩
            obtain rfl := Except.ok.inj h
            exact List.length_pos_iff.2 hnonempty

theorem extractAdvertPayload_spec {cardBytes : Bytes} (hcard : 0 < cardBytes.length) :
    ReadsInside (extractAdvertPayload cardBytes) ∧
      ∀ advertPayload, extractAdvertPayload cardBytes = .ok advertPayload →
        appDataOffset < advertPayload.length := by
  obtain ⟨header, hheader⟩ := byteAt_of_lt hcard
  unfold extractAdvertPayload
  rw [hheader]
  simp only [bind, Except.bind, throw, throwThe, MonadExceptOf.throw, pure, Except.pure]
  split
  · exact ⟨fun h => by simp at h, fun _ h => by cases h⟩
  split
  · exact ⟨fun h => by simp at h, fun _ h => by cases h⟩
  generalize (if header.toNat &&& 0x03 ∈ routeTypesWithTransportCodes then 1 + transportCodesSize
    else 1) = offset
  split
  · exact ⟨fun h => by simp [invalidContactCardError] at h, fun _ h => by cases h⟩
  next hlong =>
  obtain ⟨encodedPathLength, hpathLength⟩ := byteAt_of_lt (Nat.lt_of_not_le hlong)
  rw [hpathLength]
  dsimp only
  split
  · exact ⟨fun h => by simp [invalidContactCardError] at h, fun _ h => by cases h⟩
  split
  · exact ⟨fun h => by simp [invalidContactCardError] at h, fun _ h => by cases h⟩
  next hpayload =>
  refine ⟨(fun h => by cases h), fun advertPayload h => ?_⟩
  obtain rfl := Except.ok.inj h
  omega

theorem parseAppData_readsInside {appData : Bytes} (happData : 0 < appData.length) :
    ReadsInside (parseAppData appData) := by
  obtain ⟨flags, hflags⟩ := byteAt_of_lt happData
  unfold parseAppData
  rw [hflags]
  simp only [bind, Except.bind, throw, throwThe, MonadExceptOf.throw, pure, Except.pure]
  split
  · exact fun h => by simp [invalidContactCardError] at h
  · exact fun h => by cases h

/-- **The parser never reads past the end.** -/
theorem parseContactCardUri_readsInside (verifies : Bytes → Bytes → Bytes → Bool)
    (contactCardUri : PlainText) : ReadsInside (parseContactCardUri verifies contactCardUri) := by
  obtain ⟨hdecode, hcard⟩ := decodeCardBytes_spec (removeWhitespace contactCardUri)
  unfold parseContactCardUri
  cases hbytes : decodeCardBytes (removeWhitespace contactCardUri) with
  | error e =>
      intro h
      refine hdecode (hbytes.trans ?_)
      simpa [hbytes, bind, Except.bind] using h
  | ok cardBytes =>
      obtain ⟨hextract, hlong⟩ := extractAdvertPayload_spec (hcard cardBytes hbytes)
      cases hpayload : extractAdvertPayload cardBytes with
      | error e =>
          intro h
          refine hextract (hpayload.trans ?_)
          simpa [hbytes, hpayload, bind, Except.bind] using h
      | ok advertPayload =>
          have happData : 0 < (slice advertPayload appDataOffset
              (appDataOffset + maximumAppDataSize)).length := by
            have hlength := hlong advertPayload hpayload
            rw [slice, List.length_take, List.length_drop, Nat.add_sub_cancel_left]
            exact Nat.lt_min.2 ⟨by decide, by omega⟩
          have hparse := parseAppData_readsInside happData
          simp only [hbytes, hpayload, bind, Except.bind, verifyAdvertSignature]
          split
          · next heq =>
              split at heq
              · cases heq
              · obtain rfl := Except.error.inj heq
                exact fun h => by simp [invalidContactCardError] at h
          · cases hdetails : parseAppData (slice advertPayload appDataOffset
                (appDataOffset + maximumAppDataSize)) with
            | error e =>
                intro h
                exact hparse (hdetails.trans (by simpa using h))
            | ok advertDetails => exact fun h => by cases h

end Totality

/-! ### The parser -/

/-- **A card of the layout** parses back to its fields, whatever its spelling. -/
theorem parseContactCardUri_encode (verifies : Bytes → Bytes → Bytes → Bool) (layout : CardLayout)
    {contactCardUri : PlainText} (hspells : SpellsCard contactCardUri layout.encode)
    (hverifies : verifies layout.publicKey.toList
      (layout.publicKey.toList ++ (layout.timestampBytes ++ layout.appData.encode))
      layout.signature.toList = true) :
    parseContactCardUri verifies contactCardUri =
      .ok (layout.card (removeWhitespace contactCardUri)) := by
  have hdecode := decodeCardBytes_of_spells hspells (List.cons_ne_nil _ _)
  have htimestamp : layout.timestampBytes.length = 4 := length_toLittleEndian _ _
  have hkey : slice layout.advertPayload 0 publicKeySize = layout.publicKey.toList :=
    @slice_append [] _ _ _ _ rfl (by rw [Vector.length_toList]; rfl)
  have htime : slice layout.advertPayload publicKeySize signatureOffset =
      layout.timestampBytes :=
    slice_append (Vector.length_toList ..) (by rw [htimestamp]; rfl)
  have hsignature : slice layout.advertPayload signatureOffset appDataOffset =
      layout.signature.toList := by
    rw [CardLayout.advertPayload, ← List.append_assoc]
    refine slice_append ?_ (by rw [Vector.length_toList]; rfl)
    rw [List.length_append, Vector.length_toList, htimestamp]
    rfl
  have happData : slice layout.advertPayload appDataOffset (appDataOffset + maximumAppDataSize) =
      layout.appData.encode := by
    rw [CardLayout.advertPayload, ← List.append_assoc, ← List.append_assoc]
    refine slice_of_le ?_ (Nat.add_le_add_left layout.appData_fits _)
    rw [List.length_append, List.length_append, Vector.length_toList, Vector.length_toList,
      htimestamp]
    rfl
  have hread : littleEndian layout.timestampBytes = layout.advertTimestamp.toNat :=
    littleEndian_toLittleEndian layout.advertTimestamp.toNat_lt
  unfold parseContactCardUri
  simp only [hdecode, extractAdvertPayload_encode, hkey, htime, hsignature, happData,
    verifyAdvertSignature, if_pos hverifies, parseAppData_encode layout.appData layout.appData_fits,
    hread, bind, Except.bind]
  rfl

/-- **The contact card parser.**  Every string is read as a card or ends in the parser's own error;
a card of the layout reads back as its fields however it is spelled, with the name it carries; and a
name is cut to the longest beginning that fits into 31 bytes. -/
theorem parse_contact_card_uri_correct (verifies : Bytes → Bytes → Bytes → Bool) :
    (∀ contactCardUri,
      (∃ card, parseContactCardUri verifies contactCardUri = .ok card) ∨
        ∃ message, parseContactCardUri verifies contactCardUri =
          .error (.invalidContactCard message)) ∧
      (∀ (layout : CardLayout) (contactCardUri : PlainText),
        SpellsCard contactCardUri layout.encode →
        verifies layout.publicKey.toList
          (layout.publicKey.toList ++ (layout.timestampBytes ++ layout.appData.encode))
          layout.signature.toList = true →
        parseContactCardUri verifies contactCardUri =
          .ok (layout.card (removeWhitespace contactCardUri))) ∧
      ∀ name : Text, truncateContactName name <+: name ∧
        (encodeUtf8 (truncateContactName name)).length ≤ contactNameMaximumBytes ∧
        ∀ start, start <+: name → (encodeUtf8 start).length ≤ contactNameMaximumBytes →
          start <+: truncateContactName name := by
  refine ⟨fun contactCardUri => ?_, fun layout contactCardUri => parseContactCardUri_encode verifies
    layout, fun name => ?_⟩
  · have hinside := parseContactCardUri_readsInside verifies contactCardUri
    cases hparse : parseContactCardUri verifies contactCardUri with
    | ok card => exact Or.inl ⟨card, rfl⟩
    | error e =>
        cases e with
        | invalidContactCard message => exact Or.inr ⟨message, rfl⟩
        | indexError => exact absurd hparse hinside
  · rw [truncateContactName, decodeUtf8_take]
    exact ⟨takeOctets_isPrefix _ _, length_takeOctets_le _ _, fun start hstart hfits =>
      isPrefix_takeOctets hstart hfits⟩

/-- A direct advert of a chat node with a location and a name. -/
def sampleCard : CardLayout where
  routeType := 0
  transportCodes := Vector.ofFn fun i => UInt8.ofNat i
  pathHashSize := 2
  pathHashSize_pos := by decide
  pathHashSize_le := by decide
  pathHashCount := 1
  path := [0xAB, 0xCD]
  path_length := rfl
  path_fits := by decide
  publicKey := Vector.replicate 32 0x5A
  advertTimestamp := 1790000500
  signature := Vector.replicate 64 0x17
  appData :=
    { nodeType := 1
      location := some (52520008, -13404954)
      feature1 := none
      feature2 := some (1, 2)
      name := some ['B', 'ö', 'b']
      noNul := by
        intro text h
        obtain rfl := Option.some.inj h
        decide }
  appData_fits := by decide +kernel

/-- The card, pasted in capitals and over two lines. -/
def sampleCardUri : PlainText :=
  plainText ("MESHCORE://".toList ++ '\n' :: (toHex sampleCard.encode).map Char.toUpper)

theorem parse_contact_card_uri_correct_sampleCard :
    parseContactCardUri (fun _ _ signature => signature.all (· == 0x17)) sampleCardUri =
      .ok (sampleCard.card (removeWhitespace sampleCardUri)) :=
  (parse_contact_card_uri_correct _).2.1 sampleCard sampleCardUri (by decide +kernel)
    (by decide +kernel)

end HoptalkRelay
