/-
**The grammar of the protocol.**

The ABNF of section 4.1 of the protocol, rule by rule, as inductive derivations that carry the
fields they derive.  It names nothing of the parser: a field is derived letter by letter, and the
number of a field is the one its digits denote.

Main definitions:

* `HoptalkRelay.Grammar.ProtocolDm` — `protocol-dm`, with the message it derives;
* `HoptalkRelay.Grammar.ClientBody`, `HoptalkRelay.Grammar.ServerBody` — the bodies;
* `HoptalkRelay.Grammar.Username`, `HoptalkRelay.Grammar.MessageId`, … — the fields;
* `HoptalkRelay.Grammar.Traffic` — the start of protocol traffic of any version;
* `HoptalkRelay.Grammar.HeaderRule`, `HoptalkRelay.Grammar.requestHeader` — the header fields of a
  request or an acknowledgement;
* `HoptalkRelay.Grammar.IsLongestMatch`, `HoptalkRelay.Grammar.correlationFields` — the fields an
  error repeats.
-/

import HoptalkRelay.Formats.Repetition
import HoptalkRelay.Protocol.MessageTypes

set_option relaxedAutoImplicit false
set_option autoImplicit false

namespace HoptalkRelay.Grammar

open Formats

/-! ### Characters -/

/-- `%x30-39` -/
def Digit (c : Char) : Prop := 0x30 ≤ c.toNat ∧ c.toNat ≤ 0x39

/-- `%x31-39` -/
def NonzeroDigit (c : Char) : Prop := 0x31 ≤ c.toNat ∧ c.toNat ≤ 0x39

/-- `%x41-5A` -/
def UpperCaseLetter (c : Char) : Prop := 0x41 ≤ c.toNat ∧ c.toNat ≤ 0x5A

/-- `%x61-7A` -/
def LowerCaseLetter (c : Char) : Prop := 0x61 ≤ c.toNat ∧ c.toNat ≤ 0x7A

/-- `%x41-5A / %x61-7A / %x30-39` -/
def UsernameCharacter (c : Char) : Prop := UpperCaseLetter c ∨ LowerCaseLetter c ∨ Digit c

/-- `%x01-D7FF / %xE000-10FFFF` -/
def TailCharacter (c : Char) : Prop :=
  (0x01 ≤ c.toNat ∧ c.toNat ≤ 0xD7FF) ∨ (0xE000 ≤ c.toNat ∧ c.toNat ≤ 0x10FFFF)

/-- `%x20` -/
def sp : Char := Char.ofNat 0x20

/-! ### Fields -/

/-- `3*16( %x41-5A / %x61-7A / %x30-39 )` -/
def Username (field : Text) : Prop := Repetition UsernameCharacter 3 16 field

/-- `username / "*"` -/
inductive RefreshTarget : Text → Prop
  | username {field : Text} (h : Username field) : RefreshTarget field
  | everyConversation : RefreshTarget ['*']

/-- `nonzero-digit 0*nDIGIT` -/
inductive Number (n : ℕ) : Text → Prop
  | mk {first : Char} {rest : Text} (hfirst : NonzeroDigit first)
      (hrest : Repetition Digit 0 n rest) : Number n (first :: rest)

/-- `nonzero-digit 0*15DIGIT` -/
def MessageId (field : Text) : Prop := Number 15 field

/-- `nonzero-digit [ DIGIT ]` -/
def PartNumber (field : Text) : Prop := Number 1 field

/-- `nonzero-digit [ DIGIT ]` -/
def PartCount (field : Text) : Prop := Number 1 field

/-- `1*10( "0" / "1" )` -/
def ReceivedSet (field : Text) : Prop := Repetition (fun c => c = '0' ∨ c = '1') 1 10 field

/-- `%s"D" / %s"R"`: delivered, read. -/
inductive Level : Text → ReceiptLevel → Prop
  | delivered : Level ['D'] .delivered
  | read : Level ['R'] .read

/-- `"1" / "0"` -/
inductive Existence : Text → Bool → Prop
  | exists : Existence ['1'] true
  | missing : Existence ['0'] false

/-- `"0" / ( nonzero-digit 0*3DIGIT )` -/
inductive MessageCount : Text → Prop
  | zero : MessageCount ['0']
  | positive {field : Text} (h : Number 3 field) : MessageCount field

/-- `%x41-5A / "?"` -/
inductive RequestType : Text → Prop
  | letter {c : Char} (h : UpperCaseLetter c) : RequestType [c]
  | unknown : RequestType ['?']

/-- `1*16( %x41-5A / "_" )` -/
def ErrorCode (field : Text) : Prop := Repetition (fun c => UpperCaseLetter c ∨ c = '_') 1 16 field

/-- `1*3DIGIT` -/
def VersionNumber (field : Text) : Prop := Repetition Digit 1 3 field

/-- `( username SP message-id ) / refresh-target / version-number` -/
inductive ErrorReference : Text → Prop
  | message {username messageId : Text} (husername : Username username)
      (hid : MessageId messageId) : ErrorReference (username ++ sp :: messageId)
  | refreshTarget {field : Text} (h : RefreshTarget field) : ErrorReference field
  | versionNumber {field : Text} (h : VersionNumber field) : ErrorReference field

/-- `*tail-character`: a password or a part text. -/
def Tail (field : Text) : Prop := Star TailCharacter field

/-- The number the digits of a field denote. -/
def denoted : Text → ℕ := List.foldl (fun n c => 10 * n + (c.toNat - 0x30)) 0

/-! ### Bodies -/

/-- `client-body`, with the message it derives. -/
inductive ClientBody : Text → ProtocolMessage → Prop
  /-- `%s"A" SP username SP password` -/
  | accountRequest {username password : Text} (husername : Username username)
      (hpassword : Tail password) :
      ClientBody ('A' :: sp :: username ++ sp :: password) (.accountRequest ⟨username, password⟩)
  /-- `%s"Q" SP username` -/
  | queryRequest {username : Text} (husername : Username username) :
      ClientBody ('Q' :: sp :: username) (.queryRequest ⟨username⟩)
  /-- `%s"M" SP username SP message-id SP part-number "/" part-count SP part-text` -/
  | messagePartRequest {username messageId partNumber partCount partText : Text}
      (husername : Username username) (hid : MessageId messageId)
      (hnumber : PartNumber partNumber) (hcount : PartCount partCount) (htext : Tail partText) :
      ClientBody
        ('M' :: sp :: username ++ sp :: messageId ++ sp :: partNumber ++ '/' :: partCount ++
          sp :: partText)
        (.messagePartRequest
          ⟨username, denoted messageId, denoted partNumber, denoted partCount, partText⟩)
  /-- `%s"K" SP username SP message-id SP received-set` -/
  | deliveryAcknowledgement {username messageId receivedSet : Text}
      (husername : Username username) (hid : MessageId messageId)
      (hset : ReceivedSet receivedSet) :
      ClientBody ('K' :: sp :: username ++ sp :: messageId ++ sp :: receivedSet)
        (.deliveryAcknowledgement ⟨username, denoted messageId, receivedSet⟩)
  /-- `%s"R" SP username SP message-id` -/
  | readRequest {username messageId : Text} (husername : Username username)
      (hid : MessageId messageId) :
      ClientBody ('R' :: sp :: username ++ sp :: messageId)
        (.readRequest ⟨username, denoted messageId⟩)
  /-- `%s"C" SP username SP message-id SP receipt-level` -/
  | receiptAcknowledgement {username messageId receiptLevel : Text} {level : ReceiptLevel}
      (husername : Username username) (hid : MessageId messageId)
      (hlevel : Level receiptLevel level) :
      ClientBody ('C' :: sp :: username ++ sp :: messageId ++ sp :: receiptLevel)
        (.receiptAcknowledgement ⟨username, denoted messageId, level⟩)
  /-- `%s"F" SP refresh-target` -/
  | refreshRequest {refreshTarget : Text} (htarget : RefreshTarget refreshTarget) :
      ClientBody ('F' :: sp :: refreshTarget) (.refreshRequest ⟨refreshTarget⟩)

/-- `server-body`, with the message it derives. -/
inductive ServerBody : Text → ProtocolMessage → Prop
  /-- `%s"a" SP username` -/
  | accountReply {username : Text} (husername : Username username) :
      ServerBody ('a' :: sp :: username) (.accountReply username)
  /-- `%s"q" SP username SP existence` -/
  | queryReply {username existence : Text} {userExists : Bool} (husername : Username username)
      (hexistence : Existence existence userExists) :
      ServerBody ('q' :: sp :: username ++ sp :: existence) (.queryReply username userExists)
  /-- `%s"k" SP username SP message-id SP received-set` -/
  | sendStatusReply {username messageId receivedSet : Text} (husername : Username username)
      (hid : MessageId messageId) (hset : ReceivedSet receivedSet) :
      ServerBody ('k' :: sp :: username ++ sp :: messageId ++ sp :: receivedSet)
        (.sendStatusReply username (denoted messageId) receivedSet)
  /-- `%s"m" SP username SP message-id SP part-number "/" part-count SP part-text` -/
  | deliveryPart {username messageId partNumber partCount partText : Text}
      (husername : Username username) (hid : MessageId messageId)
      (hnumber : PartNumber partNumber) (hcount : PartCount partCount) (htext : Tail partText) :
      ServerBody
        ('m' :: sp :: username ++ sp :: messageId ++ sp :: partNumber ++ '/' :: partCount ++
          sp :: partText)
        (.deliveryPart username (denoted messageId) (denoted partNumber) (denoted partCount)
          partText)
  /-- `%s"r" SP username SP message-id` -/
  | readReply {username messageId : Text} (husername : Username username)
      (hid : MessageId messageId) :
      ServerBody ('r' :: sp :: username ++ sp :: messageId)
        (.readReply username (denoted messageId))
  /-- `%s"s" SP username SP message-id SP receipt-level` -/
  | receiptPush {username messageId receiptLevel : Text} {level : ReceiptLevel}
      (husername : Username username) (hid : MessageId messageId)
      (hlevel : Level receiptLevel level) :
      ServerBody ('s' :: sp :: username ++ sp :: messageId ++ sp :: receiptLevel)
        (.receiptPush username (denoted messageId) level)
  /-- `%s"f" SP refresh-target SP message-count` -/
  | refreshReply {refreshTarget messageCount : Text} (htarget : RefreshTarget refreshTarget)
      (hcount : MessageCount messageCount) :
      ServerBody ('f' :: sp :: refreshTarget ++ sp :: messageCount)
        (.refreshReply refreshTarget (denoted messageCount))
  /-- `%s"e" SP error-code SP request-type [SP error-reference]` -/
  | errorReply {errorCode requestType : Text} (hcode : ErrorCode errorCode)
      (htype : RequestType requestType) :
      ServerBody ('e' :: sp :: errorCode ++ sp :: requestType)
        (.errorReply errorCode requestType none)
  | errorReplyWithReference {errorCode requestType errorReference : Text}
      (hcode : ErrorCode errorCode) (htype : RequestType requestType)
      (hreference : ErrorReference errorReference) :
      ServerBody ('e' :: sp :: errorCode ++ sp :: requestType ++ sp :: errorReference)
        (.errorReply errorCode requestType (some errorReference))

/-- `protocol-dm = magic version SP body`, with the message it derives. -/
inductive ProtocolDm : Text → ProtocolMessage → Prop
  | client {body : Text} {message : ProtocolMessage} (h : ClientBody body message) :
      ProtocolDm ('H' :: 'T' :: '1' :: sp :: body) message
  | server {body : Text} {message : ProtocolMessage} (h : ServerBody body message) :
      ProtocolDm ('H' :: 'T' :: '1' :: sp :: body) message

/-- `HT`, one to three digits and a space, with the digits and what follows the space. -/
inductive Traffic : PlainText → Text → PlainText → Prop
  | mk {version : Text} (rest : PlainText) (h : VersionNumber version) :
      Traffic (plainText ('H' :: 'T' :: version ++ [sp]) ++ rest) version rest

/-! ### Header fields -/

/-- The header fields a request or an acknowledgement has. -/
inductive HeaderRule
  | username
  | refreshTarget
  | messageId
  | part
  | receivedSet
  | receiptLevel
  deriving DecidableEq

/-- What a header field derives. -/
inductive HeaderRule.Derives : HeaderRule → Text → Prop
  | username {field : Text} (h : Username field) : Derives .username field
  | refreshTarget {field : Text} (h : RefreshTarget field) : Derives .refreshTarget field
  | messageId {field : Text} (h : MessageId field) : Derives .messageId field
  | part {partNumber partCount : Text} (hnumber : PartNumber partNumber)
      (hcount : PartCount partCount) : Derives .part (partNumber ++ '/' :: partCount)
  | receivedSet {field : Text} (h : ReceivedSet field) : Derives .receivedSet field
  | receiptLevel {field : Text} {level : ReceiptLevel} (h : Level field level) :
      Derives .receiptLevel field

/-- Usernames, message ids and refresh targets. -/
def HeaderRule.isCorrelation : HeaderRule → Bool
  | username | refreshTarget | messageId => true
  | part | receivedSet | receiptLevel => false

/-- The header fields of the type with this letter, before its tail if it has one. -/
def requestHeader : Char → Option (List HeaderRule)
  | 'A' => some [.username]
  | 'Q' => some [.username]
  | 'M' => some [.username, .messageId, .part]
  | 'K' => some [.username, .messageId, .receivedSet]
  | 'R' => some [.username, .messageId]
  | 'C' => some [.username, .messageId, .receiptLevel]
  | 'F' => some [.refreshTarget]
  | _ => none

/-- What a field of any string may be derived as. -/
def HeaderRule.DerivesPlain (rule : HeaderRule) (field : PlainText) : Prop :=
  ∃ text, field = plainText text ∧ rule.Derives text

/-- The first `k` header fields are there and all match. -/
def PrefixMatches (header : List HeaderRule) (fields : List PlainText) (k : ℕ) : Prop :=
  ∀ i < k, ∃ rule field, header[i]? = some rule ∧ fields[i]? = some field ∧
    rule.DerivesPlain field

/-- The longest prefix of header fields that all match has length `k`. -/
structure IsLongestMatch (header : List HeaderRule) (fields : List PlainText) (k : ℕ) : Prop where
  matching : PrefixMatches header fields k
  longest : ∀ j, PrefixMatches header fields j → j ≤ k

/-- The usernames, message ids and refresh targets among the first `k` fields. -/
def correlationFields (header : List HeaderRule) (fields : List PlainText) (k : ℕ) :
    List PlainText :=
  ((header.zip fields).take k).filterMap fun p => if p.1.isCorrelation then some p.2 else none

/-- The fields behind a type letter, cut at single spaces; none without a space behind it. -/
def fieldsBehind : PlainText → List PlainText
  | .scalar ' ' :: fieldsText => fieldsText.splitOn (.scalar ' ')
  | _ => []

/-- The letters of the types. -/
def typeLetters : List Char :=
  ['A', 'Q', 'M', 'K', 'R', 'C', 'F', 'a', 'q', 'k', 'm', 'r', 's', 'f', 'e']

end HoptalkRelay.Grammar
