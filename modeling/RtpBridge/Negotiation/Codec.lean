-- SUMMARY: The codecs that a section of an offer lists, and what its attributes say of them.
import RtpBridge.Sdp.Description

/-!
# Offered codecs

A section lists payload types, and its attributes say what each of them means:
`rtpmap` names a codec, `fmtp` has its parameters, and `rtcp-fb` asks for feedback.
What is said first stays, and an attribute that cannot be read says nothing.
-/

namespace RtpBridge.Negotiation

open Sdp

structure Codec where
  payloadType : Nat
  /-- Empty if no attribute has one. -/
  name : List Char
  /-- The parameters as they stand in the attribute. -/
  parameters : List Char
deriving Repr, DecidableEq

namespace Codec

inductive Fault where
  | integer (fault : Decimal.IntegerFault)
  /-- No attribute says what a payload type means. -/
  | undescribed
deriving Repr, DecidableEq

def Fault.message : Fault → String
  | .integer fault => "parse int: " ++ fault.message
  | .undescribed => "payload type not found"

def readPayloadType (s : List Char) : Except Fault Nat := (Decimal.readNat 255 s).mapError .integer

-- ---------------------------------------------------------------------------
-- Attributes
-- ---------------------------------------------------------------------------

/-- The payload type in the first word of an attribute, where it stands behind the only colon. -/
def payloadType? (word : List Char) : Option Nat :=
  match word.splitOn ':' with
  | [_, number] => (readPayloadType number).toOption
  | _ => none

/-- The name of an encoding. A clock rate that follows it must be a number of 32 bits. -/
def name? (encoding : List Char) : Option (List Char) :=
  match encoding.splitOn '/' with
  | name :: rate :: _ => (Decimal.readNat Decimal.greatest32 rate).toOption.map fun _ => name
  | _ => some encoding

/-- What an attribute says. A name or parameters are exactly one word. -/
def ofAttribute? (a : Attribute) : Option Codec :=
  if a.value.isNone then none
  else if a.key = "rtpmap".toList then
    match Text.words a.text with
    | [first, encoding] => do some ⟨← payloadType? first, ← name? encoding, []⟩
    | _ => none
  else if a.key = "fmtp".toList then
    match Text.words a.text with
    | [first, parameters] => do some ⟨← payloadType? first, [], parameters⟩
    | _ => none
  else if a.key = "rtcp-fb".toList ∧ ' ' ∈ a.text then do
    some ⟨← payloadType? (a.text.takeWhile (· ≠ ' ')), [], []⟩
  else none

/-- Takes from another codec of the same payload type what is missing. -/
def complete (codec other : Codec) : Codec where
  payloadType := codec.payloadType
  name := if codec.name.isEmpty then other.name else codec.name
  parameters := if codec.parameters.isEmpty then other.parameters else codec.parameters

/-- What attributes say of a payload type. -/
def find? (attributes : List Attribute) (payloadType : Nat) : Option Codec :=
  match (attributes.filterMap ofAttribute?).filter (·.payloadType == payloadType) with
  | [] => none
  | first :: rest => some (rest.foldl complete first)

-- ---------------------------------------------------------------------------
-- Sections
-- ---------------------------------------------------------------------------

/-- The codecs of these formats. Only the payload type zero may go without a word about it, and is
then passed over. -/
def ofFormats (attributes : List Attribute) : List (List Char) → Except Fault (List Codec)
  | [] => .ok []
  | format :: rest => do
    let payloadType ← readPayloadType format
    match find? attributes payloadType with
    | some codec => return codec :: (← ofFormats attributes rest)
    | none => if payloadType = 0 then ofFormats attributes rest else throw .undescribed

def ofSection (media : Section) : Except Fault (List Codec) :=
  ofFormats media.attributes media.formats

example : ofAttribute? (.ofValue "rtpmap:111 opus/48000/2".toList) = some ⟨111, "opus".toList, []⟩ := by
  cbv
example : (ofAttribute? (.ofValue "fmtp:96 a=1; b=2".toList)).isNone := by cbv

end Codec

end RtpBridge.Negotiation
