-- SUMMARY: Whether octets form an RTP packet, judged by the lengths in its header.

/-!
# RTP packets

A packet is a header, an optional extension and a payload. The header says how
many contributing sources it lists, whether there is an extension and whether the
payload ends in padding; the version and the payload type do not matter here.
-/

namespace RtpBridge.Rtp

inductive Fault where
  | headerTooShort
  | extensionTooShort
  | paddingTooLarge
deriving Repr, DecidableEq

def Fault.message : Fault → String
  | .headerTooShort => "RTP header size insufficient"
  | .extensionTooShort => "RTP header size insufficient for extension"
  | .paddingTooLarge => "packet is not large enough"

/-- The verdict on a packet. -/
inductive Verdict where
  | wellFormed
  | faulty (fault : Fault)
  /-- An element of the extension reaches beyond the packet, where nothing can be read. -/
  | overrun
deriving Repr, DecidableEq

-- ---------------------------------------------------------------------------
-- Header fields
-- ---------------------------------------------------------------------------

def hasPadding (first : UInt8) : Bool := first.toNat / 32 % 2 = 1

def hasExtension (first : UInt8) : Bool := first.toNat / 16 % 2 = 1

/-- The length of a header without its extension: four octets for each contributing source. -/
def fixedLength (first : UInt8) : Nat := 12 + 4 * (first.toNat % 16)

/-- A number in two octets. -/
def word (high low : UInt8) : Nat := high.toNat * 256 + low.toNat

-- ---------------------------------------------------------------------------
-- Extension elements
-- ---------------------------------------------------------------------------

/-- Drops this many octets, if there are as many. -/
def dropOctets? : Nat → List UInt8 → Option (List UInt8)
  | 0, octets => some octets
  | _ + 1, [] => none
  | n + 1, _ :: rest => dropOctets? n rest

/-- Passes over elements with a header of one octet, starting before the last `left` octets of the
extension. An element may reach beyond the extension, and identifier 15 ends it. -/
def skipShortElements (left : Nat) (packet : List UInt8) : Option (List UInt8) :=
  match left, packet with
  | 0, packet => some packet
  | _ + 1, [] => none
  | left + 1, b :: rest =>
    if b = 0 then skipShortElements left rest
    else if b.toNat / 16 = 15 then some rest
    else
      let length := b.toNat % 16 + 1
      match dropOctets? length rest with
      | none => none
      | some rest => skipShortElements (left - length) rest
termination_by left

/-- Passes over elements with a header of two octets. -/
def skipLongElements (left : Nat) (packet : List UInt8) : Option (List UInt8) :=
  match left, packet with
  | 0, packet => some packet
  | _ + 1, [] => none
  | left + 1, b :: rest =>
    if b = 0 then skipLongElements left rest
    else
      match rest with
      | [] => none
      | length :: rest =>
        match dropOctets? length.toNat rest with
        | none => none
        | some rest => skipLongElements (left - 1 - length.toNat) rest
termination_by left

/-- Passes over the `length` octets of an extension with this profile. -/
def skipElements (profile length : Nat) (packet : List UInt8) : Option (List UInt8) :=
  if profile = 0xBEDE then skipShortElements length packet
  else if profile = 0x1000 then skipLongElements length packet
  else some (packet.drop length)

-- ---------------------------------------------------------------------------
-- Packets
-- ---------------------------------------------------------------------------

/-- The last octet of padding counts the padding, which lies within the payload. -/
def checkPayload (isPadded : Bool) (payload : List UInt8) : Verdict :=
  if !isPadded then .wellFormed
  else
    match payload.getLast? with
    | none => .faulty .paddingTooLarge
    | some count =>
      if payload.length < count.toNat then .faulty .paddingTooLarge else .wellFormed

def checkExtension (isPadded : Bool) : List UInt8 → Verdict
  | p :: q :: l :: m :: packet =>
    let length := 4 * word l m
    if packet.length < length then .faulty .extensionTooShort
    else
      match skipElements (word p q) length packet with
      | none => .overrun
      | some payload => checkPayload isPadded payload
  | _ => .faulty .extensionTooShort

def check : List UInt8 → Verdict
  | [] => .faulty .headerTooShort
  | first :: rest =>
    if rest.length + 1 < fixedLength first then .faulty .headerTooShort
    else
      let rest := rest.drop (fixedLength first - 1)
      if hasExtension first then checkExtension (hasPadding first) rest
      else checkPayload (hasPadding first) rest

end RtpBridge.Rtp
