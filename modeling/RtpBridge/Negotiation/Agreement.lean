-- SUMMARY: Which of the offered codecs both sides have.
import RtpBridge.Media
import RtpBridge.Negotiation.Codec
import RtpBridge.Text.Case

/-!
# Agreement on codecs

An offered codec agrees with a known one exactly if they have the same name and no
parameter has one value here and another there. It agrees by name if only the names
are the same. What agrees by name counts as long as nothing agrees exactly.
-/

namespace RtpBridge.Negotiation

structure KnownCodec where
  name : String
  parameters : String
deriving Repr, DecidableEq

/-- The codecs that a session knows. -/
def known : MediaKind → List KnownCodec
  | .audio => [⟨"opus", "minptime=10;useinbandfec=1"⟩, ⟨"G722", ""⟩, ⟨"PCMU", ""⟩, ⟨"PCMA", ""⟩]
  | .video => [
    ⟨"VP8", ""⟩,
    ⟨"VP9", "profile-id=0"⟩,
    ⟨"VP9", "profile-id=1"⟩,
    ⟨"H264", "level-asymmetry-allowed=1;packetization-mode=1;profile-level-id=42001f"⟩,
    ⟨"H264", "level-asymmetry-allowed=1;packetization-mode=0;profile-level-id=42001f"⟩,
    ⟨"H264", "level-asymmetry-allowed=1;packetization-mode=1;profile-level-id=42e01f"⟩,
    ⟨"H264", "level-asymmetry-allowed=1;packetization-mode=0;profile-level-id=42e01f"⟩,
    ⟨"H264", "level-asymmetry-allowed=1;packetization-mode=1;profile-level-id=640032"⟩,
    ⟨"AV1", "profile-id=0"⟩,
    ⟨"H265", ""⟩,
    ⟨"ulpfec", ""⟩]

-- ---------------------------------------------------------------------------
-- Parameters
-- ---------------------------------------------------------------------------

/-- Values by their keys, which are in lower case. The last value of a key comes first. -/
abbrev Parameters := List (List Char × List Char)

namespace Parameters

/-- Reads parameters with semicolons between; without any text there is an empty one. -/
def read (text : List Char) : Parameters :=
  ((text.splitOn ';').map fun p =>
    ((p.takeWhile (· ≠ '=')).map Text.lower, (p.dropWhile (· ≠ '=')).drop 1)).reverse

def get? (parameters : Parameters) (key : String) : Option (List Char) :=
  parameters.lookup key.toList

/-- Whether no key has two different values. -/
def agree (a b : Parameters) : Bool :=
  a.all fun (key, _) =>
    match a.lookup key, b.lookup key with
    | some v, some w => Text.equalInUpper v w
    | _, _ => true

/-- The digits of the profile in a hexadecimal `profile-level-id`; the rest is the level. -/
def profile? (parameters : Parameters) : Option (List Nat) := do
  let digits ← (← parameters.get? "profile-level-id").mapM (Address.digitIn? 16)
  if digits.length % 2 = 0 ∧ 4 ≤ digits.length then some (digits.take 4) else none

/-- Whether two H264 streams have the same packetization mode and profile, and say so. -/
def agreeAsH264 (a b : Parameters) : Bool :=
  let mode (p : Parameters) := p.get? "packetization-mode"
  (mode a).isSome && mode a == mode b && a.profile?.isSome && a.profile? == b.profile?

example : (read "Apt=1;apt=2".toList).get? "apt" = some ['2'] := by cbv
example : agree (read "profile-id=0;x=1".toList) (read "profile-id=0;y=2".toList) := by cbv
example : agreeAsH264 (read "packetization-mode=1;profile-level-id=42E0ff".toList)
    (read "profile-level-id=42e01f;packetization-mode=1".toList) := by cbv

end Parameters

-- ---------------------------------------------------------------------------
-- Single codecs
-- ---------------------------------------------------------------------------

inductive Agreement where
  | exact
  | byName
deriving Repr, DecidableEq

def KnownCodec.isExactly (known : KnownCodec) (codec : Codec) : Bool :=
  let a := Parameters.read codec.parameters
  let b := Parameters.read known.parameters.toList
  Text.equalInLower codec.name known.name.toList
    && if known.name = "H264" then a.agreeAsH264 b else a.agree b

/-- How a codec agrees with those that are known. -/
def Codec.agreement? (kind : MediaKind) (codec : Codec) : Option Agreement :=
  if (known kind).any (·.isExactly codec) then some .exact
  else if (known kind).any fun k => Text.equalInUpper codec.name k.name.toList then some .byName
  else none

-- ---------------------------------------------------------------------------
-- Sections
-- ---------------------------------------------------------------------------

/-- The codecs of a section that both sides have. -/
structure Common where
  exact : List Codec
  byName : List Codec
deriving Repr, DecidableEq

namespace Common

def empty : Common := ⟨[], []⟩

/-- How the codec of a payload type agrees. -/
def agreement? (common : Common) (payloadType : Nat) : Option Agreement :=
  if common.exact.any (·.payloadType == payloadType) then some .exact
  else if common.byName.any (·.payloadType == payloadType) then some .byName
  else none

/-- Adds a codec if it agrees. One that repairs another, named by the parameter `apt`, needs that
other one to be there, and agrees no better than it. -/
def add (kind : MediaKind) (common : Common) (codec : Codec) : Except Codec.Fault Common := do
  let own := codec.agreement? kind
  let agreement ←
    match (Parameters.read codec.parameters).get? "apt" with
    | none => pure own
    | some text =>
      match common.agreement? (← Codec.readPayloadType text) with
      | none => pure none
      | some .exact => pure own
      | some .byName => pure (own.map fun _ => .byName)
  match agreement with
  | some .exact => return { common with exact := common.exact ++ [codec] }
  | some .byName => return { common with byName := common.byName ++ [codec] }
  | none => return common

def best (common : Common) : List Codec :=
  if common.exact.isEmpty then common.byName else common.exact

/-- The codecs in which a section agrees best. -/
def ofSection (kind : MediaKind) (media : Sdp.Section) : Except Codec.Fault (List Codec) := do
  let offered ← Codec.ofSection media
  return (← offered.foldlM (add kind) empty).best

end Common

end RtpBridge.Negotiation
