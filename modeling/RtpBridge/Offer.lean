-- SUMMARY: Offers of a remote peer: how they are written, and what is wrong with one that cannot be used.
import RtpBridge.Base64
import RtpBridge.Json.Record
import RtpBridge.Sdp.Description

/-!
# Offers

An offer comes as octets that a host passes on: a JSON record with a type and the
text of a session description, in the open or in base64. NULs at the end and
blanks around it do not matter. The text of the description is checked and then
kept as it is.
-/

namespace RtpBridge

-- ---------------------------------------------------------------------------
-- Records
-- ---------------------------------------------------------------------------

/-- What a description is to the peers. -/
inductive DescriptionKind where
  | unspecified
  | offer
  | provisionalAnswer
  | answer
  | rollback
deriving Repr, DecidableEq

def DescriptionKind.name : DescriptionKind → String
  | .unspecified => "Unspecified"
  | .offer => "offer"
  | .provisionalAnswer => "pranswer"
  | .answer => "answer"
  | .rollback => "rollback"

def DescriptionKind.all : List DescriptionKind :=
  [.unspecified, .offer, .provisionalAnswer, .answer, .rollback]

/-- A description as the peers send it to each other. -/
structure DescriptionRecord where
  kind : DescriptionKind
  text : String
deriving Repr, DecidableEq

namespace DescriptionRecord

structure Draft where
  kind : Option DescriptionKind
  text : Option String
deriving Repr, DecidableEq

/-- The record of a draft; the type is missed first. -/
def Draft.finish (draft : Draft) : Except Json.Fault DescriptionRecord :=
  match draft.kind, draft.text with
  | none, _ => .error (.missingField "type")
  | some _, none => .error (.missingField "sdp")
  | some kind, some text => .ok ⟨kind, text⟩

def kindReader : Json.Reader DescriptionKind :=
  Json.variant (DescriptionKind.all.map fun kind => (kind.name, kind))

def format : Json.Record Draft DescriptionRecord where
  title := "struct RTCSessionDescription"
  empty := ⟨none, none⟩
  fields := [
    ⟨"type", (·.kind.isSome), kindReader.map fun kind draft => { draft with kind := some kind }⟩,
    ⟨"sdp", (·.text.isSome), Json.text.map fun text draft => { draft with text := some text }⟩]
  mayStopEarly := false
  finish := Draft.finish

/-- Reads a JSON document. -/
def ofJson (octets : List UInt8) : Except Json.Fault DescriptionRecord :=
  format.reader.document octets

end DescriptionRecord

-- ---------------------------------------------------------------------------
-- Offers
-- ---------------------------------------------------------------------------

/-- A checked offer. -/
structure Offer where
  text : String
deriving Repr, DecidableEq

namespace Offer

/-- Octets that are no description record at all. -/
inductive Malformed where
  | notUtf8 (fault : Utf8.Fault)
  | empty
  | json (fault : Json.Fault)
  | base64 (fault : Base64.Fault)
deriving Repr, DecidableEq

/-- A description record that is no usable offer. -/
inductive Invalid where
  | notAnOffer (kind : DescriptionKind)
  | sdp (fault : Sdp.Fault)
deriving Repr, DecidableEq

inductive Fault where
  | malformed (cause : Malformed)
  | invalid (cause : Invalid)
deriving Repr, DecidableEq

def Malformed.message : Malformed → String
  | .notUtf8 fault => "not UTF-8: " ++ fault.message
  | .empty => "empty description"
  | .json fault => "bad JSON: " ++ fault.message
  | .base64 fault => "neither JSON nor base64: " ++ fault.message

def Invalid.message : Invalid → String
  | .notAnOffer kind => "expected an offer, got " ++ kind.name
  | .sdp fault => "bad SDP: " ++ fault.message

def Fault.message : Fault → String
  | .malformed cause => "Malformed description: " ++ cause.message
  | .invalid cause => "Invalid description: " ++ cause.message

/-- Drops the NULs at the end. -/
def dropNuls (octets : List UInt8) : List UInt8 := (octets.reverse.dropWhile (· == 0)).reverse

/-- The text without its frame. -/
def unframe (octets : List UInt8) : Except Malformed (List Char) :=
  match Utf8.decode (dropNuls octets) with
  | .error fault => .error (.notUtf8 fault)
  | .ok text => if (Text.trim text).isEmpty then .error .empty else .ok (Text.trim text)

/-- The JSON document of a text: the text itself if it begins an object, else what it holds in
base64. -/
def document (text : List Char) : Except Malformed (List UInt8) :=
  if text.head? = some '\x7b' then .ok (Utf8.encode text)
  else
    match Base64.decode (Utf8.encode text) with
    | .error fault => .error (.base64 fault)
    | .ok octets => .ok octets

def readRecord (octets : List UInt8) : Except Malformed DescriptionRecord :=
  match unframe octets with
  | .error cause => .error cause
  | .ok text =>
    match document text with
    | .error cause => .error cause
    | .ok json =>
      match DescriptionRecord.ofJson json with
      | .error fault => .error (.json fault)
      | .ok record => .ok record

/-- The offer in a record, if it is one and its description can be read. -/
def ofRecord (record : DescriptionRecord) : Except Invalid Offer :=
  if record.kind ≠ .offer then .error (.notAnOffer record.kind)
  else
    match Sdp.Description.parse record.text.toList with
    | .error fault => .error (.sdp fault)
    | .ok _ => .ok ⟨record.text⟩

/-- Reads an offer from the octets of a host. -/
def read (octets : List UInt8) : Except Fault Offer :=
  match readRecord octets with
  | .error cause => .error (.malformed cause)
  | .ok record =>
    match ofRecord record with
    | .error cause => .error (.invalid cause)
    | .ok offer => .ok offer

/-- The description that the offer makes; reading it succeeded when the offer was checked. -/
def description (offer : Offer) : Sdp.Description :=
  match Sdp.Description.parse offer.text.toList with
  | .ok description => description
  | .error _ => ⟨[], []⟩

end Offer

end RtpBridge
