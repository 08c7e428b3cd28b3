-- SUMMARY: The answer to an offer, section by section.
import RtpBridge.Ice.Tally
import RtpBridge.Network
import RtpBridge.Negotiation.Transceiver

/-!
# Answers

An answer has a section for each named section of the offer that it knows how to
answer. It turns the direction around, and rejects a section that is not grouped with
others. Where both sides have no codec in common, a section is refused without a name,
unless a track was to be sent there: then there is no answer.
-/

namespace RtpBridge.Negotiation

open Sdp

inductive AnswerSection where
  | answered (kind : String) (mid : List Char) (direction : Direction) (isRejected : Bool)
  | refused (kind : MediaKind)
deriving Repr, DecidableEq

structure Answer where
  sections : List AnswerSection
  /-- The candidates that it names. -/
  tally : Ice.Tally
deriving Repr, DecidableEq

/-- The words of the first group of the offer, among which those that name sections. -/
def grouped (description : Description) : List (List Char) :=
  (attributeValue? "group" description.attributes).elim [] Text.words

def noCodecs : String := "unable to populate media section, RTPSender created with no codecs"

/-- The section of a transceiver that serves an offered direction. -/
def Transceiver.answer (agreed : Agreed) (group : List (List Char)) (mid : List Char)
    (offered : Direction) (t : Transceiver) : Except String AnswerSection :=
  if (agreed.codecs t.kind).isEmpty then
    if t.hasTrack then .error noCodecs else .ok (.refused t.kind)
  else .ok (.answered t.kind.name mid (t.direction.answer offered) (!group.contains mid))

/-- The answers to the sections of an offer. Each takes the first transceiver that serves a section
of its name. -/
def answerSections (agreed : Agreed) (group : List (List Char)) :
    List Transceiver → List Offered → Except String (List AnswerSection)
  | _, [] => .ok []
  | all, offered :: rest =>
    match offered.media with
    | none => do
      let data := .answered "application" offered.mid .sendAndReceive (!group.contains offered.mid)
      return data :: (← answerSections agreed group all rest)
    | some (_, direction) =>
      match all.find? (·.mid == some offered.mid) with
      | none => answerSections agreed group all rest
      | some t => do
        let first ← t.answer agreed group offered.mid direction
        let others := all.eraseP (·.mid == some offered.mid)
        return first :: (← answerSections agreed group others rest)

/-- Candidates stand in the first section, if it is not refused. -/
def namesCandidates : List AnswerSection → Bool
  | .answered .. :: _ => true
  | _ => false

/-- The answer of a session on this network. -/
def answer (network : Network) (agreed : Agreed) (description : Description) :
    Except String Answer := do
  let offered := description.sections.filterMap offered?
  let sections ← answerSections agreed (grouped description) (Transceiver.serving offered) offered
  return ⟨sections, if namesCandidates sections then ⟨network.addresses, 0, 0⟩ else .zero⟩

-- ---------------------------------------------------------------------------
-- Tracks
-- ---------------------------------------------------------------------------

/-- The codec of a session's track. -/
def trackCodec : MediaKind → String
  | .video => "VP8"
  | .audio => "opus"

def trackNotSupported : String := "unable to start track, codec is not supported by remote"

/-- A track can be sent if both sides have its codec. -/
def Transceiver.canSend (agreed : Agreed) (t : Transceiver) : Bool :=
  (agreed.codecs t.kind).any fun codec =>
    Text.equalInUpper codec.name (trackCodec t.kind).toList

/-- Starts the tracks of the transceivers that serve a section. -/
def startTracks (agreed : Agreed) (description : Description) : Except String Unit :=
  let all := Transceiver.serving (description.sections.filterMap offered?)
  if all.all fun t => t.mid.isNone || !t.hasTrack || t.canSend agreed then .ok ()
  else .error trackNotSupported

end RtpBridge.Negotiation
