-- SUMMARY: The transceivers of a session, and which of them serves which section of an offer.
import RtpBridge.Media
import RtpBridge.Negotiation.Direction
import RtpBridge.Negotiation.Rejection

/-!
# Transceivers

A session begins with a transceiver for each of its tracks. Every section of media in
an offer is served by one that is free, fits its kind and can do what it asks for. If
there is none, a transceiver without a track is added.
-/

namespace RtpBridge.Negotiation

open Sdp

/-- A section that gets an answer. -/
structure Offered where
  mid : List Char
  /-- The kind of media and the direction; a section for data has none. -/
  media : Option (MediaKind × Direction)
deriving Repr, DecidableEq

/-- A section is answered if it has a name, and either is for data or has a kind and a direction. -/
def offered? (media : Section) : Option Offered := do
  let mid ← mid? media
  if media.kind = "application".toList then some ⟨mid, none⟩
  else
    let kind ← MediaKind.ofName? media.kind
    let direction ← Direction.ofSection? media
    some ⟨mid, some (kind, direction)⟩

structure Transceiver where
  kind : MediaKind
  direction : Direction
  /-- Whether it has a track to send. -/
  hasTrack : Bool
  /-- The name of the section that it serves. -/
  mid : Option (List Char)
deriving Repr, DecidableEq

namespace Transceiver

/-- The transceivers of a session that has not been made an offer yet. -/
def initial : List Transceiver :=
  [⟨.video, .sendAndReceive, true, none⟩, ⟨.audio, .sendAndReceive, true, none⟩]

/-- The directions of a transceiver that may serve an offered one, from best to worst. -/
def directionsFor : Direction → List Direction
  | .sendAndReceive => [.receiveOnly, .sendAndReceive]
  | .sendOnly => [.receiveOnly]
  | .receiveOnly => [.sendOnly, .sendAndReceive]
  | .inactive => []

def isFree (kind : MediaKind) (direction : Direction) (t : Transceiver) : Bool :=
  t.mid.isNone && t.kind == kind && t.direction == direction

/-- The transceiver that is added for a section that none can serve. -/
def added (mid : List Char) (kind : MediaKind) (offered : Direction) : Transceiver :=
  ⟨kind, if offered = .receiveOnly then .sendOnly else .receiveOnly, false, some mid⟩

/-- Finds a transceiver for a section. -/
def serve (all : List Transceiver) (offered : Offered) : List Transceiver :=
  match offered.media with
  | none => all
  | some (kind, direction) =>
    match (directionsFor direction).findSome? fun d => all.findIdx? (isFree kind d) with
    | some i => all.modify i fun t => { t with mid := some offered.mid }
    | none => all ++ [added offered.mid kind direction]

/-- The transceivers once all sections are served. -/
def serving (sections : List Offered) : List Transceiver := sections.foldl serve initial

end Transceiver

end RtpBridge.Negotiation
