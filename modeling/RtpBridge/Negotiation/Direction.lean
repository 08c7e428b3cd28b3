-- SUMMARY: In which directions media flow, as offered and as answered.
import RtpBridge.Sdp.Description

/-!
# Directions

A section of media says whether its side sends, receives, does both or neither. The
other side answers with what is left when it does no more than it can, and no more
than it was offered.
-/

namespace RtpBridge.Negotiation

/-- In which directions media flow, seen from whoever says so. -/
inductive Direction where
  | sendAndReceive
  | sendOnly
  | receiveOnly
  | inactive
deriving Repr, DecidableEq

namespace Direction

def name : Direction → String
  | .sendAndReceive => "sendrecv"
  | .sendOnly => "sendonly"
  | .receiveOnly => "recvonly"
  | .inactive => "inactive"

def ofName? (name : List Char) : Option Direction :=
  [sendAndReceive, sendOnly, receiveOnly, inactive].find? fun d => d.name.toList = name

/-- The direction that a section offers: its first attribute that is one. -/
def ofSection? (media : Sdp.Section) : Option Direction :=
  media.attributes.findSome? fun a => ofName? a.key

def sends : Direction → Bool
  | .sendAndReceive | .sendOnly => true
  | .receiveOnly | .inactive => false

def receives : Direction → Bool
  | .sendAndReceive | .receiveOnly => true
  | .sendOnly | .inactive => false

def ofFlows : Bool → Bool → Direction
  | true, true => .sendAndReceive
  | true, false => .sendOnly
  | false, true => .receiveOnly
  | false, false => .inactive

/-- The same direction as the other side sees it. -/
def reverse (d : Direction) : Direction := ofFlows d.receives d.sends

/-- What two directions have in common. -/
def meet (d e : Direction) : Direction := ofFlows (d.sends && e.sends) (d.receives && e.receives)

/-- The answer to an offered direction of a side that has one of its own. -/
def answer (own offered : Direction) : Direction := offered.reverse.meet own

end Direction

end RtpBridge.Negotiation
