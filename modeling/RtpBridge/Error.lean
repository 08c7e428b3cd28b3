-- SUMMARY: The errors of a bridge, by cause.
import RtpBridge.Config
import RtpBridge.Handle
import RtpBridge.Ice.Gathering
import RtpBridge.Ingress
import RtpBridge.Negotiation.Rejection
import RtpBridge.Offer
import RtpBridge.Relay.Outcome

/-!
# Errors

Each error holds what caused it. The wording is in `Error.message` and in the
messages of the causes.
-/

namespace RtpBridge

/-- What can go wrong with the answer that a session has made. -/
inductive LocalDescriptionFault where
  | rejected (cause : String)
  /-- Gathering is over, and there is no description. -/
  | missing
  | unserializable (cause : String)
deriving Repr, DecidableEq

def LocalDescriptionFault.message : LocalDescriptionFault → String
  | .rejected cause => "Local description rejected: " ++ cause
  | .missing => "Local description rejected: no local description after gathering"
  | .unserializable cause => "Local description rejected: couldn't serialize answer: " ++ cause

inductive Error where
  /-- A peer connection refuses one of its servers. -/
  | construction (fault : Ice.ServerFault)
  | offer (fault : Offer.Fault)
  | negotiation (rejection : Negotiation.Rejection)
  | answerGeneration (cause : String)
  | localDescription (fault : LocalDescriptionFault)
  | gatheringTimeout (fault : Ice.GatheringTimeout)
  | bind (fault : BindFault)
  | transport (fault : TransportFault)
  | invalidHandle (fault : InvalidHandle)
  | config (fault : Config.Fault)
deriving Repr, DecidableEq

def Error.message : Error → String
  | .construction fault =>
    "Construction failed: couldn't create peer connection: " ++ fault.message
  | .offer fault => fault.message
  | .negotiation rejection => rejection.message
  | .answerGeneration cause => "Answer generation failed: " ++ cause
  | .localDescription fault => fault.message
  | .gatheringTimeout fault => fault.message
  | .bind fault => fault.message
  | .transport fault => fault.message
  | .invalidHandle fault => fault.message
  | .config fault => fault.message

end RtpBridge
