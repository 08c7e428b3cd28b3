-- SUMMARY: Telling a closed pipe from other errors of the transport.
import RtpBridge.Relay.Outcome
import RtpBridge.Rtp.Packet
import RtpBridge.Text.Lines

/-!
# Closed pipes

A pipe that was closed in order shows itself in several shapes: as the error
itself, wrapped by a layer in between, or as a line in the joined messages of a
track that is bound more than once.
-/

namespace RtpBridge

/-- An error of the layer below the transport. -/
inductive LayerError where
  | bufferClosed
  | other (text : String)
deriving Repr, DecidableEq

inductive TransportError where
  | closedPipe
  | layer (error : LayerError)
  /-- Passed on by an interceptor. -/
  | intercepted (error : LayerError)
  | other (text : String)
deriving Repr, DecidableEq

def closedPipeText : String := "io: closed pipe"

/-- Whether a message holds that of a closed pipe. -/
def mentionsClosedPipe (message : String) : Bool :=
  Text.contains closedPipeText.toList message.toList

def LayerError.isClosed : LayerError → Bool
  | .bufferClosed => true
  | .other text => mentionsClosedPipe text

def TransportError.isClosed : TransportError → Bool
  | .closedPipe => true
  | .layer error | .intercepted error => error.isClosed
  | .other text => mentionsClosedPipe text

def LayerError.message : LayerError → String
  | .bufferClosed => "buffer closed"
  | .other text => text

def TransportError.message : TransportError → String
  | .closedPipe => closedPipeText
  | .layer error | .intercepted error => error.message
  | .other text => text

/-- The error of a track whose bindings failed with these messages. -/
def TransportError.flatten (messages : List String) : TransportError :=
  .other ("\n".intercalate messages)

-- ---------------------------------------------------------------------------
-- Tracks
-- ---------------------------------------------------------------------------

def WriteOutcome.ofResult : Except TransportError Unit → WriteOutcome
  | .ok () => .accepted
  | .error error => if error.isClosed then .closed else .failed error.message

def ReadOutcome.ofResult : Except TransportError Unit → ReadOutcome
  | .ok () => .packet
  | .error error => if error.isClosed then .closed else .failed error.message

/-- A track reads each sample as a packet and hands it to its bindings; `bindings` is what they
answer. Without bindings the packet is swallowed. -/
def Rtp.writeTrack (bindings : Except TransportError Unit) (sample : List UInt8) : WriteOutcome :=
  match Rtp.check sample with
  | .wellFormed => .ofResult bindings
  | .faulty fault => .ofResult (.error (.other fault.message))
  | .overrun => .panicked

end RtpBridge
