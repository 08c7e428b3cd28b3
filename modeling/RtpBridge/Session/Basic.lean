-- SUMMARY: Sessions: what one consists of, and how it is created and signaled.
import RtpBridge.InputSink
import RtpBridge.Negotiation.Exchange
import RtpBridge.Relay.Basic
import RtpBridge.Relay.ClosedPipe

/-!
# Sessions

A session takes media from two loopback ports to the tracks of a peer connection.
It is idle until a run or a close takes it; whichever comes first has it to itself
from then on, and its place in that work is the session's control position. When
the work is over, the session is terminated and stays so.
-/

namespace RtpBridge

inductive Lifecycle where
  | idle
  | running
  | terminated
deriving Repr, DecidableEq

def Lifecycle.name : Lifecycle → String
  | .idle => "Idle"
  | .running => "Running"
  | .terminated => "Terminated"

/-- The number by which a host knows an input callback. -/
abbrev Callback := Nat

/-- What a host gives to a run. -/
structure Callbacks where
  /-- Whether it wants to be told the ports. -/
  takesPorts : Bool
  input : Option Callback
deriving Repr, DecidableEq

namespace Session

/-- The stages of a teardown, in their order. -/
inductive Teardown where
  | clearInput
  | raiseClose
  | joinPumps
  | closeConnection
  | joinSinks
  | terminate
deriving Repr, DecidableEq

/-- The stages in which an idle session is closed, in their order. -/
inductive Closing where
  | trigger
  | clearInput
  | closeConnection
deriving Repr, DecidableEq

/-- What the owner of a session does next. -/
inductive Control where
  /-- No one has taken the session. -/
  | unowned
  | binding (callbacks : Callbacks)
  | abandoning (fault : BindFault)
  | reporting (pair : IngressPair) (callbacks : Callbacks)
  | installing (pair : IngressPair) (input : Option Callback)
  | launching (pair : IngressPair)
  /-- Waiting for the stop latch. -/
  | parked
  /-- A run that could not bind its ports keeps the fault. -/
  | tearingDown (stage : Teardown) (fault : Option BindFault)
  | returned (result : Except Error Unit)
  | closing (stage : Closing)
  | closed

/-- The sockets that an owner holds itself: those that are bound and not yet relayed. -/
def Control.pair? : Control → Option IngressPair
  | .reporting pair _ | .installing pair _ | .launching pair => some pair
  | _ => none

end Session

/-- The place of a kind among the links of a relay. -/
def MediaKind.index : MediaKind → Nat
  | .video => 0
  | .audio => 1

structure Session where
  id : String
  config : Config
  exchange : Negotiation.Exchange
  lifecycle : Lifecycle
  control : Session.Control
  stop : StopLatch
  input : InputSink Callback
  isConnectionOpen : Bool
  /-- What the tracks answer to their samples. -/
  tracks : MediaKind → Sink
  /-- The ports that the host was told. -/
  reported : Option Ports
  /-- What came in before there were pumps to read it. -/
  early : List (MediaKind × Arrival)
  relay : Option Relay
  /-- What the owner has logged. -/
  log : List Log.Entry

namespace Session

/-- A track that is not bound to a peer accepts every packet. -/
def unboundTrack : Sink := fun _ sample => Rtp.writeTrack (.ok ()) sample

def new (id : String) (config : Config) : Session where
  id
  config
  exchange := .new id
  lifecycle := .idle
  control := .unowned
  stop := .armed
  input := .empty
  isConnectionOpen := true
  tracks := fun _ => unboundTrack
  reported := none
  early := []
  relay := none
  log := []

/-- A session can be had if the peer connection takes all of its servers. -/
def create (id : String) (config : Config) : Except Error Session :=
  match Ice.checkServers config.servers with
  | .ok () => .ok (new id config)
  | .error fault => .error (.construction fault)

-- ---------------------------------------------------------------------------
-- Signaling
-- ---------------------------------------------------------------------------

/-- Applies an offer over a transport that answers like this. The answer is absent if the call
never returns. -/
def signalOver (transport : Negotiation.Transport) (s : Session) :
    Option (Except Error Negotiation.Answer) × List Log.Entry × Session :=
  match s.exchange.begin? with
  | .error rejection => (some (.error (.negotiation rejection)), [], s)
  | .ok begun =>
    let ended := begun.finish transport s.config.gatheringTimeout
    (ended.result?, ended.log.drop s.exchange.log.length, { s with exchange := ended })

/-- The transport of a session to which an offer is applied, on this network. -/
def transport (network : Network) (s : Session) (offer : Offer) : Negotiation.Transport :=
  Negotiation.transport network s.config s.isConnectionOpen offer

def signal (network : Network) (offer : Offer) (s : Session) :
    Option (Except Error Negotiation.Answer) × List Log.Entry × Session :=
  s.signalOver (s.transport network offer)

-- ---------------------------------------------------------------------------
-- Sockets
-- ---------------------------------------------------------------------------

/-- The sockets that are open: those the owner holds, or those of pumps that have not ended. -/
def openSockets (s : Session) : List IngressSocket :=
  match s.control.pair?, s.relay with
  | some pair, _ => [pair.video, pair.audio]
  | none, some relay => (relay.links.filter (·.isOpen)).map (·.ingress)
  | none, none => []

/-- The samples that have been handed to a track. -/
def written (s : Session) (kind : MediaKind) : List (List UInt8) :=
  (s.relay.bind (·.links[kind.index]?)).elim [] (·.pump.written)

end Session

end RtpBridge
