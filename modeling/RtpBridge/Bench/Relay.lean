-- SUMMARY: A relay that is driven by hand.
import RtpBridge.Network
import RtpBridge.Relay.Basic

/-!
# Relays on the bench

A relay is launched with links whose sinks and feedback sources follow rules, and is
looked at after each thing that is done to it.
-/

namespace RtpBridge.Bench

structure LinkRules where
  kind : MediaKind
  sink : List WriteOutcome
  feedback : List ReadOutcome
deriving Repr, DecidableEq

inductive RelayTask where
  | send (link : Nat) (datagram : List UInt8) (times : Nat)
  | stop
  | closeSockets
  | closeFeedback (link : Nat)
  | drainFeedback (grace : UInt64)

inductive RelayReading where
  | sent (samples : List (List UInt8))
  | stopped (isFirst : Bool)
  | closed (exits : List PumpExit) (arePortsFree : Bool)
  | feedbackClosed
  | drained (exits : List PumpExit)
deriving Repr, DecidableEq

structure Relay where
  relay : RtpBridge.Relay
  /-- The feedback sources of the links. -/
  sources : List FeedbackSource
  stop : StopLatch

namespace Relay

/-- Lets every feedback sink read what its source has. -/
def settleFeedback (bench : Relay) : Relay :=
  let settleLink (link : Link) (source : FeedbackSource) : Link :=
    { link with feedback := link.feedback.settle source }
  let links := List.zipWith settleLink bench.relay.links bench.sources
  { bench with relay := { bench.relay with links } }

/-- Binds a socket for each link. -/
def bindAll (inUse : List Nat) : List LinkRules → List (IngressSocket × Sink)
  | [] => []
  | link :: rest =>
    let port := Ingress.freshPort inUse
    (⟨link.kind, port⟩, .ofRules link.sink) :: bindAll (port :: inUse) rest

def launch (session : String) (links : List LinkRules) : Relay :=
  settleFeedback
    ⟨.launch session (bindAll [] links), links.map fun link => ⟨link.feedback, false⟩, .armed⟩

def written (bench : Relay) (link : Nat) : List (List UInt8) :=
  bench.relay.links[link]?.elim [] (·.pump.written)

/-- Whether a link still has a pump that takes datagrams. -/
def takes (bench : Relay) (link : Nat) : Bool :=
  !bench.relay.isClosing && bench.relay.links[link]?.any (·.isOpen)

/-- Does a task. Sending fails on a machine without a network. -/
def perform (network : Network) (bench : Relay) : RelayTask → Option (RelayReading × Relay)
  | .send link datagram times =>
    if times = 0 ∨ !bench.takes link then some (.sent [], bench)
    else if network.isUp then
      let arrivals := List.replicate times (Arrival.datagram datagram)
      let queued := bench.relay.modifyLink link fun l => arrivals.foldl (·.arrive ·) l
      let (relay, stop) := queued.settlePumps bench.stop
      let after := { bench with relay, stop }
      some (.sent ((after.written link).drop (bench.written link).length), after)
    else none
  | .stop => some (.stopped bench.stop.trigger.1, { bench with stop := bench.stop.trigger.2 })
  | .closeSockets =>
    let (exits, relay, stop) := bench.relay.closeSockets bench.stop
    some (.closed exits (relay.links.all (!·.isOpen)), { bench with relay, stop })
  | .closeFeedback link =>
    let sources := bench.sources.modify link fun source => { source with isClosed := true }
    some (.feedbackClosed, { bench with sources }.settleFeedback)
  | .drainFeedback grace =>
    let (exits, relay) := bench.relay.drainFeedback grace bench.relay.finishes
    some (.drained exits, { bench with relay })

/-- Does tasks one after the other; each reading comes with whether the latch is triggered. -/
def run (network : Network) (bench : Relay) :
    List RelayTask → Option (List (RelayReading × Bool) × Relay)
  | [] => some ([], bench)
  | task :: rest => do
    let (reading, after) ← bench.perform network task
    let (readings, last) ← run network after rest
    some ((reading, after.stop.isTriggered) :: readings, last)

/-- How many reads the feedback sink of each link has begun. -/
def feedbackReads (bench : Relay) : List Nat := bench.relay.links.map (·.feedback.calls)

end Relay

end RtpBridge.Bench
