-- SUMMARY: Single pumps that are driven by hand.
import RtpBridge.Network
import RtpBridge.Relay.FeedbackSink
import RtpBridge.Relay.ForwardPump
import RtpBridge.StopLatch

/-!
# Pumps on the bench

A forward pump is set up with a socket, a close flag and a sink that answers by
rules, and is looked at after each thing that is done to it. A feedback sink only
has a source, which is closed in the end.
-/

namespace RtpBridge.Bench

-- ---------------------------------------------------------------------------
-- Forward pumps
-- ---------------------------------------------------------------------------

inductive PumpTask where
  /-- Sends a datagram so many times, as long as there is a pump to take it. -/
  | send (datagram : List UInt8) (times : Nat)
  /-- Raises the close flag, or drops its sender. -/
  | close
  | stop

structure PumpReading where
  /-- The samples written since the last reading. -/
  samples : List (List UInt8)
  isRunning : Bool
  isStopped : Bool
deriving Repr, DecidableEq

structure Pump where
  pump : ForwardPump
  sink : Sink
  stop : StopLatch

namespace Pump

def start (kind : MediaKind) (session : String) (rules : List WriteOutcome) : Pump :=
  ⟨.start session kind, .ofRules rules, .armed⟩

/-- Lets the pump go on with what is in its socket. -/
def settle (isClosing : Bool) (queue : List Arrival) (bench : Pump) : Pump :=
  let pump := (bench.pump.settle bench.sink isClosing queue).1
  { bench with pump, stop := if pump.hasFailed then bench.stop.trigger.2 else bench.stop }

def isRunning (bench : Pump) : Bool := bench.pump.ending?.isNone

/-- Does a task. Sending fails on a machine without a network. -/
def perform (network : Network) (bench : Pump) : PumpTask → Option Pump
  | .send datagram times =>
    if times = 0 ∨ !bench.isRunning then some bench
    else if network.isUp then
      some (bench.settle false (List.replicate times (.datagram datagram)))
    else none
  | .close => some (bench.settle true [])
  | .stop => some { bench with stop := bench.stop.trigger.2 }

def read (before after : Pump) : PumpReading :=
  ⟨after.pump.written.drop before.pump.written.length, after.isRunning, after.stop.isTriggered⟩

/-- Does tasks one after the other, up to the one that closes the pump. -/
def run (network : Network) (bench : Pump) : List PumpTask → Option (List PumpReading × Pump)
  | [] => some ([], bench)
  | task :: rest => do
    let after ← bench.perform network task
    match task with
    | .close => some ([bench.read after], after)
    | _ =>
      let (readings, last) ← run network after rest
      some (bench.read after :: readings, last)

/-- Starts the pump when these datagrams are in its socket and the close flag is up. -/
def drain (network : Network) (queued : List (List UInt8)) (bench : Pump) : Option Pump :=
  if queued.isEmpty ∨ network.isUp then some (bench.settle true (queued.map .datagram)) else none

/-- How the pump ends, which it does at the latest when the flag is raised. -/
def ending (bench : Pump) : TaskEnd :=
  (bench.settle true []).pump.ending?.getD (.returned .closed)

end Pump

-- ---------------------------------------------------------------------------
-- Feedback sinks
-- ---------------------------------------------------------------------------

/-- A feedback sink with a source that follows rules: whether it had to wait for the source to be
closed, and the sink in the end. -/
def runFeedback (kind : MediaKind) (session : String) (rules : List ReadOutcome) :
    Bool × FeedbackSink :=
  let waiting := (FeedbackSink.start session kind).settle ⟨rules, false⟩
  (waiting.isReading, waiting.settle ⟨rules, true⟩)

end RtpBridge.Bench
