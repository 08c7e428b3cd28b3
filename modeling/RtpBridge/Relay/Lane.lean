-- SUMMARY: The forward side of one link by itself, with everything that can happen to it.
import RtpBridge.Relay.Basic

/-!
# Lanes

A lane is the forward side of one link: a socket with its queue, a forward pump, a track, and
the close flag that the pump watches. Datagrams come in while the pump reads, and at some
moment the flag goes up or its sender goes away, which is the same to the pump. A run is any
sequence of these.
-/

namespace RtpBridge

/-- A close flag, as whoever watches it sees it. -/
structure CloseFlag where
  isRaised : Bool
  isSenderGone : Bool
deriving Repr, DecidableEq

namespace CloseFlag

def down : CloseFlag := ⟨false, false⟩

/-- Whether a wait for the flag is over: without a sender there is nothing left to wait for. -/
def isUp (flag : CloseFlag) : Bool := flag.isRaised || flag.isSenderGone

end CloseFlag

structure Lane where
  link : Link
  flag : CloseFlag
  stop : StopLatch

namespace Lane

def start (session : String) (ingress : IngressSocket) (sink : Sink) : Lane :=
  ⟨.start session ingress sink, .down, .armed⟩

inductive Action where
  | arrive (arrival : Arrival)
  /-- The forward pump takes a step. -/
  | pump
  | raiseClose
  | dropCloser
deriving Repr, DecidableEq

/-- One action. A pump that fails triggers the latch in the same step. -/
def step (lane : Lane) : Action → Lane
  | .arrive arrival => { lane with link := lane.link.arrive arrival }
  | .pump =>
    let link := lane.link.pumpStep lane.flag.isUp
    { lane with link, stop := if link.pump.hasFailed then lane.stop.trigger.2 else lane.stop }
  | .raiseClose => { lane with flag := { lane.flag with isRaised := true } }
  | .dropCloser => { lane with flag := { lane.flag with isSenderGone := true } }

/-- A run under a schedule. -/
def run (lane : Lane) (schedule : List Action) : Lane := schedule.foldl step lane

/-- What an action brings to the socket. -/
def Action.arrival? : Action → Option Arrival
  | .arrive arrival => some arrival
  | _ => none

/-- What comes in under a schedule, in its order. -/
def arrivals (schedule : List Action) : List Arrival := schedule.filterMap (·.arrival?)

end Lane

end RtpBridge
