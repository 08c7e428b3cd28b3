-- SUMMARY: The relay of a session: its pumps side by side, and how they are collected at the end.
import RtpBridge.Ingress
import RtpBridge.Relay.Draining
import RtpBridge.Relay.FeedbackSink
import RtpBridge.Relay.ForwardPump
import RtpBridge.StopLatch

/-!
# Relays

A relay has a link for each kind of media, with a forward pump and a feedback sink
that run as tasks of their own. They share the close flag of the relay and the stop
latch of the session, and nothing else. An action is one atomic step of one of the
tasks or of whoever holds the relay; a run is any sequence of actions.
-/

namespace RtpBridge

/-- Everything that one kind of media needs. -/
structure Link where
  ingress : IngressSocket
  /-- What has come in and has not been read. -/
  queue : List Arrival
  sink : Sink
  pump : ForwardPump
  feedback : FeedbackSink

namespace Link

def start (session : String) (ingress : IngressSocket) (sink : Sink) : Link :=
  ⟨ingress, [], sink, .start session ingress.kind, .start session ingress.kind⟩

/-- The socket is open until the pump ends and drops it. -/
def isOpen (link : Link) : Bool := link.pump.ending?.isNone

/-- Puts an arrival into the queue of an open socket. -/
def arrive (link : Link) (arrival : Arrival) : Link :=
  if link.isOpen then { link with queue := link.queue ++ [arrival] } else link

/-- One step of the forward pump, if it can take one. -/
def pumpStep (isClosing : Bool) (link : Link) : Link :=
  match link.pump.step? link.sink isClosing link.queue with
  | some (pump, queue) => { link with pump, queue }
  | none => link

def pumpSettle (isClosing : Bool) (link : Link) : Link :=
  let (pump, queue) := link.pump.settle link.sink isClosing link.queue
  { link with pump, queue }

def feedbackStep (link : Link) (outcome : ReadOutcome) : Link :=
  { link with feedback := link.feedback.step outcome }

/-- Ends the feedback sink as its turn in the draining went. -/
def conclude (link : Link) : Draining.Turn → Link
  | .ended ending => { link with feedback := link.feedback.conclude ending }
  | .aborted => { link with feedback := link.feedback.abort }

end Link

structure Relay where
  session : String
  /-- In the order of their launch. -/
  links : List Link
  /-- The close flag, which tells the forward pumps to end. -/
  isClosing : Bool
  /-- The exits of the forward pumps that have been waited for. -/
  forwardExits : List PumpExit
  /-- The exits of the feedback sinks that have been waited for. -/
  feedbackExits : List PumpExit
  log : List Log.Entry

namespace Relay

def launch (session : String) (links : List (IngressSocket × Sink)) : Relay where
  session
  links := links.map fun (ingress, sink) => .start session ingress sink
  isClosing := false
  forwardExits := []
  feedbackExits := []
  log := [.debug s!"[{session}] Relay launched with {links.length} links"]

def modifyLink (relay : Relay) (i : Nat) (f : Link → Link) : Relay :=
  { relay with links := relay.links.modify i f }

/-- Raises the close flag. -/
def raiseClose (relay : Relay) : Relay := { relay with isClosing := true }

-- ---------------------------------------------------------------------------
-- Collecting the pumps
-- ---------------------------------------------------------------------------

/-- What is logged when a task is found to have died. -/
def deathEntry (relay : Relay) (kind : MediaKind) : TaskEnd → List Log.Entry
  | .returned _ => []
  | .died => [.error s!"[{relay.session}] {kind.name} pump task died: task panicked"]

def abortEntry (relay : Relay) (kind : MediaKind) (grace : UInt64) : Log.Entry :=
  .warn (s!"[{relay.session}] {kind.name} feedback sink still running after {grace} ms, "
    ++ "aborting")

/-- Whether all forward pumps have been waited for. -/
def pumpsJoined (relay : Relay) : Bool := relay.forwardExits.length == relay.links.length

def sinksJoined (relay : Relay) : Bool := relay.feedbackExits.length == relay.links.length

/-- Takes the exit of the next forward pump in the order of launch, once it has ended. -/
def joinPump? (relay : Relay) : Option Relay :=
  match relay.links[relay.forwardExits.length]? with
  | none => none
  | some link =>
    link.pump.ending?.map fun ending =>
      { relay with
        forwardExits := relay.forwardExits ++ [ending.exit]
        log := relay.log ++ relay.deathEntry link.ingress.kind ending }

/-- Takes the exit of the next feedback sink, once it has ended. If the grace is over, a sink that
still reads is aborted and counts as closed. -/
def joinSink? (grace : UInt64) (isGraceOver : Bool) (relay : Relay) : Option Relay :=
  let i := relay.feedbackExits.length
  match relay.links[i]? with
  | none => none
  | some link =>
    match link.feedback.ending? with
    | some ending =>
      some { relay with
        feedbackExits := relay.feedbackExits ++ [ending.exit]
        log := relay.log ++ relay.deathEntry link.ingress.kind ending }
    | none =>
      if isGraceOver then
        some { relay.modifyLink i fun link => { link with feedback := link.feedback.abort } with
          feedbackExits := relay.feedbackExits ++ [.closed]
          log := relay.log ++ [relay.abortEntry link.ingress.kind grace] }
      else none

-- ---------------------------------------------------------------------------
-- Actions
-- ---------------------------------------------------------------------------

inductive Action where
  | arrive (link : Nat) (arrival : Arrival)
  /-- The forward pump of a link takes a step. -/
  | pump (link : Nat)
  /-- A read of the feedback sink of a link comes back. -/
  | feedback (link : Nat) (outcome : ReadOutcome)
  | raiseClose
  | joinPump
  | joinSink (grace : UInt64) (isGraceOver : Bool)
  /-- Someone outside the relay triggers the latch. -/
  | trigger
deriving Repr, DecidableEq

/-- Whether the forward pump of a link has ended with a failure. -/
def hasFailed (relay : Relay) (i : Nat) : Bool := relay.links[i]?.any (·.pump.hasFailed)

/-- One action. A forward pump that fails triggers the latch in the same step. -/
def step (relay : Relay) (stop : StopLatch) : Action → Relay × StopLatch
  | .arrive i arrival => (relay.modifyLink i (·.arrive arrival), stop)
  | .pump i =>
    let relay := relay.modifyLink i (·.pumpStep relay.isClosing)
    (relay, if relay.hasFailed i then stop.trigger.2 else stop)
  | .feedback i outcome => (relay.modifyLink i (·.feedbackStep outcome), stop)
  | .raiseClose => (relay.raiseClose, stop)
  | .joinPump => (relay.joinPump?.getD relay, stop)
  | .joinSink grace isGraceOver => ((relay.joinSink? grace isGraceOver).getD relay, stop)
  | .trigger => (relay, stop.trigger.2)

/-- A run under a schedule. -/
def run (relay : Relay) (stop : StopLatch) : List Action → Relay × StopLatch
  | [] => (relay, stop)
  | action :: rest =>
    let (relay, stop) := relay.step stop action
    run relay stop rest

-- ---------------------------------------------------------------------------
-- Running to rest
-- ---------------------------------------------------------------------------

/-- Lets every forward pump run until it has ended or has to wait. -/
def settlePumps (relay : Relay) (stop : StopLatch) : Relay × StopLatch :=
  let relay := { relay with links := relay.links.map (·.pumpSettle relay.isClosing) }
  (relay, if relay.links.any (·.pump.hasFailed) then stop.trigger.2 else stop)

/-- Joins forward pumps while there is one that has ended, at most `count` of them. -/
def joinPumps : Nat → Relay → Relay
  | 0, relay => relay
  | count + 1, relay =>
    match relay.joinPump? with
    | some relay => joinPumps count relay
    | none => relay

/-- Tells the forward pumps to end and waits for them. The exits are those that this call collects:
all on the first call, none later. -/
def closeSockets (relay : Relay) (stop : StopLatch) : List PumpExit × Relay × StopLatch :=
  let collected := relay.forwardExits.length
  let (relay, stop) := relay.raiseClose.settlePumps stop
  let relay := joinPumps relay.links.length relay
  (relay.forwardExits.drop collected, relay, stop)

/-- When each feedback sink ends if nothing more happens: at once if it has ended, else never. -/
def finishes (relay : Relay) (i : Nat) : Option Draining.Finish :=
  (relay.links[i]?.bind (·.feedback.ending?)).map fun ending => ⟨0, ending⟩

/-- What is logged about the end of a feedback sink. -/
def turnEntry (relay : Relay) (grace : UInt64) (link : Link) : Draining.Turn → List Log.Entry
  | .ended ending => relay.deathEntry link.ingress.kind ending
  | .aborted => [relay.abortEntry link.ingress.kind grace]

/-- Waits for the feedback sinks that have not been waited for; `finishes` says when each of the
links' sinks ends. -/
def drainFeedback (grace : UInt64) (finishes : Nat → Option Draining.Finish) (relay : Relay) :
    List PumpExit × Relay :=
  let collected := relay.feedbackExits.length
  let due := relay.links.drop collected
  let turns := Draining.turns grace.toNat 0
    ((List.range due.length).map fun i => finishes (collected + i))
  let exits := turns.map (·.exit)
  (exits,
    { relay with
      links := relay.links.take collected ++ List.zipWith Link.conclude due turns
      feedbackExits := relay.feedbackExits ++ exits
      log := relay.log ++ (List.zipWith (relay.turnEntry grace) due turns).flatten })

/-- The log of the relay with those of its tasks. -/
def wholeLog (relay : Relay) : List Log.Entry :=
  relay.log ++ relay.links.flatMap fun link => link.pump.log ++ link.feedback.log

end Relay

end RtpBridge
