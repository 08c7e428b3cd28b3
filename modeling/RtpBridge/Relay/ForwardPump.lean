-- SUMMARY: The pump that moves datagrams from a socket to a track.
import RtpBridge.Log
import RtpBridge.Relay.Outcome

/-!
# Forward pumps

A forward pump reads one datagram after the other from its socket and writes each
to the track as one sample. Before each read it looks at the close flag. Once the
flag is up it forwards what is queued, up to a bound, and ends. The first write
that is not accepted ends it at once, and so does a failing read.
-/

namespace RtpBridge

/-- What a read of a socket brings. -/
inductive Arrival where
  | datagram (octets : List UInt8)
  | fault (cause : String)
deriving Repr, DecidableEq

/-- What a track answers to its writes, which are counted from zero. -/
abbrev Sink := Nat → List UInt8 → WriteOutcome

/-- The sink that answers by a list of rules and accepts what comes after their end. -/
def Sink.ofRules (rules : List WriteOutcome) : Sink := fun n _ => rules[n]?.getD .accepted

namespace ForwardPump

/-- The longest datagram that is read; a longer one loses its end. -/
def maxDatagram : Nat := 1600

/-- How many datagrams are forwarded at most once the close flag is up. -/
def maxDrained : Nat := 256

inductive Phase where
  | listening
  /-- The close flag was seen; so many datagrams may still be forwarded. -/
  | draining (left : Nat)
  | ended (ending : TaskEnd)
deriving Repr, DecidableEq

end ForwardPump

structure ForwardPump where
  /-- The session it belongs to, for the log. -/
  session : String
  kind : MediaKind
  phase : ForwardPump.Phase
  /-- The samples handed to the track, whatever became of them. -/
  written : List (List UInt8)
  /-- How many samples the track accepted. -/
  forwarded : Nat
  log : List Log.Entry
deriving Repr, DecidableEq

namespace ForwardPump

def start (session : String) (kind : MediaKind) : ForwardPump :=
  ⟨session, kind, .listening, [], 0, []⟩

def ending? (p : ForwardPump) : Option TaskEnd :=
  match p.phase with
  | .ended ending => some ending
  | _ => none

/-- Whether the pump ended with a failure, which stops the session. -/
def hasFailed (p : ForwardPump) : Bool :=
  match p.phase with
  | .ended (.returned (.failed _)) => true
  | _ => false

-- ---------------------------------------------------------------------------
-- Ends
-- ---------------------------------------------------------------------------

def exitEntry (p : ForwardPump) : PumpExit → Log.Entry
  | .closed =>
    .debug s!"[{p.session}] {p.kind.name} forward pump closed after {p.forwarded} datagrams"
  | .failed fault =>
    .error (s!"[{p.session}] {p.kind.name} forward pump failed after {p.forwarded} datagrams: "
      ++ fault.message)

def finish (p : ForwardPump) (exit : PumpExit) : ForwardPump :=
  { p with phase := .ended (.returned exit), log := p.log ++ [p.exitEntry exit] }

def die (p : ForwardPump) : ForwardPump := { p with phase := .ended .died }

/-- A read that fails while draining ends the pump in order. -/
def stopDraining (p : ForwardPump) (cause : String) : ForwardPump :=
  let entry := Log.Entry.debug s!"{p.kind.name} socket drain stopped: {cause}"
  { p with log := p.log ++ [entry] }.finish .closed

-- ---------------------------------------------------------------------------
-- Steps
-- ---------------------------------------------------------------------------

/-- Writes a datagram to the track; `next` is the phase if it is accepted. -/
def forward (sink : Sink) (datagram : List UInt8) (next : Phase) (p : ForwardPump) : ForwardPump :=
  let sample := datagram.take maxDatagram
  let after := { p with written := p.written ++ [sample] }
  match sink p.written.length sample with
  | .accepted => { after with phase := next, forwarded := p.forwarded + 1 }
  | .closed => after.finish .closed
  | .failed cause => after.finish (.failed (.trackWrite p.kind cause))
  | .panicked => after.die

/-- One step of the pump with its socket's queue, or nothing if it has ended or has to wait. -/
def step? (sink : Sink) (isClosing : Bool) (p : ForwardPump) (queue : List Arrival) :
    Option (ForwardPump × List Arrival) :=
  match p.phase with
  | .ended _ => none
  | .listening =>
    if isClosing then some ({ p with phase := .draining maxDrained }, queue)
    else
      match queue with
      | [] => none
      | .datagram octets :: rest => some (p.forward sink octets .listening, rest)
      | .fault cause :: rest => some (p.finish (.failed (.socketRead p.kind cause)), rest)
  | .draining 0 => some (p.finish .closed, queue)
  | .draining (left + 1) =>
    match queue with
    | [] => some (p.finish .closed, [])
    | .datagram octets :: rest => some (p.forward sink octets (.draining left), rest)
    | .fault cause :: rest => some (p.stopDraining cause, rest)

/-- Takes up to `count` steps. -/
def steps (sink : Sink) (isClosing : Bool) :
    Nat → ForwardPump → List Arrival → ForwardPump × List Arrival
  | 0, p, queue => (p, queue)
  | count + 1, p, queue =>
    match p.step? sink isClosing queue with
    | none => (p, queue)
    | some (next, rest) => steps sink isClosing count next rest

/-- Goes on until the pump has ended or has to wait; besides a step for each datagram there are two
that change the phase. -/
def settle (sink : Sink) (isClosing : Bool) (p : ForwardPump) (queue : List Arrival) :
    ForwardPump × List Arrival :=
  steps sink isClosing (queue.length + 2) p queue

end ForwardPump

end RtpBridge
