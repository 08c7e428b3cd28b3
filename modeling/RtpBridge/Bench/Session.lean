-- SUMMARY: A session that is driven by hand.
import RtpBridge.Bench.FarEnd
import RtpBridge.Session.Rest

/-!
# Sessions on the bench

A session is driven from outside on an isolated machine, and looked at after each thing
that is done to it. What is sent to its ports gets lost, and the far end is not
reached: whoever waits for something from there gives up, and the script with it.
While a run is on its way to its end, nothing is said about how far it has come.
-/

namespace RtpBridge.Bench

/-- Where an offer comes from. -/
inductive OfferSource where
  | octets (octets : List UInt8)
  | farEnd

def OfferSource.document : OfferSource → List UInt8
  | .octets document => document
  | .farEnd => FarEnd.document

/-- What someone waits for who needs the far end. -/
inductive Awaited where
  | media
  | packet
  | message
  | delivery
deriving Repr, DecidableEq

inductive SessionTask where
  | look
  | signal (source : OfferSource)
  /-- Starts a run, and waits for its end if `waits` is set. So many sockets may be opened. -/
  | run (waits : Bool) (budget : Option Nat) (input : Bool)
  /-- Sends datagrams to a port. -/
  | send
  | stop
  | closeIfIdle
  | join
  | readFeedback
  | await (awaited : Awaited)
  /-- Makes sure that there is no input. -/
  | expectNoInput

inductive SessionReading where
  | nothing
  | notBuilt (fault : Offer.Fault)
  | signaled (result : Option (Except Error Negotiation.Answer))
  /-- A run has begun, and has told its ports or not. -/
  | began (ports : Option Ports)
  | ran (result : Except Error Unit) (toldPorts : Bool)
  | stopped (isFirst : Bool)
  | closed (isClosed : Bool)
  /-- A run has ended. The sockets are said to be free if there were any. -/
  | joined (result : Except Error Unit) (arePortsFree : Option Bool) (log : List Log.Entry)
  /-- For each sender whether its feedback is closed. -/
  | senders (areClosed : List Bool)
  | gaveUp (awaited : Awaited)
  | noInput

/-- A reading with the state of the session. -/
structure SessionReport where
  reading : SessionReading
  log : List Log.Entry
  signaling : SignalingState
  /-- The lifecycle and whether the connection is open, unless a run may be ending. -/
  visible : Option (Lifecycle × Bool)

/-- A run that no one waits for. -/
inductive Background where
  /-- It has the session. -/
  | owner
  /-- It has ended at once, since the session could not be had, and has logged this. -/
  | turnedAway (log : List Log.Entry)

structure Session where
  session : RtpBridge.Session
  /-- The run that has not been joined. -/
  background : Option Background
  /-- A datagram was sent or a stop requested at some time. -/
  isDisturbed : Bool

namespace Session

def start (s : RtpBridge.Session) : Session := ⟨s, none, false⟩

/-- What a run has returned; one that was ignored returns at once. -/
def resultOf : RtpBridge.Session.Outcome → Except Error Unit
  | .returned result => result
  | .ignored | .waiting => .ok ()

/-- What a run gets from a bench with so many sockets. -/
def answers (budget : Option Nat) : Ingress.Answers := Ingress.answers budget []

def runWith (budget : Option Nat) (input : Bool) (waits : Bool) (bench : Session) :
    SessionReading × List Log.Entry × Session :=
  let callbacks : Callbacks := ⟨true, if input then some 0 else none⟩
  let (outcome, log, s) := bench.session.runToRest callbacks (answers budget)
  if waits ∨ bench.background.isSome then
    let tells := bench.session.reported.isNone && s.reported.isSome
    (.ran (resultOf outcome) tells, log, { bench with session := s })
  else
    match outcome with
    | .ignored => (.began none, [], { bench with background := some (.turnedAway log) })
    | _ => (.began s.reported, [], { bench with session := s, background := some .owner })

def join (bench : Session) : SessionReading × Session :=
  match bench.background with
  | some (.turnedAway log) =>
    (.joined (.ok ()) none (log.filter (·.isWarning)), { bench with background := none })
  | _ =>
    let s := bench.session.settle (answers none)
    let free := s.reported.map fun _ => s.openSockets.isEmpty
    (.joined (resultOf s.outcome) free (s.ownerLog.filter (·.isWarning)),
      { bench with session := s, background := none })

/-- Does a task, and says what is seen and logged. -/
def perform (bench : Session) : SessionTask → SessionReading × List Log.Entry × Session
  | .look => (.nothing, [], bench)
  | .signal source =>
    match Offer.read source.document with
    | .error fault => (.notBuilt fault, [], bench)
    | .ok offer =>
      let (result, log, s) := bench.session.signal .isolated offer
      (.signaled result, log, { bench with session := s })
  | .run waits budget input => bench.runWith budget input waits
  | .send => (.nothing, [], { bench with isDisturbed := true })
  | .stop =>
    (.stopped bench.session.stop.trigger.1, [],
      { bench with session := (bench.session.step .stop).1, isDisturbed := true })
  | .closeIfIdle =>
    let (isClosed, s) := bench.session.closeToRest
    (.closed isClosed, [], { bench with session := s })
  | .join =>
    let (reading, bench) := bench.join
    (reading, [], bench)
  | .readFeedback =>
    (.senders (if bench.session.isConnectionOpen then [false, false] else []), [], bench)
  | .await awaited => (.gaveUp awaited, [], bench)
  | .expectNoInput => (.noInput, [], bench)

def report (reading : SessionReading) (log : List Log.Entry) (bench : Session) : SessionReport where
  reading
  log := log.filter (·.isWarning)
  signaling := bench.session.exchange.state
  visible :=
    if bench.background.isSome ∧ bench.isDisturbed then none
    else some (bench.session.lifecycle, bench.session.isConnectionOpen)

/-- Does tasks one after the other, until one is given up. -/
def run (bench : Session) : List SessionTask → List SessionReport
  | [] => []
  | task :: rest =>
    let (reading, log, after) := bench.perform task
    match reading with
    | .gaveUp _ => [after.report reading log]
    | _ => after.report reading log :: run after rest

end Session

/-- The settings of sessions on the bench. -/
def config : Config := ⟨[], true, some 5000, 200⟩

end RtpBridge.Bench
