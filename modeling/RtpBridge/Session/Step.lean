-- SUMMARY: The steps of a session, one atomic action at a time.
import RtpBridge.Session.Basic

/-!
# Steps of a session

Calls of the host, the owner of the session, its pumps, its peer connection and what
comes in from outside all take turns. An action is one atomic step of one of them, and
a run is any sequence of actions. Each step tells what can be seen of it from outside.
-/

namespace RtpBridge.Session

inductive Action where
  /-- The host asks for a run. -/
  | run (callbacks : Callbacks)
  /-- The host asks to close the session if it is idle. -/
  | closeIfIdle
  | stop
  /-- The owner goes on. The operating system answers in this way if it is asked for sockets, and
  the grace of the feedback sink that is waited for is over or not. -/
  | advance (answers : Ingress.Answers) (isGraceOver : Bool)
  /-- Something comes in on the port of a kind. -/
  | arrive (kind : MediaKind) (arrival : Arrival)
  /-- A forward pump takes a step. -/
  | pump (kind : MediaKind)
  /-- A read of a feedback sink comes back. -/
  | feedback (kind : MediaKind) (outcome : ReadOutcome)
  /-- A message of the remote peer comes in. -/
  | message (octets : List UInt8)
  /-- The peer connection gives up. -/
  | connectionFailed

/-- Who triggers the stop latch. -/
inductive Stopper where
  | host
  /-- A run that could not bind its ports, or a close. -/
  | owner
  | pump (kind : MediaKind)
  /-- The peer connection that has failed. -/
  | connection
deriving Repr, DecidableEq

inductive Event where
  | runBegan
  | runIgnored
  | closeBegan
  | closeRefused
  /-- The latch was triggered for the first time. -/
  | stopTriggered (stopper : Stopper)
  | bound (pair : IngressPair)
  | bindFailed (fault : BindFault)
  | portsReported (ports : Ports)
  | inputInstalled (callback : Callback)
  | inputCleared
  | inputDelivered (callback : Callback) (message : List UInt8)
  | launched
  | sampleWritten (kind : MediaKind) (sample : List UInt8)
  | pumpEnded (kind : MediaKind) (ending : TaskEnd)
  | closeFlagRaised
  | pumpJoined (exit : PumpExit)
  | connectionClosed
  | sinkJoined (exit : PumpExit)
  | terminated
deriving Repr, DecidableEq

-- ---------------------------------------------------------------------------
-- Calls of the host
-- ---------------------------------------------------------------------------

/-- What is logged when a run finds the session taken. -/
def ignoredEntry (s : Session) : Log.Entry :=
  .warn s!"[{s.id}] start ignored, session is {s.lifecycle.name}"

/-- Takes the session for a run, if it is idle. -/
def beginRun (callbacks : Callbacks) (s : Session) : Session × List Event :=
  if s.lifecycle = .idle then
    ({ s with lifecycle := .running, control := .binding callbacks }, [.runBegan])
  else (s, [.runIgnored])

/-- Takes the session for a close, if it is idle. -/
def beginClose (s : Session) : Session × List Event :=
  if s.lifecycle = .idle then
    ({ s with lifecycle := .terminated, control := .closing .trigger }, [.closeBegan])
  else (s, [.closeRefused])

/-- Triggers the latch; only the first one who does is seen. -/
def triggerStop (stopper : Stopper) (s : Session) : Session × List Event :=
  ({ s with stop := s.stop.trigger.2 }, if s.stop.trigger.1 then [.stopTriggered stopper] else [])

-- ---------------------------------------------------------------------------
-- The owner
-- ---------------------------------------------------------------------------

def note (entry : Log.Entry) (s : Session) : Session := { s with log := s.log ++ [entry] }

def goTo (control : Control) (s : Session) : Session := { s with control }

/-- Tells the ports to the host, or to the log. -/
def report (ports : Ports) (takesPorts : Bool) (s : Session) : Session × List Event :=
  if takesPorts then ({ s with reported := some ports }, [.portsReported ports])
  else
    (s.note (.warn s!"No ports callback given, ports {ports.text} go unreported"), [])

/-- Puts a callback into the input sink, if there is one. -/
def install (input : Option Callback) (s : Session) : Session × List Event :=
  match input with
  | some callback => ({ s with input := s.input.install callback }, [.inputInstalled callback])
  | none => (s, [])

/-- Starts the pumps, which find in their sockets what came in early. -/
def launch (pair : IngressPair) (s : Session) : Session × List Event :=
  let relay := Relay.launch s.id [(pair.video, s.tracks .video), (pair.audio, s.tracks .audio)]
  let relay := s.early.foldl
    (fun relay (kind, arrival) => relay.modifyLink kind.index (·.arrive arrival)) relay
  ({ s with relay := some relay, early := [] }, [.launched])

def clearInput (s : Session) : Session × List Event :=
  ({ s with input := s.input.clear }, [.inputCleared])

def closeConnection (s : Session) : Session × List Event :=
  ({ s with isConnectionOpen := false }, [.connectionClosed])

/-- The result of a run: the fault that kept it from its ports, or else the first failure among the
forward pumps in the order of launch. -/
def result (s : Session) : Option BindFault → Except Error Unit
  | some fault => .error (.bind fault)
  | none =>
    match (s.relay.elim [] (·.forwardExits)).findSome? (·.fault?) with
    | some fault => .error (.transport fault)
    | none => .ok ()

/-- The exits that a step of collecting has added. -/
def newExits (before after : List PumpExit) : List PumpExit := after.drop before.length

/-- One step of a teardown. Without a relay there is nothing to collect. -/
def tearDown (stage : Teardown) (fault : Option BindFault) (isGraceOver : Bool) (s : Session) :
    Session × List Event :=
  match stage, s.relay with
  | .clearInput, relay =>
    let (s, events) := s.clearInput
    (s.goTo (.tearingDown (if relay.isSome then .raiseClose else .closeConnection) fault), events)
  | .raiseClose, some relay =>
    ({ s with relay := some relay.raiseClose, control := .tearingDown .joinPumps fault },
      [.closeFlagRaised])
  | .joinPumps, some relay =>
    if relay.pumpsJoined then (s.goTo (.tearingDown .closeConnection fault), [])
    else
      match relay.joinPump? with
      | some joined =>
        ({ s with relay := some joined },
          (newExits relay.forwardExits joined.forwardExits).map .pumpJoined)
      | none => (s, [])
  | .raiseClose, none | .joinPumps, none => (s.goTo (.tearingDown .closeConnection fault), [])
  | .closeConnection, relay =>
    let (s, events) := s.closeConnection
    (s.goTo (.tearingDown (if relay.isSome then .joinSinks else .terminate) fault), events)
  | .joinSinks, some relay =>
    if relay.sinksJoined then (s.goTo (.tearingDown .terminate fault), [])
    else
      match relay.joinSink? s.config.teardownGrace isGraceOver with
      | some joined =>
        ({ s with relay := some joined },
          (newExits relay.feedbackExits joined.feedbackExits).map .sinkJoined)
      | none => (s, [])
  | .joinSinks, none => (s.goTo (.tearingDown .terminate fault), [])
  | .terminate, _ =>
    ({ s with lifecycle := .terminated, control := .returned (s.result fault) }, [.terminated])

/-- One step of closing an idle session. -/
def stepClosing (stage : Closing) (s : Session) : Session × List Event :=
  match stage with
  | .trigger =>
    let (s, events) := s.triggerStop .owner
    (s.goTo (.closing .clearInput), events)
  | .clearInput =>
    let (s, events) := s.clearInput
    (s.goTo (.closing .closeConnection), events)
  | .closeConnection =>
    let (s, events) := s.closeConnection
    (s.goTo .closed, events)

/-- The next step of whoever owns the session. -/
def advance (answers : Ingress.Answers) (isGraceOver : Bool) (s : Session) :
    Session × List Event :=
  match s.control with
  | .unowned | .returned _ | .closed => (s, [])
  | .binding callbacks =>
    match (Ingress.allocate answers []).1 with
    | .ok pair => (s.goTo (.reporting pair callbacks), [.bound pair])
    | .error fault =>
      let entry := Log.Entry.error s!"[{s.id}] Couldn't allocate ingress ports: {fault.message}"
      ((s.note entry).goTo (.abandoning fault), [.bindFailed fault])
  | .abandoning fault =>
    let (s, events) := s.triggerStop .owner
    (s.goTo (.tearingDown .clearInput (some fault)), events)
  | .reporting pair callbacks =>
    let (s, events) := s.report pair.ports callbacks.takesPorts
    (s.goTo (.installing pair callbacks.input), events)
  | .installing pair input =>
    let (s, events) := s.install input
    (s.goTo (.launching pair), events)
  | .launching pair =>
    let (s, events) := s.launch pair
    (s.goTo .parked, events)
  | .parked => if s.stop.isTriggered then (s.goTo (.tearingDown .clearInput none), []) else (s, [])
  | .tearingDown stage fault => s.tearDown stage fault isGraceOver
  | .closing stage => s.stepClosing stage

-- ---------------------------------------------------------------------------
-- Pumps and arrivals
-- ---------------------------------------------------------------------------

/-- Something comes in: a pump's socket keeps it, and so does one that is not yet relayed. -/
def arrive (kind : MediaKind) (arrival : Arrival) (s : Session) : Session :=
  match s.relay with
  | some relay => { s with relay := some (relay.modifyLink kind.index (·.arrive arrival)) }
  | none =>
    if s.control.pair?.isSome then { s with early := s.early ++ [(kind, arrival)] } else s

/-- What is seen of a pump's step: the samples that it has written since, and its end. -/
def pumpEvents (kind : MediaKind) (before after : ForwardPump) : List Event :=
  (after.written.drop before.written.length).map (.sampleWritten kind)
    ++ (if before.ending?.isNone then after.ending?.toList.map (.pumpEnded kind) else [])

/-- One step of a forward pump. If it fails, it triggers the latch in the same step. -/
def pump (kind : MediaKind) (s : Session) : Session × List Event :=
  match s.relay with
  | none => (s, [])
  | some relay =>
    let (after, stop) := relay.step s.stop (.pump kind.index)
    let seen :=
      match relay.links[kind.index]?, after.links[kind.index]? with
      | some link, some next => pumpEvents kind link.pump next.pump
      | _, _ => []
    ({ s with relay := some after, stop },
      seen ++ if s.stop = stop then [] else [.stopTriggered (.pump kind)])

def feedback (kind : MediaKind) (outcome : ReadOutcome) (s : Session) : Session :=
  { s with relay := s.relay.map fun relay => relay.modifyLink kind.index (·.feedbackStep outcome) }

-- ---------------------------------------------------------------------------
-- Runs
-- ---------------------------------------------------------------------------

def step (s : Session) : Action → Session × List Event
  | .run callbacks => s.beginRun callbacks
  | .closeIfIdle => s.beginClose
  | .stop => s.triggerStop .host
  | .advance answers isGraceOver => s.advance answers isGraceOver
  | .arrive kind arrival => (s.arrive kind arrival, [])
  | .pump kind => s.pump kind
  | .feedback kind outcome => (s.feedback kind outcome, [])
  | .message octets =>
    (s, (s.input.deliver octets).2.map fun (callback, message) => .inputDelivered callback message)
  | .connectionFailed => s.triggerStop .connection

/-- The session after a schedule, and everything that was seen on the way. -/
def run (s : Session) : List Action → Session × List Event
  | [] => (s, [])
  | action :: rest =>
    let (s, events) := s.step action
    let (s, later) := run s rest
    (s, events ++ later)

theorem run_nil (s : Session) : s.run [] = (s, []) := rfl

theorem fst_run_cons (s : Session) (action : Action) (rest : List Action) :
    (s.run (action :: rest)).1 = ((s.step action).1.run rest).1 := rfl

theorem snd_run_cons (s : Session) (action : Action) (rest : List Action) :
    (s.run (action :: rest)).2 = (s.step action).2 ++ ((s.step action).1.run rest).2 := rfl

end RtpBridge.Session
