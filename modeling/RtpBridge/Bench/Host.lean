-- SUMMARY: A host that is driven by hand.
import RtpBridge.Bench.Session
import RtpBridge.Host.Basic

/-!
# Hosts on the bench

Calls are made on an isolated machine. The one who makes them gives names to the
handles, and sees of a new handle only whether it uses the slot of an earlier one.
A name whose handle could not be had stands for zero.
-/

namespace RtpBridge.Bench

/-- A handle by its name, or as a word. -/
inductive HandleRef where
  | name (name : String)
  | raw (raw : UInt64)
deriving Repr, DecidableEq

inductive HostTask where
  | configure (document : Option (List UInt8))
  | showConfig
  | create (name : String)
  | buildOffer (source : Option OfferSource) (name : String)
  | signal (session offer : HandleRef)
  | start (session : HandleRef) (waits : Bool) (budget : Option Nat) (callbacks : Callbacks)
  | join (session : HandleRef)
  | stop (session : HandleRef)
  | free (session : HandleRef)
  | freeOffer (offer : HandleRef)
  /-- Something that leaves no trace. -/
  | idle
  | await (awaited : Awaited)

/-- What is shown of a handle. -/
inductive HandleReading where
  | noHandle
  | fresh
  /-- The slot is that of an earlier handle, the latest of which has this name, so many generations
  later. -/
  | reused (name : String) (generations : Nat)
deriving Repr, DecidableEq

inductive HostReading where
  | nothing
  | accepted (isAccepted : Bool)
  | config (config : Config)
  | handle (reading : HandleReading)
  | signaled (answer : Option Negotiation.Answer)
  | began (ports : Option Ports)
  | returned (toldPorts : Bool)
  | joined (arePortsFree : Option Bool) (log : List Log.Entry)
  | gaveUp (awaited : Awaited)

structure HostReport where
  reading : HostReading
  log : List Log.Entry
  /-- How many sessions and offers have handles. -/
  sessions : Nat
  offers : Nat

/-- Names with their handles, the latest first. -/
abbrev Names := List (String × Option Handle)

namespace Names

def word (names : Names) : HandleRef → UInt64
  | .raw raw => raw
  | .name name => Handle.rawOf ((names.lookup name).getD none)

/-- The latest handle to a slot, with its name. -/
def latest? (names : Names) (index : Nat) : Option (String × Handle) :=
  names.findSome? fun (name, handle) =>
    handle.bind fun h => if h.index = index then some (name, h) else none

/-- What is shown of a new handle. -/
def reading (names : Names) (raw : UInt64) : HandleReading :=
  match Handle.ofRaw? raw with
  | none => .noHandle
  | some handle =>
    match names.latest? handle.index with
    | none => .fresh
    | some (name, earlier) => .reused name (handle.generation - earlier.generation)

end Names

/-- What has become of a start that no one waits for. -/
inductive Started where
  /-- It has the session at a place. -/
  | owner (place : Nat)
  /-- It has ended at once, and has logged this. -/
  | turnedAway (log : List Log.Entry)

structure Host where
  host : RtpBridge.Host
  sessions : Names
  offers : Names
  /-- The latest start under each name or word that has not been joined. -/
  started : List (HandleRef × Started)

namespace Host

def start (config : Config) : Host := ⟨{ RtpBridge.Host.new with config }, [], [], []⟩

def create (name : String) (bench : Host) : HostReading × List Log.Entry × Host :=
  let (raw, log, host) := bench.host.create "ID"
  (.handle (bench.sessions.reading raw), log,
    { bench with host, sessions := (name, Handle.ofRaw? raw) :: bench.sessions })

def buildOffer (source : Option OfferSource) (name : String) (bench : Host) :
    HostReading × List Log.Entry × Host :=
  let (raw, log, host) := bench.host.buildOffer (source.map (·.document))
  (.handle (bench.offers.reading raw), log,
    { bench with host, offers := (name, Handle.ofRaw? raw) :: bench.offers })

def reported (place : Nat) (host : RtpBridge.Host) : Option Ports :=
  host.sessions[place]?.bind (·.reported)

def forget (session : HandleRef) (bench : Host) : Host :=
  { bench with started := bench.started.filter (·.1 ≠ session) }

def startSession (session : HandleRef) (waits : Bool) (budget : Option Nat) (callbacks : Callbacks)
    (bench : Host) : HostReading × List Log.Entry × Host :=
  let raw := bench.sessions.word session
  let place := (bench.host.session? raw).map (·.1)
  let (outcome, log, host) := bench.host.start raw callbacks (Session.answers budget)
  let ports := place.bind (reported · host)
  if waits then
    (.returned (ports.isSome && (place.bind (reported · bench.host)).isNone), log,
      { bench with host })
  else
    let begun (ports : Option Ports) (started : Started) : HostReading × List Log.Entry × Host :=
      (.began ports, [],
        { bench with host, started := (session, started) :: (bench.forget session).started })
    match outcome, place with
    | .ignored, _ | _, none => begun none (.turnedAway log)
    | _, some place => begun ports (.owner place)

def join (session : HandleRef) (bench : Host) : HostReading × List Log.Entry × Host :=
  match bench.started.lookup session with
  | none => (.nothing, [], bench)
  | some (.turnedAway log) => (.joined none (log.filter (·.isWarning)), [], bench.forget session)
  | some (.owner place) =>
    let host := bench.host.modifySession place (·.settle (Session.answers none))
    match host.sessions[place]? with
    | none => (.nothing, [], bench)
    | some s =>
      let log := s.ownerLog ++ RtpBridge.Host.endLog (bench.sessions.word session) s.outcome
      (.joined (s.reported.map fun _ => s.openSockets.isEmpty) (log.filter (·.isWarning)), [],
        { bench.forget session with host })

def perform (bench : Host) : HostTask → HostReading × List Log.Entry × Host
  | .configure document =>
    let (isAccepted, log, host) := bench.host.configure document
    (.accepted isAccepted, log, { bench with host })
  | .showConfig => (.config bench.host.config, [], bench)
  | .create name => bench.create name
  | .buildOffer source name => bench.buildOffer source name
  | .signal session offer =>
    let (result, log, host) := bench.host.signal (·.transport .isolated)
      (bench.sessions.word session) (bench.offers.word offer)
    (.signaled result.answer?, log, { bench with host })
  | .start session waits budget callbacks => bench.startSession session waits budget callbacks
  | .join session => bench.join session
  | .stop session =>
    (.nothing, [], { bench with host := bench.host.stop (bench.sessions.word session) })
  | .free session =>
    let (log, host) := bench.host.free (bench.sessions.word session)
    (.nothing, log, { bench with host })
  | .freeOffer offer =>
    (.nothing, [], { bench with host := bench.host.freeOffer (bench.offers.word offer) })
  | .idle => (.nothing, [], bench)
  | .await awaited => (.gaveUp awaited, [], bench)

def report (reading : HostReading) (log : List Log.Entry) (bench : Host) : HostReport where
  reading
  log := log.filter (·.isWarning)
  sessions := bench.host.live.size
  offers := bench.host.offers.size

/-- Does tasks one after the other, until one is given up. The bench that is left knows the
handles. -/
def run (bench : Host) : List HostTask → List HostReport × Host
  | [] => ([], bench)
  | task :: rest =>
    let (reading, log, after) := bench.perform task
    match reading with
    | .gaveUp _ => ([after.report reading log], after)
    | _ =>
      let (reports, last) := run after rest
      (after.report reading log :: reports, last)

/-- Every handle that was issued. -/
def handles (bench : Host) : List Handle :=
  (bench.sessions ++ bench.offers).filterMap (·.2)

end Host

end RtpBridge.Bench
