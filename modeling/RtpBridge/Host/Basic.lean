-- SUMMARY: What a host holds: its settings, its sessions and its offers, both known by handles.
import RtpBridge.HandleTable
import RtpBridge.Session.Rest

/-!
# Hosts

A host sees sessions and offers as words. A word that names nothing is turned away
before anything else happens. Sessions outlive their handles: one that is freed
while it runs goes on until it has stopped.
-/

namespace RtpBridge

structure Host where
  /-- The settings for sessions to come. -/
  config : Config
  /-- All sessions that were ever created; a session is known by its place. -/
  sessions : List Session
  /-- The handles of sessions, with the places of these. -/
  live : HandleTable Nat
  offers : HandleTable Offer

namespace Host

def new : Host := ⟨.default, [], .empty, .empty⟩

def modifySession (host : Host) (place : Nat) (f : Session → Session) : Host :=
  { host with sessions := host.sessions.modify place f }

/-- The place of the session that a word names. -/
def resolve (host : Host) (raw : UInt64) : Except Error Nat :=
  match Handle.ofRaw? raw with
  | none => .error (.invalidHandle ⟨raw⟩)
  | some handle =>
    match host.live.resolve handle with
    | .ok place => .ok place
    | .error fault => .error (.invalidHandle fault)

/-- The session that a word names, with its place. -/
def session? (host : Host) (raw : UInt64) : Option (Nat × Session) :=
  match host.resolve raw with
  | .ok place => host.sessions[place]?.map fun s => (place, s)
  | .error _ => none

/-- Takes the offer that a word names. -/
def takeOffer (host : Host) (raw : UInt64) : Except Error Offer × Host :=
  match Handle.ofRaw? raw with
  | none => (.error (.invalidHandle ⟨raw⟩), host)
  | some handle =>
    match host.offers.take handle with
    | (.ok offer, offers) => (.ok offer, { host with offers })
    | (.error fault, offers) => (.error (.invalidHandle fault), { host with offers })

/-- The handle that a word is, if there is an offer behind it. -/
def offerHandle? (host : Host) (raw : UInt64) : Option Handle :=
  (Handle.ofRaw? raw).filter fun handle => (host.offers.resolve? handle).isSome

-- ---------------------------------------------------------------------------
-- Settings and new objects
-- ---------------------------------------------------------------------------

/-- Replaces the settings by those of a document, if it is accepted. -/
def configure (document : Option (List UInt8)) (host : Host) : Bool × List Log.Entry × Host :=
  match document with
  | none => (false, [.error "rtp2rtc_configure called with a null pointer"], host)
  | some octets =>
    match Config.ofJson octets with
    | .ok config => (true, [], { host with config })
    | .error fault => (false, [.error fault.message], host)

/-- Creates a session with these settings; the answer is its handle, or zero. -/
def createWith (config : Config) (id : String) (host : Host) : UInt64 × List Log.Entry × Host :=
  match Session.create id config with
  | .error error => (0, [.error ("RTP2RTC init failed: " ++ error.message)], host)
  | .ok s =>
    let (handle, live) := host.live.register host.sessions.length
    (handle.raw, [], { host with sessions := host.sessions ++ [s], live })

/-- Creates a session with the present settings. -/
def create (id : String) (host : Host) : UInt64 × List Log.Entry × Host :=
  host.createWith host.config id

/-- Reads an offer and keeps it; the answer is its handle, or zero. -/
def buildOffer (octets : Option (List UInt8)) (host : Host) : UInt64 × List Log.Entry × Host :=
  match octets with
  | none => (0, [.error "rtp2rtc_build_offer called with a null pointer"], host)
  | some octets =>
    match Offer.read octets with
    | .error fault => (0, [.error fault.message], host)
    | .ok offer =>
      let (handle, offers) := host.offers.register offer
      (handle.raw, [], { host with offers })

-- ---------------------------------------------------------------------------
-- Calls on a session
-- ---------------------------------------------------------------------------

def signalingEntry (error : Error) : Log.Entry := .error ("Signaling failed: " ++ error.message)

/-- What a host sees of a signaling call. -/
inductive Signaled where
  | answered (answer : Negotiation.Answer)
  | null
  /-- Gathering never ends, and the call does not return. -/
  | pending

def Signaled.answer? : Signaled → Option Negotiation.Answer
  | .answered answer => some answer
  | .null | .pending => none

/-- What a host sees of what a session makes of an offer, with what is logged of it. -/
def signaled : Option (Except Error Negotiation.Answer) → Signaled × List Log.Entry
  | some (.ok answer) => (.answered answer, [])
  | some (.error error) => (.null, [signalingEntry error])
  | none => (.pending, [])

/-- Signals an offer to a session, whose transport answers to it in this way. The offer is taken
once the session is known to be live, and is gone whatever becomes of it. -/
def signal (transport : Session → Offer → Negotiation.Transport) (session offer : UInt64)
    (host : Host) : Signaled × List Log.Entry × Host :=
  match host.resolve session with
  | .error error => (.null, [signalingEntry error], host)
  | .ok place =>
    match host.takeOffer offer with
    | (.error error, host) => (.null, [signalingEntry error], host)
    | (.ok offer, host) =>
      match host.sessions[place]? with
      | none => (.null, [], host)
      | some s =>
        let (result, log, s) := s.signalOver (transport s offer)
        let (answer, entries) := signaled result
        (answer, log ++ entries, host.modifySession place fun _ => s)

/-- What is logged when a run ends with an error. -/
def endEntry (session : UInt64) (error : Error) : Log.Entry :=
  .error s!"Session {hexWord session} ended with an error: {error.message}"

def endLog (session : UInt64) : Session.Outcome → List Log.Entry
  | .returned (.error error) => [endEntry session error]
  | _ => []

/-- Starts a session, and lets it come to rest. -/
def start (session : UInt64) (callbacks : Callbacks) (answers : Ingress.Answers) (host : Host) :
    Session.Outcome × List Log.Entry × Host :=
  match host.resolve session with
  | .error error => (.returned (.error error), [endEntry session error], host)
  | .ok place =>
    match host.sessions[place]? with
    | none => (.ignored, [], host)
    | some s =>
      let (outcome, log, s) := s.runToRest callbacks answers
      (outcome, log ++ endLog session outcome, host.modifySession place fun _ => s)

/-- Asks a session to stop. -/
def stop (session : UInt64) (host : Host) : Host :=
  match host.resolve session with
  | .error _ => host
  | .ok place => host.modifySession place fun s => (s.step .stop).1

/-- Ends a session that has lost its handle: an idle one is closed, a running one is stopped. -/
def retire (place : Nat) (host : Host) : List Log.Entry × Host :=
  match host.sessions[place]? with
  | none => ([], host)
  | some s =>
    match s.lifecycle with
    | .idle => ([], host.modifySession place fun s => s.closeToRest.2)
    | .running =>
      ([.warn s!"Session {s.id} freed while running, stopping it"],
        host.modifySession place fun s => (s.step .stop).1)
    | .terminated => ([], host)

/-- Frees the handle of a session, if it is live. -/
def free (session : UInt64) (host : Host) : List Log.Entry × Host :=
  match (Handle.ofRaw? session).map host.live.release with
  | some (some place, live) => { host with live }.retire place
  | _ => ([], host)

/-- Drops an offer, if it is still there. -/
def freeOffer (offer : UInt64) (host : Host) : Host :=
  match Handle.ofRaw? offer with
  | some handle => { host with offers := (host.offers.release handle).2 }
  | none => host

end Host

end RtpBridge
