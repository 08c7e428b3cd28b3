-- SUMMARY: All calls of a host side by side, step by step, with what becomes of its offers.
import RtpBridge.Host.Call
import RtpBridge.Host.Concurrency

/-!
# Traffic

A host may make any of its calls from several threads. Those that start, stop and free sessions
are under way as before. The others stand beside them: settings and offers change hands in one
step, a creation reads the settings first and enters its session when it has one, and a signaling
call resolves its session, takes its offer, looks at the signaling state and then goes through the
exchange, each in a step of its own. Each step tells what it does to the offers.
-/

namespace RtpBridge.Host

/-- What a call does next that is not one on the life of a session. -/
inductive Standing where
  /-- A creation that has read the settings, and enters its session next. -/
  | creating (id : String) (config : Config)
  /-- A signaling call that has resolved its session, and takes its offer next. -/
  | taking (place : Nat) (offer : UInt64)
  /-- A signaling call that has its offer, and looks at the signaling state next. -/
  | presenting (place : Nat) (offer : Offer)
  /-- The signaling call that has begun the exchange of a session. -/
  | exchanging (place : Nat) (offer : Offer)
  | returned (answer : Answer)

/-- A host with all of its calls, in the order in which they were made. -/
structure Traffic where
  /-- The host, and the calls that start, stop and free its sessions. -/
  busy : Busy
  calls : List Standing

namespace Traffic

inductive Action where
  /-- A session takes a step, or a call that starts, stops or frees one. -/
  | busy (action : Busy.Action)
  | configure (document : Option (List UInt8))
  | create (id : String)
  | buildOffer (octets : Option (List UInt8))
  | signal (session offer : UInt64)
  | freeOffer (offer : UInt64)
  /-- A call takes its next step. The transport answers in this way if it is asked. -/
  | proceed (call : Nat) (transport : Session → Offer → Negotiation.Transport)

/-- What becomes of an offer. -/
inductive Event where
  /-- A call has built the offer behind a handle. -/
  | built (handle : Handle)
  /-- A call has the offer that was behind a handle, be it to signal it or to drop it. -/
  | obtained (handle : Handle)
deriving DecidableEq

def new : Traffic := ⟨⟨.new, []⟩, []⟩

def host (t : Traffic) : Host := t.busy.host

/-- A call that leaves the host like this, and stands there. -/
def enter (t : Traffic) (host : Host) (standing : Standing) : Traffic :=
  ⟨{ t.busy with host }, t.calls ++ [standing]⟩

/-- The first step of a signaling call. -/
def enterSignal (session offer : UInt64) (t : Traffic) : Traffic :=
  match t.host.resolve session with
  | .ok place => t.enter t.host (.taking place offer)
  | .error _ => t.enter t.host (.returned (.signaled .null))

/-- A step of a call at the host, and where it stands after it. -/
def stepOn (transport : Session → Offer → Negotiation.Transport) (host : Host) :
    Standing → Host × Standing
  | .creating id config =>
    let (raw, _, host) := host.createWith config id
    (host, .returned (.handle raw))
  | .taking place offer =>
    match host.takeOffer offer with
    | (.ok offer, host) => (host, .presenting place offer)
    | (.error _, host) => (host, .returned (.signaled .null))
  | .presenting place offer =>
    match host.sessions[place]? with
    | none => (host, .returned (.signaled .null))
    | some s =>
      match s.exchange.begin? with
      | .ok exchange =>
        (host.modifySession place fun s => { s with exchange }, .exchanging place offer)
      | .error _ => (host, .returned (.signaled .null))
  | .exchanging place offer =>
    match host.sessions[place]? with
    | none => (host, .returned (.signaled .null))
    | some s =>
      let exchange := s.exchange.advance (transport s offer) s.config.gatheringTimeout
      (host.modifySession place fun s => { s with exchange },
        match exchange.result? with
        | some result => .returned (.signaled (signaled (some result)).1)
        | none => .exchanging place offer)
  | .returned answer => (host, .returned answer)

/-- The handle of the offer that a call obtains in its next step. -/
def obtains? (host : Host) : Standing → Option Handle
  | .taking _ offer => host.offerHandle? offer
  | _ => none

/-- A call takes its next step. -/
def proceed (call : Nat) (transport : Session → Offer → Negotiation.Transport) (t : Traffic) :
    Traffic × List Event :=
  match t.calls[call]? with
  | none => (t, [])
  | some standing =>
    let (host, next) := stepOn transport t.host standing
    (⟨{ t.busy with host }, t.calls.set call next⟩,
      (obtains? t.host standing).toList.map .obtained)

def step (t : Traffic) : Action → Traffic × List Event
  | .busy action => ({ t with busy := t.busy.step action }, [])
  | .configure document =>
    let (isAccepted, _, host) := t.host.configure document
    (t.enter host (.returned (.accepted isAccepted)), [])
  | .create id => (t.enter t.host (.creating id t.host.config), [])
  | .buildOffer octets =>
    let (raw, _, host) := t.host.buildOffer octets
    (t.enter host (.returned (.handle raw)), (Handle.ofRaw? raw).toList.map .built)
  | .signal session offer => (t.enterSignal session offer, [])
  | .freeOffer offer =>
    (t.enter (t.host.freeOffer offer) (.returned .done),
      (t.host.offerHandle? offer).toList.map .obtained)
  | .proceed call transport => t.proceed call transport

/-- The traffic after a schedule, and all that has become of the offers. -/
def run (t : Traffic) : List Action → Traffic × List Event
  | [] => (t, [])
  | action :: rest =>
    let (t, events) := t.step action
    let (t, later) := run t rest
    (t, events ++ later)

theorem fst_run_cons (t : Traffic) (action : Action) (rest : List Action) :
    (t.run (action :: rest)).1 = ((t.step action).1.run rest).1 := rfl

theorem snd_run_cons (t : Traffic) (action : Action) (rest : List Action) :
    (t.run (action :: rest)).2 = (t.step action).2 ++ ((t.step action).1.run rest).2 := rfl

end Traffic

end RtpBridge.Host
