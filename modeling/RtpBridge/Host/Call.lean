-- SUMMARY: The calls of a host as data, with their answers, and runs of them.
import RtpBridge.Host.Basic

/-!
# Calls

Everything that happens at a host is a call, or a step that one of its sessions
takes by itself or because something comes in. A run is any sequence of these.

Every call is guarded: if its body panicked, it would log that and answer what it
answers to a refusal. The guard has no branch here, for no body panics by itself. Only
the peer connection and the runtime under it could do so, and they are taken to answer
whatever they are asked.
-/

namespace RtpBridge.Host

inductive Call where
  | configure (document : Option (List UInt8))
  /-- Creates a session that goes by a name in the log. -/
  | create (id : String)
  | buildOffer (octets : Option (List UInt8))
  | signal (session offer : UInt64)
  /-- The operating system answers in this way when it is asked for sockets. -/
  | start (session : UInt64) (callbacks : Callbacks) (answers : Ingress.Answers)
  | stop (session : UInt64)
  | free (session : UInt64)
  | freeOffer (offer : UInt64)

inductive Answer where
  | accepted (isAccepted : Bool)
  /-- Zero is no handle. -/
  | handle (raw : UInt64)
  | signaled (result : Signaled)
  | started (outcome : Session.Outcome)
  | done

structure Reply where
  answer : Answer
  log : List Log.Entry

variable (transport : Session → Offer → Negotiation.Transport)

def call (host : Host) : Call → Reply × Host
  | .configure document =>
    let (isAccepted, log, host) := host.configure document
    (⟨.accepted isAccepted, log⟩, host)
  | .create id =>
    let (raw, log, host) := host.create id
    (⟨.handle raw, log⟩, host)
  | .buildOffer octets =>
    let (raw, log, host) := host.buildOffer octets
    (⟨.handle raw, log⟩, host)
  | .signal session offer =>
    let (result, log, host) := host.signal transport session offer
    (⟨.signaled result, log⟩, host)
  | .start session callbacks answers =>
    let (outcome, log, host) := host.start session callbacks answers
    (⟨.started outcome, log⟩, host)
  | .stop session => (⟨.done, []⟩, host.stop session)
  | .free session =>
    let (log, host) := host.free session
    (⟨.done, log⟩, host)
  | .freeOffer offer => (⟨.done, []⟩, host.freeOffer offer)

inductive Step where
  | call (c : Call)
  /-- The session at a place takes a step. -/
  | session (place : Nat) (action : Session.Action)

def step (host : Host) : Step → Option Reply × Host
  | .call c =>
    let (reply, host) := host.call transport c
    (some reply, host)
  | .session place action => (none, host.modifySession place fun s => (s.step action).1)

/-- The replies to the calls of a run, in their order, and the host after it. -/
def run (host : Host) : List Step → List Reply × Host
  | [] => ([], host)
  | s :: rest =>
    let (reply, host) := host.step transport s
    let (replies, host) := run host rest
    (reply.toList ++ replies, host)

end RtpBridge.Host
