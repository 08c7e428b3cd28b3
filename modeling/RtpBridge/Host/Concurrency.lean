-- SUMMARY: Calls of a host that are under way at the same time, step by step.
import RtpBridge.Host.Basic

/-!
# Calls under way

A host makes calls from several threads. A start first resolves its handle and
takes the session later; a free first releases the handle, then looks at the
lifecycle of the session, and then acts on what it saw. Between these steps other
calls go on, and so do the sessions.
-/

namespace RtpBridge.Host

/-- What a call does next. -/
inductive Position where
  /-- A start that has resolved its handle, and takes the session next. -/
  | starting (place : Nat) (callbacks : Callbacks)
  /-- A start that waits for the run that it began. -/
  | running (place : Nat)
  /-- A stop that has resolved its handle, and triggers the latch next. -/
  | stopping (place : Nat)
  /-- A free that has released its handle, and looks at the lifecycle next. -/
  | looking (place : Nat)
  /-- A free that has seen a lifecycle, and acts on it next. -/
  | retiring (place : Nat) (seen : Lifecycle)
  /-- A free that waits for the close that it began. -/
  | closing (place : Nat)
  /-- A free that found its handle live has returned. -/
  | freed (place : Nat)
  | returned
deriving Repr, DecidableEq

/-- The place of the session that a call is about. -/
def Position.place? : Position → Option Nat
  | .starting place _ | .running place | .stopping place | .looking place | .retiring place _
  | .closing place | .freed place => some place
  | .returned => none

/-- A host with its calls, in the order in which they were made. -/
structure Busy where
  host : Host
  calls : List Position

namespace Busy

inductive Action where
  | start (session : UInt64) (callbacks : Callbacks)
  | stop (session : UInt64)
  | free (session : UInt64)
  /-- A call takes its next step. -/
  | proceed (call : Nat)
  /-- The session at a place takes a step. -/
  | session (place : Nat) (action : Session.Action)

def enter (b : Busy) (position : Position) : Busy := { b with calls := b.calls ++ [position] }

/-- The first step of a start. -/
def enterStart (session : UInt64) (callbacks : Callbacks) (b : Busy) : Busy :=
  match b.host.resolve session with
  | .ok place => b.enter (.starting place callbacks)
  | .error _ => b.enter .returned

def enterStop (session : UInt64) (b : Busy) : Busy :=
  match b.host.resolve session with
  | .ok place => b.enter (.stopping place)
  | .error _ => b.enter .returned

def enterFree (session : UInt64) (b : Busy) : Busy :=
  match (Handle.ofRaw? session).map b.host.live.release with
  | some (some place, live) => { b with host := { b.host with live } }.enter (.looking place)
  | _ => b.enter .returned

/-- A step of a call on its session, and the position after it. -/
def stepOn (s : Session) : Position → Session × Position
  | .starting place callbacks =>
    if s.lifecycle = .idle then ((s.step (.run callbacks)).1, .running place) else (s, .returned)
  | .running place =>
    match s.control with
    | .returned _ => (s, .returned)
    | _ => (s, .running place)
  | .stopping _ => ((s.step .stop).1, .returned)
  | .looking place => (s, .retiring place s.lifecycle)
  | .retiring place .idle =>
    if s.lifecycle = .idle then ((s.step .closeIfIdle).1, .closing place) else (s, .freed place)
  | .retiring place .running => ((s.step .stop).1, .freed place)
  | .retiring place .terminated => (s, .freed place)
  | .closing place =>
    match s.control with
    | .closed => (s, .freed place)
    | _ => (s, .closing place)
  | .freed place => (s, .freed place)
  | .returned => (s, .returned)

/-- A call takes its next step. -/
def proceed (call : Nat) (b : Busy) : Busy :=
  match b.calls[call]? with
  | none => b
  | some position =>
    match position.place? with
    | none => b
    | some place =>
      match b.host.sessions[place]? with
      | none => b
      | some s =>
        let (s, next) := stepOn s position
        ⟨b.host.modifySession place fun _ => s, b.calls.set call next⟩

def step (b : Busy) : Action → Busy
  | .start session callbacks => b.enterStart session callbacks
  | .stop session => b.enterStop session
  | .free session => b.enterFree session
  | .proceed call => b.proceed call
  | .session place action =>
    { b with host := b.host.modifySession place fun s => (s.step action).1 }

/-- A run under a schedule. -/
def run (b : Busy) (schedule : List Action) : Busy := schedule.foldl step b

end Busy

end RtpBridge.Host
