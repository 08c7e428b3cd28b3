-- SUMMARY: Letting a session run until everyone in it has ended or has to wait.
import RtpBridge.Session.Step

/-!
# Running to rest

A caller who waits for a session sees it at rest: its owner, its pumps and its
feedback sinks have gone on until nothing is left to do without a further call or
arrival.
-/

namespace RtpBridge.Session

/-- Lets the pumps and feedback sinks go on. The senders of a closed connection end their
feedback. -/
def settleTasks (s : Session) : Session :=
  match s.relay with
  | none => s
  | some relay =>
    let (relay, stop) := relay.settlePumps s.stop
    let links :=
      if s.isConnectionOpen then relay.links else relay.links.map (·.feedbackStep .closed)
    { s with relay := some { relay with links }, stop }

/-- So many rounds, in each of which the tasks go on and then the owner takes a step. -/
def rounds (answers : Ingress.Answers) : Nat → Session → Session
  | 0, s => s
  | count + 1, s => rounds answers count (s.settleTasks.step (.advance answers false)).1

/-- Lets everyone go on, also an owner at the start of its work, who is fifteen steps away from the
end. -/
def settle (answers : Ingress.Answers) (s : Session) : Session := s.rounds answers 16

/-- What a run has come to. -/
inductive Outcome where
  /-- The session had been taken before. -/
  | ignored
  /-- It waits for the stop latch. -/
  | waiting
  | returned (result : Except Error Unit)

/-- What the run that has the session has come to. -/
def outcome (s : Session) : Outcome :=
  match s.control with
  | .returned result => .returned result
  | _ => .waiting

/-- What the run that has the session has logged. -/
def ownerLog (s : Session) : List Log.Entry := s.log ++ s.relay.elim [] (·.log)

/-- A run from its call to the rest that follows, with what is logged up to its return. -/
def runToRest (callbacks : Callbacks) (answers : Ingress.Answers) (s : Session) :
    Outcome × List Log.Entry × Session :=
  if s.lifecycle = .idle then
    let s := (s.step (.run callbacks)).1.settle answers
    match s.outcome with
    | .returned result => (.returned result, s.ownerLog, s)
    | outcome => (outcome, [], s)
  else (.ignored, [s.ignoredEntry], s)

/-- A close from its call to its end, and whether it took the session. -/
def closeToRest (s : Session) : Bool × Session :=
  if s.lifecycle = .idle then (true, (s.step .closeIfIdle).1.settle (Ingress.answers none []))
  else (false, s)

end RtpBridge.Session
