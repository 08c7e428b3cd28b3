-- SUMMARY: The calls that are made on a session, and what each of them returns.
import RtpBridge.Session.Step

/-!
# Calls on a session

Any number of callers may ask for a run of a session, ask to close it, or tell it to
stop, at any time. A call that finds the session idle takes it, and returns when the
work is done; every other call returns at once.
-/

namespace RtpBridge.Session

inductive Request where
  | run (callbacks : Callbacks)
  | closeIfIdle
  | stop
deriving Repr, DecidableEq

/-- What a call returns. -/
inductive Reply where
  | ran (result : Except Error Unit)
  /-- Whether the call has closed the session. -/
  | closed (isClosed : Bool)
  /-- Whether the call was the first to tell the session to stop. -/
  | stopped (isFirst : Bool)

namespace Request

/-- Whether a call wants to have the session to itself. -/
def wantsSession : Request → Bool
  | .run _ | .closeIfIdle => true
  | .stop => false

/-- What a call returns that finds the session taken. -/
def refusal? : Request → Option Reply
  | .run _ => some (.ran (.ok ()))
  | .closeIfIdle => some (.closed false)
  | .stop => none

end Request

def Action.request? : Action → Option Request
  | .run callbacks => some (.run callbacks)
  | .closeIfIdle => some .closeIfIdle
  | .stop => some .stop
  | _ => none

/-- What a call returns at once. One that finds the session idle has to wait. -/
def reply? (s : Session) : Request → Option Reply
  | .stop => some (.stopped s.stop.trigger.1)
  | request => if s.lifecycle = .idle then none else request.refusal?

/-- What the call that has the session returns, once its work is done. -/
def ownerReply? (s : Session) : Option Reply :=
  match s.control with
  | .returned result => some (.ran result)
  | .closed => some (.closed true)
  | _ => none

structure Call where
  request : Request
  /-- The lifecycle in which it found the session. -/
  found : Lifecycle
  /-- What it has returned, if it has. -/
  reply? : Option Reply

namespace Call

/-- Whether the call has taken the session. -/
def takes (call : Call) : Bool := call.request.wantsSession && call.found == .idle

/-- A call that waits returns as soon as the work on the session is done. -/
def await (s : Session) (call : Call) : Call :=
  { call with reply? := call.reply?.or s.ownerReply? }

end Call

/-- The call that an action makes, if it makes one. -/
def call? (s : Session) (action : Action) : Option Call :=
  action.request?.map fun request => ⟨request, s.lifecycle, s.reply? request⟩

/-- A session with the calls that were made on it. -/
structure Calls where
  session : Session
  /-- In the order in which they came to look at the session. -/
  calls : List Call
  /-- What was seen of the session. -/
  seen : List Event

namespace Calls

def new (session : Session) : Calls := ⟨session, [], []⟩

/-- One action, which may be that a call is made. -/
def step (c : Calls) (action : Action) : Calls :=
  let (session, events) := c.session.step action
  let calls := c.calls ++ (c.session.call? action).toList
  ⟨session, calls.map (·.await session), c.seen ++ events⟩

/-- The calls after a schedule. -/
def run (c : Calls) (schedule : List Action) : Calls := schedule.foldl step c

end Calls

end RtpBridge.Session
