-- SUMMARY: Signaling calls side by side, of which each goes through the steps of an exchange by itself.
import RtpBridge.Negotiation.Exchange

/-!
# Signaling calls

Any number of calls may want to signal a session, at any time and each with an offer of its own.
What they share is the signaling state and the log; how far a call has come is its own matter. An
action is one step of one of the calls, and a run is any sequence of actions.
-/

namespace RtpBridge.Negotiation

/-- What a call asks of the transport. -/
inductive Request where
  | applyRemote
  | createAnswer
  | applyLocal
  | awaitGathering
  | readLocal
  | serialize
deriving Repr, DecidableEq

/-- What is asked of the transport in the next step, if anything. -/
def Stage.request? : Stage → Option Request
  | .applyingRemote => some .applyRemote
  | .creatingAnswer => some .createAnswer
  | .applyingLocal => some .applyLocal
  | .waiting => some .awaitGathering
  | .readingLocal => some .readLocal
  | .serializing _ => some .serialize
  | .notBegun | .announcing | .returned _ => none

/-- A call, with what the transport answers to its offer. -/
structure Call where
  transport : Transport
  stage : Stage

structure Calls where
  session : String
  /-- How long the session waits for gathering. -/
  limit : Option UInt64
  state : SignalingState
  log : List Log.Entry
  /-- In the order in which they came to look at the state. -/
  calls : List Call
  /-- What was asked of the transport, with the place of the call that asked. -/
  requests : List (Nat × Request)

namespace Calls

def new (session : String) (limit : Option UInt64) : Calls := ⟨session, limit, .created, [], [], []⟩

/-- The exchange as a call at this stage sees it. -/
def view (c : Calls) (stage : Stage) : Exchange := ⟨c.session, c.state, stage, c.log⟩

inductive Action where
  /-- Someone calls with an offer to which the transport answers like this. -/
  | call (transport : Transport)
  /-- A call goes on. -/
  | proceed (k : Nat)

/-- Whether an action is a step of a call. -/
def Action.isStepOf (k : Nat) : Action → Bool
  | .call _ => false
  | .proceed i => i == k

/-- A call looks at the state: it begins the exchange, or it is turned away. -/
def enter (c : Calls) (transport : Transport) : Calls :=
  match (c.view .notBegun).begin? with
  | .ok begun =>
    { c with
      state := begun.state
      log := begun.log
      calls := c.calls ++ [⟨transport, begun.stage⟩] }
  | .error rejection =>
    { c with calls := c.calls ++ [⟨transport, .returned (.error (.negotiation rejection))⟩] }

/-- The next step of a call. -/
def proceed (c : Calls) (k : Nat) : Calls :=
  match c.calls[k]? with
  | none => c
  | some call =>
    let after := (c.view call.stage).advance call.transport c.limit
    { c with
      state := after.state
      log := after.log
      calls := c.calls.set k { call with stage := after.stage }
      requests := c.requests ++ call.stage.request?.toList.map (k, ·) }

def step (c : Calls) : Action → Calls
  | .call transport => c.enter transport
  | .proceed k => c.proceed k

/-- A run under a schedule. -/
def run (c : Calls) (schedule : List Action) : Calls := schedule.foldl step c

end Calls

end RtpBridge.Negotiation
