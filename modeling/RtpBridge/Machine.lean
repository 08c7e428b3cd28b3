-- SUMMARY: Sessions side by side on one machine, which share its ports.
import RtpBridge.Session.Step

/-!
# Machines

Any number of sessions live on a machine. Each goes its own way, but all of them take
their ports from the same operating system, and so does everyone else there. An action
is one step of one session or of someone else; a run is any sequence of actions.
-/

namespace RtpBridge

/-- Whether the next step of the owner is to ask for the sockets. -/
def Session.isBinding (s : Session) : Bool :=
  match s.control with
  | .binding _ => true
  | _ => false

structure Machine where
  /-- All sessions that were ever created; a session is known by its place. -/
  sessions : List Session
  /-- The ports that are open for other reasons. -/
  foreign : List Nat

namespace Machine

/-- The ports of all ingress sockets that are open. -/
def ports (m : Machine) : List Nat := (m.sessions.flatMap (·.openSockets)).map (·.port)

/-- Every port that is open. -/
def inUse (m : Machine) : List Nat := m.ports ++ m.foreign

inductive Action where
  /-- A session is created, with tracks that answer in this way. -/
  | create (id : String) (config : Config) (tracks : MediaKind → Sink)
  /-- The session at a place takes a step. -/
  | session (place : Nat) (action : Session.Action)
  /-- Someone else opens a port. -/
  | occupy (port : Nat)
  /-- Someone else closes a port. -/
  | vacate (port : Nat)

def step (m : Machine) : Action → Machine
  | .create id config tracks =>
    { m with sessions := m.sessions ++ [{ Session.new id config with tracks }] }
  | .session place action =>
    { m with sessions := m.sessions.modify place fun s => (s.step action).1 }
  | .occupy port => { m with foreign := port :: m.foreign }
  | .vacate port => { m with foreign := m.foreign.erase port }

/-- A run under a schedule. -/
def run (m : Machine) (schedule : List Action) : Machine := schedule.foldl step m

-- ---------------------------------------------------------------------------
-- The operating system
-- ---------------------------------------------------------------------------

/-- What the operating system answers to the session that asks for its sockets in an action, if
one does. -/
def asked? (m : Machine) : Action → Option Ingress.Answers
  | .session place (.advance answers _) =>
    (m.sessions[place]?.filter (·.isBinding)).map fun _ => answers
  | _ => none

/-- The port that someone else is given. -/
def Action.occupied? : Action → Option Nat
  | .occupy port => some port
  | _ => none

/-- That the operating system gives no port to anyone while it is open. -/
def IsFair (m : Machine) (action : Action) : Prop :=
  (∀ answers ∈ m.asked? action, answers.AreFresh m.inUse) ∧
    ∀ port ∈ action.occupied?, port ∉ m.inUse

instance (m : Machine) (action : Action) : Decidable (m.IsFair action) :=
  inferInstanceAs (Decidable ((∀ answers ∈ m.asked? action, _) ∧ ∀ port ∈ action.occupied?, _))

/-- That it does so in every step of a run. -/
def RunsFairly (m : Machine) : List Action → Prop
  | [] => True
  | action :: rest => m.IsFair action ∧ (m.step action).RunsFairly rest

instance decidableRunsFairly (m : Machine) : (schedule : List Action) →
    Decidable (m.RunsFairly schedule)
  | [] => .isTrue trivial
  | action :: rest =>
    have := decidableRunsFairly (m.step action) rest
    inferInstanceAs (Decidable (_ ∧ _))

end Machine

end RtpBridge
