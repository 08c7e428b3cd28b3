-- SUMMARY: The exchange of offer and answer, step by step.
import RtpBridge.Error
import RtpBridge.Negotiation.Answer

/-!
# The exchange

A session takes part in one exchange. The first call begins it; every later one is
turned away and changes nothing. The call that began it goes through the steps of
the transport, and the first step that fails ends the exchange.
-/

namespace RtpBridge.Negotiation

/-- What the transport answers in the steps of an exchange. -/
structure Transport where
  applyRemote : Except Rejection Unit
  createAnswer : Except String Unit
  applyLocal : Except String Unit
  /-- The promise that gathering ends. -/
  promise : Ice.Promise
  /-- The answer with its candidates. -/
  localDescription : Option Answer
  serialize : Except String Unit

/-- What the call that began the exchange does next. -/
inductive Stage where
  | notBegun
  | applyingRemote
  | creatingAnswer
  | applyingLocal
  | announcing
  | waiting
  | readingLocal
  | serializing (answer : Answer)
  | returned (result : Except Error Answer)

structure Exchange where
  /-- The session it belongs to, for the log. -/
  session : String
  state : SignalingState
  stage : Stage
  log : List Log.Entry

namespace Exchange

def new (session : String) : Exchange := ⟨session, .created, .notBegun, []⟩

/-- A call: it begins the exchange, or it is turned away. -/
def begin? (e : Exchange) : Except Rejection Exchange :=
  if e.state = .created then .ok { e with state := .remoteApplied, stage := .applyingRemote }
  else .error (.alreadySignaled e.state)

/-- Ends the exchange with an error. -/
def fail (e : Exchange) (error : Error) : Exchange :=
  { e with
    state := .failed
    stage := .returned (.error error)
    log := e.log ++ [.warn s!"[{e.session}] Signaling failed: {error.message}"] }

/-- The end of the wait for gathering; a wait without end leaves all as it is. -/
def waited (e : Exchange) (waited : Ice.Waited) : Exchange :=
  let after := { e with log := e.log ++ waited.log }
  match waited with
  | .complete => { after with stage := .readingLocal }
  | .timedOut fault => after.fail (.gatheringTimeout fault)
  | .waitsForever => after

/-- The next step of the call that began the exchange. -/
def advance (transport : Transport) (limit : Option UInt64) (e : Exchange) : Exchange :=
  match e.stage with
  | .notBegun | .returned _ => e
  | .applyingRemote =>
    match transport.applyRemote with
    | .ok () => { e with stage := .creatingAnswer }
    | .error rejection => e.fail (.negotiation rejection)
  | .creatingAnswer =>
    match transport.createAnswer with
    | .ok () => { e with stage := .applyingLocal }
    | .error cause => e.fail (.answerGeneration cause)
  | .applyingLocal =>
    match transport.applyLocal with
    | .ok () => { e with state := .answerSet, stage := .announcing }
    | .error cause => e.fail (.localDescription (.rejected cause))
  | .announcing => { e with state := .gathering, stage := .waiting }
  | .waiting => e.waited (transport.promise.wait limit)
  | .readingLocal =>
    match transport.localDescription with
    | some answer => { e with stage := .serializing answer, log := e.log ++ answer.tally.log }
    | none => e.fail (.localDescription .missing)
  | .serializing answer =>
    match transport.serialize with
    | .ok () => { e with state := .complete, stage := .returned (.ok answer) }
    | .error cause => e.fail (.localDescription (.unserializable cause))

/-- What happens to an exchange: someone calls, or the call that began it goes on. -/
inductive Action where
  | call
  | advance

def step (transport : Transport) (limit : Option UInt64) (e : Exchange) : Action → Exchange
  | .call =>
    match e.begin? with
    | .ok begun => begun
    | .error _ => e
  | .advance => e.advance transport limit

/-- A run under a schedule. -/
def run (transport : Transport) (limit : Option UInt64) (e : Exchange) (schedule : List Action) :
    Exchange :=
  schedule.foldl (step transport limit) e

/-- Lets the call that began the exchange go on to its end, which is seven steps away. -/
def finish (transport : Transport) (limit : Option UInt64) (e : Exchange) : Exchange :=
  e.run transport limit (List.replicate 7 .advance)

/-- What the call that began the exchange has returned, if it has. -/
def result? (e : Exchange) : Option (Except Error Answer) :=
  match e.stage with
  | .returned result => some result
  | _ => none

end Exchange

-- ---------------------------------------------------------------------------
-- Transports on a network
-- ---------------------------------------------------------------------------

/-- The promise of gathering. A machine without addresses has nothing to gather; on any other the
configured servers, which are taken to be silent, keep it going. -/
def gatheringPromise (network : Network) (config : Config) : Ice.Promise :=
  if network.isUp ∧ !config.servers.isEmpty then .never else .fires .message 0

/-- The transport of a connection to which an offer is applied. -/
def transport (network : Network) (config : Config) (isConnectionOpen : Bool) (offer : Offer) :
    Transport :=
  let description := offer.description
  let agreed := (agree [] description.sections).toOption.getD []
  let answer := answer network agreed description
  { applyRemote := checkOffer isConnectionOpen description
    createAnswer := answer.map fun _ => ()
    applyLocal := startTracks agreed description
    promise := gatheringPromise network config
    localDescription := answer.toOption
    serialize := .ok () }

end RtpBridge.Negotiation
