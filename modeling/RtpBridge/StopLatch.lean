-- SUMMARY: The latch that stops a session: it is triggered once and stays so.
import RtpBridge.Shared

/-!
# Stop latches

Anyone who holds a latch may trigger it; only the first trigger counts. A wait looks
at the latch, and as long as it finds it armed it sleeps until a trigger wakes it.
Between its look and its sleep others may act: it makes sure that nobody has
triggered the latch meanwhile, for that trigger would not wake it any more.
-/

namespace RtpBridge

inductive StopLatch where
  | armed
  | triggered
deriving Repr, DecidableEq

namespace StopLatch

/-- Triggers the latch, and says whether this was the first time. -/
def trigger : StopLatch → Bool × StopLatch
  | .armed => (true, .triggered)
  | .triggered => (false, .triggered)

def isTriggered : StopLatch → Bool
  | .armed => false
  | .triggered => true

theorem isTriggered_trigger (l : StopLatch) : l.trigger.2.isTriggered := by cases l <;> rfl

theorem fst_trigger (l : StopLatch) : l.trigger.1 = !l.isTriggered := by cases l <;> rfl

-- ---------------------------------------------------------------------------
-- Several holders and waits
-- ---------------------------------------------------------------------------

namespace Wait

inductive Phase where
  /-- It is about to look at the latch. -/
  | looking
  /-- It has found the latch armed, and sleeps next unless the latch was triggered since. -/
  | drowsy
  | asleep
  | ended
deriving Repr, DecidableEq

end Wait

/-- A wait for the latch at a position. -/
structure Wait where
  place : Nat
  phase : Wait.Phase
deriving Repr, DecidableEq

/-- What a look at a wait tells. -/
inductive Progress where
  | pending
  | ready
  /-- It was ready before. -/
  | done
deriving Repr, DecidableEq

namespace Wait

/-- One step of a wait, which finds the latch like this. -/
def turn (latch : StopLatch) (wait : Wait) : Wait :=
  match wait.phase, latch with
  | .looking, .armed => { wait with phase := .drowsy }
  | .looking, .triggered => { wait with phase := .ended }
  | .drowsy, .armed => { wait with phase := .asleep }
  | .drowsy, .triggered => { wait with phase := .looking }
  | .asleep, _ | .ended, _ => wait

/-- The steps of a wait until it sleeps or is over, if nobody comes in between. -/
def settle (latch : StopLatch) (wait : Wait) : Wait := (wait.turn latch).turn latch

def wake (wait : Wait) : Wait :=
  if wait.phase = .asleep then { wait with phase := .looking } else wait

/-- What the steps from one phase to another tell. -/
def progress (before after : Phase) : Progress :=
  if before = .ended then .done else if after = .ended then .ready else .pending

end Wait

/-- Latches with their holders and the waits for them. -/
structure Room where
  latches : Shared StopLatch
  waits : List Wait
deriving Repr, DecidableEq

namespace Room

def single : Room := ⟨.single .armed, []⟩

inductive Action where
  | trigger (holder : Nat)
  | check (holder : Nat)
  | clone (holder : Nat)
  | new
  | wait (holder : Nat)
  /-- A wait takes all the steps that it can. -/
  | poll (wait : Nat)
  /-- A wait takes one step. -/
  | turn (wait : Nat)
deriving Repr, DecidableEq

inductive Answer where
  | flag (b : Bool)
  /-- The number of a holder or wait that was added. -/
  | added (n : Nat)
  | progress (p : Progress)
deriving Repr, DecidableEq

def latch (room : Room) (holder : Nat) : StopLatch := (room.latches.get? holder).getD .armed

def latchAt (room : Room) (place : Nat) : StopLatch := room.latches.valueAt .armed place

/-- Triggers the latch of a holder. The first trigger wakes all who wait for it. -/
def trigger (room : Room) (holder : Nat) : Bool × Room :=
  let (isFirst, latches) := room.latches.through .armed holder StopLatch.trigger
  let wake (wait : Wait) : Wait :=
    if isFirst ∧ room.latches.place? holder = some wait.place then wait.wake else wait
  (isFirst, { latches, waits := room.waits.map wake })

/-- Begins a wait for the latch of a holder. -/
def beginWait (room : Room) (holder : Nat) : Room :=
  match room.latches.place? holder with
  | some place => { room with waits := room.waits ++ [⟨place, .looking⟩] }
  | none => room

/-- Lets a wait take steps. -/
def goOn (room : Room) (n : Nat) (go : StopLatch → Wait → Wait) : Progress × Room :=
  match room.waits[n]? with
  | none => (.pending, room)
  | some wait =>
    let next := go (room.latchAt wait.place) wait
    (Wait.progress wait.phase next.phase, { room with waits := room.waits.set n next })

def step (room : Room) : Action → Answer × Room
  | .trigger holder =>
    let (isFirst, room) := room.trigger holder
    (.flag isFirst, room)
  | .check holder => (.flag (room.latch holder).isTriggered, room)
  | .clone holder =>
    let (n, latches) := room.latches.clone holder
    (.added n, { room with latches })
  | .new =>
    let (n, latches) := room.latches.new .armed
    (.added n, { room with latches })
  | .wait holder => (.added room.waits.length, room.beginWait holder)
  | .poll n =>
    let (progress, room) := room.goOn n Wait.settle
    (.progress progress, room)
  | .turn n =>
    let (progress, room) := room.goOn n Wait.turn
    (.progress progress, room)

/-- The answers to a sequence of actions. -/
def run (room : Room) : List Action → List Answer
  | [] => []
  | action :: rest =>
    let (answer, room) := room.step action
    answer :: run room rest

-- ---------------------------------------------------------------------------
-- The history of one latch
-- ---------------------------------------------------------------------------

/-- The holder through which an action goes to a latch. -/
def Action.holder? : Action → Option Nat
  | .trigger holder | .check holder => some holder
  | _ => none

/-- Whether an action goes to the latch at a place. -/
def concerns (place : Nat) (room : Room) (action : Action) : Bool :=
  action.holder?.bind room.latches.place? = some place

/-- What is done to the latch at a place in a run, with the answers. -/
def history (place : Nat) (room : Room) (schedule : List Action) : List (Action × Answer) :=
  Shared.history step (concerns place) room schedule

end Room

end StopLatch

end RtpBridge
