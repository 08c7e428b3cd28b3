-- SUMMARY: Where messages from the remote peer go.
import RtpBridge.Shared

/-!
# Input sinks

A sink hands each message to the callback that is installed at that moment, and
drops it if there is none. At most one callback is installed at a time.
-/

namespace RtpBridge

/-- A sink for callbacks of type `κ`. -/
structure InputSink (κ : Type) where
  callback : Option κ
deriving Repr, DecidableEq

namespace InputSink

variable {κ : Type}

def empty : InputSink κ := ⟨none⟩

/-- Puts a callback in the place of the one before. -/
def install (_ : InputSink κ) (callback : κ) : InputSink κ := ⟨some callback⟩

def clear (_ : InputSink κ) : InputSink κ := ⟨none⟩

/-- Whether anyone is there for a message, and the callback calls that it leads to. -/
def deliver (sink : InputSink κ) (message : List UInt8) : Bool × List (κ × List UInt8) :=
  match sink.callback with
  | some callback => (true, [(callback, message)])
  | none => (false, [])

theorem fst_deliver (sink : InputSink κ) (message : List UInt8) :
    (sink.deliver message).1 = sink.callback.isSome := by
  unfold deliver
  split <;> simp [*]

theorem snd_deliver (sink : InputSink κ) (message : List UInt8) :
    (sink.deliver message).2 = sink.callback.toList.map fun callback => (callback, message) := by
  unfold deliver
  split <;> simp [*]

-- ---------------------------------------------------------------------------
-- Several holders
-- ---------------------------------------------------------------------------

inductive Action (κ : Type) where
  | clone (holder : Nat)
  | new
  | install (holder : Nat) (callback : κ)
  | clear (holder : Nat)
  | deliver (holder : Nat) (message : List UInt8)
deriving Repr, DecidableEq

inductive Answer (κ : Type) where
  /-- The number of the holder that was added. -/
  | added (holder : Nat)
  | done
  /-- Whether anyone was there, and the callback calls. -/
  | delivered (isHeard : Bool) (calls : List (κ × List UInt8))
deriving Repr, DecidableEq

/-- What an action does to the sink that it goes to. -/
def act (sink : InputSink κ) : Action κ → Answer κ × InputSink κ
  | .install _ callback => (.done, sink.install callback)
  | .clear _ => (.done, sink.clear)
  | .deliver _ message =>
    let (isHeard, calls) := sink.deliver message
    (.delivered isHeard calls, sink)
  | .clone _ | .new => (.done, sink)

/-- One action through a holder of a sink. -/
def step (sinks : Shared (InputSink κ)) (action : Action κ) : Answer κ × Shared (InputSink κ) :=
  match action with
  | .clone holder =>
    let (n, sinks) := sinks.clone holder
    (.added n, sinks)
  | .new =>
    let (n, sinks) := sinks.new empty
    (.added n, sinks)
  | .install holder _ | .clear holder | .deliver holder _ =>
    sinks.through empty holder (·.act action)

/-- The answers to a sequence of actions. -/
def run (sinks : Shared (InputSink κ)) : List (Action κ) → List (Answer κ)
  | [] => []
  | action :: rest =>
    let (answer, sinks) := step sinks action
    answer :: run sinks rest

/-- The holder through which an action goes to a sink. -/
def Action.holder? : Action κ → Option Nat
  | .install holder _ | .clear holder | .deliver holder _ => some holder
  | .clone _ | .new => none

/-- Whether an action goes to the sink at a place. -/
def concerns (place : Nat) (sinks : Shared (InputSink κ)) (action : Action κ) : Bool :=
  action.holder?.bind sinks.place? = some place

/-- What is done to the sink at a place in a run, with the answers. -/
def history (place : Nat) (sinks : Shared (InputSink κ)) (schedule : List (Action κ)) :
    List (Action κ × Answer κ) :=
  Shared.history step (concerns place) sinks schedule

/-- The callback calls that an answer tells of. -/
def Answer.calls : Answer κ → List (κ × List UInt8)
  | .delivered _ calls => calls
  | .added _ | .done => []

end InputSink

end RtpBridge
