-- SUMMARY: Waiting for tasks one after the other, each for no longer than a grace.
import RtpBridge.Relay.Outcome

/-!
# Draining with a grace

Tasks end at times of their own, or never. They are waited for in their order, and
the grace begins anew with each turn. A task that has ended by its turn gives its
own result at once; one that is still running when its grace is over is aborted.
-/

namespace RtpBridge.Draining

/-- When a task ends, counted from the start of the draining, and how. -/
structure Finish where
  time : Nat
  ending : TaskEnd
deriving Repr, DecidableEq

/-- What a turn brings. -/
inductive Turn where
  | ended (ending : TaskEnd)
  | aborted
deriving Repr, DecidableEq

def Turn.exit : Turn → PumpExit
  | .ended ending => ending.exit
  | .aborted => .closed

/-- The turn of a task that begins at a time, and the time at which it is over. -/
def turn (grace now : Nat) : Option Finish → Turn × Nat
  | none => (.aborted, now + grace)
  | some finish =>
    if finish.time ≤ now ∨ finish.time < now + grace then
      (.ended finish.ending, max now finish.time)
    else (.aborted, now + grace)

/-- All turns from a time on. -/
def turns (grace now : Nat) : List (Option Finish) → List Turn
  | [] => []
  | finish :: rest =>
    (turn grace now finish).1 :: turns grace (turn grace now finish).2 rest

/-- When the last turn is over. -/
def endTime (grace now : Nat) : List (Option Finish) → Nat
  | [] => now
  | finish :: rest => endTime grace (turn grace now finish).2 rest

theorem turn_le (grace now : Nat) (finish : Option Finish) :
    (turn grace now finish).2 ≤ now + grace := by
  unfold turn
  split
  · exact Nat.le_refl _
  · split
    · simp only; omega
    · exact Nat.le_refl _

theorem endTime_le (grace now : Nat) (finishes : List (Option Finish)) :
    endTime grace now finishes ≤ now + finishes.length * grace := by
  induction finishes generalizing now with
  | nil => simp [endTime]
  | cons finish rest ih =>
    have := turn_le grace now finish
    have := ih (turn grace now finish).2
    simp only [endTime, List.length_cons, Nat.succ_mul]
    omega

end RtpBridge.Draining
