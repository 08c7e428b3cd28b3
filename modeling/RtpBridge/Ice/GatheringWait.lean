-- SUMMARY: The wait for gathering, as time passes.
import RtpBridge.Duration
import RtpBridge.Ice.Gathering

/-!
# The wait in time

A wait looks at the promise and at the clock whenever one of them may have woken it: the
promise comes first, so that one which has fired beats a limit that is up. Without a
limit there is no clock to look at.
-/

namespace RtpBridge.Ice

/-- The error is told in milliseconds of 64 bits, and what does not fit is cut off. -/
def GatheringTimeout.ofLimit (limit : Duration) : GatheringTimeout :=
  ⟨UInt64.ofNat limit.toMillis⟩

/-- What happens during a wait. -/
inductive Happening where
  /-- The promise fires. -/
  | event (event : PromiseEvent)
  /-- So many nanoseconds pass. -/
  | pass (nanos : Nat)
deriving Repr, DecidableEq

structure GatheringWait where
  limit : Option Duration
  /-- How the promise has fired, if it has. -/
  fired? : Option PromiseEvent
  /-- The nanoseconds since the wait began. -/
  elapsed : Nat
  /-- When the wait ended, and with what. -/
  ended? : Option (Nat × Except GatheringTimeout Unit)

namespace GatheringWait

/-- The wait looks whether it is over. The clock wakes it just when the limit is up. -/
def look (w : GatheringWait) : GatheringWait :=
  match w.ended?, w.fired?, w.limit with
  | some _, _, _ => w
  | none, some _, _ => { w with ended? := some (w.elapsed, .ok ()) }
  | none, none, none => w
  | none, none, some limit =>
    if limit.toNanos ≤ w.elapsed then
      { w with ended? := some (limit.toNanos, .error (.ofLimit limit)) }
    else w

/-- Begins a wait for a promise that may have fired already. -/
def start (limit : Option Duration) (fired? : Option PromiseEvent) : GatheringWait :=
  look ⟨limit, fired?, 0, none⟩

def step (w : GatheringWait) : Happening → GatheringWait
  | .event event => look { w with fired? := w.fired?.or (some event) }
  | .pass nanos => look { w with elapsed := w.elapsed + nanos }

/-- The wait after all that has happened in it. -/
def run (limit : Option Duration) (fired? : Option PromiseEvent) (history : List Happening) :
    GatheringWait :=
  history.foldl step (start limit fired?)

/-- How a wait has ended so far. -/
def waited (w : GatheringWait) : Waited :=
  match w.ended? with
  | none => .waitsForever
  | some (_, .ok ()) => .complete
  | some (_, .error fault) => .timedOut fault

end GatheringWait

-- ---------------------------------------------------------------------------
-- Promises in time
-- ---------------------------------------------------------------------------

namespace Promise

/-- How a promise has fired before the wait. -/
def fired? : Promise → Option PromiseEvent
  | .fired event => some event
  | .fires .. | .never => none

/-- What happens from the start of the wait until so many nanoseconds after the promise could have
fired. -/
def history (horizon : Nat) : Promise → List Happening
  | .fired _ | .never => [.pass horizon]
  | .fires event after => [.pass (after * 1000000), .event event, .pass horizon]

end Promise

end RtpBridge.Ice
