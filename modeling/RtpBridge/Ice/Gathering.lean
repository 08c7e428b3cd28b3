-- SUMMARY: Waiting for ICE gathering to finish, with or without a limit.
import RtpBridge.Log

/-!
# Waiting for gathering

The end of gathering is announced by a promise. The wait is over when the promise
fires, no matter whether by a message or because its sender has gone, or when a
limit runs out first. A promise that fired before the wait began beats any limit.
-/

namespace RtpBridge.Ice

/-- How a promise fires. -/
inductive PromiseEvent where
  | message
  | senderDropped
deriving Repr, DecidableEq

/-- When a promise fires, seen from the start of the wait. -/
inductive Promise where
  /-- Before the wait. -/
  | fired (event : PromiseEvent)
  /-- So many milliseconds into the wait. -/
  | fires (event : PromiseEvent) (after : Nat)
  | never
deriving Repr, DecidableEq

/-- A wait that took longer than it may. -/
structure GatheringTimeout where
  limit : UInt64
deriving Repr, DecidableEq

def GatheringTimeout.message (fault : GatheringTimeout) : String :=
  s!"ICE gathering did not complete within {fault.limit} ms"

/-- How a wait ends. -/
inductive Waited where
  | complete
  | timedOut (fault : GatheringTimeout)
  | waitsForever
deriving Repr, DecidableEq

/-- Waits until the promise fires, but no longer than the limit in milliseconds. -/
def Promise.wait (limit : Option UInt64) : Promise → Waited
  | .fired _ => .complete
  | .fires _ after =>
    match limit with
    | none => .complete
    | some limit => if after < limit.toNat then .complete else .timedOut ⟨limit⟩
  | .never =>
    match limit with
    | none => .waitsForever
    | some limit => .timedOut ⟨limit⟩

/-- What is logged at the end of a wait. -/
def Waited.log : Waited → List Log.Entry
  | .complete => [.debug "ICE gathering complete"]
  | .timedOut fault => [.warn s!"ICE gathering still running after {fault.limit} ms, giving up"]
  | .waitsForever => []

example : Promise.wait (some 0) (.fired .message) = .complete := by decide
example : Promise.wait (some 30) (.fires .senderDropped 31) = .timedOut ⟨30⟩ := by decide

end RtpBridge.Ice
