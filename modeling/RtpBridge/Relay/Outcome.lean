-- SUMMARY: How writes and reads of a pump turn out, and how a pump ends.
import RtpBridge.Media

/-!
# Outcomes

A pump works between a socket or sender that it reads and a track that it writes.
A closed end is the orderly way for a pump to stop; any other failure is a
transport fault, and so is the death of the task that ran the pump.
-/

namespace RtpBridge

/-- What a track answers when it is handed a sample. -/
inductive WriteOutcome where
  | accepted
  /-- The other end has gone. -/
  | closed
  | failed (cause : String)
  /-- The write took the task down. -/
  | panicked
deriving Repr, DecidableEq

/-- What a read of feedback brings. -/
inductive ReadOutcome where
  | packet
  | closed
  | failed (cause : String)
  | panicked
deriving Repr, DecidableEq

inductive TransportFault where
  | socketRead (kind : MediaKind) (cause : String)
  | trackWrite (kind : MediaKind) (cause : String)
  | feedbackRead (cause : String)
  | taskDied
deriving Repr, DecidableEq

def TransportFault.cause : TransportFault → String
  | .socketRead kind cause => s!"{kind.name} socket read failed: {cause}"
  | .trackWrite kind cause => s!"{kind.name} track write failed: {cause}"
  | .feedbackRead cause => cause
  | .taskDied => "task panicked"

def TransportFault.message (fault : TransportFault) : String :=
  "Unrecoverable transport error: " ++ fault.cause

/-- What a pump returns. -/
inductive PumpExit where
  | closed
  | failed (fault : TransportFault)
deriving Repr, DecidableEq

namespace PumpExit

def isClosed : PumpExit → Bool
  | .closed => true
  | .failed _ => false

def fault? : PumpExit → Option TransportFault
  | .closed => none
  | .failed fault => some fault

end PumpExit

/-- How the task of a pump ends. -/
inductive TaskEnd where
  | returned (exit : PumpExit)
  | died
deriving Repr, DecidableEq

/-- The exit that whoever waits for the task gets to see. -/
def TaskEnd.exit : TaskEnd → PumpExit
  | .returned exit => exit
  | .died => .failed .taskDied

end RtpBridge
