-- SUMMARY: The pump that reads the feedback of a track and throws it away.
import RtpBridge.Log
import RtpBridge.Relay.Outcome

/-!
# Feedback sinks

A feedback sink reads packet after packet, so that nothing piles up, and ends with
the first read that brings none.
-/

namespace RtpBridge

namespace FeedbackSink

/-- The size of the buffer that a sink starts with. -/
def bufferSize : Nat := 1500

inductive Phase where
  | reading
  | ended (ending : TaskEnd)
  /-- Whoever waited for it lost patience. -/
  | aborted
deriving Repr, DecidableEq

end FeedbackSink

structure FeedbackSink where
  /-- The session it belongs to, for the log. -/
  session : String
  kind : MediaKind
  /-- How much room the buffer has that every read is given. -/
  room : Nat
  phase : FeedbackSink.Phase
  /-- How many reads have come back. -/
  reads : Nat
  log : List Log.Entry
deriving Repr, DecidableEq

namespace FeedbackSink

def start (session : String) (kind : MediaKind) : FeedbackSink :=
  ⟨session, kind, bufferSize, .reading, 0, []⟩

def isReading (p : FeedbackSink) : Bool := p.phase == .reading

def ending? (p : FeedbackSink) : Option TaskEnd :=
  match p.phase with
  | .ended ending => some ending
  | _ => none

/-- Ends the sink, with what is logged about it. -/
def finish (p : FeedbackSink) (exit : PumpExit) (entry : Log.Entry) : FeedbackSink :=
  { p with phase := .ended (.returned exit), log := p.log ++ [entry] }

/-- Goes on with what a read brought. -/
def receive (p : FeedbackSink) (outcome : ReadOutcome) : FeedbackSink :=
  let after := { p with reads := p.reads + 1 }
  match outcome with
  | .packet => after
  | .closed => after.finish .closed (.debug s!"[{p.session}] {p.kind.name} feedback sink closed")
  | .failed cause =>
    after.finish (.failed (.feedbackRead cause))
      (.warn s!"[{p.session}] {p.kind.name} feedback read failed: {cause}")
  | .panicked => { after with phase := .ended .died }

/-- A read comes back; a sink that reads no more does not see it. -/
def step (p : FeedbackSink) (outcome : ReadOutcome) : FeedbackSink :=
  if p.isReading then p.receive outcome else p

/-- Ends a sink that still reads. -/
def conclude (p : FeedbackSink) (ending : TaskEnd) : FeedbackSink :=
  if p.isReading then { p with phase := .ended ending } else p

def abort (p : FeedbackSink) : FeedbackSink :=
  if p.isReading then { p with phase := .aborted } else p

/-- How many reads were begun: those that have come back, and the one that is waited for or was
waited for when the sink was aborted. -/
def calls (p : FeedbackSink) : Nat := if p.ending?.isSome then p.reads else p.reads + 1

end FeedbackSink

-- ---------------------------------------------------------------------------
-- Sources
-- ---------------------------------------------------------------------------

/-- A source that answers by a list of rules. Past their end a read waits for the source to be
closed. -/
structure FeedbackSource where
  rules : List ReadOutcome
  isClosed : Bool
deriving Repr, DecidableEq

/-- The answer to a read, the `n`-th from zero, if there is one by now. -/
def FeedbackSource.answer? (source : FeedbackSource) (n : Nat) : Option ReadOutcome :=
  match source.rules[n]? with
  | some outcome => some outcome
  | none => if source.isClosed then some .closed else none

namespace FeedbackSink

/-- Takes up to `count` reads. -/
def readUpTo (source : FeedbackSource) : Nat → FeedbackSink → FeedbackSink
  | 0, p => p
  | count + 1, p =>
    match source.answer? p.reads with
    | some outcome => if p.isReading then readUpTo source count (p.step outcome) else p
    | none => p

/-- Reads on until the sink has ended or has to wait; past its rules a source can only close. -/
def settle (source : FeedbackSource) (p : FeedbackSink) : FeedbackSink :=
  p.readUpTo source (source.rules.length + 1)

end FeedbackSink

end RtpBridge
