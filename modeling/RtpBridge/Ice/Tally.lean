-- SUMMARY: Counting the candidates in a description by their type.
import RtpBridge.Log
import RtpBridge.Text.Lines

/-!
# Candidate tallies

A finished description has a line for each of its candidates. They are counted by
the type that the line names; a line that names several counts for the first of
host, server reflexive and relayed, and one that names none of them counts for
nothing.
-/

namespace RtpBridge.Ice

structure Tally where
  host : Nat
  reflexive : Nat
  relayed : Nat
deriving Repr, DecidableEq

namespace Tally

def zero : Tally := ⟨0, 0, 0⟩

instance : Add Tally where
  add a b := ⟨a.host + b.host, a.reflexive + b.reflexive, a.relayed + b.relayed⟩

def total (t : Tally) : Nat := t.host + t.reflexive + t.relayed

theorem add_mk (a b c a' b' c' : Nat) :
    mk a b c + mk a' b' c' = mk (a + a') (b + b') (c + c') := rfl

theorem zero_add (t : Tally) : zero + t = t := by
  cases t
  simp only [zero, add_mk, Nat.zero_add]

theorem add_assoc (a b c : Tally) : a + b + c = a + (b + c) := by
  cases a; cases b; cases c
  simp only [add_mk, Nat.add_assoc]

/-- What begins the line of a candidate. -/
def lineStart : List Char := "a=candidate:".toList

def isCandidateLine (line : List Char) : Bool := lineStart.isPrefixOf line

/-- What a line adds to the tally. -/
def ofLine (line : List Char) : Tally :=
  if !isCandidateLine line then zero
  else if Text.contains "typ host".toList line then ⟨1, 0, 0⟩
  else if Text.contains "typ srflx".toList line then ⟨0, 1, 0⟩
  else if Text.contains "typ relay".toList line then ⟨0, 0, 1⟩
  else zero

def ofLines (lines : List (List Char)) : Tally := (lines.map ofLine).foldr (· + ·) zero

/-- The tally of a description. -/
def ofText (text : List Char) : Tally := ofLines (Text.lines text)

/-- What is logged about a tally; without any candidate there is a warning. -/
def log (t : Tally) : List Log.Entry :=
  .info s!"Candidate analysis: {t.host} host, {t.reflexive} srflx, {t.relayed} relay"
    :: if t.total = 0 then
      [.warn "Answer carries no ICE candidates, the remote peer cannot reach us"]
    else []

end Tally

end RtpBridge.Ice
