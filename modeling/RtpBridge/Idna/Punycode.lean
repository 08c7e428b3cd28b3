-- SUMMARY: Labels that spell their characters in ASCII.

/-!
# Punycode

A label in any script can be spelled in ASCII: its ASCII characters, a hyphen, and
then numbers that say which characters come in between and where. Each number is
written with its least digit first, and a digit below the threshold of its place
ends it. The thresholds follow the size of the numbers so far.
-/

namespace RtpBridge.Idna.Punycode

/-- The value of a digit: letters come before decimal digits. -/
def digit? (c : Char) : Option Nat :=
  if 'a' ≤ c ∧ c ≤ 'z' then some (c.toNat - 97)
  else if 'A' ≤ c ∧ c ≤ 'Z' then some (c.toNat - 65)
  else if '0' ≤ c ∧ c ≤ '9' then some (c.toNat - 48 + 26)
  else none

/-- The threshold of a place, which lies between 1 and 26. -/
def threshold (place bias : Nat) : Nat := min 26 (max 1 (place - bias))

/-- A weight or number that does not fit 32 bits cannot be read. -/
def limit : Nat := 0x100000000

/-- Reads a number and adds it to `sum`. The first digit is worth `weight` times its value. -/
def readNumber (bias place weight sum : Nat) : List Char → Option (Nat × List Char)
  | [] => none
  | c :: rest =>
    match digit? c with
    | none => none
    | some d =>
      let sum := sum + d * weight
      let weight := weight * (36 - threshold place bias)
      if limit ≤ sum then none
      else if d < threshold place bias then some (sum, rest)
      else if limit ≤ weight then none
      else readNumber bias (place + 36) weight sum rest

theorem length_readNumber_lt {bias place weight sum n : Nat} {s rest : List Char}
    (h : readNumber bias place weight sum s = some (n, rest)) : rest.length < s.length := by
  induction s generalizing place weight sum with
  | nil => simp [readNumber] at h
  | cons c s ih =>
    simp only [readNumber] at h
    split at h
    · simp at h
    · split at h
      · simp at h
      · split at h
        · cases h; simp
        · split at h
          · simp at h
          · exact Nat.lt_succ_of_lt (ih h)

/-- Brings a number into the range of the thresholds, and says how many places that takes. -/
def scale (delta places : Nat) : Nat × Nat :=
  if 455 < delta then scale (delta / 35) (places + 36) else (delta, places)
termination_by delta
decreasing_by omega

/-- The bias after a number, when the label has got so many characters. -/
def adapt (delta count : Nat) (isFirst : Bool) : Nat :=
  let delta := if isFirst then delta / 700 else delta / 2
  let (delta, places) := scale (delta + delta / count) 0
  places + 36 * delta / (delta + 38)

/-- Inserts a character for each number. A number counts the steps from one insertion to the next,
and every round through the label is a step to the next code point. -/
def insertAll (bias code position : Nat) (label : List Char) (s : List Char) : Option (List Char) :=
  if s.isEmpty then some label
  else
    match h : readNumber bias 36 1 position s with
    | none => none
    | some (sum, rest) =>
      have := length_readNumber_lt h
      let count := label.length + 1
      let code := code + sum / count
      if code.isValidChar then
        insertAll (adapt (sum - position) count (position == 0)) code (sum % count + 1)
          (label.insertIdx (sum % count) (Char.ofNat code)) rest
      else none
termination_by s.length

/-- The characters that a label spells. -/
def decode? (s : List Char) : Option (List Char) :=
  let numbers := (s.reverse.takeWhile (· ≠ '-')).reverse
  let basic := s.take (s.length - numbers.length - 1)
  if basic.isEmpty then insertAll 72 128 0 [] s else insertAll 72 128 0 basic numbers

example : decode? "4db".toList = some ['א'] := by decide +kernel
example : decode? "mnchen-3ya".toList = some "münchen".toList := by decide +kernel
example : (decode? "-a".toList).isNone := by decide +kernel

end RtpBridge.Idna.Punycode
