-- SUMMARY: Skipping one JSON value of any type, at any depth of nesting.
import RtpBridge.Json.Lexeme

/-!
# Skipping a value

A member that nobody asked for is passed over without being built. The lists and
objects that are open stand on a stack, so nesting has no limit, and only the
shape of the text is checked: a string may hold unpaired surrogates and octets
that are not UTF-8, and a number may be of any size.
-/

namespace RtpBridge.Json

/-- A list or an object whose end is still to come. -/
inductive Frame where
  | list
  | object
deriving Repr, DecidableEq

def Frame.closer : Frame → UInt8
  | .list => closeBracket
  | .object => closeBrace

def Frame.atEnd : Frame → Fault
  | .list => .endInList
  | .object => .endInObject

def Frame.commaOrEnd : Frame → Fault
  | .list => .expectedListCommaOrEnd
  | .object => .expectedObjectCommaOrEnd

/-- Skips a number after its sign. -/
def skipNumeral (s : List UInt8) : Except Fault (List UInt8) :=
  match readNumeral .invalidNumber s with
  | .error e => .error e
  | .ok (_, r) => .ok r

theorem length_skipNumeral_lt {s r : List UInt8} (h : skipNumeral s = .ok r) :
    r.length < s.length := by
  simp only [skipNumeral] at h
  split at h
  · cases h
  · next hn => cases h; exact length_readNumeral_lt hn

/-- Skips a word, a number or a string whose first octet is `b`. -/
def skipScalar (b : UInt8) (r : List UInt8) : Except Fault (List UInt8) :=
  if b = 0x6E then readWord nullTail r
  else if b = 0x74 then readWord trueTail r
  else if b = 0x66 then readWord falseTail r
  else if b = quotationMark then skipString r
  else if b = minus then skipNumeral r
  else if isDigit b then skipNumeral (b :: r)
  else .error .expectedValue

theorem length_skipScalar_le {b : UInt8} {s r : List UInt8} (h : skipScalar b s = .ok r) :
    r.length ≤ s.length := by
  simp only [skipScalar] at h
  split at h
  · exact length_readWord_le h
  · split at h
    · exact length_readWord_le h
    · split at h
      · exact length_readWord_le h
      · split at h
        · exact Nat.le_of_lt (length_skipString_lt h)
        · split at h
          · exact Nat.le_of_lt (length_skipNumeral_lt h)
          · split at h
            · exact Nat.le_of_lt_succ (length_skipNumeral_lt h)
            · cases h

/-- The octets after a colon. -/
def readColon (s : List UInt8) : Except Fault (List UInt8) :=
  match skipBlanks s with
  | [] => .error .endInObject
  | b :: r => if b = colon then .ok r else .error .expectedColon

theorem length_readColon_lt {s r : List UInt8} (h : readColon s = .ok r) :
    r.length < s.length := by
  unfold readColon at h
  split at h
  · cases h
  · next b t hs =>
    split at h
    · cases h; exact length_lt_of_skipBlanks hs
    · cases h

/-- Skips a member's key and the colon after it. -/
def skipKey (s : List UInt8) : Except Fault (List UInt8) :=
  match skipBlanks s with
  | [] => .error .endInObject
  | b :: r =>
    if b = quotationMark then
      match skipString r with
      | .error e => .error e
      | .ok t => readColon t
    else .error .keyNotString

theorem length_skipKey_lt {s r : List UInt8} (h : skipKey s = .ok r) : r.length < s.length := by
  unfold skipKey at h
  split at h
  · cases h
  · next b t hs =>
    have := length_lt_of_skipBlanks hs
    split at h
    · split at h
      · cases h
      · next u hu =>
        have := length_skipString_lt hu
        have := length_readColon_lt h
        omega
    · cases h

/-- What comes before the next value in a frame: for an object its key. -/
def skipToValue (frame : Frame) (s : List UInt8) : Except Fault (List UInt8) :=
  match frame with
  | .list => .ok s
  | .object => skipKey s

theorem length_skipToValue_le {frame : Frame} {s r : List UInt8}
    (h : skipToValue frame s = .ok r) : r.length ≤ s.length := by
  cases frame with
  | list => cases h; exact Nat.le_refl _
  | object => exact Nat.le_of_lt (length_skipKey_lt h)

-- ---------------------------------------------------------------------------
-- The walk
-- ---------------------------------------------------------------------------

/-- Where the walk stands, and which frames are open around it, the innermost first. -/
inductive Spot where
  /-- A value is due. -/
  | before (frames : List Frame)
  /-- Just behind the opening of `frame`. -/
  | inside (frame : Frame) (frames : List Frame)
  /-- Just behind a value. -/
  | after (frames : List Frame)
deriving Repr, DecidableEq

/-- One step of the walk; there is no next spot behind a value that no frame surrounds. -/
def Spot.step (spot : Spot) (s : List UInt8) : Except Fault (Option Spot × List UInt8) :=
  match spot with
  | .before frames =>
    match skipBlanks s with
    | [] => .error .endInValue
    | b :: r =>
      if b = openBracket then .ok (some (.inside .list frames), r)
      else if b = openBrace then .ok (some (.inside .object frames), r)
      else match skipScalar b r with
        | .error e => .error e
        | .ok t => .ok (some (.after frames), t)
  | .inside frame frames =>
    match skipBlanks s with
    | [] => .error frame.atEnd
    | b :: r =>
      if b = frame.closer then .ok (some (.after frames), r)
      else match skipToValue frame (b :: r) with
        | .error e => .error e
        | .ok t => .ok (some (.before (frame :: frames)), t)
  | .after [] => .ok (none, s)
  | .after (frame :: outer) =>
    match skipBlanks s with
    | [] => .error frame.atEnd
    | b :: r =>
      if b = frame.closer then .ok (some (.after outer), r)
      else if b = comma then
        match skipToValue frame r with
        | .error e => .error e
        | .ok t => .ok (some (.before (frame :: outer)), t)
      else .error frame.commaOrEnd

/-- Bounds the steps that are left when `s` is left. -/
def Spot.weight (spot : Spot) (s : List UInt8) : Nat :=
  match spot with
  | .before _ => 2 * s.length
  | .inside _ _ => 2 * s.length + 1
  | .after _ => 2 * s.length

theorem Spot.weight_step {spot next : Spot} {s r : List UInt8}
    (h : spot.step s = .ok (some next, r)) : next.weight r < spot.weight s := by
  unfold Spot.step at h
  split at h
  · split at h
    · cases h
    · next b t hs =>
      have := length_lt_of_skipBlanks hs
      split at h
      · cases h; simp only [Spot.weight]; omega
      · split at h
        · cases h; simp only [Spot.weight]; omega
        · split at h
          · cases h
          · next hu => cases h; have := length_skipScalar_le hu; simp only [Spot.weight]; omega
  · split at h
    · cases h
    · next b t hs =>
      have := length_lt_of_skipBlanks hs
      split at h
      · cases h; simp only [Spot.weight]; omega
      · split at h
        · cases h
        · next hu =>
          cases h
          have := length_skipToValue_le hu
          simp only [Spot.weight, List.length_cons] at *
          omega
  · cases h
  · split at h
    · cases h
    · next b t hs =>
      have := length_lt_of_skipBlanks hs
      split at h
      · cases h; simp only [Spot.weight]; omega
      · split at h
        · split at h
          · cases h
          · next hu => cases h; have := length_skipToValue_le hu; simp only [Spot.weight]; omega
        · cases h

/-- Walks on to the end of the value that the walk began with. -/
def Spot.walk (spot : Spot) (s : List UInt8) : Except Fault (List UInt8) :=
  match h : spot.step s with
  | .error e => .error e
  | .ok (none, r) => .ok r
  | .ok (some next, r) =>
    have := Spot.weight_step h
    next.walk r
termination_by spot.weight s

/-- Skips a value of any type. -/
def skipValue (s : List UInt8) : Except Fault (List UInt8) := (Spot.before []).walk s

theorem Spot.length_walk {spot : Spot} {s r : List UInt8} (h : spot.walk s = .ok r) :
    2 * r.length ≤ spot.weight s := by
  fun_induction Spot.walk spot s with
  | case1 => cases h
  | case2 spot s t ht =>
    cases h
    unfold Spot.step at ht
    split at ht
    · split at ht
      · cases ht
      · split at ht
        · cases ht
        · split at ht
          · cases ht
          · split at ht <;> cases ht
    · split at ht
      · cases ht
      · split at ht
        · cases ht
        · split at ht <;> cases ht
    · cases ht; exact Nat.le_refl _
    · split at ht
      · cases ht
      · split at ht
        · cases ht
        · split at ht
          · split at ht <;> cases ht
          · cases ht
  | case3 spot s next t ht hw ih => exact Nat.le_of_lt (Nat.lt_of_le_of_lt (ih h) hw)

theorem length_skipValue_lt {s r : List UInt8} (h : skipValue s = .ok r) :
    r.length < s.length := by
  rw [skipValue, Spot.walk] at h
  split at h
  · cases h
  · next t ht =>
    simp only [Spot.step] at ht
    split at ht
    · cases ht
    · split at ht
      · cases ht
      · split at ht
        · cases ht
        · split at ht <;> cases ht
  · next spot t ht =>
    have := Nat.lt_of_le_of_lt (Spot.length_walk h) (Spot.weight_step ht)
    simp only [Spot.weight] at this
    omega

end RtpBridge.Json
