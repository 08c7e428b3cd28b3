-- SUMMARY: The value of a number in JSON text.
import RtpBridge.Json.Lexeme

/-!
# Values of numbers

An integer that fits 64 bits is exact. Any other number is a float: its digits
are gathered into a 64-bit significand as far as they fit, and the significand is
rounded and then scaled by a power of ten, which rounds once more.
-/

namespace RtpBridge.Json

open RtpBridge.Decimal (Binary64)

/-- The greatest significand. -/
def greatestSignificand : Nat := 0xFFFFFFFFFFFFFFFF

/-- Appends digits to the significand as long as it fits; what is left over begins with the
first digit that does not fit. -/
def gather (significand : Nat) : List UInt8 → Nat × List UInt8
  | [] => (significand, [])
  | d :: ds =>
    let next := significand * 10 + digitValue d
    if next ≤ greatestSignificand then gather next ds else (significand, d :: ds)

/-- The greatest power of ten that is used as one factor. -/
def greatestPower : Nat := 308

/-- Divides by ten to the `n`, in steps of at most `greatestPower`. -/
def shrink (x : Binary64) (n : Nat) : Option Binary64 :=
  if x.significand = 0 then some x
  else if n ≤ greatestPower then do x.div? (← Binary64.ofNat? (Nat.pow 10 n))
  else do
    let y ← x.div? (← Binary64.ofNat? (Nat.pow 10 greatestPower))
    shrink y (n - greatestPower)
termination_by n
decreasing_by simp only [greatestPower] at *; omega

/-- Multiplies by ten to the `n`; nothing when the product is too large. -/
def grow (x : Binary64) (n : Nat) : Option Binary64 :=
  if n ≤ greatestPower then do x.mul? (← Binary64.ofNat? (Nat.pow 10 n))
  else if x.significand = 0 then some x
  else none

/-- The significand times a power of ten. -/
def scale (significand : Nat) (exponent : Int) : Option Binary64 := do
  let x ← Binary64.ofNat? significand
  if 0 ≤ exponent then grow x exponent.toNat else shrink x (-exponent).toNat

/-- The exponent that digits denote; nothing when it is beyond 32 bits. -/
def exponentValue (digits : List UInt8) : Option Nat :=
  let n := digits.foldl (fun n d => n * 10 + digitValue d) 0
  if n ≤ 0x7FFFFFFF then some n else none

/-- The magnitude of a number that is read as a float. -/
def Numeral.magnitude? (n : Numeral) : Option Binary64 :=
  let (whole, dropped) := gather 0 n.whole
  let (significand, rest) := gather whole n.fraction
  let point : Int := (dropped.length : Int) - ((n.fraction.length : Int) - (rest.length : Int))
  match exponentValue n.exponent with
  | some e => scale significand (if n.exponentIsNegative then point - e else point + e)
  | none =>
    if significand = 0 ∨ n.exponentIsNegative then some .zero else none

/-- The value of a number; the only fault is a float that is too large. -/
def Numeral.value (isNegative : Bool) (n : Numeral) : Except Fault Number :=
  let whole := (gather 0 n.whole)
  let asFloat : Except Fault Number :=
    match n.magnitude? with
    | some x => .ok (.float isNegative x)
    | none => .error .numberOutOfRange
  if n.isFloat || !whole.2.isEmpty then asFloat
  else if !isNegative then .ok (.natural whole.1)
  else if whole.1 = 0 ∨ 0x8000000000000000 < whole.1 then asFloat
  else .ok (.negative whole.1)

/-- Reads a number whose first octet is `b`. -/
def readNumber (b : UInt8) (r : List UInt8) : Lexed Number :=
  match readNumeral .endInValue (if b = minus then r else b :: r) with
  | .error e => .error e
  | .ok (n, t) =>
    match n.value (b == minus) with
    | .error e => .error e
    | .ok v => .ok (v, t)

theorem length_readNumber_le {b : UInt8} {s r : List UInt8} {n : Number}
    (h : readNumber b s = .ok (n, r)) : r.length ≤ s.length := by
  simp only [readNumber] at h
  split at h
  · cases h
  · next m t hm =>
    split at h
    · cases h
    · cases h
      have := length_readNumeral_lt hm
      split at this
      · exact Nat.le_of_lt this
      · exact Nat.le_of_lt_succ this

end RtpBridge.Json
