-- SUMMARY: Finite binary floating-point numbers of 64 bits, rounded from ratios.

/-!
# Binary floating point

The magnitudes of finite binary64 numbers, as a whole significand times a power
of two, and the rounding of a ratio to the nearest of them. The arithmetic is
exact and on naturals; a product or quotient of two numbers is the rounded ratio.
-/

namespace RtpBridge.Decimal

/-- The value `significand * 2 ^ exponent`. In a number made by `ofRatio?` the significand is
below `2 ^ 53`, and at least `2 ^ 52` unless the exponent is the least one. -/
structure Binary64 where
  significand : Nat
  exponent : Int
deriving Repr, DecidableEq

namespace Binary64

def leastExponent : Int := -1074

def greatestExponent : Int := 971

def zero : Binary64 := ⟨0, leastExponent⟩

/-- `num / den` as a ratio of naturals after division by `2 ^ e`. -/
def scaled (num den : Nat) (e : Int) : Nat × Nat :=
  if 0 ≤ e then (num, den * Nat.pow 2 e.toNat) else (num * Nat.pow 2 (-e).toNat, den)

/-- The quotient rounded to the nearest natural, a half to the even one. -/
def roundDiv (num den : Nat) : Nat :=
  let q := num / den
  let twice := 2 * (num % den)
  if twice < den then q
  else if den < twice then q + 1
  else if q % 2 = 0 then q else q + 1

/-- The exponent at which `num / den` has a significand of 53 bits, or the least one. -/
def exponentFor (num den : Nat) : Int :=
  let guess : Int := (num.log2 : Int) - (den.log2 : Int) - 52
  let (n, d) := scaled num den guess
  let e := if n < d * 0x10000000000000 then guess - 1 else guess
  max e leastExponent

/-- The number nearest to `num / den`, a tie going to the even significand; nothing when it lies
beyond the greatest finite number. -/
def ofRatio? (num den : Nat) : Option Binary64 :=
  if num = 0 then some zero
  else
    let e := exponentFor num den
    let (n, d) := scaled num den e
    let m := roundDiv n d
    let x : Binary64 := if m = 0x20000000000000 then ⟨0x10000000000000, e + 1⟩ else ⟨m, e⟩
    if x.exponent ≤ greatestExponent then some x else none

/-- The value as a ratio. -/
def ratio (x : Binary64) : Nat × Nat :=
  if 0 ≤ x.exponent then (x.significand * Nat.pow 2 x.exponent.toNat, 1)
  else (x.significand, Nat.pow 2 (-x.exponent).toNat)

def mul? (x y : Binary64) : Option Binary64 :=
  ofRatio? (x.ratio.1 * y.ratio.1) (x.ratio.2 * y.ratio.2)

/-- The quotient by a number that is not zero. -/
def div? (x y : Binary64) : Option Binary64 :=
  ofRatio? (x.ratio.1 * y.ratio.2) (x.ratio.2 * y.ratio.1)

def ofNat? (n : Nat) : Option Binary64 := ofRatio? n 1

example : ofNat? 0xFFFFFFFFFFFFFFFF = some ⟨0x10000000000000, 12⟩ := by decide +kernel
example : ofRatio? 1 (Nat.pow 2 1075) = some ⟨0, -1074⟩ := by decide +kernel

end Binary64

end RtpBridge.Decimal
