-- SUMMARY: The shortest decimal that reads back as a given binary number, and its layout.
import RtpBridge.Decimal.Binary64

/-!
# Shortest decimals

A binary number is written with the fewest digits that read back as it, and of
those the nearest. The reals that read back as `m * 2 ^ q` form an interval whose
ends lie half way to the neighbours and belong to it exactly when `m` is even.
For one digit, two digits and so on the two decimals next to the number are
tested; if any decimal of that many digits lies in the interval, one of the two does.
-/

namespace RtpBridge.Decimal

/-- The decimal `digits * 10 ^ exponent`. -/
structure Shortest where
  digits : Nat
  exponent : Int
deriving Repr, DecidableEq

namespace Shortest

/-- The ends of the interval that reads back as `x`, in units of a quarter of its last bit. -/
def ends (x : Binary64) : Nat × Nat :=
  let low :=
    if x.significand = 0x10000000000000 ∧ Binary64.leastExponent < x.exponent then
      4 * x.significand - 1
    else 4 * x.significand - 2
  (low, 4 * x.significand + 2)

/-- Compares `d * 10 ^ k` with `q * 2 ^ e`. -/
def compareAt (d : Nat) (k : Int) (q : Nat) (e : Int) : Ordering :=
  let l := d * Nat.pow 10 k.toNat * Nat.pow 2 (-e).toNat
  let r := q * Nat.pow 2 e.toNat * Nat.pow 10 (-k).toNat
  compare l r

/-- Whether `d * 10 ^ k` reads back as `x`. -/
def readsBack (x : Binary64) (d : Nat) (k : Int) : Bool :=
  let (low, high) := ends x
  let e := x.exponent - 2
  let atLow := compareAt d k low e
  let atHigh := compareAt d k high e
  if x.significand % 2 = 0 then atLow != .lt && atHigh != .gt else atLow == .gt && atHigh == .lt

/-- The greatest natural `d` with `d * 10 ^ k` at most `x`. -/
def floorAt (x : Binary64) (k : Int) : Nat :=
  let (num, den) := x.ratio
  num * Nat.pow 10 (-k).toNat / (den * Nat.pow 10 k.toNat)

/-- Of `d` and `d + 1` at scale `k`, one that reads back as `x` and lies nearest to it. -/
def pick? (x : Binary64) (d : Nat) (k : Int) : Option Nat :=
  match readsBack x d k, readsBack x (d + 1) k with
  | true, false => some d
  | false, true => some (d + 1)
  | false, false => none
  | true, true =>
    match compareAt (2 * d + 1) k (2 * x.significand) x.exponent with
    | .lt => some (d + 1)
    | .gt => some d
    | .eq => some (if d % 2 = 0 then d else d + 1)

/-- Tries the scales `k`, `k - 1` and so on, `tries` of them. -/
def search (x : Binary64) (k : Int) : Nat → Shortest
  | 0 => ⟨floorAt x k, k⟩
  | tries + 1 =>
    match pick? x (floorAt x k) k with
    | some d => ⟨d, k⟩
    | none => search x (k - 1) tries

/-- How many decimal digits a natural has. -/
def width (n : Nat) : Nat := (Nat.toDigits 10 n).length

/-- The decimal exponent of the leading digit of `x`. -/
def leading (x : Binary64) : Int :=
  let (num, den) := x.ratio
  if den ≤ num then (width (num / den) : Int) - 1
  else -(width (den / num) : Int)

/-- Moves zeros at the end of the digits into the exponent; `fuel` bounds how many. -/
def dropZeros (s : Shortest) : Nat → Shortest
  | 0 => s
  | fuel + 1 =>
    if s.digits % 10 = 0 ∧ s.digits ≠ 0 then dropZeros ⟨s.digits / 10, s.exponent + 1⟩ fuel else s

/-- The shortest decimal that reads back as `x`. Seventeen digits always do. -/
def ofBinary64 (x : Binary64) : Shortest :=
  if x.significand = 0 then ⟨0, 0⟩
  else dropZeros (search x (leading x) 17) 17

-- ---------------------------------------------------------------------------
-- Layout
-- ---------------------------------------------------------------------------

/-- Where the decimal point goes, and how an exponent is written. -/
structure Layout where
  /-- The leading digit's exponents that are written without an exponent. -/
  least : Int
  greatest : Int
  /-- What stands before the exponent's digits when it is not negative. -/
  positive : String
  negative : String

/-- The text of the decimal, with at least one digit on each side of the point unless there is
an exponent. -/
def render (layout : Layout) (s : Shortest) : String :=
  let digits := toString s.digits
  let n := digits.length
  let lead : Int := s.exponent + n - 1
  if layout.least ≤ lead ∧ lead ≤ layout.greatest then
    if 0 ≤ s.exponent then digits ++ "".pushn '0' s.exponent.toNat ++ ".0"
    else if 0 ≤ lead then
      String.ofList (digits.toList.take (lead.toNat + 1)) ++ "."
        ++ String.ofList (digits.toList.drop (lead.toNat + 1))
    else "0." ++ "".pushn '0' ((-lead).toNat - 1) ++ digits
  else
    let tail := digits.toList.drop 1
    let point := if tail.isEmpty then "" else "." ++ String.ofList tail
    let mark := if 0 ≤ lead then layout.positive else layout.negative
    String.ofList (digits.toList.take 1) ++ point ++ mark ++ toString lead.natAbs

end Shortest

end RtpBridge.Decimal
