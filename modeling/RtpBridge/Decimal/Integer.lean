-- SUMMARY: Reading decimal integers that must fit a machine word, and why one cannot be read.

/-!
# Bounded integers

Decimal integers as they stand in header fields and attributes: digits with an
optional `+`, for signed ones also an optional `-`, and nothing else. The digits
are read from the left, so of two faults the one that comes first is reported.
-/

namespace RtpBridge.Decimal

inductive IntegerFault where
  | empty
  | invalidDigit
  | tooLarge
  | tooSmall
deriving Repr, DecidableEq

def IntegerFault.message : IntegerFault → String
  | .empty => "cannot parse integer from empty string"
  | .invalidDigit => "invalid digit found in string"
  | .tooLarge => "number too large to fit in target type"
  | .tooSmall => "number too small to fit in target type"

/-- The value of an ASCII digit. -/
def digit? (c : Char) : Option Nat :=
  if '0' ≤ c ∧ c ≤ '9' then some (c.toNat - '0'.toNat) else none

/-- Reads on from `value`; `outside` is the fault of a value above `greatest`. -/
def readDigits (greatest : Nat) (outside : IntegerFault) (value : Nat) :
    List Char → Except IntegerFault Nat
  | [] => .ok value
  | c :: rest =>
    match digit? c with
    | none => .error .invalidDigit
    | some d =>
      if value * 10 + d ≤ greatest then readDigits greatest outside (value * 10 + d) rest
      else .error outside

/-- Reads at least one digit. -/
def readMagnitude (greatest : Nat) (outside : IntegerFault) : List Char → Except IntegerFault Nat
  | [] => .error .invalidDigit
  | c :: rest => readDigits greatest outside 0 (c :: rest)

/-- An integer between zero and `greatest`. -/
def readNat (greatest : Nat) : List Char → Except IntegerFault Nat
  | [] => .error .empty
  | c :: rest =>
    if c = '+' then readMagnitude greatest .tooLarge rest
    else readMagnitude greatest .tooLarge (c :: rest)

/-- An integer between `-(greatest + 1)` and `greatest`. -/
def readInt (greatest : Nat) : List Char → Except IntegerFault Int
  | [] => .error .empty
  | c :: rest =>
    if c = '-' then (fun n => -(n : Int)) <$> readMagnitude (greatest + 1) .tooSmall rest
    else if c = '+' then (fun n => (n : Int)) <$> readMagnitude greatest .tooLarge rest
    else (fun n => (n : Int)) <$> readMagnitude greatest .tooLarge (c :: rest)

def greatest16 : Nat := 0xFFFF
def greatest32 : Nat := 0xFFFFFFFF
def greatest64 : Nat := 0xFFFFFFFFFFFFFFFF
def greatestSigned32 : Nat := 0x7FFFFFFF
def greatestSigned64 : Nat := 0x7FFFFFFFFFFFFFFF

example : readNat greatest16 "+65535".toList = .ok 65535 := by cbv
example : readNat greatest16 "65536x".toList = .error .tooLarge := by cbv
example : readNat greatest16 "-1".toList = .error .invalidDigit := by cbv
example : readInt greatestSigned32 "-2147483648".toList = .ok (-2147483648) := by cbv

end RtpBridge.Decimal
