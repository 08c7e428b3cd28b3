-- SUMMARY: The standard base64 alphabet with padding: encoding, and decoding with the first fault.

/-!
# Base64

Three octets are written as four symbols of six bits; a last group of one or two
octets is filled up with padding. Decoding accepts exactly that: no blanks, no
missing or misplaced padding, and no stray bits in the last symbol. Of several
faults the leftmost is reported, except that a single symbol left over after the
last whole group is looked at first.
-/

namespace RtpBridge.Base64

/-- Why text is not base64; offsets count octets from the start. -/
inductive Fault where
  | invalidSymbol (symbol : UInt8) (offset : Nat)
  | invalidLastSymbol (symbol : UInt8) (offset : Nat)
  | invalidLength (length : Nat)
  | invalidPadding
deriving Repr, DecidableEq

def Fault.message : Fault → String
  | .invalidSymbol b i => s!"Invalid symbol {b.toNat}, offset {i}."
  | .invalidLastSymbol b i => s!"Invalid last symbol {b.toNat}, offset {i}."
  | .invalidLength n => s!"Invalid input length: {n}"
  | .invalidPadding => "Invalid padding"

def padding : UInt8 := 61

-- ---------------------------------------------------------------------------
-- Symbols
-- ---------------------------------------------------------------------------

/-- The symbol of six bits. -/
def symbol (n : Nat) : UInt8 :=
  if n < 26 then UInt8.ofNat (n + 65)
  else if n < 52 then UInt8.ofNat (n + 71)
  else if n < 62 then UInt8.ofNat (n - 4)
  else if n = 62 then 43
  else 47

/-- The six bits of a symbol. -/
def bits? (b : UInt8) : Option Nat :=
  if 65 ≤ b ∧ b ≤ 90 then some (b.toNat - 65)
  else if 97 ≤ b ∧ b ≤ 122 then some (b.toNat - 71)
  else if 48 ≤ b ∧ b ≤ 57 then some (b.toNat + 4)
  else if b = 43 then some 62
  else if b = 47 then some 63
  else none

theorem bits?_symbol {n : Nat} (h : n < 64) : bits? (symbol n) = some n := by
  have : ∀ m : Fin 64, bits? (symbol m.val) = some m.val := by decide
  exact this ⟨n, h⟩

-- ---------------------------------------------------------------------------
-- Encoding
-- ---------------------------------------------------------------------------

def encode : List UInt8 → List UInt8
  | a :: b :: c :: rest =>
    symbol (a.toNat / 4) :: symbol (a.toNat % 4 * 16 + b.toNat / 16)
      :: symbol (b.toNat % 16 * 4 + c.toNat / 64) :: symbol (c.toNat % 64) :: encode rest
  | [a, b] =>
    [symbol (a.toNat / 4), symbol (a.toNat % 4 * 16 + b.toNat / 16), symbol (b.toNat % 16 * 4),
      padding]
  | [a] => [symbol (a.toNat / 4), symbol (a.toNat % 4 * 16), padding, padding]
  | [] => []

-- ---------------------------------------------------------------------------
-- Decoding
-- ---------------------------------------------------------------------------

/-- The six bits of the octet at `offset`. -/
def readSymbol (offset : Nat) (b : UInt8) : Except Fault Nat :=
  match bits? b with
  | some n => .ok n
  | none => .error (.invalidSymbol b offset)

/-- The octets of a whole group that is followed by another. -/
def readGroup (offset : Nat) (a b c d : UInt8) : Except Fault (List UInt8) := do
  let p ← readSymbol offset a
  let q ← readSymbol (offset + 1) b
  let r ← readSymbol (offset + 2) c
  let s ← readSymbol (offset + 3) d
  return [UInt8.ofNat (p * 4 + q / 16), UInt8.ofNat (q % 16 * 16 + r / 4),
    UInt8.ofNat (r % 4 * 64 + s)]

/-- What a last group holds: its symbols with their bits, and how much padding follows. -/
structure Tail where
  symbols : List (UInt8 × Nat)
  padding : Nat
deriving Repr, DecidableEq

/-- Reads the last group, of which `tail` is read and `start` is the offset. -/
def readTail (start : Nat) (tail : Tail) : List UInt8 → Except Fault Tail
  | [] => .ok tail
  | b :: rest =>
    let n := tail.symbols.length
    if b = padding then
      if n < 2 then .error (.invalidSymbol b (start + n + tail.padding))
      else readTail start { tail with padding := tail.padding + 1 } rest
    else if tail.padding ≠ 0 then .error (.invalidSymbol padding (start + n))
    else match bits? b with
      | none => .error (.invalidSymbol b (start + n))
      | some v => readTail start { tail with symbols := tail.symbols ++ [(b, v)] } rest

/-- The octets of the last group, which begins at `start`. -/
def finish (start : Nat) (tail : Tail) : Except Fault (List UInt8) :=
  let n := tail.symbols.length
  if n < 2 ∧ n ≠ 0 then .error (.invalidLength (start + n))
  else if n ≠ 0 ∧ n + tail.padding ≠ 4 then .error .invalidPadding
  else match tail.symbols with
    | [(_, p), (b, q)] =>
      if q % 16 ≠ 0 then .error (.invalidLastSymbol b (start + 1))
      else .ok [UInt8.ofNat (p * 4 + q / 16)]
    | [(_, p), (_, q), (b, r)] =>
      if r % 4 ≠ 0 then .error (.invalidLastSymbol b (start + 2))
      else .ok [UInt8.ofNat (p * 4 + q / 16), UInt8.ofNat (q % 16 * 16 + r / 4)]
    | [(_, p), (_, q), (_, r), (_, s)] =>
      .ok [UInt8.ofNat (p * 4 + q / 16), UInt8.ofNat (q % 16 * 16 + r / 4),
        UInt8.ofNat (r % 4 * 64 + s)]
    | _ => .ok []

/-- Decodes from the group at `offset` on. -/
def decodeFrom (offset : Nat) : List UInt8 → Except Fault (List UInt8)
  | a :: b :: c :: d :: e :: rest => do
    let octets ← readGroup offset a b c d
    return octets ++ (← decodeFrom (offset + 4) (e :: rest))
  | last => do finish offset (← readTail offset ⟨[], 0⟩ last)

/-- The octet at the end of a text one longer than a multiple of four, if it is neither symbol
nor padding. -/
def strayEnd? (text : List UInt8) : Option UInt8 :=
  if text.length % 4 = 1 then
    text.getLast?.filter fun b => b ≠ padding && (bits? b).isNone
  else none

def decode (text : List UInt8) : Except Fault (List UInt8) :=
  match strayEnd? text with
  | some b => .error (.invalidSymbol b (text.length - 1))
  | none => decodeFrom 0 text

end RtpBridge.Base64
