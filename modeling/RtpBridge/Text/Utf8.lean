-- SUMMARY: UTF-8 encoding and decoding, with the place and the extent of the first fault.

/-!
# UTF-8

Characters as octets and back. `Utf8.decode` reads one octet at a time and keeps
what is known of the character under way in a `Utf8.Partial`; a fault says at
which octet the character began and how many octets of it were fit.
-/

namespace RtpBridge.Utf8

/-- Why octets are not UTF-8; offsets count octets from the start. -/
inductive Fault where
  /-- The `length` octets from `offset` on begin no character. -/
  | invalid (offset length : Nat)
  /-- The octets end inside the character that begins at `offset`. -/
  | incomplete (offset : Nat)
deriving Repr, DecidableEq

def Fault.message : Fault → String
  | .invalid offset length => s!"invalid utf-8 sequence of {length} bytes from index {offset}"
  | .incomplete offset => s!"incomplete utf-8 byte sequence from index {offset}"

/-- The octets of a text. -/
def encode (cs : List Char) : List UInt8 := cs.flatMap String.utf8EncodeChar

@[simp] theorem encode_nil : encode [] = [] := rfl

@[simp] theorem encode_cons (c : Char) (cs : List Char) :
    encode (c :: cs) = String.utf8EncodeChar c ++ encode cs := rfl

@[simp] theorem encode_append (cs ds : List Char) : encode (cs ++ ds) = encode cs ++ encode ds := by
  simp [encode]

-- ---------------------------------------------------------------------------
-- Characters under way
-- ---------------------------------------------------------------------------

/-- A character of which some octets are read and the next must lie in `low .. high`. -/
structure Partial where
  /-- Where the character begins. -/
  offset : Nat
  /-- How many of its octets are read. -/
  taken : Nat
  /-- The bits read. -/
  value : Nat
  low : UInt8
  high : UInt8
  /-- How many octets follow the next one. -/
  owed : Nat
deriving Repr, DecidableEq

/-- The character that an octet above `0x7f` begins. Overlong forms, surrogates and values
above `0x10ffff` are shut out by the range of the second octet. -/
def Partial.ofLead? (offset : Nat) (b : UInt8) : Option Partial :=
  let v := b.toNat
  if 0xC2 ≤ b ∧ b ≤ 0xDF then some ⟨offset, 1, v % 32, 0x80, 0xBF, 0⟩
  else if b = 0xE0 then some ⟨offset, 1, v % 16, 0xA0, 0xBF, 1⟩
  else if b = 0xED then some ⟨offset, 1, v % 16, 0x80, 0x9F, 1⟩
  else if 0xE1 ≤ b ∧ b ≤ 0xEF then some ⟨offset, 1, v % 16, 0x80, 0xBF, 1⟩
  else if b = 0xF0 then some ⟨offset, 1, v % 8, 0x90, 0xBF, 2⟩
  else if 0xF1 ≤ b ∧ b ≤ 0xF3 then some ⟨offset, 1, v % 8, 0x80, 0xBF, 2⟩
  else if b = 0xF4 then some ⟨offset, 1, v % 8, 0x80, 0x8F, 2⟩
  else none

/-- The bits after one more octet. -/
def Partial.extend (p : Partial) (b : UInt8) : Nat := p.value * 64 + b.toNat % 64

/-- The character with one more octet read, while more are owed. -/
def Partial.push (p : Partial) (b : UInt8) : Partial :=
  ⟨p.offset, p.taken + 1, p.extend b, 0x80, 0xBF, p.owed - 1⟩

-- ---------------------------------------------------------------------------
-- Decoding
-- ---------------------------------------------------------------------------

/-- Decodes from octet number `offset` on, inside the character `under` if there is one. -/
def decodeFrom (offset : Nat) (under : Option Partial) : List UInt8 → Except Fault (List Char)
  | [] =>
    match under with
    | none => .ok []
    | some p => .error (.incomplete p.offset)
  | b :: rest =>
    match under with
    | none =>
      if b < 0x80 then (Char.ofNat b.toNat :: ·) <$> decodeFrom (offset + 1) none rest
      else match Partial.ofLead? offset b with
        | none => .error (.invalid offset 1)
        | some p => decodeFrom (offset + 1) (some p) rest
    | some p =>
      if p.low ≤ b ∧ b ≤ p.high then
        if p.owed = 0 then (Char.ofNat (p.extend b) :: ·) <$> decodeFrom (offset + 1) none rest
        else decodeFrom (offset + 1) (some (p.push b)) rest
      else .error (.invalid p.offset p.taken)

/-- The characters that the octets encode. -/
def decode (octets : List UInt8) : Except Fault (List Char) := decodeFrom 0 none octets

end RtpBridge.Utf8
