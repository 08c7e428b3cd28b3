-- SUMMARY: Handles: words that name a slot of a table and the generation in which it was filled.
import RtpBridge.Text.Quoted

/-!
# Handles

A host sees an object only as a 64-bit word. Its low half is the index of a slot,
its high half the generation that the slot had when the handle was issued. No
generation is zero, so no handle is, and zero can stand for the absence of one.
-/

namespace RtpBridge

-- ---------------------------------------------------------------------------
-- Generations
-- ---------------------------------------------------------------------------

structure Generation where
  val : UInt32
  val_ne_zero : val ≠ 0
deriving Repr, DecidableEq

namespace Generation

def first : Generation := ⟨1, by decide⟩

/-- Counts up and skips zero. -/
def next (g : Generation) : Generation :=
  if h : g.val + 1 ≠ 0 then ⟨g.val + 1, h⟩ else first

theorem toNat_pos (g : Generation) : 0 < g.val.toNat :=
  Nat.pos_of_ne_zero fun h => g.val_ne_zero (UInt32.toNat_inj.1 h)

end Generation

-- ---------------------------------------------------------------------------
-- Handles
-- ---------------------------------------------------------------------------

structure Handle where
  raw : UInt64
  raw_ne_zero : raw ≠ 0
deriving Repr, DecidableEq

namespace Handle

/-- Zero is no handle. -/
def ofRaw? (raw : UInt64) : Option Handle := if h : raw ≠ 0 then some ⟨raw, h⟩ else none

/-- The word for a handle that may be absent. -/
def rawOf : Option Handle → UInt64
  | some h => h.raw
  | none => 0

def index (h : Handle) : Nat := h.raw.toNat % 0x100000000

def generation (h : Handle) : Nat := h.raw.toNat / 0x100000000

/-- The number of the word for a slot; an index has 32 bits. -/
def packNat (index : Nat) (g : Generation) : Nat := g.val.toNat * 0x100000000 + index % 0x100000000

theorem packNat_lt (index : Nat) (g : Generation) : packNat index g < 0x10000000000000000 := by
  have := g.val.toNat_lt
  simp only [packNat]
  omega

theorem packNat_pos (index : Nat) (g : Generation) : 0 < packNat index g := by
  have := g.toNat_pos
  simp only [packNat]
  omega

theorem toNat_ofNat_packNat (index : Nat) (g : Generation) :
    (UInt64.ofNat (packNat index g)).toNat = packNat index g := by
  rw [UInt64.toNat_ofNat', Nat.mod_eq_of_lt (packNat_lt index g)]

/-- The handle for a slot in a generation. -/
def pack (index : Nat) (g : Generation) : Handle where
  raw := UInt64.ofNat (packNat index g)
  raw_ne_zero h := by
    have := toNat_ofNat_packNat index g
    rw [h] at this
    exact Nat.ne_of_lt (packNat_pos index g) this

theorem toNat_raw_pack (index : Nat) (g : Generation) :
    (pack index g).raw.toNat = packNat index g :=
  toNat_ofNat_packNat index g

theorem index_pack {i : Nat} (g : Generation) (h : i < 0x100000000) : (pack i g).index = i := by
  simp only [index, toNat_raw_pack, packNat]
  omega

theorem generation_pack (i : Nat) (g : Generation) : (pack i g).generation = g.val.toNat := by
  simp only [generation, toNat_raw_pack, packNat]
  omega

theorem ofRaw?_raw (h : Handle) : ofRaw? h.raw = some h := by simp [ofRaw?, h.raw_ne_zero]

end Handle

/-- A word in hexadecimal digits, without leading zeros. -/
def hexWord (raw : UInt64) : String := "0x" ++ String.ofList (Text.hex raw.toNat)

/-- A word that names no object. -/
structure InvalidHandle where
  raw : UInt64
deriving Repr, DecidableEq

def InvalidHandle.message (fault : InvalidHandle) : String := "Invalid handle " ++ hexWord fault.raw

end RtpBridge
