-- SUMMARY: Tables of code points, written down as text.
import RtpBridge.Text.Blank

/-!
# Tables of code points

A property of characters is a table of the code points that have it. Tables are
written as words of hexadecimal numbers: `3a` is one code point, `41-5a` a range with
both ends included, and `100~12e` every second code point of a range. What a row
sends its first code point to may follow after a colon, with dots between the
numbers. The rows are in the order of their last code points.
-/

namespace RtpBridge.Text

/-- Every `step`th code point from `first` to `last`. -/
structure Row where
  first : Nat
  last : Nat
  step : Nat
  /-- What the first code point is sent to. -/
  image : List Nat
deriving Repr, DecidableEq

abbrev Table := List Row

namespace Row

def contains (row : Row) (v : Nat) : Bool :=
  row.first ≤ v && v ≤ row.last && (v - row.first) % row.step == 0

/-- Adds a number to the last of some. -/
def shiftLast (n : Nat) : List Nat → List Nat
  | [] => []
  | [v] => [v + n]
  | v :: rest => v :: shiftLast n rest

/-- What a code point of the row is sent to: the last number of the image runs on with them. -/
def imageOf (row : Row) (v : Nat) : List Nat := shiftLast (v - row.first) row.image

/-- The code point of the row that is sent to an image. -/
def preimage? (row : Row) (image : List Nat) : Option Nat :=
  match row.image.getLast?, image.getLast? with
  | some first, some last =>
    let v := row.first + (last - first)
    if first ≤ last ∧ row.contains v ∧ row.image.dropLast = image.dropLast then some v else none
  | _, _ => none

end Row

namespace Table

/-- The row of a code point. -/
def row? (table : Table) (v : Nat) : Option Row :=
  (table.find? fun row => v ≤ row.last).filter (·.contains v)

def contains (table : Table) (v : Nat) : Bool := (table.row? v).isSome

/-- What a code point is sent to. -/
def image? (table : Table) (v : Nat) : Option (List Nat) := (table.row? v).map (·.imageOf v)

/-- The code point that is sent to an image. -/
def preimage? (table : Table) (image : List Nat) : Option Nat := table.findSome? (·.preimage? image)

-- ---------------------------------------------------------------------------
-- Reading
-- ---------------------------------------------------------------------------

def digitValue (c : Char) : Nat := if c ≤ '9' then c.toNat - 48 else c.toNat - 87

def readHex (s : List Char) : Nat := s.foldl (fun n c => n * 16 + digitValue c) 0

/-- Cuts a text at the first of its characters that is a separator. -/
def cut (isSeparator : Char → Bool) (s : List Char) : List Char × List Char :=
  (s.takeWhile (!isSeparator ·), s.dropWhile (!isSeparator ·))

def readImage (s : List Char) : List Nat :=
  if s.isEmpty then [] else (s.splitOn '.').map readHex

def readRow (word : List Char) : Row :=
  let (span, image) := cut (· == ':') word
  let (first, last) := cut (fun c => c == '-' || c == '~') span
  let step := if last.head? = some '~' then 2 else 1
  let last := if last.isEmpty then first else last.tail
  ⟨readHex first, readHex last, step, readImage image.tail⟩

/-- Reads a table from its text. -/
def read (text : String) : Table := (words text.toList).map readRow

end Table

example : Table.read "3a 41-5a:61" = [⟨0x3A, 0x3A, 1, []⟩, ⟨0x41, 0x5A, 1, [0x61]⟩] := by decide +kernel
example : (Table.read "100~12e:101").image? 0x102 = some [0x103] := by decide +kernel
example : (Table.read "c0-c3:41.300").preimage? [0x41, 0x302] = some 0xC2 := by decide +kernel

end RtpBridge.Text
