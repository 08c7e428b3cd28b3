-- SUMMARY: The composed form of text, in which equal texts look equal.
import RtpBridge.Text.Composites

/-!
# Composed text

The same letter can be written as one character or as its parts. In the composed
form it is one character wherever there is one: a text is taken apart, the marks of
each letter are put into their order, and what can be put together is.
-/

namespace RtpBridge.Text

-- ---------------------------------------------------------------------------
-- Korean syllables
-- ---------------------------------------------------------------------------

/-- The parts of a Korean syllable: a leading consonant, a vowel, and a trailing consonant. -/
def syllableParts? (v : Nat) : Option (List Nat) :=
  if 0xAC00 ≤ v ∧ v ≤ 0xD7A3 then
    let i := v - 0xAC00
    let opening := [0x1100 + i / 588, 0x1161 + i % 588 / 28]
    some (if i % 28 = 0 then opening else opening ++ [0x11A7 + i % 28])
  else none

/-- The syllable of a consonant and a vowel, or of a syllable and a trailing consonant. -/
def syllable? (first second : Nat) : Option Nat :=
  if 0x1100 ≤ first ∧ first ≤ 0x1112 ∧ 0x1161 ≤ second ∧ second ≤ 0x1175 then
    some (0xAC00 + (first - 0x1100) * 588 + (second - 0x1161) * 28)
  else if 0xAC00 ≤ first ∧ first ≤ 0xD7A3 ∧ (first - 0xAC00) % 28 = 0 ∧ 0x11A8 ≤ second
      ∧ second ≤ 0x11C2 then
    some (first + (second - 0x11A7))
  else none

-- ---------------------------------------------------------------------------
-- Taking apart
-- ---------------------------------------------------------------------------

/-- What a character is made of. -/
def parts (v : Nat) : List Nat :=
  (syllableParts? v <|> composites.image? v <|> replaced.image? v).getD [v]

/-- How close a mark is drawn to its letter; zero if it keeps its place. -/
def combiningClass (c : Char) : Nat :=
  ((combiningClasses.row? c.toNat).bind (·.image.head?)).getD 0

def takeApart (c : Char) : List Char := (parts c.toNat).map Char.ofNat

/-- Puts a mark before the first character that keeps its place or is not drawn closer. -/
def insertMark (mark : Char) : List Char → List Char
  | [] => [mark]
  | c :: rest =>
    if combiningClass c ≠ 0 ∧ combiningClass c < combiningClass mark then
      c :: insertMark mark rest
    else mark :: c :: rest

/-- Puts the marks of each letter into their order, and leaves those of one class as they are. -/
def orderMarks (s : List Char) : List Char := s.foldr insertMark []

-- ---------------------------------------------------------------------------
-- Putting together
-- ---------------------------------------------------------------------------

/-- The character that two make. -/
def compose? (first second : Char) : Option Char :=
  Char.ofNat <$> (syllable? first.toNat second.toNat
    <|> composites.preimage? (parts first.toNat ++ [second.toNat]))

/-- Puts together what follows a letter, of which `passed` could not be, last one first. A mark
reaches the letter across marks of lower classes only. -/
def composeAfter (letter : Char) (passed : List Char) : List Char → List Char
  | [] => letter :: passed.reverse
  | c :: rest =>
    let isOpen := passed.head?.all fun last => combiningClass last < combiningClass c
    match if isOpen then compose? letter c else none with
    | some whole => composeAfter whole passed rest
    | none =>
      if combiningClass c = 0 then letter :: passed.reverse ++ composeAfter c [] rest
      else composeAfter letter (c :: passed) rest

/-- Puts together what can be; marks without a letter stay. -/
def putTogether : List Char → List Char
  | [] => []
  | c :: rest => if combiningClass c = 0 then composeAfter c [] rest else c :: putTogether rest

/-- The composed form. Text without marks and rare letters is in it already. -/
def normal (s : List Char) : List Char :=
  if s.all (· < '\u0300') then s else putTogether (orderMarks (s.flatMap takeApart))

example : syllableParts? 0xD55C = some [0x1112, 0x1161, 0x11AB] := by decide
example : (syllable? 0x1112 0x1161).bind (syllable? · 0x11AB) = some 0xD55C := by decide

end RtpBridge.Text
