-- SUMMARY: Writing directions in domain names.
import RtpBridge.Text.Printable

/-!
# Writing directions

A name in which some character is written from right to left could be shown in more
than one order. Each of its labels has to keep to one direction: it begins with a
letter of that direction, ends with a letter or digit, and holds nothing of the other.
-/

namespace RtpBridge.Idna

/-- The direction of a character. -/
inductive Direction where
  | leftToRight
  | rightToLeft
  | europeanDigit
  | arabicDigit
  | neutral
  /-- Takes the direction of the character before it. -/
  | nonspacing
  | separator
deriving Repr, DecidableEq

/-- Letters that are written from right to left. This table and the next ones run across code
points that no name has, and across nonspacing marks. -/
def rightToLeftLetters : Text.Table := .read "
  5be-5f4 608 60b 60d 61b-64a 66d-6d5 6e5-6e6 6ee-6ef 6fa-7f5 7fa-8c9 fbb2-fbc2 fe73 10800-1091b
  10920-10b35 10b40-10d23 10d4a-10d4f 10d6f-10d8f 10e80-10ec7 10f00-10ff6 1e800-1ed3d"

def arabicDigits : Text.Table := .read "660-669 66b-66c 10d30-10d49 10e60-10e7e"

def europeanDigits : Text.Table := .read "30-39 6f0-6f9 102e1-102fb"

def neutrals : Text.Table := .read "
  0-8 e-1b 21-2f 3a-40 5b-60 7b-d7 f7 2b9-2ba 2c2-2cf 2d2-2ed 2ef-2ff 375 3f6 58a-58f 606-607
  609-60a 60c 60e-60f 66a 6de 6e9 7f6-7f9 9f2-9f3 9fb af1 bf3-bfa c78-c7e e3f f3a-f3d 1390-1399
  1400 169b-169c 17db 17f0-180a 1940-1945 19de-19ff 200c-214d 218a-2335 237b-2394 2396-26ab
  26ad-27ff 2900-2bff 2ce5-2cea 2cf9-2cff 2e00-3004 3008-3020 3030 3037 303d-303f 30a0 30fb
  31c0-31e5 4dc0-4dff a490-a4c6 a60d-a60f a673-a67f a700-a721 a788 a828-a82b a838-a839 a874-a877
  ab6a-ab6b fbc3-fe46 10101 10140-1018c 10190-101a0 1091f 10b39-10b3f 10d6e 10ed0-10ed8
  11052-11065 11660-1166c 11fd5-11ff1 16fe2 1cc00-1cef0 1d1e9-1d245 1d300-1d356 1e2ff 1eef0-1f12f
  1f16d-1f16f 1f1ad 1f260-1fbfa"

def separators : Text.Table := .read "9-d 1c-20"

/-- Nonspacing marks that have the direction of a letter. -/
def lettered : Text.Table := .read "cbf cc6 11a07-11a08 11c3f"

def Direction.of (c : Char) : Direction :=
  let v := c.toNat
  if Text.isNonspacing c && !lettered.contains v then .nonspacing
  else if rightToLeftLetters.contains v then .rightToLeft
  else if arabicDigits.contains v then .arabicDigit
  else if europeanDigits.contains v then .europeanDigit
  else if neutrals.contains v then .neutral
  else if separators.contains v then .separator
  else .leftToRight

/-- Whether a direction makes the whole name one that has to keep to the rule. -/
def Direction.isFromTheRight : Direction → Bool
  | .rightToLeft | .arabicDigit => true
  | _ => false

/-- Whether a label that is written from left to right may hold the character. -/
def Direction.fitsLeftToRight : Direction → Bool
  | .leftToRight | .europeanDigit | .neutral | .nonspacing => true
  | _ => false

def Direction.fitsRightToLeft : Direction → Bool
  | .rightToLeft | .arabicDigit | .europeanDigit | .neutral | .nonspacing => true
  | _ => false

/-- Whether the directions of a label's characters keep to the rule. -/
def keepsDirection (label : List Direction) : Bool :=
  let last := (label.reverse.dropWhile (· == .nonspacing)).head?
  match label.head? with
  | none => true
  | some .leftToRight =>
    label.all (·.fitsLeftToRight) && (last == some .leftToRight || last == some .europeanDigit)
  | some .rightToLeft =>
    label.all (·.fitsRightToLeft) && last != some .neutral
      && !(label.contains .arabicDigit && label.contains .europeanDigit)
  | some _ => false

end RtpBridge.Idna
