-- SUMMARY: White space: the Unicode property, trimming, and splitting into words.

/-!
# White space

The characters with Unicode's White_Space property, and the two operations on
text that depend on them.
-/

namespace RtpBridge.Text

/-- The White_Space property. -/
def isBlank (c : Char) : Bool :=
  let v := c.toNat
  (0x09 ≤ v && v ≤ 0x0D) || v == 0x20 || v == 0x85 || v == 0xA0 || v == 0x1680
    || (0x2000 ≤ v && v ≤ 0x200A) || v == 0x2028 || v == 0x2029 || v == 0x202F
    || v == 0x205F || v == 0x3000

/-- Drops the longest end on which `p` holds throughout. -/
def dropEndWhile (p : Char → Bool) (s : List Char) : List Char := (s.reverse.dropWhile p).reverse

/-- Drops the blanks at both ends. -/
def trim (s : List Char) : List Char := dropEndWhile isBlank (s.dropWhile isBlank)

/-- The longest runs of characters that are no blanks; `word` is the run under way. -/
def wordsFrom (word : List Char) : List Char → List (List Char)
  | [] => if word.isEmpty then [] else [word.reverse]
  | c :: rest =>
    if isBlank c then
      if word.isEmpty then wordsFrom [] rest else word.reverse :: wordsFrom [] rest
    else wordsFrom (c :: word) rest

/-- The words of a text, parted by any number of blanks. -/
def words (s : List Char) : List (List Char) := wordsFrom [] s

end RtpBridge.Text
