-- SUMMARY: Domain names in any script, and which of them can be used.
import RtpBridge.Idna.Direction
import RtpBridge.Idna.Joining
import RtpBridge.Idna.Punycode

/-!
# Domain names

A domain name is a row of labels with dots between. It is read by mapping its
characters, bringing the text into composed form, and resolving labels that spell
their characters in ASCII. Then every label has to begin with something else than a
mark, its joiners have to show, and it has to keep to one writing direction.
-/

namespace RtpBridge.Idna

/-- The longest label that goes beyond ASCII, in characters. -/
def greatestLabel : Nat := 1000

/-- The longest spelling of a label in ASCII. -/
def greatestSpelling : Nat := 2000

def isAscii (c : Char) : Bool := c < '\x80'

/-- Whether text is as mapping and composing would leave it. -/
def isStable (s : List Char) : Bool :=
  s.all (fun c => Mapping.of c == .kept) && Text.normal s == s

/-- What a mapped label stands for: after `xn--` it is spelled in ASCII, and must need it. -/
def resolve? (label : List Char) : Option (List Char) :=
  match label with
  | 'x' :: 'n' :: '-' :: '-' :: spelling =>
    if spelling.isEmpty || spelling.getLast? == some '-' || !spelling.all isAscii
        || greatestSpelling < spelling.length then
      none
    else (Punycode.decode? spelling).filter isStable
  | label => some label

def isLabel (isForbidden : Char → Bool) (label : List Char) : Bool :=
  !label.any isForbidden && !label.head?.any Text.isMark && joinersShow [] label
    && (label.all isAscii || label.length ≤ greatestLabel)

/-- Whether the labels keep to their directions, if any is written from the right. -/
def keepDirections (labels : List (List Char)) : Bool :=
  let directions := labels.map (·.map Direction.of)
  !directions.any (·.any (·.isFromTheRight)) || directions.all keepsDirection

/-- Reads a name, none of whose characters may be forbidden. -/
def read? (isForbidden : Char → Bool) (name : List Char) : Option (List Char) := do
  let labels ← ((Text.normal (← mapName? name)).splitOn '.').mapM resolve?
  if labels.all (isLabel isForbidden) && keepDirections labels then
    some (['.'].intercalate labels)
  else none

end RtpBridge.Idna
