-- SUMMARY: Session descriptions: their lines, attributes and media sections, and reading them from text.
import RtpBridge.Sdp.Grammar
import RtpBridge.Sdp.Value

/-!
# Session descriptions

A description is read line by line: a key with its equals sign, then the value up
to the line feed, without the blanks around it. Empty lines are passed over. A
text is refused at the first line whose key is not due or whose value breaks the
rule of its key.
-/

namespace RtpBridge.Sdp

structure Line where
  key : Char
  value : List Char
deriving Repr, DecidableEq

structure Attribute where
  key : List Char
  /-- What follows the colon. -/
  value : Option (List Char)
deriving Repr, DecidableEq

structure Section where
  kind : List Char
  /-- The formats of the `m` line, which are payload types in a section of media. -/
  formats : List (List Char)
  attributes : List Attribute
deriving Repr, DecidableEq

structure Description where
  /-- The attributes of the session. -/
  attributes : List Attribute
  sections : List Section
deriving Repr, DecidableEq

-- ---------------------------------------------------------------------------
-- Lines
-- ---------------------------------------------------------------------------

def isLineBreak (c : Char) : Bool := c == '\r' || c == '\n'

/-- What is read as a key: the text up to the first equals sign, which is part of it. -/
def keyText (s : List Char) : List Char :=
  s.takeWhile (· ≠ '=') ++ (s.dropWhile (· ≠ '=')).take 1

/-- Takes a key and its equals sign off the front. -/
def splitKey? : List Char → Option (Char × List Char)
  | key :: '=' :: rest => some (key, rest)
  | _ => none

theorem length_splitKey?_lt {s rest : List Char} {key : Char}
    (h : splitKey? s = some (key, rest)) : rest.length < s.length := by
  unfold splitKey? at h
  split at h
  · cases h; simp only [List.length_cons]; omega
  · cases h

/-- The text from the next line on, without the line breaks before it. -/
def nextLine (s : List Char) : List Char := s.dropWhile isLineBreak

theorem length_nextLine_le (s : List Char) : (nextLine s).length ≤ s.length :=
  (List.dropWhile_sublist _).length_le

/-- The rest of a line. -/
def restOfLine (s : List Char) : List Char := s.takeWhile (· != '\n')

def dropLine (s : List Char) : List Char := s.dropWhile (· != '\n')

theorem length_dropLine_le (s : List Char) : (dropLine s).length ≤ s.length :=
  (List.dropWhile_sublist _).length_le

theorem length_dropLine_lt {s rest : List Char} {key : Char}
    (h : splitKey? (nextLine s) = some (key, rest)) : (dropLine rest).length < s.length :=
  Nat.lt_of_le_of_lt (length_dropLine_le rest)
    (Nat.lt_of_lt_of_le (length_splitKey?_lt h) (length_nextLine_le s))

/-- Reads the lines from a position on. -/
def readLines (p : Position) (s : List Char) : Except Fault (List Line) :=
  if (nextLine s).isEmpty ∧ p.mayEnd then .ok []
  else
    match h : splitKey? (nextLine s) with
    | none => .error (.invalidSyntax (keyText (nextLine s)))
    | some (key, rest) =>
      match p.next? key with
      | none => .error (.invalidSyntax (keyText (nextLine s)))
      | some next =>
        let value := Text.trim (restOfLine rest)
        match checkValue key value with
        | .error fault => .error fault
        | .ok () =>
          have := length_dropLine_lt h
          match readLines next (dropLine rest) with
          | .error fault => .error fault
          | .ok lines => .ok (⟨key, value⟩ :: lines)
termination_by s.length

-- ---------------------------------------------------------------------------
-- Attributes and sections
-- ---------------------------------------------------------------------------

/-- An attribute as it stands on its line. -/
def Attribute.text (a : Attribute) : List Char := a.key ++ a.value.elim [] (':' :: ·)

/-- An attribute's value begins behind the first colon. -/
def Attribute.ofValue (value : List Char) : Attribute :=
  ⟨value.takeWhile (· ≠ ':'), (value.dropWhile (· ≠ ':')).tail?⟩

def attributesOf (lines : List Line) : List Attribute :=
  (lines.filter (·.key == 'a')).map fun line => Attribute.ofValue line.value

/-- A media section reaches from its `m` line to the next. -/
def sectionsOf : List Line → List Section
  | [] => []
  | line :: rest =>
    if line.key = 'm' then
      let fields := Text.words line.value
      ⟨fields.headD [], fields.drop 3, attributesOf (rest.takeWhile (·.key != 'm'))⟩
        :: sectionsOf rest
    else sectionsOf rest

def Description.ofLines (lines : List Line) : Description :=
  ⟨attributesOf (lines.takeWhile (·.key != 'm')), sectionsOf lines⟩

/-- Reads a description. -/
def Description.parse (text : List Char) : Except Fault Description :=
  Description.ofLines <$> readLines .start text

/-- The first attribute with this key. -/
def findAttribute? (key : String) (attributes : List Attribute) : Option Attribute :=
  attributes.find? (·.key == key.toList)

/-- The value of the first attribute with this key, if it has one. -/
def attributeValue? (key : String) (attributes : List Attribute) : Option (List Char) :=
  (findAttribute? key attributes).bind (·.value)

end RtpBridge.Sdp
