-- SUMMARY: Lines of a text, ended by LF or by CR and LF.

/-!
# Lines

A text is cut after each line feed. A carriage return just before the line feed
belongs to the line's end; one anywhere else belongs to the line.
-/

namespace RtpBridge.Text

/-- Drops one carriage return at the end. -/
def dropReturn (line : List Char) : List Char :=
  if line.getLast? = some '\r' then line.dropLast else line

/-- The lines from the middle of a line on, of which `line` is read, last character first. -/
def linesFrom (line : List Char) : List Char → List (List Char)
  | [] => if line.isEmpty then [] else [line.reverse]
  | c :: rest =>
    if c = '\n' then dropReturn line.reverse :: linesFrom [] rest
    else linesFrom (c :: line) rest

def lines (s : List Char) : List (List Char) := linesFrom [] s

/-- Whether `pattern` stands somewhere in the text. -/
def contains (pattern : List Char) : List Char → Bool
  | [] => pattern.isEmpty
  | c :: rest => pattern.isPrefixOf (c :: rest) || contains pattern rest

end RtpBridge.Text
