-- SUMMARY: Upper and lower case, as far as names go.

/-!
# Case

Names and keys are compared in one case. All that they are compared with is ASCII, so
that beyond ASCII only the characters matter whose other case is an ASCII letter.
-/

namespace RtpBridge.Text

/-- Lower case; the sign for kelvin is a `K`. -/
def lower (c : Char) : Char := if c = '\u212a' then 'k' else c.toLower

/-- Upper case; a long `s` is an `S`, and an `i` without its dot an `I`. -/
def upper (c : Char) : Char :=
  if c = '\u017f' then 'S' else if c = '\u0131' then 'I' else c.toUpper

def equalInLower (a b : List Char) : Bool := a.map lower == b.map lower

def equalInUpper (a b : List Char) : Bool := a.map upper == b.map upper

end RtpBridge.Text
