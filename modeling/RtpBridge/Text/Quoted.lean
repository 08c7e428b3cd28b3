-- SUMMARY: Text in quotation marks as it stands in messages.
import RtpBridge.Text.Printable

/-!
# Quoted text

Text between quotation marks, with an escape for each character that would end
the quotation, could not be seen, or would be drawn onto its neighbour.
-/

namespace RtpBridge.Text

/-- The digits of a number in lower-case hexadecimal, at least one. -/
def hex (n : Nat) : List Char := Nat.toDigits 16 n

/-- One character inside a quotation. -/
def quoteChar (c : Char) : List Char :=
  if c = '\x00' then ['\\', '0']
  else if c = '\t' then ['\\', 't']
  else if c = '\n' then ['\\', 'n']
  else if c = '\r' then ['\\', 'r']
  else if c = '"' then ['\\', '"']
  else if c = '\\' then ['\\', '\\']
  else if isUnprintable c || isExtender c then ['\\', 'u', '\x7b'] ++ hex c.toNat ++ ['\x7d']
  else [c]

def quote (s : String) : String :=
  String.ofList (['"'] ++ s.toList.flatMap quoteChar ++ ['"'])

end RtpBridge.Text
