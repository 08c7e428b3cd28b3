-- SUMMARY: Why JSON text cannot be read as a value of a given type, and the message for each cause.
import RtpBridge.Decimal.Shortest
import RtpBridge.Text.Quoted

/-!
# Faults of JSON text

The causes that end the reading of a JSON document. Either the text itself is not
JSON, or it holds a value of another type than the one asked for, or an object
lacks a member or has one twice.
-/

namespace RtpBridge.Json

open RtpBridge.Decimal (Binary64 Shortest)

/-- A number as it stands in a document. -/
inductive Number where
  | natural (n : Nat)
  /-- The integer `-n`, with `n` not zero. -/
  | negative (n : Nat)
  | float (isNegative : Bool) (magnitude : Binary64)
deriving Repr, DecidableEq

/-- Floats are positional from `1e-5` up to below `1e16`, and have a signed exponent beyond. -/
def floatLayout : Shortest.Layout := ⟨-5, 15, "e+", "e-"⟩

/-- What a document holds in place of a value of the type asked for. -/
inductive Found where
  | null
  | boolean (b : Bool)
  | number (n : Number)
  | string (s : String)
  | sequence
  | map
deriving Repr, DecidableEq

def Found.message : Found → String
  | .null => "null"
  | .boolean b => s!"boolean `{b}`"
  | .number (.natural n) => s!"integer `{n}`"
  | .number (.negative n) => s!"integer `-{n}`"
  | .number (.float isNegative x) =>
    let sign := if isNegative then "-" else ""
    "floating point `" ++ sign ++ (Shortest.ofBinary64 x).render floatLayout ++ "`"
  | .string s => "string " ++ Text.quote s
  | .sequence => "sequence"
  | .map => "map"

inductive Fault where
  | endInValue
  | endInString
  | endInList
  | endInObject
  | expectedValue
  | expectedIdent
  | expectedColon
  | expectedListCommaOrEnd
  | expectedObjectCommaOrEnd
  | keyNotString
  | trailingComma
  | trailingCharacters
  | invalidNumber
  | numberOutOfRange
  | controlCharacter
  | invalidEscape
  | loneSurrogate
  | endOfHexEscape
  | invalidCodePoint
  | invalidType (found : Found) (expected : String)
  | invalidValue (found : Found) (expected : String)
  | invalidLength (length : Nat) (expected : String)
  | unknownVariant (name : String) (expected : List String)
  | duplicateField (name : String)
  | missingField (name : String)
deriving Repr, DecidableEq

def Fault.message : Fault → String
  | .endInValue => "EOF while parsing a value"
  | .endInString => "EOF while parsing a string"
  | .endInList => "EOF while parsing a list"
  | .endInObject => "EOF while parsing an object"
  | .expectedValue => "expected value"
  | .expectedIdent => "expected ident"
  | .expectedColon => "expected `:`"
  | .expectedListCommaOrEnd => "expected `,` or `]`"
  | .expectedObjectCommaOrEnd => "expected `,` or `\x7d`"
  | .keyNotString => "key must be a string"
  | .trailingComma => "trailing comma"
  | .trailingCharacters => "trailing characters"
  | .invalidNumber => "invalid number"
  | .numberOutOfRange => "number out of range"
  | .controlCharacter => "control character (\\u0000-\\u001F) found while parsing a string"
  | .invalidEscape => "invalid escape"
  | .loneSurrogate => "lone leading surrogate in hex escape"
  | .endOfHexEscape => "unexpected end of hex escape"
  | .invalidCodePoint => "invalid unicode code point"
  | .invalidType found expected => "invalid type: " ++ found.message ++ ", expected " ++ expected
  | .invalidValue found expected => "invalid value: " ++ found.message ++ ", expected " ++ expected
  | .invalidLength length expected => s!"invalid length {length}, expected " ++ expected
  | .unknownVariant name expected =>
    s!"unknown variant `{name}`, expected one of "
      ++ ", ".intercalate (expected.map fun v => s!"`{v}`")
  | .duplicateField name => s!"duplicate field `{name}`"
  | .missingField name => s!"missing field `{name}`"

end RtpBridge.Json
