-- SUMMARY: Header extensions in the attributes of a section, and what is wrong with them.
import RtpBridge.Sdp.Description

/-!
# Header extensions

An `extmap` attribute gives a number to an extension of the packet header. The number
may carry a direction behind a slash, and the extension is known by a URL.
-/

namespace RtpBridge.Negotiation

open Sdp

namespace HeaderExtension

inductive Fault where
  /-- The attribute lacks a number or a URL. -/
  | incomplete (text : List Char)
  | integer (fault : Decimal.IntegerFault)
  | outOfRange (number : List Char)
  | unknownDirection (direction : List Char)
  | url (fault : Url.Fault)
deriving Repr, DecidableEq

def Fault.message : Fault → String
  | .incomplete text => "parse extmap: " ++ String.ofList text
  | .integer fault => "parse int: " ++ fault.message
  | .outOfRange number =>
    "parse extmap: " ++ String.ofList number ++ " -- extmap key must be in the range 1-256"
  | .unknownDirection direction =>
    "parse extmap: unknown direction from " ++ String.ofList direction
  | .url fault => "parse url: " ++ fault.message

def directions : List String := ["sendrecv", "sendonly", "recvonly", "inactive"]

def checkDirection (direction : List Char) : Except Fault Unit :=
  if directions.any fun d => d.toList = direction then .ok ()
  else .error (.unknownDirection direction)

/-- Checks a number with its direction. With more than one slash the direction does not count. -/
def checkNumber (field : List Char) : Except Fault Unit :=
  let parts := field.splitOn '/'
  let number := parts.headD []
  match Decimal.readInt Decimal.greatestSigned64 number with
  | .error fault => .error (.integer fault)
  | .ok value =>
    if value < 1 ∨ 246 < value then .error (.outOfRange number)
    else
      match parts with
      | [_, direction] => checkDirection direction
      | _ => .ok ()

def check (a : Attribute) : Except Fault Unit :=
  match Text.words (a.value.getD []) with
  | number :: url :: _ => do
    checkNumber number
    let _ ← (Url.parse url).mapError .url
  | _ => .error (.incomplete a.text)

/-- Checks the extensions of a section in their order. -/
def checkAll (attributes : List Attribute) : Except Fault Unit :=
  (attributes.filter (·.key == "extmap".toList)).forM check

example : checkNumber "246/sendonly".toList = .ok () := by cbv
example : check (.ofValue "extmap:247 urn:x".toList) = .error (.outOfRange "247".toList) := by cbv

end HeaderExtension

end RtpBridge.Negotiation
