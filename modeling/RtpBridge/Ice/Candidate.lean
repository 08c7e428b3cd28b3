-- SUMMARY: Candidate attributes of a description and what is wrong with them.
import RtpBridge.Address
import RtpBridge.Decimal.Integer
import RtpBridge.Text.Blank

/-!
# Candidate attributes

A candidate is a line of words: foundation, component, transport, priority,
address, port, the word `typ`, the type, and after it what belongs to the type. A host
may hide its address behind a local name; then its transport is not looked at.
-/

namespace RtpBridge.Ice

namespace Candidate

inductive Fault where
  | tooShort (words : Nat)
  | integer (fault : Decimal.IntegerFault)
  | relatedAddress
  | transportType
  | unknownType (type : List Char)
  /-- A host candidate has no address. -/
  | hostAddress
  /-- A candidate of another type has no address. -/
  | address
  | transport
deriving Repr, DecidableEq

def Fault.message : Fault → String
  | .tooShort words => s!"ErrAttributeTooShortIceCandidate ({words})"
  | .integer fault => "parse int: " ++ fault.message
  | .relatedAddress => "ErrParseRelatedAddr: incorrect length"
  | .transportType => "ErrParseType: incorrect length"
  | .unknownType type => "ErrUnknownCandidateType (" ++ String.ofList type ++ ")"
  | .hostAddress => "parse addr: invalid IP address syntax"
  | .address => "failed to parse address"
  | .transport => "unable to determine networkType"

def types : List String := ["host", "srflx", "prflx", "relay"]

def readNat (greatest : Nat) (word : List Char) : Except Fault Nat :=
  (Decimal.readNat greatest word).mapError .integer

/-- The words behind the type: a related address with its port, or a kind of stream. -/
def checkExtension : List (List Char) → Except Fault Unit
  | [] => .ok ()
  | word :: rest =>
    if word = "raddr".toList then
      match rest with
      | _ :: _ :: port :: _ => do
        let _ ← readNat Decimal.greatest16 port
      | _ => .error .relatedAddress
    else if word = "tcptype".toList ∧ rest.isEmpty then .error .transportType
    else .ok ()

def isLocalName (address : List Char) : Bool := ".local".toList.isSuffixOf address

/-- Candidates can be reached over UDP and TCP; the word may go on. -/
def checkTransport (transport : List Char) : Except Fault Unit :=
  let name := transport.map Char.toLower
  if "udp".toList.isPrefixOf name || "tcp".toList.isPrefixOf name then .ok ()
  else .error .transport

/-- Checks where a candidate of a type is reached. -/
def checkTarget (type transport address : List Char) : Except Fault Unit :=
  if type = "host".toList then
    if isLocalName address then .ok ()
    else if Address.isAddress address then checkTransport transport
    else .error .hostAddress
  else if Address.isAddress address then checkTransport transport
  else .error .address

/-- Checks the value of a candidate attribute. -/
def check (value : List Char) : Except Fault Unit :=
  match Text.words value with
  | _ :: component :: transport :: priority :: address :: port :: _ :: type :: rest => do
    let _ ← readNat Decimal.greatest16 component
    let _ ← readNat Decimal.greatest32 priority
    let _ ← readNat Decimal.greatest16 port
    checkExtension rest
    if types.all fun t => t.toList ≠ type then throw (.unknownType type)
    checkTarget type transport address
  | words => .error (.tooShort words.length)

example : check "1 1 udp 2130706431 127.0.0.1 9 typ host".toList = .ok () := by cbv
example : check "1 1 udp 1 127.0.0.1 9 typ srflx raddr x".toList = .error .relatedAddress := by cbv

end Candidate

end RtpBridge.Ice
