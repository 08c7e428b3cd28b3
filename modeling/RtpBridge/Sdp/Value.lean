-- SUMMARY: The values of description lines and what is wrong with them.
import RtpBridge.Text.Blank
import RtpBridge.Url

/-!
# Values of lines

Each key has a rule for its value. A value that breaks it is refused with the
first fault from the left; fields are parted by blanks.
-/

namespace RtpBridge.Sdp

open Decimal

inductive Fault where
  | invalidSyntax (text : List Char)
  | invalidValue (text : List Char)
  | integer (fault : IntegerFault)
  | url (fault : Url.Fault)
deriving Repr, DecidableEq

def Fault.message : Fault → String
  | .invalidSyntax text => "SdpInvalidSyntax: " ++ String.ofList text
  | .invalidValue text => "SdpInvalidValue: " ++ String.ofList text
  | .integer fault => "parse int: " ++ fault.message
  | .url fault => "parse url: " ++ fault.message

/-- A line as it is quoted in messages. -/
def quotedLine (key : Char) (value : List Char) : List Char :=
  "`".toList ++ key :: '=' :: value ++ "`".toList

/-- A value with too few or too many fields. -/
def Fault.fields (key : Char) (value : List Char) : Fault := .invalidSyntax (quotedLine key value)

-- ---------------------------------------------------------------------------
-- Fields
-- ---------------------------------------------------------------------------

def readNat (greatest : Nat) (s : List Char) : Except Fault Nat :=
  (Decimal.readNat greatest s).mapError .integer

def readInt (greatest : Nat) (s : List Char) : Except Fault Int :=
  (Decimal.readInt greatest s).mapError .integer

/-- A field with one of the allowed values. -/
def checkOneOf (allowed : List String) (field : List Char) : Except Fault Unit :=
  if allowed.any (fun a => a.toList = field) then .ok () else .error (.invalidValue field)

/-- The network and address type. -/
def checkNetwork (network address : List Char) : Except Fault Unit := do
  checkOneOf ["IN"] network
  checkOneOf ["IP4", "IP6"] address

/-- The seconds in a unit of time. -/
def unit? : Char → Option Int
  | 'd' => some 86400
  | 'h' => some 3600
  | 'm' => some 60
  | 's' => some 1
  | _ => none

/-- A number of seconds in 64 bits, in seconds or in the unit that ends the field. -/
def checkTime (field : List Char) : Except Fault Unit := do
  let (digits, seconds) :=
    match field.getLast?.bind unit? with
    | some seconds => (field.dropLast, seconds)
    | none => (field, 1)
  let count ← readInt greatestSigned64 digits
  let total := count * seconds
  if -(greatestSigned64 : Int) - 1 ≤ total ∧ total ≤ greatestSigned64 then .ok ()
  else .error (.invalidValue field)

-- ---------------------------------------------------------------------------
-- Lines
-- ---------------------------------------------------------------------------

def checkVersion (value : List Char) : Except Fault Unit := do
  let version ← readNat greatest32 value
  if version ≠ 0 then throw (.invalidSyntax value)

def checkOrigin (value : List Char) : Except Fault Unit :=
  match Text.words value with
  | [_, session, version, network, address, _] => do
    let _ ← readNat greatest64 session
    let _ ← readNat greatest64 version
    checkNetwork network address
  | _ => .error (.fields 'o' value)

def checkUrl (value : List Char) : Except Fault Unit :=
  match Url.parse value with
  | .ok _ => .ok ()
  | .error fault => .error (.url fault)

def checkConnection (value : List Char) : Except Fault Unit :=
  match Text.words value with
  | network :: address :: _ => checkNetwork network address
  | _ => .error (.fields 'c' value)

def checkBandwidth (value : List Char) : Except Fault Unit :=
  match value.splitOn ':' with
  | [type, bandwidth] => do
    if !"X-".toList.isPrefixOf type then checkOneOf ["CT", "AS", "TIAS"] type
    let _ ← readNat greatest64 bandwidth
  | _ => .error (.fields 'b' value)

def checkTiming (value : List Char) : Except Fault Unit :=
  match Text.words value with
  | start :: stop :: _ => do
    let _ ← readNat greatest64 start
    let _ ← readNat greatest64 stop
  | _ => .error (.fields 't' value)

def checkRepeat (value : List Char) : Except Fault Unit :=
  let fields := Text.words value
  if fields.length < 3 then .error (.fields 'r' value) else fields.forM checkTime

/-- Adjustments of the clock; the message for an odd number of fields names the `t` line. -/
def checkZones (value : List Char) : Except Fault Unit :=
  let fields := Text.words value
  if fields.length % 2 = 1 then .error (.fields 't' value) else pairs fields
where
  pairs : List (List Char) → Except Fault Unit
    | moment :: offset :: rest => do
      let _ ← readNat greatest64 moment
      checkTime offset
      pairs rest
    | _ => .ok ()

/-- A port with an optional count of ports. -/
def checkPorts (field : List Char) : Except Fault Unit :=
  match field.splitOn '/' with
  | port :: count :: _ => do
    let _ ← readNat greatest16 port
    let _ ← readInt greatestSigned32 count
  | parts => do
    let _ ← readNat greatest16 parts.flatten

def mediaKinds : List String := ["audio", "video", "text", "application", "message", "image"]

def transports : List String :=
  ["UDP", "RTP", "AVP", "SAVP", "SAVPF", "TLS", "DTLS", "SCTP", "AVPF", "udptl"]

/-- The layers of a transport, of which a fault names all. -/
def checkTransports (field : List Char) : Except Fault Unit :=
  if (field.splitOn '/').all fun layer => transports.any (fun t => t.toList = layer) then .ok ()
  else .error (.invalidValue field)

def checkMedia (value : List Char) : Except Fault Unit :=
  match Text.words value with
  | kind :: ports :: layers :: _ :: _ => do
    checkOneOf mediaKinds kind
    checkPorts ports
    checkTransports layers
  | _ => .error (.fields 'm' value)

/-- The check that goes with a key; the keys left out allow any value. -/
def checkValue : Char → List Char → Except Fault Unit
  | 'v' => checkVersion
  | 'o' => checkOrigin
  | 'u' => checkUrl
  | 'c' => checkConnection
  | 'b' => checkBandwidth
  | 't' => checkTiming
  | 'r' => checkRepeat
  | 'z' => checkZones
  | 'm' => checkMedia
  | _ => fun _ => .ok ()

example : checkTime "2d".toList = .ok () := by cbv
example : checkTime "9223372036854775807m".toList
    = .error (.invalidValue "9223372036854775807m".toList) := by cbv
example : checkMedia "video 9/2 UDP/TLS/RTP/SAVPF 96".toList = .ok () := by cbv

end RtpBridge.Sdp
