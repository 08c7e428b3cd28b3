-- SUMMARY: The settings of a bridge, their JSON form, and which settings are valid.
import RtpBridge.Duration
import RtpBridge.Ice.Server
import RtpBridge.Json.Record

/-!
# Settings

A bridge is configured by a JSON document in which everything may be left out.
A document is accepted when each server has a URL and each TURN server has
credentials; the first server that lacks one is reported.
-/

namespace RtpBridge

structure Config where
  servers : List Ice.Server
  /-- Whether addresses of the loopback interface are offered to the peer. -/
  includesLoopback : Bool
  /-- How many milliseconds gathering may take; without a limit if absent. -/
  gatheringTimeout : Option UInt64
  /-- How many milliseconds a feedback sink gets to end by itself. -/
  teardownGrace : UInt64
deriving Repr, DecidableEq

namespace Config

def defaultServers : List Ice.Server := [
  ⟨"default-stun", "stun", "stun:stun.l.google.com:19302", none, none⟩,
  ⟨"default-stun-1", "stun", "stun:stun1.l.google.com:19302", none, none⟩]

def default : Config := ⟨defaultServers, false, none, 2000⟩

instance : Inhabited Config := ⟨default⟩

/-- How long gathering may take. -/
def gatheringLimit (config : Config) : Option Duration :=
  config.gatheringTimeout.map Duration.ofMillis

-- ---------------------------------------------------------------------------
-- Validity
-- ---------------------------------------------------------------------------

inductive Invalid where
  | emptyUrl (server : String)
  | missingCredentials (server : String)
deriving Repr, DecidableEq

def Invalid.message : Invalid → String
  | .emptyUrl server => s!"ICE server {server} has an empty URL"
  | .missingCredentials server => s!"TURN server {server} requires username and credential"

def checkServer (server : Ice.Server) : Except Invalid Unit :=
  if server.url.isEmpty then .error (.emptyUrl server.id)
  else if server.type = "turn" ∧ (server.username.isNone ∨ server.credential.isNone) then
    .error (.missingCredentials server.id)
  else .ok ()

/-- Checks the servers in their order. -/
def checkServers : List Ice.Server → Except Invalid Unit
  | [] => .ok ()
  | server :: rest =>
    match checkServer server with
    | .error fault => .error fault
    | .ok () => checkServers rest

def validate (config : Config) : Except Invalid Unit := checkServers config.servers

-- ---------------------------------------------------------------------------
-- JSON
-- ---------------------------------------------------------------------------

structure ServerDraft where
  id : Option String
  type : Option String
  url : Option String
  /-- The inner option is the member's value. -/
  username : Option (Option String)
  credential : Option (Option String)
deriving Repr, DecidableEq

/-- Only the credentials may be missing. -/
def ServerDraft.finish (draft : ServerDraft) : Except Json.Fault Ice.Server :=
  match draft.id, draft.type, draft.url with
  | none, _, _ => .error (.missingField "id")
  | some _, none, _ => .error (.missingField "type")
  | some _, some _, none => .error (.missingField "url")
  | some id, some type, some url =>
    .ok ⟨id, type, url, draft.username.getD none, draft.credential.getD none⟩

def serverFormat : Json.Record ServerDraft Ice.Server where
  title := "struct ServerConfig"
  empty := ⟨none, none, none, none, none⟩
  fields := [
    ⟨"id", (·.id.isSome), Json.text.map fun x draft => { draft with id := some x }⟩,
    ⟨"type", (·.type.isSome), Json.text.map fun x draft => { draft with type := some x }⟩,
    ⟨"url", (·.url.isSome), Json.text.map fun x draft => { draft with url := some x }⟩,
    ⟨"username", (·.username.isSome),
      Json.text.option.map fun x draft => { draft with username := some x }⟩,
    ⟨"credential", (·.credential.isSome),
      Json.text.option.map fun x draft => { draft with credential := some x }⟩]
  mayStopEarly := false
  finish := ServerDraft.finish

structure Draft where
  servers : Option (List Ice.Server)
  includesLoopback : Option Bool
  gatheringTimeout : Option (Option Nat)
  teardownGrace : Option Nat
deriving Repr, DecidableEq

/-- What is missing has its default. -/
def Draft.finish (draft : Draft) : Config :=
  ⟨draft.servers.getD default.servers,
    draft.includesLoopback.getD default.includesLoopback,
    (draft.gatheringTimeout.map (·.map UInt64.ofNat)).getD default.gatheringTimeout,
    (draft.teardownGrace.map UInt64.ofNat).getD default.teardownGrace⟩

def format : Json.Record Draft Config where
  title := "struct BridgeConfig"
  empty := ⟨none, none, none, none⟩
  fields := [
    ⟨"ice_servers", (·.servers.isSome),
      serverFormat.reader.list.map fun x draft => { draft with servers := some x }⟩,
    ⟨"include_loopback_candidates", (·.includesLoopback.isSome),
      Json.flag.map fun x draft => { draft with includesLoopback := some x }⟩,
    ⟨"gathering_timeout_ms", (·.gatheringTimeout.isSome),
      Json.natural.option.map fun x draft => { draft with gatheringTimeout := some x }⟩,
    ⟨"teardown_grace_ms", (·.teardownGrace.isSome),
      Json.natural.map fun x draft => { draft with teardownGrace := some x }⟩]
  mayStopEarly := true
  finish draft := .ok draft.finish

/-- Why a document is refused. -/
inductive Fault where
  | json (fault : Json.Fault)
  | invalid (fault : Invalid)
deriving Repr, DecidableEq

def Fault.message : Fault → String
  | .json fault => "Configuration error: couldn't parse config: " ++ fault.message
  | .invalid fault => "Configuration error: " ++ fault.message

/-- Reads and validates a document. -/
def ofJson (octets : List UInt8) : Except Fault Config :=
  match format.reader.document octets with
  | .error fault => .error (.json fault)
  | .ok config =>
    match config.validate with
    | .error fault => .error (.invalid fault)
    | .ok () => .ok config

end Config

end RtpBridge
