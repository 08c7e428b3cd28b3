-- SUMMARY: ICE servers: their configuration, the scheme of their URLs, and which ones a connection accepts.
import RtpBridge.Text.Lines
import RtpBridge.Url

/-!
# ICE servers

A configured server has a URL that may lack its scheme, and credentials that may
be absent. A peer connection wants the complete URL, and credentials for every
TURN server.
-/

namespace RtpBridge.Ice

/-- A server as it is configured. -/
structure Server where
  id : String
  /-- `stun` or `turn`. -/
  type : String
  url : String
  username : Option String
  credential : Option String
deriving Repr, DecidableEq

/-- A server as a peer connection is given it. -/
structure Endpoint where
  url : String
  username : String
  credential : String
deriving Repr, DecidableEq

/-- The schemes that a configured URL may have. -/
def schemes : List String := ["turn:", "turns:", "stun:", "stuns:"]

def startsWith (s : List Char) (text : List Char) : Bool := s.isPrefixOf text

/-- The URL with a scheme: its own if it has one, else that of the server's type. -/
def Server.completeUrl (server : Server) : String :=
  if schemes.any (fun s => startsWith s.toList server.url.toList) then server.url
  else (if server.type = "turn" then "turn:" else "stun:") ++ server.url

/-- Absent credentials become empty ones. -/
def Server.endpoint (server : Server) : Endpoint :=
  ⟨server.completeUrl, server.username.getD "", server.credential.getD ""⟩

-- ---------------------------------------------------------------------------
-- Acceptance
-- ---------------------------------------------------------------------------

/-- Why a peer connection refuses a server. -/
inductive ServerFault where
  | invalidUrl
  | unknownScheme
  | noHost
  | url (fault : Url.Fault)
  | invalidQuery
  | invalidTransport
  | noCredentials
deriving Repr, DecidableEq

def ServerFault.message : ServerFault → String
  | .invalidUrl => "invalid url"
  | .unknownScheme => "unknown scheme type"
  | .noHost => "invalid hostname"
  | .url fault => fault.message
  | .invalidQuery => "invalid query"
  | .invalidTransport => "invalid transport protocol type"
  | .noCredentials => "turn server credentials required"

/-- The pairs of a query, with percent signs resolved and a plus read as a space. -/
def queryPairs (query : List Char) : List (List UInt8 × List UInt8) :=
  let parts := (query.splitOn '&').filter (!·.isEmpty)
  parts.map fun p =>
    (resolve (p.takeWhile (· ≠ '=')), resolve ((p.dropWhile (· ≠ '=')).drop 1))
where
  resolve (s : List Char) : List UInt8 :=
    Url.percentDecode (s.map fun c => if c = '+' then ' ' else c)

/-- A STUN URL is used without its query. -/
def dropStunQuery (url : List Char) : List Char :=
  if startsWith "stun".toList url then url.takeWhile (· ≠ '?') else url

/-- The only query that a TURN URL may have names the transport. -/
def checkTransport (query : List Char) : Except ServerFault Unit :=
  match queryPairs query with
  | [] => .ok ()
  | [(key, value)] =>
    if key ≠ Utf8.encode "transport".toList then .error .invalidQuery
    else if value = Utf8.encode "udp".toList ∨ value = Utf8.encode "tcp".toList then .ok ()
    else .error .invalidTransport
  | _ => .error .invalidQuery

/-- A URL of this form has its authority right after the scheme, without slashes. -/
def parseUrl (text : List Char) : Except ServerFault Url :=
  if Text.contains "//".toList text then .error .invalidUrl
  else
    let scheme := text.takeWhile (· ≠ ':')
    match text.dropWhile (· ≠ ':') with
    | [] => .error .unknownScheme
    | _ :: rest =>
      match Url.parse (scheme ++ "://".toList ++ rest) with
      | .ok url => .ok url
      | .error fault => .error (.url fault)

def Endpoint.check (endpoint : Endpoint) : Except ServerFault Unit := do
  let url ← parseUrl (dropStunQuery endpoint.url.toList)
  if url.host.isEmpty then throw .noHost
  if url.scheme = "turn".toList ∨ url.scheme = "turns".toList then
    checkTransport (url.query.getD [])
    if endpoint.username.isEmpty ∨ endpoint.credential.isEmpty then throw .noCredentials
  else if url.scheme ≠ "stun".toList ∧ url.scheme ≠ "stuns".toList then throw .unknownScheme

/-- Checks the servers in their order. -/
def checkServers (servers : List Server) : Except ServerFault Unit :=
  servers.forM fun server => server.endpoint.check

end RtpBridge.Ice
