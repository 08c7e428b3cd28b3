-- SUMMARY: Absolute URLs: scheme, host, port and query, and the first fault of a text that is none.
import RtpBridge.Address
import RtpBridge.Decimal.Integer
import RtpBridge.Idna.Name
import RtpBridge.Text.Utf8

/-!
# URLs

The parts of an absolute URL that decide whether it can be used: its scheme, host,
port and query. A special scheme (`http` and its like) must have a host, which is
a domain or an address; any other scheme may have an opaque host or none.
-/

namespace RtpBridge

structure Url where
  scheme : List Char
  /-- Empty when the URL has no host. -/
  host : List Char
  port : Option Nat
  /-- What stands between the question mark and the fragment. -/
  query : Option (List Char)
deriving Repr, DecidableEq

namespace Url

open Address

inductive Fault where
  | relativeWithoutBase
  | emptyHost
  | invalidInternationalName
  | invalidDomainCharacter
  | invalidPort
  | invalidIpv4
  | invalidIpv6
deriving Repr, DecidableEq

def Fault.message : Fault → String
  | .relativeWithoutBase => "relative URL without a base"
  | .emptyHost => "empty host"
  | .invalidInternationalName => "invalid international domain name"
  | .invalidDomainCharacter => "invalid domain character"
  | .invalidPort => "invalid port number"
  | .invalidIpv4 => "invalid IPv4 address"
  | .invalidIpv6 => "invalid IPv6 address"

-- ---------------------------------------------------------------------------
-- Schemes
-- ---------------------------------------------------------------------------

/-- How a scheme treats what follows it. -/
inductive SchemeKind where
  | special
  | file
  | other
deriving Repr, DecidableEq

def SchemeKind.of (scheme : List Char) : SchemeKind :=
  if scheme = "file".toList then .file
  else if ["http", "https", "ws", "wss", "ftp"].any (fun s => s.toList = scheme) then .special
  else .other

def isSchemeCharacter (c : Char) : Bool := c.isAlphanum || c == '+' || c == '-' || c == '.'

/-- The scheme in lower case and what follows its colon. -/
def splitScheme? (s : List Char) : Option (List Char × List Char) :=
  match s with
  | [] => none
  | c :: _ =>
    if c.isAlpha then
      match s.dropWhile isSchemeCharacter with
      | ':' :: rest => some ((s.takeWhile isSchemeCharacter).map Char.toLower, rest)
      | _ => none
    else none

-- ---------------------------------------------------------------------------
-- Addresses
-- ---------------------------------------------------------------------------

/-- A part of an IPv4 address: decimal, octal after a zero, hexadecimal after `0x`. -/
def ipv4Number? (s : List Char) : Option Nat :=
  match s with
  | [] => none
  | '0' :: 'x' :: rest => numberIn? 16 rest
  | '0' :: 'X' :: rest => numberIn? 16 rest
  | '0' :: c :: rest => numberIn? 8 (c :: rest)
  | s => numberIn? 10 s

/-- The parts of a domain, without the empty one after a dot at the end. -/
def labels (s : List Char) : List (List Char) :=
  let parts := s.splitOn '.'
  if 1 < parts.length ∧ parts.getLast? = some [] then parts.dropLast else parts

def endsInNumber (s : List Char) : Bool :=
  match (labels s).getLast? with
  | none => false
  | some last => (!last.isEmpty && last.all Char.isDigit) || (ipv4Number? last).isSome

def isIpv4 (s : List Char) : Bool :=
  let parts := labels s
  match parts.mapM ipv4Number? with
  | none => false
  | some numbers =>
    numbers.length ≤ 4
      && numbers.dropLast.all (· ≤ 255)
      && numbers.getLast?.all (· < Nat.pow 256 (5 - numbers.length))

-- ---------------------------------------------------------------------------
-- Hosts
-- ---------------------------------------------------------------------------

/-- Resolves each percent sign that two hexadecimal digits follow. -/
def percentDecode : List Char → List UInt8
  | '%' :: a :: b :: rest =>
    match digitIn? 16 a, digitIn? 16 b with
    | some x, some y => UInt8.ofNat (x * 16 + y) :: percentDecode rest
    | _, _ => String.utf8EncodeChar '%' ++ percentDecode (a :: b :: rest)
  | c :: rest => String.utf8EncodeChar c ++ percentDecode rest
  | [] => []
termination_by s => s.length

def isForbiddenInHost (c : Char) : Bool :=
  c == '\x00' || " #/:<>?@[\\]^|".toList.contains c

def isForbiddenInDomain (c : Char) : Bool :=
  isForbiddenInHost c || c.toNat < 0x20 || c == '%' || c == '\x7f'

/-- The host of a special scheme: a domain name, or an IPv4 address if it ends in a number. -/
def domainHost (s : List Char) : Except Fault (List Char) :=
  match (Utf8.decode (percentDecode s)).toOption.bind (Idna.read? isForbiddenInDomain) with
  | none => .error .invalidInternationalName
  | some domain =>
    if domain.isEmpty then .error .emptyHost
    else if endsInNumber domain && !isIpv4 domain then .error .invalidIpv4
    else .ok domain

/-- Checks a host, which is an IPv6 address when it begins with a bracket. -/
def readHost (kind : SchemeKind) (s : List Char) : Except Fault (List Char) :=
  match s with
  | '[' :: rest =>
    if rest.getLast? = some ']' ∧ isIpv6 rest.dropLast then .ok s else .error .invalidIpv6
  | s =>
    match kind with
    | .special => if s.isEmpty then .error .emptyHost else domainHost s
    | .file => if s.isEmpty then .ok [] else domainHost s
    | .other => if s.any isForbiddenInHost then .error .invalidDomainCharacter else .ok s

/-- A letter with a colon or a bar, which begins the path of a file and is no host. -/
def isDriveLetter : List Char → Bool
  | [letter, mark] => letter.isAlpha && (mark == ':' || mark == '|')
  | _ => false

-- ---------------------------------------------------------------------------
-- Authorities
-- ---------------------------------------------------------------------------

/-- Whether the character ends the authority. -/
def endsAuthority (kind : SchemeKind) (c : Char) : Bool :=
  c == '/' || c == '?' || c == '#' || (c == '\\' && kind != .other)

/-- The name and password before the last `@`, if there is one, and what follows it. -/
def splitUser (s : List Char) : Option (List Char) × List Char :=
  let after := s.reverse.takeWhile (· ≠ '@')
  if after.length = s.length then (none, s)
  else (some (s.take (s.length - after.length - 1)), after.reverse)

/-- The host, up to a colon outside brackets, and what follows it. -/
def splitHost (inBrackets : Bool) : List Char → List Char × List Char
  | [] => ([], [])
  | c :: rest =>
    if c == ':' && !inBrackets then ([], c :: rest)
    else
      let (host, tail) := splitHost (c == '[' || (inBrackets && c != ']')) rest
      (c :: host, tail)

/-- Reads a port, which a backslash may end. -/
def readPort (s : List Char) : Except Fault (Option Nat) :=
  match s.takeWhile (· ≠ '\\') with
  | [] => .ok none
  | digits =>
    match Decimal.readDigits Decimal.greatest16 .tooLarge 0 digits with
    | .ok n => .ok (some n)
    | .error _ => .error .invalidPort

/-- Whether a name or a password stands before the `@`; a colon alone is neither. -/
def namesSomeone (user : Option (List Char)) : Bool := user.any fun u => u ≠ [] ∧ u ≠ [':']

/-- The host and the port of an authority. Nothing may follow one that is an `@` alone. -/
def readAuthority (kind : SchemeKind) (s : List Char) (isLast : Bool) :
    Except Fault (List Char × Option Nat) :=
  if kind = .file then (·, none) <$> if isDriveLetter s then .ok [] else readHost .file s
  else do
    let (user, rest) := splitUser s
    if user = some [] ∧ rest = [] ∧ !isLast then throw .emptyHost
    let (host, tail) := splitHost false rest
    let host ← readHost kind host
    match tail with
    | [] =>
      if host.isEmpty && namesSomeone user then throw .emptyHost
      return (host, none)
    | _ :: port =>
      if host.isEmpty then throw .emptyHost
      return (host, ← readPort port)

-- ---------------------------------------------------------------------------
-- The whole URL
-- ---------------------------------------------------------------------------

/-- The query of what follows the authority. -/
def queryOf (s : List Char) : Option (List Char) :=
  match (s.takeWhile (· ≠ '#')).dropWhile (· ≠ '?') with
  | _ :: query => some query
  | [] => none

/-- Drops controls and spaces at both ends, and tabs and line ends everywhere. -/
def clean (s : List Char) : List Char :=
  let isEdge (c : Char) : Bool := c.toNat ≤ 0x20
  let inner := ((s.dropWhile isEdge).reverse.dropWhile isEdge).reverse
  inner.filter fun c => c ≠ '\t' && c ≠ '\n' && c ≠ '\r'

/-- What follows the slashes before the authority, if an authority follows. -/
def afterSlashes? (kind : SchemeKind) (s : List Char) : Option (List Char) :=
  match kind with
  | .special => some (s.dropWhile fun c => c == '/' || c == '\\')
  | .file =>
    match s with
    | a :: b :: rest =>
      if (a == '/' || a == '\\') && (b == '/' || b == '\\') then some rest else none
    | _ => none
  | .other =>
    match s with
    | '/' :: '/' :: rest => some rest
    | _ => none

def parse (text : List Char) : Except Fault Url :=
  match splitScheme? (clean text) with
  | none => .error .relativeWithoutBase
  | some (scheme, rest) =>
    let kind := SchemeKind.of scheme
    match afterSlashes? kind rest with
    | none => .ok ⟨scheme, [], none, queryOf rest⟩
    | some rest => do
      let behind := rest.dropWhile (!endsAuthority kind ·)
      let authority := rest.takeWhile (!endsAuthority kind ·)
      let (host, port) ← readAuthority kind authority behind.isEmpty
      return ⟨scheme, host, port, queryOf behind⟩

end Url

end RtpBridge
